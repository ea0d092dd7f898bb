import Mathlib.Tactic.IntervalCases
import StunForAndroid.StunCore.Reader

/-!
# What the reader has been fed

The reader's state is a function of the octets that it has been fed, however they were cut. `Fed`
relates the two: for each `ReaderParseState` it says what the octets are and what the reader has
stored. `Fed.addBytes` is the step of one `AddBytes` call, and `Fed.addChunks` the run of several.
-/

namespace Stun

open Octets Fallible CDataStream

/-! ## What the reader stores -/

namespace CStunMessageReader

/-- The record of an attribute whose value is at the position of the pair. -/
def record (a : ℕ × WireAttribute) : StunAttribute :=
  ⟨a.2.type, UInt16.ofNat a.2.value.length, UInt16.ofNat a.1⟩

/-- The records of a body, in their order on the wire. -/
def records (ts : List WireAttribute) : List StunAttribute :=
  (Tlv.located STUN_HEADER_SIZE ts).map record

/-- The index of the last attribute of a type, or -1. -/
def lastIndex (attributeType : UInt16) (ts : List WireAttribute) : ℤ :=
  match ts.reverse.findIdx? (·.type = attributeType) with
  | none => -1
  | some i => ts.length - 1 - i

/-- The reader's table and indices have the attributes `ts`. -/
structure AttributesStored (ts : List WireAttribute) (r : CStunMessageReader) : Prop where
  /-- The table. -/
  table : ∃ order, r.mapAttributes.Stores order ((records ts).map fun a => (a.attributeType, a)) ∧
    r.mapAttributes.Indexed order
  /-- The count. -/
  count : r.countAttributes = ts.length
  /-- The index of the last fingerprint. -/
  fingerprint : r.indexFingerprint = lastIndex STUN_ATTRIBUTE_FINGERPRINT ts
  /-- The index of the last message integrity. -/
  integrity : r.indexMessageIntegrity = lastIndex STUN_ATTRIBUTE_MESSAGEINTEGRITY ts

/-- The reader has the header fields of the octets `bs`. -/
structure HeaderStored (bs : List UInt8) (r : CStunMessageReader) : Prop where
  legacy : r.fMessageIsLegacyFormat = legacyField bs
  type : r.msgTypeNormalized = normalizedType (typeField bs)
  class_eq : r.msgClass = messageClass (typeField bs)
  length : r.msgLength = lengthField bs
  transid : r.transactionid = transidField bs

/-- The header fields do not depend on what follows the header. -/
theorem HeaderStored.append {bs : List UInt8} {r : CStunMessageReader} (h : HeaderStored bs r)
    (hlen : STUN_HEADER_SIZE ≤ bs.length) (c : List UInt8) {s : CDataStream} :
    HeaderStored (bs ++ c) { r with stream := s } := by
  refine ⟨?_, ?_, ?_, ?_, ?_⟩
  · rw [legacyField_append hlen]
    exact h.legacy
  · rw [typeField_append hlen]
    exact h.type
  · rw [typeField_append hlen]
    exact h.class_eq
  · rw [lengthField_append hlen]
    exact h.length
  · rw [transidField_append hlen]
    exact h.transid

/-- The reader has the octets `bs` and the setting `allowLegacy`. -/
structure Live (allowLegacy : Bool) (bs : List UInt8) (r : CStunMessageReader) : Prop where
  allowed : r.fAllowLegacyFormat = allowLegacy
  holds : ∃ cap p, Holds cap bs p r.stream

/-- A reader that has been fed the octets `bs` since it was reset. -/
inductive Fed (allowLegacy : Bool) (bs : List UInt8) (r : CStunMessageReader) : Prop where
  /-- The header is not complete. -/
  | headerNotRead (state : r.state = .headerNotRead) (live : Live allowLegacy bs r)
      (length : bs.length < STUN_HEADER_SIZE) (attributes : AttributesStored [] r)
  /-- The header is valid and the body is not complete. -/
  | headerValidated (state : r.state = .headerValidated) (live : Live allowLegacy bs r)
      (length : STUN_HEADER_SIZE ≤ bs.length)
      (incomplete : bs.length < STUN_HEADER_SIZE + (lengthField bs).toNat)
      (valid : HeaderValid allowLegacy bs) (header : HeaderStored bs r)
      (attributes : AttributesStored [] r)
  /-- The message is complete and in the grammar. -/
  | bodyValidated (state : r.state = .bodyValidated) (live : Live allowLegacy bs r)
      (length : bs.length = STUN_HEADER_SIZE + (lengthField bs).toNat)
      (valid : HeaderValid allowLegacy bs) (header : HeaderStored bs r) (ts : List WireAttribute)
      (count : ts.length ≤ MAX_NUM_ATTRIBUTES)
      (body : bs.drop STUN_HEADER_SIZE = Tlv.encodeAll ts) (attributes : AttributesStored ts r)
  /-- No longer string is in the grammar. -/
  | parseError (state : r.state = .parseError) (rejected : Rejected allowLegacy bs)

/-- A reader that is ready for a message: reset, with the setting `allowLegacy`, and with a stream
that is new or attached for writing. -/
structure Fresh (allowLegacy : Bool) (r : CStunMessageReader) : Prop where
  state : r.state = .headerNotRead
  live : Live allowLegacy [] r
  attributes : AttributesStored [] r

/-- A table that was reset has no attributes. -/
theorem attributesStored_reset (r : CStunMessageReader) : AttributesStored [] r.reset :=
  ⟨⟨[], FastHash.stores_reset _, FastHash.indexed_reset _⟩, rfl, rfl, rfl⟩

/-- `Reset` makes a reader ready. -/
theorem fresh_reset (r : CStunMessageReader) : Fresh true r.reset :=
  ⟨rfl, ⟨rfl, 0, 0, holds_new⟩, attributesStored_reset r⟩

/-- A new reader is ready. -/
theorem fresh_new : Fresh true {} :=
  ⟨rfl, ⟨rfl, 0, 0, holds_new⟩,
    ⟨⟨[], FastHash.stores_reset _, FastHash.indexed_reset _⟩, rfl, rfl, rfl⟩⟩

/-- A ready reader can be attached to a buffer. -/
theorem Fresh.attachStream {allowLegacy : Bool} {r : CStunMessageReader} (h : Fresh allowLegacy r)
    (buf : CBuffer) : Fresh allowLegacy (r.attachStream buf) :=
  ⟨h.state, ⟨h.live.allowed, _, _, holds_attach buf r.stream⟩,
    ⟨h.attributes.table, h.attributes.count, h.attributes.fingerprint, h.attributes.integrity⟩⟩

/-- A ready reader can be set to allow or refuse the legacy format. -/
theorem Fresh.setAllowLegacyFormat {allowLegacy : Bool} {r : CStunMessageReader}
    (h : Fresh allowLegacy r) (fAllow : Bool) : Fresh fAllow (r.setAllowLegacyFormat fAllow) :=
  ⟨h.state, ⟨rfl, h.live.holds⟩,
    ⟨h.attributes.table, h.attributes.count, h.attributes.fingerprint, h.attributes.integrity⟩⟩

/-- A ready reader has been fed nothing. -/
theorem Fresh.fed {allowLegacy : Bool} {r : CStunMessageReader} (h : Fresh allowLegacy r) :
    Fed allowLegacy [] r :=
  .headerNotRead h.state h.live (by decide) h.attributes

/-- A step that succeeds on the stream succeeds on the reader. -/
theorem onStream_of_ok {α : Type} {m : Fallible CDataStream α} {r : CStunMessageReader} {a : α}
    {s : CDataStream} (h : m r.stream = .ok a s) :
    onStream m r = .ok a { r with stream := s } :=
  zoom_of_ok h

/-- A step that fails on the stream fails on the reader. -/
theorem onStream_of_error {α : Type} {m : Fallible CDataStream α} {r : CStunMessageReader}
    {hr : HRESULT} {s : CDataStream} (h : m r.stream = .error hr s) :
    onStream m r = .error hr { r with stream := s } :=
  zoom_of_error h

/-! ## The header -/

section Header

variable {allowLegacy : Bool} {cap p : ℕ} {bs : List UInt8} {r : CStunMessageReader}

/-- `ReadHeader` of a complete header checks its fields. -/
theorem readHeader_eq (h : Holds cap bs p r.stream) (hlen : STUN_HEADER_SIZE ≤ bs.length) :
    readHeader r = checkHeader (typeField bs) (lengthField bs) (transidField bs)
      { r with stream := { r.stream with pos := 20 } } := by
  unfold STUN_HEADER_SIZE at hlen
  have h0 := h.withPos (q := 0) (by omega)
  have h2 := h0.withPos (q := 2) (by omega)
  have h4 := h2.withPos (q := 4) (by omega)
  have htype : ntohs (UInt16.ofNat (ofLE ((bs.drop 0).take 2))) = typeField bs := by
    rw [ntohs_ofLE (by simp; omega), List.drop_zero, typeField]
  have hlength : ntohs (UInt16.ofNat (ofLE ((bs.drop 2).take 2))) = lengthField bs := by
    rw [ntohs_ofLE (by simp; omega), lengthField]
  rw [readHeader, bind_of_ok (onStream_of_ok (h.seekDirect_ok (q := 0) (by omega))),
    bind_of_ok (onStream_of_ok (h0.readUint16_ok (by omega))),
    bind_of_ok (onStream_of_ok (h2.readUint16_ok (by omega))),
    bind_of_ok (onStream_of_ok (h4.read_ok (by unfold STUN_TRANSACTION_ID_LENGTH; omega))),
    htype, hlength]
  rfl

/-- The class of a type field is in its bits 4 and 8. -/
theorem and_0110 (m : BitVec 16) :
    m &&& 0x0110#16 = (if m[4] then 0x10#16 else 0#16) ||| (if m[8] then 0x100#16 else 0#16) := by
  ext i hi
  interval_cases i <;> cases h4 : m[4] <;> cases h8 : m[8] <;> simp [h4, h8]

/-- The class of a type field is one of the four, since the class has two bits. -/
theorem STUN_IS_ERR_RESP_of_not {msgType : UInt16} (h0 : STUN_IS_REQUEST msgType = false)
    (h1 : STUN_IS_INDICATION msgType = false) (h2 : STUN_IS_SUCCESS_RESP msgType = false) :
    STUN_IS_ERR_RESP msgType = true := by
  have h := and_0110 msgType.toBitVec
  have hc : UInt16.toBitVec 0x0110 = 0x0110#16 := rfl
  simp only [STUN_IS_REQUEST, STUN_IS_INDICATION, STUN_IS_SUCCESS_RESP, STUN_IS_ERR_RESP,
    beq_eq_false_iff_ne, beq_iff_eq, ne_eq, ← UInt16.toBitVec_inj, UInt16.toBitVec_and, hc, h] at *
  generalize msgType.toBitVec[4] = b4 at *
  generalize msgType.toBitVec[8] = b8 at *
  revert b4 b8
  decide

/-- The fields that `ReadHeader` stores of a valid header. -/
def withHeader (bs : List UInt8) (r : CStunMessageReader) : CStunMessageReader :=
  { r with
    fMessageIsLegacyFormat := legacyField bs
    msgTypeNormalized := normalizedType (typeField bs)
    msgLength := lengthField bs
    transactionid := transidField bs
    msgClass := messageClass (typeField bs) }

/-- The octets of a transaction id are those of the message. -/
theorem transidField_id (hlen : STUN_HEADER_SIZE ≤ bs.length) :
    (transidField bs).id = (bs.drop 4).take 16 := by
  apply fixedArray_of_length
  rw [List.length_take, List.length_drop]
  unfold STUN_HEADER_SIZE STUN_TRANSACTION_ID_LENGTH at *
  omega

/-- The cookie field of the transaction id tells the legacy format. -/
theorem cookieField_ne (hlen : STUN_HEADER_SIZE ≤ bs.length) :
    (!(cookieField (transidField bs) == STUN_COOKIE)) = legacyField bs := by
  have h4 : (((bs.drop 4).take 16).take 4).length = 4 := by
    rw [List.length_take, List.length_take, List.length_drop]
    unfold STUN_HEADER_SIZE at hlen
    omega
  rw [cookieField, transidField_id hlen, ntohl_ofLE h4, List.take_take, legacyField]
  rfl

/-- `ReadHeader` of a valid header stores its fields. -/
theorem checkHeader_ok (hallow : r.fAllowLegacyFormat = allowLegacy)
    (hfull : STUN_HEADER_SIZE ≤ bs.length) (hv : HeaderValid allowLegacy bs) :
    checkHeader (typeField bs) (lengthField bs) (transidField bs) r = .ok () (r.withHeader bs) := by
  have hlen : lengthField bs % 4 = 0 := by
    apply UInt16.toNat_inj.mp
    simpa using hv.length_mod
  have hle : ¬(lengthField bs).toNat > MAX_STUN_MESSAGE_SIZE := by have := hv.length_le; omega
  have hcookie : (allowLegacy || !legacyField bs) = true := by
    rcases hv.cookie with h | h <;> simp [h]
  unfold checkHeader withHeader
  simp only [hallow, hv.type_bits, hlen, cookieField_ne hfull, hcookie, hle, BEq.rfl, Bool.and_self,
    if_false, Bool.true_eq_false, messageClass]
  cases h0 : STUN_IS_REQUEST (typeField bs)
  · cases h1 : STUN_IS_INDICATION (typeField bs)
    · cases h2 : STUN_IS_SUCCESS_RESP (typeField bs)
      · simp [STUN_IS_ERR_RESP_of_not h0 h1 h2]
      · simp
    · simp
  · simp

/-- `ReadHeader` of a header that is not valid fails. -/
theorem checkHeader_error (hallow : r.fAllowLegacyFormat = allowLegacy)
    (hfull : STUN_HEADER_SIZE ≤ bs.length) (hv : ¬HeaderValid allowLegacy bs) :
    ∃ hr r', checkHeader (typeField bs) (lengthField bs) (transidField bs) r = .error hr r' := by
  unfold checkHeader
  simp only [hallow, cookieField_ne hfull]
  split_ifs with hbad hlong
  · exact ⟨_, _, rfl⟩
  · exact ⟨_, _, rfl⟩
  all_goals
    refine absurd ?_ hv
    simp only [Bool.not_eq_false, Bool.and_eq_true, beq_iff_eq, Bool.or_eq_true,
      Bool.not_eq_true'] at hbad
    obtain ⟨⟨htype, hmod⟩, hcookie⟩ := hbad
    exact ⟨htype.symm, by simpa using congrArg UInt16.toNat hmod, hcookie, by omega⟩

end Header

/-! ## The body -/

/-- A type that was appended is the last one. -/
theorem lastIndex_append_singleton (attributeType : UInt16) (ts : List WireAttribute)
    (t : WireAttribute) : lastIndex attributeType (ts ++ [t]) =
      if t.type = attributeType then (ts.length : ℤ) else lastIndex attributeType ts := by
  unfold lastIndex
  rw [List.reverse_append, List.reverse_singleton, List.singleton_append, List.findIdx?_cons]
  by_cases h : t.type = attributeType
  · simp [h]
  · cases hf : ts.reverse.findIdx? (·.type = attributeType) with
    | none => simp [h]
    | some i =>
      simp [h]
      omega

/-- An attribute appended to a body has its record behind those before. -/
theorem records_append_singleton (ts : List WireAttribute) (t : WireAttribute) :
    records (ts ++ [t]) =
      records ts ++ [record (STUN_HEADER_SIZE + (Tlv.encodeAll ts).length + 4, t)] := by
  simp [records, Tlv.located_append, Tlv.located]

/-- In the loop of `ReadBody`, with the attributes `done` stored and the cursor at `p`. -/
structure BodyAt (allowLegacy : Bool) (bs : List UInt8) (done : List WireAttribute) (p : ℕ)
    (r : CStunMessageReader) : Prop where
  allowed : r.fAllowLegacyFormat = allowLegacy
  holds : ∃ cap, Holds cap bs p r.stream
  header : HeaderStored bs r
  attributes : AttributesStored done r

/-- The position after a list of attributes. -/
def endOfAttributes (done : List WireAttribute) : ℕ :=
  STUN_HEADER_SIZE + (Tlv.encodeAll done).length

section Body

variable {allowLegacy : Bool} {p : ℕ} {bs : List UInt8} {done : List WireAttribute}
  {r : CStunMessageReader}

/-- The table has room for `MAX_NUM_ATTRIBUTES` attributes. -/
theorem AttributesStored.length_le (h : AttributesStored done r) :
    done.length ≤ MAX_NUM_ATTRIBUTES := by
  obtain ⟨order, hs, -⟩ := h.table
  simpa [records] using hs.length_le

/-- The cursor can be moved within the stream. -/
theorem BodyAt.withPos (h : BodyAt allowLegacy bs done p r) {q : ℕ} (hq : q ≤ bs.length) :
    BodyAt allowLegacy bs done q { r with stream := { r.stream with pos := q } } := by
  obtain ⟨cap, hh⟩ := h.holds
  exact ⟨h.allowed, ⟨cap, hh.withPos hq⟩,
    ⟨h.header.legacy, h.header.type, h.header.class_eq, h.header.length, h.header.transid⟩,
    ⟨h.attributes.table, h.attributes.count, h.attributes.fingerprint, h.attributes.integrity⟩⟩

/-- `ReadUint16` in the loop, converted to host byte order, reads the next two octets of the body.
-/
theorem BodyAt.readUint16_ok (h : BodyAt allowLegacy bs done p r) (hp : p + 2 ≤ bs.length) :
    ∃ w r', onStream readUint16 r = .ok w r' ∧
      ntohs w = UInt16.ofNat (ofBE ((bs.drop p).take 2)) ∧
        BodyAt allowLegacy bs done (p + 2) r' := by
  obtain ⟨cap, hh⟩ := h.holds
  refine ⟨_, _, onStream_of_ok (hh.readUint16_ok hp), ntohs_ofLE ?_, h.withPos hp⟩
  rw [List.length_take, List.length_drop]
  omega

/-- `ReadUint16` past the end of the stream fails. -/
theorem BodyAt.readUint16_error (h : BodyAt allowLegacy bs done p r) (hp : bs.length < p + 2) :
    ∃ hr r', onStream readUint16 r = .error hr r' := by
  obtain ⟨cap, hh⟩ := h.holds
  exact ⟨_, _, onStream_of_error (hh.readUint16_error hp)⟩

/-- A relative seek forward within the stream moves the cursor. -/
theorem BodyAt.seekRelative_ok (h : BodyAt allowLegacy bs done p r) {n : ℕ}
    (hn : p + n ≤ bs.length) :
    ∃ r', onStream (seekRelative n) r = .ok () r' ∧ BodyAt allowLegacy bs done (p + n) r' := by
  obtain ⟨cap, hh⟩ := h.holds
  exact ⟨_, onStream_of_ok (by rw [hh.seekRelative_natCast, hh.seekDirect_ok hn]), h.withPos hn⟩

/-- `insertAttribute` fails when the table is full. -/
theorem BodyAt.insertAttribute_error (h : BodyAt allowLegacy bs done p r)
    (hfull : done.length = MAX_NUM_ATTRIBUTES) (attrib : StunAttribute) :
    ∃ hr r', insertAttribute attrib r = .error hr r' := by
  obtain ⟨order, hs, -⟩ := h.attributes.table
  have hinsert := hs.insert_full (by simpa [records] using hfull) attrib.attributeType attrib
  exact ⟨_, _, by simp only [insertAttribute, hinsert]; rfl⟩

/-- `insertAttribute` stores the next attribute. -/
theorem BodyAt.insertAttribute_ok (h : BodyAt allowLegacy bs done p r)
    (hroom : done.length < MAX_NUM_ATTRIBUTES) (t : WireAttribute) :
    ∃ r', insertAttribute (record (endOfAttributes done + 4, t)) r = .ok () r' ∧
      BodyAt allowLegacy bs (done ++ [t]) p r' := by
  obtain ⟨order, hs, hx⟩ := h.attributes.table
  set attrib := record (endOfAttributes done + 4, t) with hattrib
  obtain ⟨m, i, hinsert, hs', hx'⟩ :=
    hs.insert_ok (by simpa [records] using hroom) attrib.attributeType attrib
  have hrun : insertAttribute attrib r = .ok () { r with
      mapAttributes := m
      indexFingerprint :=
        if t.type = STUN_ATTRIBUTE_FINGERPRINT then r.countAttributes else r.indexFingerprint
      indexMessageIntegrity :=
        if t.type = STUN_ATTRIBUTE_MESSAGEINTEGRITY then r.countAttributes
        else r.indexMessageIntegrity
      countAttributes := r.countAttributes + 1 } := by
    simp only [insertAttribute, hinsert]
    rfl
  refine ⟨_, hrun, h.allowed, h.holds,
    ⟨h.header.legacy, h.header.type, h.header.class_eq, h.header.length, h.header.transid⟩,
    ⟨_, ?_, hx' order rfl hx⟩, ?_, ?_, ?_⟩
  · rw [records_append_singleton, List.map_append]
    exact hs'
  · simp [h.attributes.count]
  · simp only [lastIndex_append_singleton, h.attributes.count, h.attributes.fingerprint]
  · simp only [lastIndex_append_singleton, h.attributes.count, h.attributes.integrity]

/-- After its type and length an attribute that fits is stored. -/
theorem BodyAt.storeAttribute_ok (h : BodyAt allowLegacy bs done (endOfAttributes done + 4) r)
    (hroom : done.length < MAX_NUM_ATTRIBUTES) (t : WireAttribute)
    (hfit : endOfAttributes done + t.encode.length ≤ bs.length) :
    ∃ r', storeAttribute t.type (UInt16.ofNat t.value.length) r = .ok t.encode.length r' ∧
      BodyAt allowLegacy bs (done ++ [t]) (endOfAttributes (done ++ [t])) r' := by
  have hv : t.value.length ≤ 780 := t.length_value
  have hn : (UInt16.ofNat t.value.length).toNat = t.value.length := by
    rw [UInt16.toNat_ofNat', Nat.mod_eq_of_lt (by omega)]
  have hsize := t.length_encode
  have hend : endOfAttributes (done ++ [t]) = endOfAttributes done + t.encode.length := by
    simp [endOfAttributes, Nat.add_assoc]
  have hpos : r.stream.getPos = endOfAttributes done + 4 := by
    obtain ⟨cap, hh⟩ := h.holds
    exact hh.pos_eq
  obtain ⟨r₁, hins, h₁⟩ := h.insertAttribute_ok hroom t
  obtain ⟨r₂, hseek, h₂⟩ := h₁.seekRelative_ok (n := t.value.length) (by omega)
  have hmax : decide (t.value.length > MAX_STUN_ATTRIBUTE_SIZE) = false :=
    decide_eq_false (by unfold MAX_STUN_ATTRIBUTE_SIZE; omega)
  rw [record] at hins
  rw [storeAttribute, bind_get]
  simp only [hn, hpos, hmax]
  rw [bind_of_ok (chkIf_false _ _), bind_of_ok hins, bind_of_ok hseek]
  have htotal : 2 + 2 + t.value.length + padLength 4 t.value.length = t.encode.length := by omega
  rw [htotal, hend]
  -- The padding is only skipped when there is some.
  by_cases hpad : padLength 4 t.value.length > 0
  · obtain ⟨r₃, hseek', h₃⟩ := h₂.seekRelative_ok (n := padLength 4 t.value.length) (by omega)
    have hcursor : endOfAttributes done + 4 + t.value.length + padLength 4 t.value.length =
        endOfAttributes done + t.encode.length := by omega
    rw [if_pos hpad, bind_of_ok hseek']
    exact ⟨r₃, rfl, hcursor ▸ h₃⟩
  · have hcursor : endOfAttributes done + 4 + t.value.length =
        endOfAttributes done + t.encode.length := by omega
    rw [if_neg hpad]
    exact ⟨r₂, rfl, hcursor ▸ h₂⟩

/-- `insertAttribute` leaves the stream alone. -/
theorem insertAttribute_stream {attrib : StunAttribute} {r' : CStunMessageReader}
    (h : insertAttribute attrib r = .ok () r') : r'.stream = r.stream := by
  simp only [insertAttribute] at h
  by_cases hfull : (r.mapAttributes.insert attrib.attributeType attrib).1 < 0
  · rw [if_pos hfull] at h
    cases h
  · rw [if_neg hfull] at h
    cases h
    rfl

/-- After its type and length an attribute that is too long, that the table has no room for, or that
does not fit, is refused. -/
theorem BodyAt.storeAttribute_error (h : BodyAt allowLegacy bs done p r)
    (attributeType attributeLength : UInt16)
    (hbad : MAX_STUN_ATTRIBUTE_SIZE < attributeLength.toNat ∨ done.length = MAX_NUM_ATTRIBUTES ∨
      bs.length < p + attributeLength.toNat + padLength 4 attributeLength.toNat) :
    ∃ hr r', storeAttribute attributeType attributeLength r = .error hr r' := by
  obtain ⟨cap, hh⟩ := h.holds
  rw [storeAttribute, bind_get]
  by_cases hmax : attributeLength.toNat > MAX_STUN_ATTRIBUTE_SIZE
  · simp only [hmax, decide_true]
    exact ⟨_, _, bind_of_error (chkIf_true _ _)⟩
  simp only [hmax, decide_false]
  rw [bind_of_ok (chkIf_false _ _)]
  cases hins : insertAttribute ⟨attributeType, attributeLength, UInt16.ofNat r.stream.getPos⟩ r with
  | error hr r' => exact ⟨_, _, bind_of_error hins⟩
  | ok a r₁ =>
    -- The attribute was stored, so what is wrong with it is that it does not fit.
    have hshort : bs.length < p + attributeLength.toNat + padLength 4 attributeLength.toNat := by
      rcases hbad with hlong | hfull | hshort
      · exact absurd hlong hmax
      · obtain ⟨hr, r', herr⟩ := h.insertAttribute_error hfull
          ⟨attributeType, attributeLength, UInt16.ofNat r.stream.getPos⟩
        rw [hins] at herr
        cases herr
      · exact hshort
    have hh₁ : Holds cap bs p r₁.stream := insertAttribute_stream hins ▸ hh
    rw [bind_of_ok hins]
    rcases Nat.lt_or_ge bs.length (p + attributeLength.toNat) with hval | hval
    · exact ⟨_, _, bind_of_error (onStream_of_error
        (by rw [hh₁.seekRelative_natCast, hh₁.seekDirect_error hval]))⟩
    · have hh₂ := hh₁.withPos hval
      rw [bind_of_ok (onStream_of_ok (by rw [hh₁.seekRelative_natCast, hh₁.seekDirect_ok hval])),
        if_pos (by omega)]
      exact ⟨_, _, bind_of_error (onStream_of_error
        (by rw [hh₂.seekRelative_natCast, hh₂.seekDirect_error hshort]))⟩

/-- One iteration of the loop stores the attribute at the cursor, or fails when there is none or no
room for it. -/
theorem BodyAt.readAttribute_spec (h : BodyAt allowLegacy bs done (endOfAttributes done) r) :
    (∃ t : WireAttribute, ∃ r', done.length < MAX_NUM_ATTRIBUTES ∧
      Tlv.next 4 MAX_STUN_ATTRIBUTE_SIZE (bs.drop (endOfAttributes done)) =
        some (t, bs.drop (endOfAttributes (done ++ [t]))) ∧
      readAttribute r = .ok t.encode.length r' ∧
      BodyAt allowLegacy bs (done ++ [t]) (endOfAttributes (done ++ [t])) r') ∨
    ((done.length = MAX_NUM_ATTRIBUTES ∨
      Tlv.next 4 MAX_STUN_ATTRIBUTE_SIZE (bs.drop (endOfAttributes done)) = none) ∧
      ∃ hr r', readAttribute r = .error hr r') := by
  set p := endOfAttributes done with hp
  have hdrop : (bs.drop p).length = bs.length - p := List.length_drop ..
  have hend : ∀ t : WireAttribute, endOfAttributes (done ++ [t]) = p + t.encode.length := by
    intro t
    simp [hp, endOfAttributes, Nat.add_assoc]
  rcases Nat.lt_or_ge bs.length (p + 2) with h2 | h2
  · obtain ⟨hr, r', herr⟩ := h.readUint16_error h2
    exact .inr ⟨.inr (Tlv.next_of_lt_four (by omega)), _, _, bind_of_error herr⟩
  obtain ⟨w₁, r₁, hread₁, hw₁, h₁⟩ := h.readUint16_ok h2
  rcases Nat.lt_or_ge bs.length (p + 2 + 2) with h4 | h4
  · obtain ⟨hr, r', herr⟩ := h₁.readUint16_error h4
    exact .inr ⟨.inr (Tlv.next_of_lt_four (by omega)), _, _,
      by rw [readAttribute, bind_of_ok hread₁, bind_of_error herr]⟩
  obtain ⟨w₂, r₂, hread₂, hw₂, h₂⟩ := h₁.readUint16_ok h4
  have hrun : readAttribute r = storeAttribute (ntohs w₁) (ntohs w₂) r₂ := by
    rw [readAttribute, bind_of_ok hread₁, bind_of_ok hread₂]
  -- The length that was read is the one that the grammar looks at.
  have hw : (ntohs w₂).toNat = ofBE (((bs.drop p).drop 2).take 2) := by
    have hlt := ofBE_lt (((bs.drop p).drop 2).take 2)
    rw [List.length_take, List.length_drop, hdrop, min_eq_left (by omega)] at hlt
    rw [hw₂, List.drop_drop, UInt16.toNat_ofNat', Nat.mod_eq_of_lt]
    rw [List.drop_drop] at hlt
    omega
  have hnext := @Tlv.next_of_four_le 4 MAX_STUN_ATTRIBUTE_SIZE (bs.drop p) (by omega)
  rw [hrun]
  have hfull := h.attributes.length_le
  rcases hnext with ⟨t, hnext, htype, hvalue, hfit⟩ | ⟨hnext, hbad⟩
  · rcases Nat.lt_or_ge done.length MAX_NUM_ATTRIBUTES with hroom | hroom
    · have hlength : ntohs w₂ = UInt16.ofNat t.value.length := by
        rw [hvalue, ← hw, UInt16.ofNat_toNat]
      obtain ⟨r', hstore, h'⟩ := h₂.storeAttribute_ok hroom t (by omega)
      rw [hw₁, hlength, ← htype]
      exact .inl ⟨t, r', hroom, by rw [hnext, hend, List.drop_drop], hstore, h'⟩
    · have hfull' : done.length = MAX_NUM_ATTRIBUTES := by omega
      exact .inr ⟨.inl hfull', h₂.storeAttribute_error _ _ (.inr (.inl hfull'))⟩
  · refine .inr ⟨.inr hnext, h₂.storeAttribute_error _ _ ?_⟩
    rw [hw]
    omega

/-- At the end of the stream the body is complete. -/
theorem BodyAt.at_end (h : BodyAt allowLegacy bs done (endOfAttributes done) r)
    (hge : bs.length ≤ endOfAttributes done) : endOfAttributes done = bs.length := by
  obtain ⟨cap, hh⟩ := h.holds
  have := hh.pos_le
  omega

/-- The loop of `ReadBody` stores the attributes up to the end of the stream, or stops before it
when the rest is not a list of attributes or has too many. Each attribute consumes at least four
octets, which bounds the iterations. -/
theorem BodyAt.readBodyLoop_spec (fuel : ℕ) (hfuel : bs.length ≤ endOfAttributes done + fuel)
    (h : BodyAt allowLegacy bs done (endOfAttributes done) r) :
    (∃ ts, bs.drop (endOfAttributes done) = Tlv.encodeAll ts ∧
      BodyAt allowLegacy bs (done ++ ts) bs.length
        (readBodyLoop bs.length fuel (endOfAttributes done) r).2 ∧
      (readBodyLoop bs.length fuel (endOfAttributes done) r).1 = bs.length) ∨
    ((¬∃ ts : List WireAttribute, (done ++ ts).length ≤ MAX_NUM_ATTRIBUTES ∧
      bs.drop (endOfAttributes done) = Tlv.encodeAll ts) ∧
      (readBodyLoop bs.length fuel (endOfAttributes done) r).1 ≠ bs.length) := by
  induction fuel generalizing done r with
  | zero =>
    have hend := h.at_end hfuel
    refine .inl ⟨[], by simp [hend], ?_, hend⟩
    rw [List.append_nil, ← hend]
    exact h
  | succ fuel ih =>
    by_cases hlt : endOfAttributes done < bs.length
    · simp only [readBodyLoop, if_pos hlt]
      have hne : bs.drop (endOfAttributes done) ≠ [] := by
        rw [ne_eq, List.drop_eq_nil_iff]
        omega
      rcases h.readAttribute_spec with ⟨t, r', hroom, hnext, hrun, h'⟩ | ⟨hbad, hr, r', hrun⟩
      -- What is left after an attribute is a list of attributes exactly when all of it was one.
      · have hend : endOfAttributes (done ++ [t]) = endOfAttributes done + t.encode.length := by
          simp [endOfAttributes, Nat.add_assoc]
        have hlen := t.length_encode
        simp only [hrun, ← hend]
        rcases ih (by omega) h' with ⟨ts, hts, hbody, hcount⟩ | ⟨hnone, hcount⟩
        · refine .inl ⟨t :: ts, ?_, by simpa using hbody, hcount⟩
          rw [Tlv.encodeAll_cons, ← hts]
          exact Tlv.next_exact hnext
        · refine .inr ⟨?_, hcount⟩
          rintro ⟨ts, hle, hts⟩
          cases ts with
          | nil => exact hne hts
          | cons u ts =>
            rw [hts, Tlv.next_encodeAll_cons (by decide), Option.some.injEq, Prod.mk.injEq] at hnext
            obtain ⟨rfl, hrest⟩ := hnext
            exact hnone ⟨ts, by simpa using hle, hrest.symm⟩
      · -- The loop stops here, and no list of attributes goes on here.
        simp only [hrun]
        refine .inr ⟨?_, by omega⟩
        rintro ⟨ts, hle, hts⟩
        cases ts with
        | nil => exact hne hts
        | cons u ts =>
          rcases hbad with hfull | hnext
          · rw [List.length_append, hfull, List.length_cons] at hle
            omega
          · rw [hts, Tlv.next_encodeAll_cons (by decide)] at hnext
            cases hnext
    · have hend := h.at_end (by omega)
      simp only [readBodyLoop, if_neg hlt]
      refine .inl ⟨[], by simp [hend], ?_, hend⟩
      rw [List.append_nil, ← hend]
      exact h

/-- `ReadBody` succeeds exactly on a list of attributes, and stores them. -/
theorem readBody_spec (h : ∃ p, BodyAt allowLegacy bs [] p r)
    (hlen : STUN_HEADER_SIZE ≤ bs.length) :
    (∃ ts r' p, bs.drop STUN_HEADER_SIZE = Tlv.encodeAll ts ∧ readBody r = .ok () r' ∧
      BodyAt allowLegacy bs ts p r') ∨
    (¬BodyValid (bs.drop STUN_HEADER_SIZE) ∧ ∃ hr r', readBody r = .error hr r') := by
  obtain ⟨p, h⟩ := h
  obtain ⟨cap, hh⟩ := h.holds
  have hzero : endOfAttributes [] = STUN_HEADER_SIZE := rfl
  have h₀ := h.withPos hlen
  rw [readBody, onStream_of_ok (hh.seekDirect_ok hlen), hh.size_eq]
  simp only
  rw [← hzero] at h₀ ⊢
  rcases h₀.readBodyLoop_spec bs.length (by omega) with ⟨ts, hts, hbody, hend⟩ | ⟨hnone, hend⟩
  · exact .inl ⟨ts, _, _, hts, by rw [if_pos hend], hbody⟩
  · exact .inr ⟨fun ⟨ts, hle, hts⟩ => hnone ⟨ts, by simpa using hle, hts⟩, _, _,
      by rw [if_neg hend]⟩

end Body

/-! ## `AddBytes` -/

/-- The first block of `AddBytes` is skipped after the header. -/
theorem addBytesHeader_of_ne {r : CStunMessageReader} (h : r.state ≠ .headerNotRead) :
    r.addBytesHeader = r := if_neg fun hc => h hc.1

/-- The second block of `AddBytes` is skipped before the header and after the body. -/
theorem addBytesBody_of_ne {r : CStunMessageReader} (h : r.state ≠ .headerValidated) :
    r.addBytesBody = r := if_neg fun hc => h hc.1

/-- The third block of `AddBytes` is skipped before the end of the body. -/
theorem addBytesSurplus_of_ne {r : CStunMessageReader} (h : r.state ≠ .bodyValidated) :
    r.addBytesSurplus = r := if_neg fun hc => h hc.1

/-- A reader that has stored a valid header, and no attribute. -/
structure HeaderRead (allowLegacy : Bool) (bs : List UInt8) (r : CStunMessageReader) : Prop where
  live : Live allowLegacy bs r
  length : STUN_HEADER_SIZE ≤ bs.length
  valid : HeaderValid allowLegacy bs
  header : HeaderStored bs r
  attributes : AttributesStored [] r

section AddBytes

variable {allowLegacy : Bool} {bs : List UInt8} {r : CStunMessageReader}

/-- The size of the stream is the number of octets. -/
theorem Live.getSize_eq (h : Live allowLegacy bs r) : r.stream.getSize = bs.length := by
  obtain ⟨cap, p, hh⟩ := h.holds
  exact hh.size_eq

/-- `ReadHeader` of a reader that has the octets of a header. -/
theorem readHeader_spec (hlive : Live allowLegacy bs r) (hlen : STUN_HEADER_SIZE ≤ bs.length)
    (ha : AttributesStored [] r) :
    (∃ r', readHeader r = .ok () r' ∧ HeaderRead allowLegacy bs r') ∨
    (¬HeaderValid allowLegacy bs ∧ ∃ hr r', readHeader r = .error hr r') := by
  obtain ⟨hallow, cap, p, hh⟩ := hlive
  rw [readHeader_eq hh hlen]
  by_cases hv : HeaderValid allowLegacy bs
  · refine .inl ⟨_, checkHeader_ok hallow hlen hv, ⟨hallow, cap, 20, hh.withPos hlen⟩, hlen, hv,
      ⟨rfl, rfl, rfl, rfl, rfl⟩, ⟨ha.table, ha.count, ha.fingerprint, ha.integrity⟩⟩
  · exact .inr ⟨hv, checkHeader_error hallow hlen hv⟩

/-- The state does not matter for what is stored. -/
theorem HeaderRead.withState (h : HeaderRead allowLegacy bs r) (state : ReaderParseState) :
    HeaderRead allowLegacy bs { r with state := state } :=
  ⟨⟨h.live.allowed, h.live.holds⟩, h.length, h.valid,
    ⟨h.header.legacy, h.header.type, h.header.class_eq, h.header.length, h.header.transid⟩,
    ⟨h.attributes.table, h.attributes.count, h.attributes.fingerprint, h.attributes.integrity⟩⟩

/-- The third block of `AddBytes`, after a header whose length field is zero, leaves the reader fed.
-/
theorem HeaderRead.addBytesSurplus_fed (h : HeaderRead allowLegacy bs r)
    (hstate : r.state = .bodyValidated) (hzero : lengthField bs = 0) :
    Fed allowLegacy bs r.addBytesSurplus := by
  have hlen := h.length
  rw [addBytesSurplus, h.live.getSize_eq, h.header.length, hzero]
  by_cases hmore : bs.length > STUN_HEADER_SIZE
  · rw [if_pos ⟨hstate, by simpa using hmore⟩]
    refine .parseError rfl ⟨hlen, .inr (.inl ?_)⟩
    simpa [hzero] using hmore
  · rw [if_neg fun hc => hmore (by simpa using hc.2)]
    have heq : bs.length = STUN_HEADER_SIZE := by omega
    exact .bodyValidated hstate h.live (by simp [hzero, heq]) h.valid h.header [] (by simp)
      (by rw [← heq, List.drop_length]; rfl) h.attributes

/-- The second and third blocks of `AddBytes`, after the header, leave the reader fed with all
octets. -/
theorem HeaderRead.addBytesBody_fed (h : HeaderRead allowLegacy bs r)
    (hstate : r.state = .headerValidated) : Fed allowLegacy bs r.addBytesBody.addBytesSurplus := by
  have hlen := h.length
  rw [addBytesBody, h.live.getSize_eq, h.header.length]
  rcases lt_trichotomy bs.length ((lengthField bs).toNat + STUN_HEADER_SIZE) with hlt | heq | hgt
  · rw [if_neg (by omega), addBytesSurplus_of_ne (by simp [hstate])]
    exact .headerValidated hstate h.live hlen (by omega) h.valid h.header h.attributes
  · rw [if_pos ⟨hstate, by omega⟩, if_pos heq]
    obtain ⟨hallow, cap, p, hh⟩ := h.live
    rcases readBody_spec ⟨p, ⟨hallow, ⟨cap, hh⟩, h.header, h.attributes⟩⟩ hlen with
      ⟨ts, r', q, hts, hrun, hbody⟩ | ⟨hbad, hr, r', hrun⟩
    · obtain ⟨cap', hh'⟩ := hbody.holds
      simp only [hrun]
      rw [addBytesSurplus, if_neg]
      · exact .bodyValidated rfl ⟨hbody.allowed, cap', q, hh'⟩ (by omega) h.valid
          ⟨hbody.header.legacy, hbody.header.type, hbody.header.class_eq, hbody.header.length,
            hbody.header.transid⟩ ts hbody.attributes.length_le hts
          ⟨hbody.attributes.table, hbody.attributes.count, hbody.attributes.fingerprint,
            hbody.attributes.integrity⟩
      · simp only [hh'.size_eq, hbody.header.length]
        omega
    · simp only [hrun]
      rw [addBytesSurplus_of_ne (by simp)]
      exact .parseError rfl ⟨hlen, .inr (.inr ⟨by omega, hbad⟩)⟩
  · rw [if_pos ⟨hstate, by omega⟩, if_neg (by omega), addBytesSurplus_of_ne (by simp)]
    exact .parseError rfl ⟨hlen, .inr (.inl (by omega))⟩

/-- The three blocks of `AddBytes`, before the header is read. -/
theorem addBytesHeader_fed (hlive : Live allowLegacy bs r) (hstate : r.state = .headerNotRead)
    (ha : AttributesStored [] r) :
    Fed allowLegacy bs r.addBytesHeader.addBytesBody.addBytesSurplus := by
  rw [addBytesHeader, hlive.getSize_eq]
  by_cases hlen : bs.length ≥ STUN_HEADER_SIZE
  · rw [if_pos ⟨hstate, hlen⟩]
    rcases readHeader_spec hlive hlen ha with ⟨r', hrun, hread⟩ | ⟨hbad, hr, r', hrun⟩
    · simp only [hrun]
      by_cases hzero : r'.msgLength = 0
      · rw [if_pos hzero, addBytesBody_of_ne (by simp)]
        exact (hread.withState _).addBytesSurplus_fed rfl (hread.header.length ▸ hzero)
      · rw [if_neg hzero]
        exact (hread.withState _).addBytesBody_fed rfl
    · simp only [hrun]
      rw [addBytesBody_of_ne (by simp), addBytesSurplus_of_ne (by simp)]
      exact .parseError rfl ⟨hlen, .inl hbad⟩
  · rw [if_neg fun hc => hlen hc.2, addBytesBody_of_ne (by simp [hstate]),
      addBytesSurplus_of_ne (by simp [hstate])]
    exact .headerNotRead hstate hlive (by omega) ha

/-- `AddBytes` of nothing does nothing. -/
theorem addBytes_nil (r : CStunMessageReader) : r.addBytes [] = (r.state, r) := by
  unfold addBytes
  by_cases h : r.state = .parseError
  · rw [if_pos h, h]
  · rw [if_neg h, if_pos List.length_nil]

/-- Before the three blocks `AddBytes` appends the octets to the stream. -/
theorem Live.addBytes_eq (h : Live allowLegacy bs r) (hstate : r.state ≠ .parseError)
    {c : List UInt8} (hc : c ≠ []) : ∃ s, Live allowLegacy (bs ++ c) { r with stream := s } ∧
      let r' := { r with stream := s }.addBytesHeader.addBytesBody.addBytesSurplus
      r.addBytes c = (r'.state, r') := by
  obtain ⟨hallow, cap, p, hh⟩ := h
  have hseek : onStream (seekDirect r.stream.getSize) r =
      .ok () { r with stream := { r.stream with pos := bs.length } } := by
    rw [hh.size_eq]
    exact onStream_of_ok (hh.seekDirect_ok le_rfl)
  obtain ⟨s, hwrite, hs⟩ := (hh.withPos le_rfl).append_ok hc
  refine ⟨s, ⟨hallow, cap, _, hs⟩, ?_⟩
  have hrun : onStream (write c) { r with stream := { r.stream with pos := bs.length } } =
      .ok () { r with stream := s } := onStream_of_ok hwrite
  rw [addBytes, if_neg hstate, if_neg (by simpa using hc), finalState_of_ok hseek]
  simp only [hrun]

/-- `AddBytes` returns the state that it leaves the reader in. -/
theorem Live.addBytes_fst (h : Live allowLegacy bs r) (c : List UInt8) :
    (r.addBytes c).1 = (r.addBytes c).2.state := by
  by_cases hc : c = []
  · rw [hc, addBytes_nil]
  by_cases hstate : r.state = .parseError
  · rw [CStunMessageReader.addBytes, if_pos hstate]
    exact hstate.symm
  · obtain ⟨s, -, hrun⟩ := h.addBytes_eq hstate hc
    rw [hrun]

/-- One call of `AddBytes` leaves the reader fed with its octets, too. -/
theorem Fed.addBytes (h : Fed allowLegacy bs r) (c : List UInt8) :
    Fed allowLegacy (bs ++ c) (r.addBytes c).2 := by
  by_cases hc : c = []
  · rw [hc, addBytes_nil, List.append_nil]
    exact h
  cases h with
  | headerNotRead hstate hlive hlen ha =>
    obtain ⟨s, hlive', hrun⟩ := hlive.addBytes_eq (by simp [hstate]) hc
    rw [hrun]
    exact addBytesHeader_fed hlive' hstate ⟨ha.table, ha.count, ha.fingerprint, ha.integrity⟩
  | headerValidated hstate hlive hlen hshort hvalid hhead ha =>
    obtain ⟨s, hlive', hrun⟩ := hlive.addBytes_eq (by simp [hstate]) hc
    rw [hrun, addBytesHeader_of_ne (by simp [hstate])]
    refine HeaderRead.addBytesBody_fed ⟨hlive', by simp; omega,
      (headerValid_append hlen c).mpr hvalid, ?_,
      ⟨ha.table, ha.count, ha.fingerprint, ha.integrity⟩⟩ hstate
    exact hhead.append hlen c
  | bodyValidated hstate hlive hlen hvalid hhead ts hcount hbody ha =>
    -- Any octet behind a whole message is one too many.
    obtain ⟨s, hlive', hrun⟩ := hlive.addBytes_eq (by simp [hstate]) hc
    have hlonger : 0 < c.length := List.length_pos_iff.mpr hc
    rw [hrun, addBytesHeader_of_ne (by simp [hstate]), addBytesBody_of_ne (by simp [hstate]),
      addBytesSurplus, if_pos]
    · refine .parseError rfl ⟨by simp; omega, .inr (.inl ?_)⟩
      rw [lengthField_append (by omega), List.length_append]
      omega
    · refine ⟨hstate, ?_⟩
      rw [hlive'.getSize_eq, List.length_append, hhead.length]
      omega
  | parseError hstate hrej =>
    rw [CStunMessageReader.addBytes, if_pos hstate]
    exact .parseError hstate (hrej.append c)

/-- Several calls of `AddBytes` leave the reader fed with all their octets. -/
theorem Fed.addChunks (h : Fed allowLegacy bs r) (chunks : List (List UInt8)) :
    Fed allowLegacy (bs ++ chunks.flatten) (r.addChunks chunks) := by
  induction chunks generalizing bs r with
  | nil => simpa [CStunMessageReader.addChunks] using h
  | cons c chunks ih => simpa [CStunMessageReader.addChunks] using ih (h.addBytes c)

end AddBytes

end CStunMessageReader

end Stun
