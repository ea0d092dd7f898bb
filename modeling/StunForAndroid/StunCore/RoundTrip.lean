import StunForAndroid.StunCore.BuilderDraft
import StunForAndroid.StunCore.ReaderAccess

/-!
# Reading undoes building

A draft that is `Complete` is in the grammar, and a reader that is fed its octets has parsed it: it
has the type, the class, the transaction id and the attributes of the draft
(`Draft.Complete.parsed`). `build_read` is the round trip of a message that was built with
`AddHeader`, `AddTransactionId`, `AddAttribute` and `GetResult`.
-/

namespace Stun

open Octets Fallible CDataStream CStunMessageBuilder CStunMessageReader

/-! ## A complete draft is in the grammar -/

namespace Draft

variable {d : Draft}

/-- A draft that a reader accepts. -/
structure Complete (d : Draft) : Prop where
  /-- The top two bits of the type field are zero. -/
  type_bits : d.typeField &&& 0xc000 = 0
  /-- The length field is the length of the body. -/
  length_eq : d.length.toNat = (Tlv.encodeAll d.attributes).length
  /-- The body is within the limit. -/
  length_le : (Tlv.encodeAll d.attributes).length ≤ MAX_STUN_MESSAGE_SIZE
  /-- There are not too many attributes. -/
  count_le : d.attributes.length ≤ MAX_NUM_ATTRIBUTES

/-- The type field on the wire is that of the draft. -/
theorem typeField_octets (d : Draft) : Stun.typeField d.octets = d.typeField := by
  have htake : d.octets.take 2 = toBE 2 d.typeField.toNat := by
    simp only [octets, List.append_assoc]
    exact List.take_left' (by simp)
  rw [Stun.typeField, htake, ofNat_ofBE_toBE]

/-- The length field on the wire is that of the draft. -/
theorem lengthField_octets (d : Draft) : lengthField d.octets = d.length := by
  have hdrop : (d.octets.drop 2).take 2 = toBE 2 d.length.toNat := by
    simp only [octets, List.append_assoc]
    rw [List.drop_left' (by simp), List.take_left' (by simp)]
  rw [lengthField, hdrop, ofNat_ofBE_toBE]

/-- After the length field the transaction id and the attributes follow on the wire. -/
theorem drop_four_octets (d : Draft) :
    d.octets.drop 4 = d.transid.id ++ Tlv.encodeAll d.attributes := by
  simp only [octets, List.append_assoc]
  rw [← List.append_assoc, List.drop_left' (by simp)]

/-- The transaction id on the wire is that of the draft. -/
theorem transidField_octets (d : Draft) : transidField d.octets = d.transid := by
  rw [transidField, drop_four_octets, List.take_left' d.transid.length_id,
    StunTransactionId.ofOctets_id]

/-- Setting the length field completes a draft that is not too long. -/
theorem complete_fixed {d : Draft} (htype : d.typeField &&& 0xc000 = 0)
    (hcount : d.attributes.length ≤ MAX_NUM_ATTRIBUTES)
    (hbody : (Tlv.encodeAll d.attributes).length ≤ MAX_STUN_MESSAGE_SIZE) : d.fixed.Complete := by
  refine ⟨htype, ?_, hbody, hcount⟩
  unfold MAX_STUN_MESSAGE_SIZE at hbody
  simp only [fixed]
  rw [UInt16.toNat_ofNat', Nat.mod_eq_of_lt (by omega)]

/-- A complete draft is in the grammar. -/
theorem Complete.accepts (hd : d.Complete) {fAllow : Bool}
    (hallow : fAllow = true ∨ legacyField d.octets = false) : Accepts fAllow d.octets := by
  have hmod := Tlv.length_encodeAll_mod (by decide : 0 < 4) (by decide) d.attributes
  refine ⟨?_, ⟨?_, ?_, hallow, ?_⟩, d.attributes, hd.count_le, d.drop_octets⟩
  · rw [d.length_octets, d.lengthField_octets, hd.length_eq]
  · rw [d.typeField_octets]
    exact hd.type_bits
  · rw [d.lengthField_octets, hd.length_eq]
    exact hmod
  · rw [d.lengthField_octets, hd.length_eq]
    exact hd.length_le

/-- A reader that is fed a complete draft has parsed it. -/
theorem Complete.parsed (hd : d.Complete) {fAllow : Bool} {r : CStunMessageReader}
    (hallow : fAllow = true ∨ legacyField d.octets = false) (h : Fed fAllow d.octets r) :
    Parsed fAllow d.octets d.attributes r := by
  obtain ⟨ts, hp⟩ := h.parsed (h.bodyValidated_iff.mpr (hd.accepts hallow))
  have hts : ts = d.attributes :=
    Tlv.encodeAll_injective (by decide) (hp.body.symm.trans d.drop_octets)
  exact hts ▸ hp

/-- A reader that has parsed a draft has the type, the class and the transaction id of its header.
-/
theorem header_of_parsed {fAllow : Bool} {r : CStunMessageReader}
    (hp : Parsed fAllow d.octets d.attributes r) :
    r.msgTypeNormalized = normalizedType d.typeField ∧ r.msgClass = messageClass d.typeField ∧
      r.transactionid = d.transid := by
  have h := hp.header
  exact ⟨by rw [h.type, d.typeField_octets], by rw [h.class_eq, d.typeField_octets],
    by rw [h.transid, d.transidField_octets]⟩

end Draft

/-! ## Reading single attributes -/

namespace CStunMessageReader

/-- The flags of a CHANGE-REQUEST are in its value. -/
theorem changeValue_flags (change : StunChangeRequestAttribute) :
    let value := ntohl (UInt32.ofNat (ofLE (changeValue change)))
    (⟨value &&& 0x0004 != 0, value &&& 0x0002 != 0⟩ : StunChangeRequestAttribute) = change := by
  obtain ⟨fChangeIP, fChangePort⟩ := change
  cases fChangeIP <;> cases fChangePort <;> decide

section Values

variable {allowLegacy : Bool} {bs : List UInt8} {before after ts : List WireAttribute}
  {t : WireAttribute} {r : CStunMessageReader}

/-- The table finds the last attribute of a type, with its value. -/
theorem Parsed.lookup_value (h : Parsed allowLegacy bs (before ++ t :: after) r)
    (hafter : ∀ x ∈ after, x.type ≠ t.type) :
    ∃ a, r.mapAttributes.lookup t.type = some a ∧ a.size.toNat = t.value.length ∧
      a.offset.toNat = endOfAttributes before + 4 ∧
      r.dataAt a.offset.toNat a.size.toNat = t.value := by
  obtain ⟨hsize, hoffset⟩ := h.record_toNat rfl
  refine ⟨_, h.lookup_last hafter, hsize, hoffset, ?_⟩
  rw [hsize, hoffset]
  exact h.dataAt_value rfl

/-- An address attribute reads as its address. -/
theorem Parsed.getAddressHelper_eq {attribType : UInt16} {addr : CSocketAddress}
    (h : Parsed allowLegacy bs (before ++ addressAttribute attribType addr :: after) r)
    (hafter : ∀ x ∈ after, x.type ≠ attribType) : r.getAddressHelper attribType = .ok addr := by
  obtain ⟨a, hlookup, -, -, hvalue⟩ := h.lookup_value hafter
  have htype : (addressAttribute attribType addr).type = attribType := ofValue_type
  have haddr : (addressAttribute attribType addr).value = addressValue addr := ofValue_value
  rw [htype] at hlookup
  unfold getAddressHelper
  rw [hlookup]
  simp only [hvalue, haddr]
  exact getMappedAddress_addressValue addr

/-- No address is read from a message without an attribute of the type. -/
theorem Parsed.getAddressHelper_none {attribType : UInt16} (h : Parsed allowLegacy bs ts r)
    (hnone : ∀ x ∈ ts, x.type ≠ attribType) : r.getAddressHelper attribType = .error E_FAIL := by
  unfold getAddressHelper
  rw [h.lookup_none hnone]

/-- A part of the value of an attribute is read from its place in the buffer. -/
theorem Parsed.dataAt_part (h : Parsed allowLegacy bs (before ++ t :: after) r) {k n : ℕ}
    (hkn : k + n ≤ t.value.length) :
    r.dataAt (endOfAttributes before + 4 + k) n = (t.value.drop k).take n := by
  have hend := h.endOf_le rfl
  rw [h.dataAt_eq (by omega), ← List.drop_drop, h.drop_value rfl,
    List.drop_append_of_le_length (by omega), List.take_append_of_le_length]
  rw [List.length_drop]
  omega

/-- `GetResponsePort` reads a value of two octets. -/
theorem Parsed.getResponsePort_eq {port : UInt16}
    (h : Parsed allowLegacy bs (before ++ t :: after) r)
    (htype : t.type = STUN_ATTRIBUTE_RESPONSE_PORT)
    (hvalue : t.value = toBE 2 port.toNat) (hafter : ∀ x ∈ after, x.type ≠ t.type) :
    r.getResponsePort = .ok port := by
  obtain ⟨a, hlookup, hsize, -, hdata⟩ := h.lookup_value hafter
  rw [htype] at hlookup
  rw [hvalue, length_toBE] at hsize
  rw [hsize, hvalue] at hdata
  have hsize' : a.size = STUN_ATTRIBUTE_RESPONSE_PORT_SIZE := UInt16.toNat_inj.mp hsize
  unfold getResponsePort
  rw [hlookup]
  simp only [hsize', ne_eq, not_true, if_false, hdata]
  rw [ntohs_ofLE (length_toBE 2 _), ofNat_ofBE_toBE]

/-- `GetResponsePort` rejects a value of any other length. -/
theorem Parsed.getResponsePort_error (h : Parsed allowLegacy bs (before ++ t :: after) r)
    (htype : t.type = STUN_ATTRIBUTE_RESPONSE_PORT) (hlength : t.value.length ≠ 2)
    (hafter : ∀ x ∈ after, x.type ≠ t.type) : r.getResponsePort = .error E_UNEXPECTED := by
  obtain ⟨a, hlookup, hsize, -, -⟩ := h.lookup_value hafter
  rw [htype] at hlookup
  have hsize' : a.size ≠ STUN_ATTRIBUTE_RESPONSE_PORT_SIZE := by
    intro heq
    rw [heq] at hsize
    exact hlength hsize.symm
  unfold getResponsePort
  rw [hlookup]
  exact if_pos hsize'

/-- `GetChangeRequest` reads the flags. -/
theorem Parsed.getChangeRequest_eq {change : StunChangeRequestAttribute}
    (h : Parsed allowLegacy bs (before ++ t :: after) r)
    (htype : t.type = STUN_ATTRIBUTE_CHANGEREQUEST)
    (hvalue : t.value = changeValue change) (hafter : ∀ x ∈ after, x.type ≠ t.type) :
    r.getChangeRequest = .ok change := by
  obtain ⟨a, hlookup, hsize, -, hdata⟩ := h.lookup_value hafter
  rw [htype] at hlookup
  rw [hvalue, length_changeValue] at hsize
  have hsize' : a.size = STUN_ATTRIBUTE_CHANGEREQUEST_SIZE := UInt16.toNat_inj.mp hsize
  rw [hsize, hvalue] at hdata
  unfold getChangeRequest
  rw [hlookup]
  simp only [hsize', ne_eq, not_true, if_false, hdata]
  exact congrArg Except.ok (changeValue_flags change)

/-- `GetPaddingAttributeSize` is the length of the value. -/
theorem Parsed.getPaddingAttributeSize_eq (h : Parsed allowLegacy bs (before ++ t :: after) r)
    (htype : t.type = STUN_ATTRIBUTE_PADDING) (hafter : ∀ x ∈ after, x.type ≠ t.type) :
    r.getPaddingAttributeSize = .ok (UInt16.ofNat t.value.length) := by
  obtain ⟨a, hlookup, hsize, -, -⟩ := h.lookup_value hafter
  rw [htype] at hlookup
  unfold getPaddingAttributeSize
  rw [hlookup, ← hsize, UInt16.ofNat_toNat]

/-- The class and the number of an error code give it back. -/
theorem errorNumber_of_octets {errorNumber : UInt16} (h300 : ¬errorNumber < 300)
    (h600 : ¬errorNumber > 600) :
    ((errorNumber / 100).toUInt8 &&& 0x07).toUInt16 * 100 + (errorNumber % 100).toUInt8.toUInt16 =
      errorNumber := by
  have h300' : 300 ≤ errorNumber.toNat := by
    simpa [UInt16.lt_iff_toNat_lt] using h300
  have h600' : errorNumber.toNat ≤ 600 := by
    simpa [UInt16.lt_iff_toNat_lt] using h600
  have hdiv : (errorNumber / 100).toNat = errorNumber.toNat / 100 := UInt16.toNat_div _ _
  have hmod : (errorNumber % 100).toNat = errorNumber.toNat % 100 := UInt16.toNat_mod _ _
  -- The class is 3, 4, 5 or 6, so that three bits hold it.
  have hcl : ((errorNumber / 100).toUInt8 &&& 0x07).toNat = errorNumber.toNat / 100 := by
    rw [UInt8.toNat_and, UInt16.toNat_toUInt8, hdiv, Nat.mod_eq_of_lt (by omega)]
    have hlo : 3 ≤ errorNumber.toNat / 100 := by omega
    have hhi : errorNumber.toNat / 100 ≤ 6 := by omega
    generalize errorNumber.toNat / 100 = cl at hlo hhi
    interval_cases cl <;> rfl
  apply UInt16.toNat_inj.mp
  have h100 : (100 : UInt16).toNat = 100 := rfl
  rw [UInt16.toNat_add, UInt16.toNat_mul, UInt8.toNat_toUInt16, UInt8.toNat_toUInt16, hcl,
    UInt16.toNat_toUInt8, hmod, h100]
  omega

/-- `GetErrorCode` reads the error code in front of the reason. -/
theorem Parsed.getErrorCode_eq {errorNumber : UInt16} {pszReason : CString} {rest : List UInt8}
    (h : Parsed allowLegacy bs (before ++ t :: after) r) (htype : t.type = STUN_ATTRIBUTE_ERRORCODE)
    (hvalue : t.value = errorValue errorNumber pszReason ++ rest)
    (h300 : ¬errorNumber < 300) (h600 : ¬errorNumber > 600)
    (hafter : ∀ x ∈ after, x.type ≠ t.type) : r.getErrorCode = .ok errorNumber := by
  obtain ⟨a, hlookup, -, hoffset, -⟩ := h.lookup_value hafter
  have hcons : t.value = 0 :: 0 :: (errorNumber / 100).toUInt8 :: (errorNumber % 100).toUInt8 ::
      (pszReason.chars ++ rest) := hvalue
  have hdata := h.dataAt_part (k := 2) (n := 2) (by rw [hcons]; simp)
  rw [htype] at hlookup
  unfold getErrorCode
  rw [hlookup]
  simp only [hoffset, hdata, hcons, List.drop_succ_cons, List.drop_zero, List.take_succ_cons,
    List.take_zero, List.getD_cons_zero, List.getD_cons_succ]
  exact congrArg Except.ok (errorNumber_of_octets h300 h600)

/-- `GetStringAttributeByType` gives the string to a caller whose array has room for it: the padding
of a legacy message is zeros, the first of which ends the string. -/
theorem Parsed.getStringAttributeByType_eq {s : CString} {n size : ℕ}
    (h : Parsed allowLegacy bs (before ++ t :: after) r)
    (hvalue : t.value = s.chars ++ List.replicate n 0) (hsize : t.value.length < size)
    (hafter : ∀ x ∈ after, x.type ≠ t.type) :
    ∃ value, r.getStringAttributeByType t.type size = .ok value ∧ CString.ofArray value = s := by
  obtain ⟨a, hlookup, hlength, -, hdata⟩ := h.lookup_value hafter
  refine ⟨t.value ++ [0], ?_, ?_⟩
  · unfold getStringAttributeByType
    rw [hlookup]
    simp only [hdata]
    exact if_neg (by omega)
  · rw [hvalue, List.append_assoc, ← List.replicate_succ', List.replicate_succ]
    exact CString.ofArray_append_zero s _

end Values

end CStunMessageReader

/-! ## Building a message from a list of attributes -/

namespace CStunMessageBuilder

/-- A new builder in a mode, whose stream is attached to a buffer when there is one. -/
def start (fLegacyMode : Bool) (buf : Option CBuffer) : CStunMessageBuilder :=
  let b := ({} : CStunMessageBuilder).setLegacyMode fLegacyMode
  match buf with
  | none => b
  | some buf => b.attachStream buf

/-- The stream of a new builder is empty. -/
theorem holds_start (fLegacyMode : Bool) (buf : Option CBuffer) :
    Holds (buf.elim 0 CBuffer.getAllocatedSize) [] 0 (start fLegacyMode buf).stream := by
  cases buf with
  | none => exact holds_new
  | some buf => exact holds_attach buf _

/-- A new builder is in its mode. -/
theorem start_fLegacyMode (fLegacyMode : Bool) (buf : Option CBuffer) :
    (start fLegacyMode buf).fLegacyMode = fLegacyMode := by
  cases buf <;> rfl

/-- `AddAttribute` for each of a list of types and values. -/
def addAttributes (attribs : List (UInt16 × List UInt8)) : Fallible CStunMessageBuilder Unit :=
  attribs.forM fun a => addAttribute a.1 (some a.2) (UInt16.ofNat a.2.length)

/-- A message with a list of attributes. -/
def build (msgType : UInt16) (msgClass : StunMessageClass) (transid : StunTransactionId)
    (attribs : List (UInt16 × List UInt8)) : Fallible CStunMessageBuilder (Option CBuffer) := do
  addHeader msgType msgClass
  addTransactionId transid
  addAttributes attribs
  getResult

/-- The octets of a value with its padding. -/
def paddedLength (value : List UInt8) : ℕ := value.length + padLength 4 value.length

/-- The value that a reader finds: in legacy mode with the padding. -/
def readValue (fLegacy : Bool) (value : List UInt8) : List UInt8 :=
  if fLegacy then value ++ List.replicate (padLength 4 value.length) 0 else value

/-- The attribute `t` is what `AddAttribute` writes for the type and value `a`. -/
def WrittenAs (fLegacy : Bool) (a : UInt16 × List UInt8) (t : WireAttribute) : Prop :=
  ∃ h, t = ofValue fLegacy a.1 a.2 h

section Attributes

variable {cap : ℕ} {fLegacy : Bool} {d : Draft}

/-- The attributes of a list are appended, in their order. -/
theorem addAttributes_spec (attribs : List (UInt16 × List UInt8))
    (hlimit : ∀ a ∈ attribs, paddedLength a.2 ≤ MAX_STUN_ATTRIBUTE_SIZE) :
    ∃ ts, List.Forall₂ (WrittenAs fLegacy) attribs ts ∧
      Succeeds (Building cap fLegacy d) (addAttributes attribs)
        fun _ => Building cap fLegacy { d with attributes := d.attributes ++ ts } := by
  induction attribs generalizing d with
  | nil =>
    refine ⟨[], .nil, Succeeds.pure fun b hb => ?_⟩
    simpa using hb
  | cons a attribs ih =>
    have ha := hlimit a (by simp)
    obtain ⟨ts, hts, hrun⟩ := ih (d := d.add (ofValue fLegacy a.1 a.2 ha))
      fun x hx => hlimit x (by simp [hx])
    refine ⟨ofValue fLegacy a.1 a.2 ha :: ts, .cons ⟨ha, rfl⟩ hts, ?_⟩
    have hcons : addAttributes (a :: attribs) =
        addAttribute a.1 (some a.2) (UInt16.ofNat a.2.length) >>= fun _ => addAttributes attribs :=
      rfl
    rw [hcons]
    exact (addAttribute_spec a.1 a.2 ha).bind fun _ => by simpa [Draft.add] using hrun

/-- The octets of the attributes of a list. -/
theorem length_encodeAll_of_writtenAs {attribs : List (UInt16 × List UInt8)}
    {ts : List WireAttribute} (h : List.Forall₂ (WrittenAs fLegacy) attribs ts) :
    (Tlv.encodeAll ts).length = (attribs.map fun a => 4 + paddedLength a.2).sum := by
  induction h with
  | nil => rfl
  | cons ht _ ih =>
    obtain ⟨hle, rfl⟩ := ht
    simp only [Tlv.encodeAll_cons, List.length_append, length_encode_ofValue, ih, List.map_cons,
      List.sum_cons, paddedLength]
    omega

/-- A built message is complete. -/
theorem complete_build (msgType : UInt16) (msgClass : StunMessageClass)
    (transid : StunTransactionId) {attribs : List (UInt16 × List UInt8)} {ts : List WireAttribute}
    (hcount : attribs.length ≤ MAX_NUM_ATTRIBUTES)
    (hbody : (attribs.map fun a => 4 + paddedLength a.2).sum ≤ MAX_STUN_MESSAGE_SIZE)
    (hts : List.Forall₂ (WrittenAs fLegacy) attribs ts) :
    (Draft.fixed ⟨msgTypeField msgType msgClass, 0, transid, ts⟩).Complete := by
  refine Draft.complete_fixed (msgTypeField_and_c000 _ _) ?_ ?_
  · rwa [← hts.length_eq]
  · rwa [length_encodeAll_of_writtenAs hts]

end Attributes

/-- A reader that is fed a built message has its type, class and transaction id, and its attributes
in their order, each with its value, which in legacy mode is extended with zeros to a multiple of
four octets. -/
theorem build_read (fLegacy : Bool) (buf rbuf : Option CBuffer) (r₀ : CStunMessageReader)
    (msgType : UInt16) (msgClass : StunMessageClass) (transid : StunTransactionId)
    (attribs : List (UInt16 × List UInt8))
    (htype : msgType.toNat < 4096) (hclass : msgClass ≠ .invalidMessageClass)
    (hcount : attribs.length ≤ MAX_NUM_ATTRIBUTES)
    (hlimit : ∀ a ∈ attribs, paddedLength a.2 ≤ MAX_STUN_ATTRIBUTE_SIZE)
    (hbody : (attribs.map fun a => 4 + paddedLength a.2).sum ≤ MAX_STUN_MESSAGE_SIZE) :
    ∃ spBuffer b',
      build msgType msgClass transid attribs (start fLegacy buf) = .ok (some spBuffer) b' ∧
      let r := ((r₀.ready true rbuf).addBytes spBuffer.contents).2
      r.state = .bodyValidated ∧ r.msgTypeNormalized = msgType ∧ r.msgClass = msgClass ∧
        r.transactionid = transid ∧ r.getAttributeCount = attribs.length ∧
        ∀ i (hi : i < attribs.length), ∃ a, r.getAttributeByIndex i = .ok a ∧
          a.attributeType = attribs[i].1 ∧
          r.dataAt a.offset.toNat a.size.toNat = readValue fLegacy attribs[i].2 := by
  -- The builder writes the draft.
  obtain ⟨b₀, b₁, hheader, htransid, h₁⟩ := addHeader_addTransactionId_spec
    (show 0 < 0 → 200 ≤ 0 by omega) msgType msgClass transid
    (holds_start fLegacy buf).detached (start_fLegacyMode fLegacy buf)
  obtain ⟨ts, hts, hrun⟩ := @addAttributes_spec 0 fLegacy
    ⟨msgTypeField msgType msgClass, 0, transid, []⟩ attribs hlimit
  obtain ⟨_, b₂, hadd, h₂⟩ := hrun b₁ h₁
  obtain ⟨_, b₃, hresult, -, -, spBuffer, rfl, hcontents⟩ := getResult_spec b₂ h₂
  have hbuild : build msgType msgClass transid attribs (start fLegacy buf) =
      .ok (some spBuffer) b₃ := by
    rw [build, bind_of_ok hheader, bind_of_ok htransid, bind_of_ok hadd, hresult]
  refine ⟨spBuffer, b₃, hbuild, ?_⟩
  -- The reader parses it.
  have hd := complete_build msgType msgClass transid hcount hbody hts
  rw [List.nil_append] at hcontents
  rw [hcontents]
  intro r
  have hp := hd.parsed (.inl rfl) (fed_addBytes true rbuf r₀ _)
  obtain ⟨hrtype, hrclass, hrtransid⟩ := Draft.header_of_parsed hp
  refine ⟨hp.state, ?_, ?_, hrtransid, ?_, ?_⟩
  · exact hrtype.trans (normalizedType_msgTypeField htype msgClass)
  · exact hrclass.trans (messageClass_msgTypeField msgType hclass)
  · rw [hp.getAttributeCount_eq, hts.length_eq]
    rfl
  · intro i hi
    have hi' : i < ts.length := hts.length_eq ▸ hi
    obtain ⟨a, hindex, hatype, hdata⟩ := hp.byIndex_dataAt i hi'
    obtain ⟨hle, hwritten⟩ : WrittenAs fLegacy attribs[i] ts[i] :=
      (List.forall₂_iff_get.mp hts).2 i hi hi'
    refine ⟨a, hindex, ?_, ?_⟩
    · rw [hatype]
      exact (congrArg Tlv.type hwritten).trans ofValue_type
    · rw [hdata]
      exact (congrArg Tlv.value hwritten).trans ofValue_value

/-- `build_read` for a legacy message whose value is padded. -/
theorem build_read_userName :
    ∃ spBuffer b', build StunMsgTypeBinding .request StunTransactionId.zero
        [(STUN_ATTRIBUTE_USERNAME, [0x61, 0x62, 0x63, 0x64, 0x65])] (start true none) =
          .ok (some spBuffer) b' ∧
      ((({} : CStunMessageReader).ready true none).addBytes spBuffer.contents).2.state =
        .bodyValidated := by
  obtain ⟨spBuffer, b', hbuild, hstate, -⟩ :=
    build_read true none none {} StunMsgTypeBinding .request
    StunTransactionId.zero [(STUN_ATTRIBUTE_USERNAME, [0x61, 0x62, 0x63, 0x64, 0x65])] (by decide)
    (by decide) (by decide) (by decide) (by decide)
  exact ⟨spBuffer, b', hbuild, hstate⟩

end CStunMessageBuilder

end Stun
