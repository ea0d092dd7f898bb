import Mathlib.Tactic.IntervalCases
import StunForAndroid.StunCore.Builder
import StunForAndroid.StunCore.Grammar
import StunForAndroid.StunCore.Reader

/-!
# The message that a builder has written

A `Draft` is a message under construction: its type field, the length field as it was last written,
the transaction id and the attributes. `Building` says that a builder's stream holds a draft, and
each operation of the builder has one theorem about what it does to the draft: an attribute is
appended, `FixLengthField` sets the length field to that of the body, and the message integrity and
the fingerprint are attributes whose value is computed from the draft.
-/

namespace Stun

open Octets Fallible CDataStream

/-! ## The type field -/

section TypeField

open CStunMessageBuilder CStunMessageReader

/-- The top bits of a message type of 12 bits are zero. -/
theorem getLsbD_of_lt {t : UInt16} (ht : t.toNat < 4096) {i : ℕ} (hi : 12 ≤ i) :
    t.toBitVec.getLsbD i = false := by
  apply Nat.testBit_lt_two_pow
  calc t.toNat < 2 ^ 12 := ht
    _ ≤ 2 ^ i := Nat.pow_le_pow_right (by omega) hi

/-- The type that the reader extracts from a type field is the one that the builder put there. -/
theorem normalizedType_msgTypeField {t : UInt16} (ht : t.toNat < 4096) (c : StunMessageClass) :
    normalizedType (msgTypeField t c) = t := by
  have h12 := getLsbD_of_lt ht (i := 12) (by omega)
  have h13 := getLsbD_of_lt ht (i := 13) (by omega)
  have h14 := getLsbD_of_lt ht (i := 14) (by omega)
  have h15 := getLsbD_of_lt ht (i := 15) (by omega)
  apply UInt16.toBitVec_inj.mp
  simp only [normalizedType, msgTypeField]
  generalize c.value = v
  simp only [UInt16.toBitVec_or, UInt16.toBitVec_and, UInt16.toBitVec_shiftLeft,
    UInt16.toBitVec_shiftRight, UInt16.toBitVec_ofNat]
  ext i hi
  interval_cases i <;> simp_all

/-- The top two bits of a type field are zero. -/
theorem msgTypeField_and_c000 (t : UInt16) (c : StunMessageClass) :
    msgTypeField t c &&& (0xc000 : UInt16) = 0 := by
  apply UInt16.toBitVec_inj.mp
  simp only [msgTypeField]
  generalize c.value = v
  simp only [UInt16.toBitVec_or, UInt16.toBitVec_and, UInt16.toBitVec_shiftLeft,
    UInt16.toBitVec_ofNat]
  ext i hi
  interval_cases i <;> simp

/-- The class bits of a type field are those of the message class. -/
theorem msgTypeField_and_0110 (t : UInt16) (c : StunMessageClass) :
    msgTypeField t c &&& (0x0110 : UInt16) =
      ((c.value &&& (0x02 : UInt16)) <<< 7) ||| ((c.value &&& (0x01 : UInt16)) <<< 4) := by
  apply UInt16.toBitVec_inj.mp
  simp only [msgTypeField]
  generalize c.value = v
  simp only [UInt16.toBitVec_or, UInt16.toBitVec_and, UInt16.toBitVec_shiftLeft,
    UInt16.toBitVec_ofNat]
  ext i hi
  interval_cases i <;> simp

/-- The class that the reader extracts from a type field is the one that the builder put there. -/
theorem messageClass_msgTypeField (t : UInt16) {c : StunMessageClass}
    (hc : c ≠ .invalidMessageClass) : messageClass (msgTypeField t c) = c := by
  simp only [messageClass, STUN_IS_REQUEST, STUN_IS_INDICATION, STUN_IS_SUCCESS_RESP,
    msgTypeField_and_0110]
  cases c with
  | invalidMessageClass => exact absurd rfl hc
  | _ => rfl

end TypeField

/-! ## Drafts -/

/-- A message under construction. -/
structure Draft where
  /-- The type field. -/
  typeField : UInt16
  /-- The length field, as it was last written. -/
  length : UInt16
  /-- The transaction id. -/
  transid : StunTransactionId
  /-- The attributes. -/
  attributes : List WireAttribute

namespace Draft

/-- The draft on the wire. -/
def octets (d : Draft) : List UInt8 :=
  toBE 2 d.typeField.toNat ++ toBE 2 d.length.toNat ++ d.transid.id ++ Tlv.encodeAll d.attributes

/-- The draft with one more attribute. -/
def add (d : Draft) (t : WireAttribute) : Draft := { d with attributes := d.attributes ++ [t] }

/-- The draft with the length field set to the length of the body. -/
def fixed (d : Draft) : Draft :=
  { d with length := UInt16.ofNat (Tlv.encodeAll d.attributes).length }

@[simp]
theorem transid_add (d : Draft) (t : WireAttribute) : (d.add t).transid = d.transid := rfl

/-- The header of a draft has 20 octets. -/
theorem length_octets (d : Draft) :
    d.octets.length = STUN_HEADER_SIZE + (Tlv.encodeAll d.attributes).length := by
  have hid : d.transid.id.length = 16 := d.transid.length_id
  simp only [octets, List.length_append, length_toBE, hid]
  rfl

/-- A draft has a header. -/
theorem header_le (d : Draft) : STUN_HEADER_SIZE ≤ d.octets.length := by
  rw [length_octets]
  exact Nat.le_add_right _ _

/-- The octets after the header are the attributes. -/
theorem drop_octets (d : Draft) : d.octets.drop STUN_HEADER_SIZE = Tlv.encodeAll d.attributes := by
  have hid : d.transid.id.length = 16 := d.transid.length_id
  apply List.drop_left'
  simp only [List.length_append, length_toBE, hid]
  rfl

/-- An attribute is appended to the octets. -/
theorem octets_add (d : Draft) (t : WireAttribute) : (d.add t).octets = d.octets ++ t.encode := by
  simp [octets, add]

end Draft

/-- What `AddAttribute` writes for a value: in legacy mode the length counts the padding. -/
def attributeOctets (fLegacy : Bool) (attribType : UInt16) (value : List UInt8) : List UInt8 :=
  toBE 2 attribType.toNat ++
    toBE 2 (if fLegacy then value.length + padLength 4 value.length else value.length) ++ value ++
    List.replicate (padLength 4 value.length) 0

/-- An attribute has a header, a value and padding. -/
theorem length_attributeOctets (fLegacy : Bool) (attribType : UInt16) (value : List UInt8) :
    (attributeOctets fLegacy attribType value).length =
      4 + value.length + padLength 4 value.length := by
  unfold attributeOctets
  simp only [List.length_append, length_toBE, List.length_replicate]

/-- The attribute that `AddAttribute` writes for a value: in legacy mode the padding is a part of
the value. -/
def ofValue (fLegacy : Bool) (attribType : UInt16) (value : List UInt8)
    (h : value.length + padLength 4 value.length ≤ MAX_STUN_ATTRIBUTE_SIZE) : WireAttribute :=
  if fLegacy then
    { type := attribType
      value := value ++ List.replicate (padLength 4 value.length) 0
      padding := []
      length_value := by simpa using h
      length_padding := by
        have hmod := add_padLength_mod value.length (by decide : 0 < 4)
        simp only [List.length_append, List.length_replicate, List.length_nil]
        rw [padLength, if_pos hmod] }
  else
    { type := attribType
      value := value
      padding := List.replicate (padLength 4 value.length) 0
      length_value := by omega
      length_padding := by simp }

section OfValue

variable {fLegacy : Bool} {attribType : UInt16} {value : List UInt8}
  {h : value.length + padLength 4 value.length ≤ MAX_STUN_ATTRIBUTE_SIZE}

/-- The attribute of a value has the type asked for. -/
@[simp]
theorem ofValue_type : (ofValue fLegacy attribType value h).type = attribType := by
  cases fLegacy <;> rfl

/-- The attribute of a value has that value, padded with zeros in legacy mode. -/
theorem ofValue_value : (ofValue fLegacy attribType value h).value =
    if fLegacy then value ++ List.replicate (padLength 4 value.length) 0 else value := by
  cases fLegacy <;> rfl

/-- The value of the attribute is the value that was added, and zeros. -/
theorem ofValue_value_append : (ofValue fLegacy attribType value h).value =
    value ++ List.replicate (if fLegacy then padLength 4 value.length else 0) 0 := by
  rw [ofValue_value]
  cases fLegacy with
  | true => rfl
  | false => exact (List.append_nil value).symm

/-- The attribute of a value takes the octets on the wire that `AddAttribute` writes. -/
theorem encode_ofValue : (ofValue fLegacy attribType value h).encode =
    attributeOctets fLegacy attribType value := by
  unfold attributeOctets
  cases fLegacy <;> simp [ofValue, Tlv.encode]

/-- The attribute fills a multiple of four octets. -/
theorem length_encode_ofValue : (ofValue fLegacy attribType value h).encode.length =
    4 + value.length + padLength 4 value.length := by
  rw [encode_ofValue, length_attributeOctets]

end OfValue

/-! ## The length field -/

/-- The octets with a length field. -/
def withLength (n : ℕ) (bs : List UInt8) : List UInt8 :=
  overwrite bs 2 (toBE 2 (UInt16.ofNat n).toNat)

/-- A length field is written over another one. -/
theorem length_withLength (n : ℕ) {bs : List UInt8} (h : STUN_HEADER_SIZE ≤ bs.length) :
    (withLength n bs).length = bs.length := by
  unfold STUN_HEADER_SIZE at h
  unfold withLength
  rw [length_overwrite _ _ _ (by omega), length_toBE]
  omega

/-- The length field is in the header. -/
theorem withLength_append (n : ℕ) {bs : List UInt8} (h : STUN_HEADER_SIZE ≤ bs.length)
    (x : List UInt8) : withLength n (bs ++ x) = withLength n bs ++ x := by
  unfold STUN_HEADER_SIZE at h
  exact overwrite_append_left bs x _ 2 (by rw [length_toBE]; omega)

/-- Writing the length field again changes nothing. -/
theorem withLength_withLength (n : ℕ) {bs : List UInt8} (h : STUN_HEADER_SIZE ≤ bs.length) :
    withLength n (withLength n bs) = withLength n bs := by
  unfold STUN_HEADER_SIZE at h
  exact overwrite_overwrite bs _ 2 (by rw [length_toBE]; omega)

/-! ## Message integrity and fingerprint -/

/-- The message integrity attribute over the octets `m`. -/
def integrityAttribute (D : Digests) (key m : List UInt8) : WireAttribute where
  type := STUN_ATTRIBUTE_MESSAGEINTEGRITY
  value := D.hmacSha1 key m
  padding := []
  length_value := by
    rw [D.length_hmacSha1]
    decide
  length_padding := by
    rw [D.length_hmacSha1]
    rfl

/-- The fingerprint attribute over the octets `m`. -/
def fingerprintAttribute (D : Digests) (m : List UInt8) : WireAttribute where
  type := STUN_ATTRIBUTE_FINGERPRINT
  value := toBE 4 (D.crc32 m ^^^ STUN_FINGERPRINT_XOR).toNat
  padding := []
  length_value := by
    rw [length_toBE]
    decide
  length_padding := by simp [padLength]

/-- The message integrity attribute takes the octets on the wire that `AddAttribute` writes for the
digest. -/
theorem encode_integrityAttribute (D : Digests) (key m : List UInt8) :
    (integrityAttribute D key m).encode =
      attributeOctets false STUN_ATTRIBUTE_MESSAGEINTEGRITY (D.hmacSha1 key m) := by
  unfold attributeOctets
  rw [D.length_hmacSha1]
  simp [Tlv.encode, integrityAttribute, D.length_hmacSha1, padLength]

/-- The fingerprint attribute takes the octets on the wire that `AddAttribute` writes for the masked
checksum. -/
theorem encode_fingerprintAttribute (D : Digests) (m : List UInt8) :
    (fingerprintAttribute D m).encode = attributeOctets false STUN_ATTRIBUTE_FINGERPRINT
      (toBE 4 (D.crc32 m ^^^ STUN_FINGERPRINT_XOR).toNat) := by
  unfold attributeOctets
  simp [Tlv.encode, fingerprintAttribute, padLength]

namespace Draft

/-- The draft with the length field that it will have with `n` more octets. -/
def reserve (n : ℕ) (d : Draft) : Draft :=
  { d with length := UInt16.ofNat ((Tlv.encodeAll d.attributes).length + n) }

/-- The draft with message integrity. -/
def signed (D : Digests) (key : List UInt8) (d : Draft) : Draft :=
  (d.reserve 24).add (integrityAttribute D key (d.reserve 24).octets)

/-- The draft with a fingerprint. -/
def fingerprinted (D : Digests) (d : Draft) : Draft :=
  (d.reserve 8).add (fingerprintAttribute D (d.reserve 8).octets)

/-- The length field is copied over the octets. -/
theorem octets_reserve (d : Draft) (n : ℕ) : (d.reserve n).octets =
    withLength ((Tlv.encodeAll d.attributes).length + n) d.octets := by
  have h := overwrite_append (toBE 2 d.typeField.toNat) (toBE 2 d.length.toNat)
    (d.transid.id ++ Tlv.encodeAll d.attributes)
    (toBE 2 (UInt16.ofNat ((Tlv.encodeAll d.attributes).length + n)).toNat) (by simp)
  rw [length_toBE] at h
  simp only [octets, reserve, withLength, List.append_assoc] at h ⊢
  exact h.symm

end Draft

namespace CStunMessageBuilder

/-- The builder's stream holds the octets `bs` with the cursor at their end. -/
structure Written (cap : ℕ) (fLegacy : Bool) (transid : StunTransactionId) (bs : List UInt8)
    (b : CStunMessageBuilder) : Prop where
  holds : Holds cap bs bs.length b.stream
  transid_eq : b.transactionid = transid
  legacy_eq : b.fLegacyMode = fLegacy

/-- The builder has written a draft. -/
abbrev Building (cap : ℕ) (fLegacy : Bool) (d : Draft) : CStunMessageBuilder → Prop :=
  Written cap fLegacy d.transid d.octets

/-- A draft with one more attribute was written when the attribute was appended. -/
theorem building_add {cap : ℕ} {fLegacy : Bool} (d : Draft) (t : WireAttribute) :
    Building cap fLegacy (d.add t) = Written cap fLegacy d.transid (d.octets ++ t.encode) := by
  rw [Building, Draft.octets_add, Draft.transid_add]

/-- A builder in a mode whose stream is attached to an empty buffer of `cap` octets. -/
structure Attached (cap : ℕ) (fLegacy : Bool) (b : CStunMessageBuilder) : Prop where
  holds : Holds cap [] 0 b.stream
  legacy_eq : b.fLegacyMode = fLegacy

/-- A new builder is attached to the buffer that it is given. -/
theorem attached_attachStream (buf : CBuffer) (fLegacy : Bool) :
    Attached buf.getAllocatedSize fLegacy
      ((({} : CStunMessageBuilder).attachStream buf).setLegacyMode fLegacy) :=
  ⟨holds_attach buf {}, rfl⟩

/-- The octets of a draft in a buffer that has room for them are in the buffer that the builder was
attached to. -/
theorem exists_attachedBuffer {cap : ℕ} {fLegacy : Bool} {d : Draft} {b : CStunMessageBuilder}
    (h : Building cap fLegacy d b) (hcap : d.octets.length ≤ cap) :
    ∃ buf, b.stream.attachedBuffer = some buf ∧ buf.contents = d.octets ∧
      buf.getAllocatedSize = cap := by
  have hlen : 0 < d.octets.length := by
    rw [Draft.length_octets]
    unfold STUN_HEADER_SIZE
    omega
  obtain ⟨hattached, hsize⟩ := h.holds.inPlace (hlen.trans_le hcap) hcap
  obtain ⟨buf, hbuf, hcontents, -⟩ := h.holds.exists_buffer (List.ne_nil_of_length_pos hlen)
  refine ⟨buf, ?_, hcontents, ?_⟩
  · unfold attachedBuffer
    rw [hattached, hbuf, Option.none_or]
  · unfold getAllocatedSize at hsize
    simpa [hbuf] using hsize

section Steps

variable {cap : ℕ} {fLegacy : Bool} {transid : StunTransactionId} {bs : List UInt8}

/-- A write appends. -/
theorem write_spec (data : List UInt8) (hd : data ≠ []) :
    Succeeds (Written cap fLegacy transid bs) (onStream (write data))
      fun _ => Written cap fLegacy transid (bs ++ data) := by
  intro b hb
  obtain ⟨s, hw, hs⟩ := hb.holds.append_ok hd
  exact ⟨(), _, zoom_of_ok hw, hs, hb.transid_eq, hb.legacy_eq⟩

/-- A write that is skipped when there is nothing to write appends in any case. -/
theorem writeUnlessEmpty_spec (data : List UInt8) :
    Succeeds (Written cap fLegacy transid bs) (writeUnlessEmpty data)
      fun _ => Written cap fLegacy transid (bs ++ data) := by
  unfold writeUnlessEmpty
  split_ifs with hd
  · exact write_spec data (List.length_pos_iff.mp hd)
  · obtain rfl : data = [] := List.eq_nil_of_length_eq_zero (by omega)
    rw [List.append_nil]
    exact Succeeds.pure fun b hb => hb

/-- A word in network byte order is appended as its wire image. -/
theorem writeUint16_spec (w : UInt16) :
    Succeeds (Written cap fLegacy transid bs) (onStream (writeUint16 (htons w)))
      fun _ => Written cap fLegacy transid (bs ++ toBE 2 w.toNat) := by
  rw [writeUint16, toLE_htons]
  exact write_spec _ (List.ne_nil_of_length_pos (by simp))

/-- `AddAttributeHeader` appends the type and the size in network byte order. -/
theorem addAttributeHeader_spec (attribType size : UInt16) :
    Succeeds (Written cap fLegacy transid bs) (addAttributeHeader attribType size)
      fun _ => Written cap fLegacy transid
        (bs ++ toBE 2 attribType.toNat ++ toBE 2 size.toNat) :=
  (writeUint16_spec attribType).bind fun _ => writeUint16_spec size

/-- `AddAttribute` appends the value with its header and its padding. -/
theorem addAttribute_written (attribType size : UInt16) {data : List UInt8}
    (hsize : size.toNat ≤ data.length) :
    Succeeds (Written cap fLegacy transid bs) (addAttribute attribType (some data) size)
      fun _ => Written cap fLegacy transid
        (bs ++ attributeOctets fLegacy attribType (data.take size.toNat)) := by
  intro b hb
  have hlen : (data.take size.toNat).length = size.toNat := List.length_take_of_le hsize
  simp only [addAttribute, reduceCtorEq, if_false, Option.getD_some]
  rw [bind_get, hb.legacy_eq]
  set v := data.take size.toNat with hv
  set sizeheader := if fLegacy then size + UInt16.ofNat (padLength 4 size.toNat) else size with hdef
  -- The length in the header is a word, too.
  have hheader : toBE 2 sizeheader.toNat =
      toBE 2 (if fLegacy then v.length + padLength 4 v.length else v.length) := by
    rw [hdef, hlen]
    cases fLegacy
    · rfl
    · rw [if_pos rfl, if_pos rfl, ← toBE_toNat_ofNat (size.toNat + _), UInt16.ofNat_add,
        UInt16.ofNat_toNat]
  have hrun := ((addAttributeHeader_spec attribType sizeheader).bind fun _ =>
    (writeUnlessEmpty_spec v).bind fun _ =>
      writeUnlessEmpty_spec (List.replicate (padLength 4 size.toNat) 0)) b hb
  rw [hheader] at hrun
  unfold attributeOctets
  rw [hlen] at hrun ⊢
  simpa only [List.append_assoc] using hrun

/-- `AddAttribute` appends the attribute of a whole array. -/
theorem addAttribute_written_all (attribType : UInt16) (v : List UInt8) (hv : v.length < 65536) :
    Succeeds (Written cap fLegacy transid bs)
      (addAttribute attribType (some v) (UInt16.ofNat v.length))
      fun _ => Written cap fLegacy transid (bs ++ attributeOctets fLegacy attribType v) := by
  have hsize : (UInt16.ofNat v.length).toNat = v.length := by
    rw [UInt16.toNat_ofNat', Nat.mod_eq_of_lt hv]
  have h :=
    @addAttribute_written cap fLegacy transid bs attribType (UInt16.ofNat v.length) v hsize.le
  rwa [hsize, List.take_length] at h

/-- The value of an error code attribute. -/
def errorValue (errorNumber : UInt16) (pszReason : CString) : List UInt8 :=
  [0, 0, (errorNumber / 100).toUInt8, (errorNumber % 100).toUInt8] ++ pszReason.chars

/-- The value of an error code attribute is within the limit. -/
theorem errorValue_le (errorNumber : UInt16) {pszReason : CString} (h : pszReason.strlen < 128) :
    (errorValue errorNumber pszReason).length + padLength 4
      (errorValue errorNumber pszReason).length ≤ MAX_STUN_ATTRIBUTE_SIZE := by
  have hpad := padLength_lt (errorValue errorNumber pszReason).length (by decide : 0 < 4)
  have hlen : (errorValue errorNumber pszReason).length = 4 + pszReason.chars.length := by
    simp [errorValue]
    omega
  unfold CString.strlen at h
  unfold MAX_STUN_ATTRIBUTE_SIZE
  omega

/-- `AddErrorCode` appends the error code. -/
theorem addErrorCode_written (errorNumber : UInt16) (pszReason : CString)
    (hreason : pszReason.strlen < 128) (h300 : ¬errorNumber < 300) (h600 : ¬errorNumber > 600) :
    Succeeds (Written cap fLegacy transid bs) (addErrorCode errorNumber pszReason)
      fun _ => Written cap fLegacy transid (bs ++ attributeOctets fLegacy STUN_ATTRIBUTE_ERRORCODE
        (errorValue errorNumber pszReason)) := by
  intro b hb
  have hlen : pszReason.strlen + 4 = (errorValue errorNumber pszReason).length := by
    simp [errorValue, CString.strlen]
  have hmax := errorValue_le errorNumber hreason
  unfold MAX_STUN_ATTRIBUTE_SIZE at hmax
  simp only [addErrorCode]
  rw [decide_eq_false (by omega), decide_eq_false h300, decide_eq_false h600,
    bind_of_ok (chkIf_false _ _), bind_of_ok (chkIf_false _ _), bind_of_ok (chkIf_false _ _),
    bind_get, hb.legacy_eq, hlen]
  -- In legacy mode the padding counts in the length.
  set n := (errorValue errorNumber pszReason).length with hn
  set sizeheader := if fLegacy then n + padLength 4 n else n with hdef
  have hheader : (UInt16.ofNat sizeheader).toNat = sizeheader := by
    rw [UInt16.toNat_ofNat', Nat.mod_eq_of_lt]
    rw [hdef]
    split_ifs <;> omega
  have hrun := ((addAttributeHeader_spec STUN_ATTRIBUTE_ERRORCODE (UInt16.ofNat sizeheader)).bind
    fun _ => (write_spec (toLE 2 (0 : UInt16).toNat) (by decide)).bind fun _ =>
    (write_spec [(errorNumber / 100).toUInt8] (by simp)).bind fun _ =>
    (write_spec [(errorNumber % 100).toUInt8] (by simp)).bind fun _ =>
    (writeUnlessEmpty_spec pszReason.chars).bind fun _ =>
      writeUnlessEmpty_spec (List.replicate (padLength 4 n) 0)) b hb
  rw [hheader] at hrun
  unfold attributeOctets
  rw [← hn, ← hdef]
  have hzero : toLE 2 (0 : UInt16).toNat = [0, 0] := by decide
  simpa only [writeUint16, writeUint8, errorValue, hzero, List.append_assoc, List.cons_append,
    List.nil_append] using hrun

/-- The value of an unknown attributes attribute: as many octets as the size says, and in legacy
mode the last attribute once more when their number is odd. -/
def unknownValue (fLegacy : Bool) (arr : List UInt16) : List UInt8 :=
  (arr.flatMap fun id => toLE 2 id.toNat).take (UInt16.ofNat (arr.length * 2)).toNat ++
    if fLegacy && arr.length % 2 != 0 then toLE 2 (arr.getLastD 0).toNat else []

/-- An array of words takes two octets for each. -/
theorem length_flatMap_toLE (arr : List UInt16) :
    (arr.flatMap fun id => toLE 2 id.toNat).length = arr.length * 2 := by
  simp [List.length_flatMap]

/-- The value of an unknown attributes attribute is as long as its size, and two octets longer after
an odd count in legacy mode. -/
theorem length_unknownValue (fLegacy : Bool) (arr : List UInt16) :
    (unknownValue fLegacy arr).length = (UInt16.ofNat (arr.length * 2)).toNat +
      if fLegacy && arr.length % 2 != 0 then 2 else 0 := by
  have hle : (UInt16.ofNat (arr.length * 2)).toNat ≤ arr.length * 2 := by
    rw [UInt16.toNat_ofNat']
    exact Nat.mod_le _ _
  unfold unknownValue
  rw [List.length_append, List.length_take, length_flatMap_toLE, min_eq_left hle]
  split_ifs <;> simp

/-- The value of an unknown attributes attribute is a multiple of four octets in legacy mode, and
where the number of attributes is even. -/
theorem length_unknownValue_mod (fLegacy : Bool) (arr : List UInt16) :
    (unknownValue fLegacy arr).length % 4 =
      if fLegacy || arr.length % 2 == 0 then 0 else 2 := by
  rw [length_unknownValue, UInt16.toNat_ofNat']
  cases fLegacy <;> rcases Nat.mod_two_eq_zero_or_one arr.length with h | h <;> simp [h] <;> omega

/-- `AddUnknownAttributes` appends the value with its header, and no padding. -/
theorem addUnknownAttributes_written {arr : List UInt16}
    (hsize : (UInt16.ofNat (arr.length * 2)).toNat ≠ 0) :
    Succeeds (Written cap fLegacy transid bs) (addUnknownAttributes arr)
      fun _ => Written cap fLegacy transid (bs ++ (toBE 2 STUN_ATTRIBUTE_UNKNOWNATTRIBUTES.toNat ++
        toBE 2 (unknownValue fLegacy arr).length ++ unknownValue fLegacy arr)) := by
  intro b hb
  rw [← toBE_toNat_ofNat (unknownValue fLegacy arr).length]
  have hne : arr.length ≠ 0 := fun h => hsize (by rw [h]; rfl)
  have hlength := length_unknownValue fLegacy arr
  set size := UInt16.ofNat (arr.length * 2) with hdef
  have htake : (arr.flatMap fun id => toLE 2 id.toNat).take size.toNat ≠ [] := by
    apply List.ne_nil_of_length_pos
    rw [List.length_take, length_flatMap_toLE]
    omega
  simp only [addUnknownAttributes]
  rw [decide_eq_false hne, bind_of_ok (chkIf_false _ _), bind_get, hb.legacy_eq, ← hdef]
  have hvalue : unknownValue fLegacy arr =
      (arr.flatMap fun id => toLE 2 id.toNat).take size.toNat ++
        if fLegacy && arr.length % 2 != 0 then toLE 2 (arr.getLastD 0).toNat else [] := rfl
  by_cases hpad : (fLegacy && arr.length % 2 != 0) = true
  · -- The size grows by a word, which is written after the array.
    rw [if_pos hpad] at hlength hvalue
    have hheader : size + 2 = UInt16.ofNat (unknownValue fLegacy arr).length := by
      rw [hlength, UInt16.ofNat_add, UInt16.ofNat_toNat]
      rfl
    have hrun :=
      ((addAttributeHeader_spec STUN_ATTRIBUTE_UNKNOWNATTRIBUTES (size + 2)).bind fun _ =>
      (write_spec _ htake).bind fun _ => (write_spec (toLE 2 (arr.getLastD 0).toNat)
        (List.ne_nil_of_length_pos (by simp))).ignore) b hb
    rw [← hheader, hvalue]
    simpa only [if_pos hpad, List.append_assoc] using hrun
  · rw [if_neg hpad] at hlength hvalue
    rw [List.append_nil] at hvalue
    have hheader : size = UInt16.ofNat (unknownValue fLegacy arr).length := by
      rw [hlength, Nat.add_zero, UInt16.ofNat_toNat]
    have hrun := ((addAttributeHeader_spec STUN_ATTRIBUTE_UNKNOWNATTRIBUTES size).bind fun _ =>
      write_spec _ htake) b hb
    rw [← hheader, hvalue]
    simpa only [if_neg hpad, bind_pure_unit, List.append_assoc] using hrun

/-- The value of an address attribute needs no padding. -/
theorem padLength_addressValue (addr : CSocketAddress) :
    padLength 4 (addressValue addr).length = 0 := by
  rw [length_addressValue]
  cases addr.ip.family <;> rfl

/-- The value of an address attribute is within the limit. -/
theorem addressValue_le (addr : CSocketAddress) :
    (addressValue addr).length + padLength 4 (addressValue addr).length ≤
      MAX_STUN_ATTRIBUTE_SIZE := by
  rw [padLength_addressValue, length_addressValue]
  cases addr.ip.family <;> decide

/-- `AddMappedAddressImpl` appends the address. -/
theorem addMappedAddressImpl_written (attribid : UInt16) (addr : CSocketAddress) :
    Succeeds (Written cap fLegacy transid bs) (addMappedAddressImpl attribid addr)
      fun _ => Written cap fLegacy transid
        (bs ++ attributeOctets false attribid (addressValue addr)) := by
  intro b hb
  have hfield : (if addr.ip.family = .inet then STUN_ATTRIBUTE_FIELD_IPV4
      else STUN_ATTRIBUTE_FIELD_IPV6) = addr.ip.family.field := by
    cases addr.ip.family <;> rfl
  have hsize : (if addr.ip.family.field = STUN_ATTRIBUTE_FIELD_IPV4 then
      STUN_ATTRIBUTE_MAPPEDADDRESS_SIZE_IPV4 else STUN_ATTRIBUTE_MAPPEDADDRESS_SIZE_IPV6).toNat =
      (addressValue addr).length := by
    rw [length_addressValue]
    cases addr.ip.family <;> rfl
  have hip : addr.getIP_NBO ≠ [] := by
    apply List.ne_nil_of_length_pos
    rw [CSocketAddress.getIP_NBO, addr.ip.length_octets]
    cases addr.ip.family <;> decide
  simp only [addMappedAddressImpl, hfield]
  -- The address fills its value, so there is no padding in either mode.
  set attributeSize := if addr.ip.family.field = STUN_ATTRIBUTE_FIELD_IPV4 then
    STUN_ATTRIBUTE_MAPPEDADDRESS_SIZE_IPV4 else STUN_ATTRIBUTE_MAPPEDADDRESS_SIZE_IPV6
  have hrun := ((addAttributeHeader_spec attribid attributeSize).bind fun _ =>
    (write_spec [0] (by simp)).bind fun _ =>
    (write_spec [addr.ip.family.field] (by simp)).bind fun _ =>
    (write_spec (toLE 2 addr.port_NBO.toNat)
      (List.ne_nil_of_length_pos (by simp))).bind fun _ =>
      write_spec _ hip) b hb
  unfold attributeOctets
  rw [padLength_addressValue]
  rw [hsize] at hrun
  simpa only [writeUint16, writeUint8, addressValue, CSocketAddress.getIP_NBO, Bool.false_eq_true,
    if_false, List.replicate_zero, List.append_nil, List.append_assoc, List.cons_append,
    List.nil_append] using hrun

/-- The value of a CHANGE-REQUEST. -/
def changeValue (change : StunChangeRequestAttribute) : List UInt8 :=
  let changeData : UInt32 := 0
  let changeData := if change.fChangeIP then changeData ||| 0x04 else changeData
  let changeData := if change.fChangePort then changeData ||| 0x02 else changeData
  toLE 4 (htonl changeData).toNat

/-- A CHANGE-REQUEST has four octets. -/
theorem length_changeValue (change : StunChangeRequestAttribute) :
    (changeValue change).length = 4 :=
  length_toLE _ _

/-- A CHANGE-REQUEST is within the limit. -/
theorem changeValue_le (change : StunChangeRequestAttribute) :
    (changeValue change).length + padLength 4 (changeValue change).length ≤
      MAX_STUN_ATTRIBUTE_SIZE := by
  rw [length_changeValue]
  decide

/-- The rounded size is a multiple of four. -/
theorem roundedSize_mod (paddingSize : UInt16) : (roundedSize paddingSize).toNat % 4 = 0 := by
  have hmod : (paddingSize % 4).toNat = paddingSize.toNat % 4 := UInt16.toNat_mod _ _
  have hzero : paddingSize % 4 = 0 ↔ paddingSize.toNat % 4 = 0 := by
    rw [← hmod, ← UInt16.toNat_inj]
    rfl
  unfold roundedSize
  split_ifs with h
  · rw [UInt16.toNat_sub, UInt16.toNat_add, hmod]
    have h4 : (4 : UInt16).toNat = 4 := rfl
    omega
  · exact hzero.mp (not_not.mp h)

/-- A block is not empty, and not more than what is left. -/
theorem blockSize_bounds {paddingSize : UInt16} (hpos : 0 < paddingSize.toNat) :
    0 < (blockSize paddingSize).toNat ∧ (blockSize paddingSize).toNat ≤ paddingSize.toNat := by
  unfold blockSize
  split_ifs with h
  · exact ⟨by decide, UInt16.le_iff_toNat_le.mp h⟩
  · exact ⟨hpos, le_rfl⟩

/-- The loop of `AddPaddingAttribute` appends zeros. -/
theorem addPaddingLoop_written (fuel : ℕ) (paddingSize : UInt16)
    (hfuel : paddingSize.toNat ≤ fuel) :
    Succeeds (Written cap fLegacy transid bs) (addPaddingLoop fuel paddingSize)
      fun _ => Written cap fLegacy transid (bs ++ List.replicate paddingSize.toNat 0) := by
  induction fuel generalizing bs paddingSize with
  | zero =>
    rw [Nat.le_zero.mp hfuel, List.replicate_zero, List.append_nil]
    exact Succeeds.pure fun b hb => hb
  | succ fuel ih =>
    unfold addPaddingLoop
    split_ifs with hpos
    · -- A block of zeros, and then the zeros of the remaining iterations.
      obtain ⟨h0, hle⟩ := blockSize_bounds (UInt16.lt_iff_toNat_lt.mp hpos)
      have hsub : (paddingSize - blockSize paddingSize).toNat =
          paddingSize.toNat - (blockSize paddingSize).toNat :=
        UInt16.toNat_sub_of_le _ _ (UInt16.le_iff_toNat_le.mpr hle)
      have hrest : List.replicate paddingSize.toNat (0 : UInt8) =
          List.replicate (blockSize paddingSize).toNat 0 ++
            List.replicate (paddingSize - blockSize paddingSize).toNat 0 := by
        rw [← List.replicate_add, hsub, Nat.add_sub_cancel' hle]
      rw [hrest, ← List.append_assoc]
      exact (write_spec (List.replicate (blockSize paddingSize).toNat 0)
        (List.ne_nil_of_length_pos (by rwa [List.length_replicate]))).bind fun _ =>
          ih _ (by omega)
    · have hzero : paddingSize.toNat = 0 :=
        Nat.eq_zero_of_not_pos fun h => hpos (UInt16.lt_iff_toNat_lt.mpr h)
      rw [hzero, List.replicate_zero, List.append_nil]
      exact Succeeds.pure fun b hb => hb

/-- `AddPaddingAttribute` appends a value of zeros. -/
theorem addPaddingAttribute_written (paddingSize : UInt16) :
    Succeeds (Written cap fLegacy transid bs) (addPaddingAttribute paddingSize)
      fun _ => Written cap fLegacy transid (bs ++ attributeOctets false STUN_ATTRIBUTE_PADDING
        (List.replicate (roundedSize paddingSize).toNat 0)) := by
  have hpad : padLength 4 (roundedSize paddingSize).toNat = 0 := by
    rw [padLength, if_pos (roundedSize_mod paddingSize)]
  have hrun := (@addAttributeHeader_spec cap fLegacy transid bs STUN_ATTRIBUTE_PADDING
    (roundedSize paddingSize)).bind fun _ =>
    addPaddingLoop_written (roundedSize paddingSize).toNat (roundedSize paddingSize) le_rfl
  unfold attributeOctets addPaddingAttribute
  rw [List.length_replicate, hpad]
  simpa only [Bool.false_eq_true, if_false, List.replicate_zero, List.append_nil,
    List.append_assoc] using hrun

/-- `FixLengthField` sets the length field to the length of the body. -/
theorem fixLengthField_written (h20 : STUN_HEADER_SIZE ≤ bs.length) :
    Succeeds (Written cap fLegacy transid bs) fixLengthField
      fun _ => Written cap fLegacy transid (withLength (bs.length - STUN_HEADER_SIZE) bs) := by
  intro b hb
  have hh := hb.holds
  have hwire : ∀ w : UInt16, writeUint16 (ntohs w) = write (toBE 2 w.toNat) := by
    intro w
    rw [writeUint16, ntohs, toLE_htons]
  have h2 : 2 ≤ bs.length := by
    unfold STUN_HEADER_SIZE at h20
    omega
  obtain ⟨s, hwrite, hs⟩ := (hh.withPos h2).write_ok
    (toBE 2 (UInt16.ofNat (bs.length - STUN_HEADER_SIZE)).toNat)
    (List.ne_nil_of_length_pos (by simp))
  have hlen := length_withLength (bs.length - STUN_HEADER_SIZE) h20
  -- The cursor goes to the length field, and back to the end.
  have hend := hs.seekDirect_ok hlen.ge
  have hseek : onStream (seekDirect 2) b = .ok () { b with stream := { b.stream with pos := 2 } } :=
    zoom_of_ok (hh.seekDirect_ok h2)
  have hwrite' : onStream (writeUint16 (ntohs (UInt16.ofNat (bs.length - STUN_HEADER_SIZE))))
      { b with stream := { b.stream with pos := 2 } } = .ok () { b with stream := s } :=
    zoom_of_ok (by rw [hwire]; exact hwrite)
  have hend' : onStream (seekDirect bs.length) { b with stream := s } =
      .ok () { b with stream := { s with pos := bs.length } } := zoom_of_ok hend
  refine ⟨(), { b with stream := { s with pos := bs.length } }, ?_, ?_, hb.transid_eq,
    hb.legacy_eq⟩
  · rw [fixLengthField, bind_get]
    simp only [hh.size_eq, getPos, hh.pos_eq]
    rw [decide_eq_false (by omega), bind_of_ok (chkIf_false _ _), bind_of_ok hseek,
      bind_of_ok hwrite', hend']
  · rw [hlen]
    exact hs.withPos hlen.ge

/-- `AddMessageIntegrityImpl` appends the message integrity of what was written, with the length
field that counts it. -/
theorem addMessageIntegrityImpl_written (D : Digests) {key : List UInt8} (hkey : key.length ≠ 0)
    (h20 : STUN_HEADER_SIZE ≤ bs.length) {m : List UInt8}
    (hm : m = withLength (bs.length - STUN_HEADER_SIZE + 24) bs) :
    Succeeds (Written cap fLegacy transid bs) (addMessageIntegrityImpl D key)
      fun _ => Written cap fLegacy transid
        (m ++ attributeOctets false STUN_ATTRIBUTE_MESSAGEINTEGRITY (D.hmacSha1 key m)) := by
  intro b hb
  have hzeros : (List.replicate 20 (0 : UInt8)).length = 20 := List.length_replicate
  have hhash := D.length_hmacSha1 key m
  have hmlen : m.length = bs.length := hm ▸ length_withLength _ h20
  set header := toBE 2 STUN_ATTRIBUTE_MESSAGEINTEGRITY.toNat ++ toBE 2 20 with hheader
  have hheader4 : header.length = 4 := by simp [hheader]
  have hoctets : ∀ (fLegacy : Bool) (v : List UInt8), v.length = 20 →
      attributeOctets fLegacy STUN_ATTRIBUTE_MESSAGEINTEGRITY v = header ++ v := by
    intro fLegacy v hv
    unfold attributeOctets
    rw [hv, hheader]
    cases fLegacy <;> simp [padLength]
  obtain ⟨_, b₁, hadd, h₁⟩ :=
    addAttribute_written_all STUN_ATTRIBUTE_MESSAGEINTEGRITY (List.replicate 20 0) (by decide) b hb
  have hadd' : addAttribute STUN_ATTRIBUTE_MESSAGEINTEGRITY (some (List.replicate 20 0)) 20 b =
    .ok () b₁ := hadd
  rw [hoctets _ _ hzeros] at h₁
  have hlen : (bs ++ (header ++ List.replicate 20 (0 : UInt8))).length = m.length + 24 := by
    simp only [List.length_append, hheader4, hzeros, hmlen]
  obtain ⟨_, b₂, hfix, h₂⟩ := fixLengthField_written (by omega) b₁ h₁
  -- The octets are those to be hashed, the header of the attribute, and the zeros.
  have hfixed : withLength ((bs ++ (header ++ List.replicate 20 0)).length - STUN_HEADER_SIZE)
      (bs ++ (header ++ List.replicate 20 0)) = m ++ (header ++ List.replicate 20 0) := by
    rw [withLength_append _ h20, hlen, hmlen, hm, Nat.sub_add_comm h20]
  have hh := h₂.holds
  rw [hfixed] at hh
  have hlen' : (m ++ (header ++ List.replicate 20 (0 : UInt8))).length = m.length + 24 := by
    simp only [List.length_append, hheader4, hzeros]
  have hpos : m.length + 24 - 24 + 4 = (m ++ header).length := by
    rw [List.length_append]
    omega
  have hpoke := hh.poke (m.length + 24 - 24 + 4) (D.hmacSha1 key m)
    (List.ne_nil_of_length_pos (by omega)) (by omega)
  have hbody : (b₂.stream.getDataPointerUnsafe.getD []).take (m.length + 24 - 24) = m := by
    rw [hh.take_data_of_le (by omega), Nat.add_sub_cancel, List.take_left]
  -- The hash is copied over the zeros.
  have hover := overwrite_append (m ++ header) (List.replicate 20 (0 : UInt8)) []
    (D.hmacSha1 key m) (by omega)
  have hfinal : overwrite (m ++ (header ++ List.replicate 20 0)) (m.length + 24 - 24 + 4)
      (D.hmacSha1 key m) = m ++ (header ++ D.hmacSha1 key m) := by
    rw [hpos]
    simpa only [List.append_nil, List.append_assoc] using hover
  rw [hoctets _ _ hhash]
  refine ⟨(), { b₂ with stream := { b₂.stream with
      spBuffer := b₂.stream.spBuffer.map fun x =>
        { x with data := overwrite x.data (m.length + 24 - 24 + 4) (D.hmacSha1 key m) } } },
    ?_, ?_, h₂.transid_eq, h₂.legacy_eq⟩
  · rw [addMessageIntegrityImpl, decide_eq_false hkey, bind_of_ok (chkIf_false _ _),
      bind_of_ok hadd', bind_of_ok hfix, hashInPlace, bind_get, bind_get]
    simp only [hh.size_eq, hlen', hbody]
    rfl
  · have hsame : (m ++ (header ++ D.hmacSha1 key m)).length = m.length + 24 := by
      simp only [List.length_append, hheader4, hhash]
    rw [hfinal, hlen'] at hpoke
    rw [hsame]
    exact hpoke

/-- `AddFingerprintAttribute` appends the fingerprint of what was written, with the length field
that counts it. -/
theorem addFingerprintAttribute_written (D : Digests) (h20 : STUN_HEADER_SIZE ≤ bs.length)
    {m : List UInt8} (hm : m = withLength (bs.length - STUN_HEADER_SIZE + 8) bs) :
    Succeeds (Written cap fLegacy transid bs) (addFingerprintAttribute D)
      fun _ => Written cap fLegacy transid (m ++ attributeOctets false STUN_ATTRIBUTE_FINGERPRINT
        (toBE 4 (D.crc32 m ^^^ STUN_FINGERPRINT_XOR).toNat)) := by
  intro b hb
  have hzeros : (List.replicate 4 (0 : UInt8)).length = 4 := List.length_replicate
  have hmlen : m.length = bs.length := hm ▸ length_withLength _ h20
  -- The attribute is first written with a value of zero.
  set header := toBE 2 STUN_ATTRIBUTE_FINGERPRINT.toNat ++ toBE 2 4 with hheader
  have hheader4 : header.length = 4 := by simp [hheader]
  obtain ⟨_, b₁, hw₁, h₁⟩ := writeUint16_spec STUN_ATTRIBUTE_FINGERPRINT b hb
  obtain ⟨_, b₂, hw₂, h₂⟩ := writeUint16_spec 4 b₁ h₁
  obtain ⟨_, b₃, hw₃, h₃⟩ := write_spec (List.replicate 4 0) (by decide) b₂ h₂
  have h₃' : Written cap fLegacy transid (bs ++ (header ++ List.replicate 4 0)) b₃ := by
    simpa [hheader] using h₃
  have hlen : (bs ++ (header ++ List.replicate 4 (0 : UInt8))).length = m.length + 8 := by
    simp only [List.length_append, hheader4, hzeros, hmlen]
  obtain ⟨_, b₄, hfix, h₄⟩ := fixLengthField_written (by omega) b₃ h₃'
  have hfixed : withLength ((bs ++ (header ++ List.replicate 4 0)).length - STUN_HEADER_SIZE)
      (bs ++ (header ++ List.replicate 4 0)) = m ++ (header ++ List.replicate 4 0) := by
    rw [withLength_append _ h20, hlen, hmlen, hm, Nat.sub_add_comm h20]
  have hh := h₄.holds
  rw [hfixed] at hh
  have hlen' : (m ++ (header ++ List.replicate 4 (0 : UInt8))).length = m.length + 8 := by
    simp only [List.length_append, hheader4, hzeros]
  have hpos : (m ++ (header ++ List.replicate 4 (0 : UInt8))).length - 4 =
      (m ++ header).length := by
    rw [hlen', List.length_append]
    omega
  have hbody : (b₄.stream.getDataPointerUnsafe.getD []).take (m.length + 8 - 8) = m := by
    rw [hh.take_data_of_le (by omega), Nat.add_sub_cancel, List.take_left]
  -- The checksum is then written over the zeros.
  set value := D.crc32 m ^^^ STUN_FINGERPRINT_XOR with hvalue
  have hseek : onStream (seekRelative (-4)) b₄ =
      .ok () { b₄ with stream := { b₄.stream with pos := (m ++ header).length } } := by
    rw [← hpos]
    exact zoom_of_ok ((hh.seekRelative_neg (n := 4) (by omega)).trans (hh.seekDirect_ok (by omega)))
  obtain ⟨s, hwrite, hs⟩ := (hh.withPos (q := (m ++ header).length) (by omega)).write_ok
    (toBE 4 value.toNat) (List.ne_nil_of_length_pos (by simp))
  have hlast : onStream (writeUint32 (htonl value))
      { b₄ with stream := { b₄.stream with pos := (m ++ header).length } } =
      .ok () { b₄ with stream := s } := zoom_of_ok (by rw [writeUint32, toLE_htonl]; exact hwrite)
  have hoctets : attributeOctets false STUN_ATTRIBUTE_FINGERPRINT (toBE 4 value.toNat) =
      header ++ toBE 4 value.toNat := by
    unfold attributeOctets
    simp [hheader, padLength]
  have hover := overwrite_append (m ++ header) (List.replicate 4 (0 : UInt8)) []
    (toBE 4 value.toNat) (by rw [length_toBE, hzeros])
  rw [hoctets]
  refine ⟨(), { b₄ with stream := s }, ?_, ?_, h₄.transid_eq, h₄.legacy_eq⟩
  · rw [addFingerprintAttribute, bind_of_ok hw₁, bind_of_ok hw₂,
      bind_of_ok (show onStream (writeUint32 0) b₂ = .ok () b₃ from hw₃), bind_of_ok hfix, bind_get,
      bind_get]
    simp only [hh.size_eq, hlen', hbody, ← hvalue]
    rw [bind_of_ok hseek, hlast]
  · rw [List.append_nil, List.append_nil, List.append_assoc m header (List.replicate 4 0)] at hover
    rw [hover, ← List.length_append, List.append_assoc] at hs
    exact hs

/-- `GetResult` returns the buffer with what was written, whose length field is set. -/
theorem getResult_written (h20 : STUN_HEADER_SIZE ≤ bs.length) :
    Succeeds (Written cap fLegacy transid bs) getResult fun result b =>
      Written cap fLegacy transid (withLength (bs.length - STUN_HEADER_SIZE) bs) b ∧
        result = b.stream.spBuffer ∧ ∃ spBuffer, result = some spBuffer ∧
          spBuffer.contents = withLength (bs.length - STUN_HEADER_SIZE) bs := by
  intro b hb
  obtain ⟨_, b', hfix, hb'⟩ := fixLengthField_written h20 b hb
  have hne : withLength (bs.length - STUN_HEADER_SIZE) bs ≠ [] := by
    apply List.ne_nil_of_length_pos
    rw [length_withLength _ h20]
    unfold STUN_HEADER_SIZE at h20
    omega
  obtain ⟨spBuffer, hbuf, htake, -⟩ := hb'.holds.exists_buffer hne
  refine ⟨b'.stream.getBuffer, b', ?_, hb', rfl, spBuffer, hbuf, htake⟩
  rw [getResult, bind_of_ok hfix]
  rfl

end Steps

/-! ## The operations -/

section Operations

variable {cap : ℕ} {fLegacy : Bool} {d : Draft}

/-- `AddHeader` and `AddTransactionId` on a builder whose stream is empty. The stream stays in an
attached buffer that has room for the size hint. -/
theorem addHeader_addTransactionId_spec (hcap : 0 < cap → 200 ≤ cap) (msgType : UInt16)
    (msgClass : StunMessageClass) (transid : StunTransactionId) {b : CStunMessageBuilder}
    (hb : Holds cap [] 0 b.stream) (hlegacy : b.fLegacyMode = fLegacy) :
    ∃ b₁ b₂, addHeader msgType msgClass b = .ok () b₁ ∧ addTransactionId transid b₁ = .ok () b₂ ∧
      Building cap fLegacy ⟨msgTypeField msgType msgClass, 0, transid, []⟩ b₂ := by
  obtain ⟨s₀, hhint, hs₀, -⟩ := hb.grow_ok 200 fun h0 _ => hcap h0
  have h₀ : Written cap fLegacy b.transactionid [] { b with stream := s₀ } := ⟨hs₀, rfl, hlegacy⟩
  obtain ⟨_, b₁, hw₁, h₁⟩ := writeUint16_spec (msgTypeField msgType msgClass) _ h₀
  obtain ⟨_, b₂, hw₂, h₂⟩ := writeUint16_spec 0 _ h₁
  have hid : transid.id ≠ [] := by
    apply List.ne_nil_of_length_pos
    rw [transid.length_id]
    decide
  have h₂' : Written cap fLegacy transid
      ([] ++ toBE 2 (msgTypeField msgType msgClass).toNat ++ toBE 2 0)
      { b₂ with transactionid := transid } := ⟨h₂.holds, rfl, h₂.legacy_eq⟩
  obtain ⟨_, b₃, hw₃, h₃⟩ := write_spec _ hid _ h₂'
  have hzero : htons 0 = 0 := by decide
  rw [hzero] at hw₂
  have hhint' : onStream (setSizeHint 200) b = .ok () { b with stream := s₀ } := zoom_of_ok hhint
  refine ⟨b₂, b₃, ?_, hw₃, by simpa [Building, Draft.octets] using h₃⟩
  rw [addHeader, bind_of_ok hhint', bind_of_ok hw₁]
  exact hw₂

/-- The header and the transaction id start a draft. -/
theorem header_spec (hcap : 200 ≤ cap) (msgType : UInt16) (msgClass : StunMessageClass)
    (transid : StunTransactionId) {α : Type} {rest : Fallible CStunMessageBuilder α}
    {Q : α → CStunMessageBuilder → Prop}
    (hrest : Succeeds (Building cap fLegacy ⟨msgTypeField msgType msgClass, 0, transid, []⟩)
      rest Q) :
    Succeeds (Attached cap fLegacy)
      (do ignore (addHeader msgType msgClass); ignore (addTransactionId transid); rest) Q := by
  intro b hb
  obtain ⟨b₁, b₂, hheader, htransid, h₂⟩ := addHeader_addTransactionId_spec (fun _ => hcap) msgType
    msgClass transid hb.holds hb.legacy_eq
  have h₁ : ignore (addHeader msgType msgClass) b = .ok () b₁ := by
    unfold ignore
    rw [finalState_of_ok hheader]
  have h₁' : ignore (addTransactionId transid) b₁ = .ok () b₂ := by
    unfold ignore
    rw [finalState_of_ok htransid]
  rw [bind_of_ok h₁, bind_of_ok h₁']
  exact hrest b₂ h₂

/-- `AddAttribute` appends the attribute. -/
theorem addAttribute_spec (attribType : UInt16) (v : List UInt8)
    (hv : v.length + padLength 4 v.length ≤ MAX_STUN_ATTRIBUTE_SIZE) :
    Succeeds (Building cap fLegacy d)
      (addAttribute attribType (some v) (UInt16.ofNat v.length))
      fun _ => Building cap fLegacy (d.add (ofValue fLegacy attribType v hv)) := by
  have hlt : v.length < 65536 := by
    unfold MAX_STUN_ATTRIBUTE_SIZE at hv
    omega
  rw [building_add, encode_ofValue]
  exact addAttribute_written_all attribType v hlt

/-- `AddStringAttribute` appends the characters of a string that is not empty. -/
theorem addStringAttribute_spec (attribType : UInt16) (pstr : CString) (hne : pstr.strlen ≠ 0)
    (hv : pstr.chars.length + padLength 4 pstr.chars.length ≤ MAX_STUN_ATTRIBUTE_SIZE) :
    Succeeds (Building cap fLegacy d) (addStringAttribute attribType pstr)
      fun _ => Building cap fLegacy (d.add (ofValue fLegacy attribType pstr.chars hv)) := by
  intro b hb
  rw [addStringAttribute, decide_eq_false hne, bind_of_ok (chkIf_false _ _)]
  exact addAttribute_spec attribType pstr.chars hv b hb

/-- `AddErrorCode` appends the error code. -/
theorem addErrorCode_spec (errorNumber : UInt16) (pszReason : CString)
    (hreason : pszReason.strlen < 128) (h300 : ¬errorNumber < 300) (h600 : ¬errorNumber > 600) :
    Succeeds (Building cap fLegacy d) (addErrorCode errorNumber pszReason)
      fun _ => Building cap fLegacy (d.add (ofValue fLegacy STUN_ATTRIBUTE_ERRORCODE
        (errorValue errorNumber pszReason) (errorValue_le errorNumber hreason))) := by
  rw [building_add, encode_ofValue]
  exact addErrorCode_written errorNumber pszReason hreason h300 h600

/-- The attribute of an address is the same in both modes. -/
def addressAttribute (attribid : UInt16) (addr : CSocketAddress) : WireAttribute :=
  ofValue false attribid (addressValue addr) (addressValue_le addr)

/-- `AddMappedAddressImpl` appends the address. -/
theorem addMappedAddressImpl_spec (attribid : UInt16) (addr : CSocketAddress) :
    Succeeds (Building cap fLegacy d) (addMappedAddressImpl attribid addr)
      fun _ => Building cap fLegacy (d.add (addressAttribute attribid addr)) := by
  rw [building_add, addressAttribute, encode_ofValue]
  exact addMappedAddressImpl_written attribid addr

/-- The body of a draft is as long as its attributes on the wire. -/
theorem length_octets_sub (d : Draft) :
    d.octets.length - STUN_HEADER_SIZE = (Tlv.encodeAll d.attributes).length := by
  rw [d.length_octets, Nat.add_sub_cancel_left]

/-- A draft with its length field set is written. -/
theorem building_fixed (cap : ℕ) (fLegacy : Bool) (d : Draft) : Building cap fLegacy d.fixed =
    Written cap fLegacy d.transid (withLength (d.octets.length - STUN_HEADER_SIZE) d.octets) := by
  rw [Building, length_octets_sub]
  exact congrArg (Written cap fLegacy d.transid) (d.octets_reserve 0)

/-- `FixLengthField` sets the length field to the length of the body. -/
theorem fixLengthField_spec :
    Succeeds (Building cap fLegacy d) fixLengthField fun _ => Building cap fLegacy d.fixed := by
  rw [building_fixed]
  exact fixLengthField_written d.header_le

/-- `AddMessageIntegrityImpl` appends the message integrity of what was written, with the length
field that counts it. -/
theorem addMessageIntegrityImpl_spec (D : Digests) {key : List UInt8} (hkey : key.length ≠ 0) :
    Succeeds (Building cap fLegacy d) (addMessageIntegrityImpl D key)
      fun _ => Building cap fLegacy (d.signed D key) := by
  have hm : (d.reserve 24).octets =
      withLength (d.octets.length - STUN_HEADER_SIZE + 24) d.octets := by
    rw [length_octets_sub, d.octets_reserve]
  rw [Draft.signed, building_add, encode_integrityAttribute]
  exact addMessageIntegrityImpl_written D hkey d.header_le hm

/-- `AddMessageIntegrityShortTerm` signs the draft with the password. -/
theorem addMessageIntegrityShortTerm_spec (D : Digests) {pszPassword : CString}
    (hne : pszPassword.strlen ≠ 0) :
    Succeeds (Building cap fLegacy d) (addMessageIntegrityShortTerm D pszPassword)
      fun _ => Building cap fLegacy (d.signed D pszPassword.chars) :=
  addMessageIntegrityImpl_spec D hne

/-- `AddMessageIntegrityLongTerm` signs the draft with the digest of user name, realm and password.
-/
theorem addMessageIntegrityLongTerm_spec (D : Digests) {pszUserName pszRealm pszPassword : CString}
    (huser : pszUserName.strlen ≤ MAX_STUN_AUTH_STRING_SIZE)
    (hrealm : pszRealm.strlen ≤ MAX_STUN_AUTH_STRING_SIZE)
    (hpassword : pszPassword.strlen ≤ MAX_STUN_AUTH_STRING_SIZE) :
    Succeeds (Building cap fLegacy d)
      (addMessageIntegrityLongTerm D pszUserName pszRealm pszPassword)
      fun _ => Building cap fLegacy (d.signed D (D.md5
        (pszUserName.chars ++ 0x3a :: (pszRealm.chars ++ 0x3a :: pszPassword.chars)))) := by
  intro b hb
  simp only [addMessageIntegrityLongTerm]
  rw [decide_eq_false (by omega), bind_of_ok (chkIf_false _ _)]
  exact addMessageIntegrityImpl_spec D (by rw [D.length_md5]; decide) b hb

/-- `AddFingerprintAttribute` appends the fingerprint of what was written, with the length field
that counts it. -/
theorem addFingerprintAttribute_spec (D : Digests) :
    Succeeds (Building cap fLegacy d) (addFingerprintAttribute D)
      fun _ => Building cap fLegacy (d.fingerprinted D) := by
  have hm : (d.reserve 8).octets =
      withLength (d.octets.length - STUN_HEADER_SIZE + 8) d.octets := by
    rw [length_octets_sub, d.octets_reserve]
  rw [Draft.fingerprinted, building_add, encode_fingerprintAttribute]
  exact addFingerprintAttribute_written D d.header_le hm

/-- `GetResult` returns the buffer with the draft, whose length field is set. -/
theorem getResult_spec :
    Succeeds (Building cap fLegacy d) getResult fun result b =>
      Building cap fLegacy d.fixed b ∧ result = b.stream.spBuffer ∧
        ∃ spBuffer, result = some spBuffer ∧ spBuffer.contents = d.fixed.octets := by
  have hfixed : d.fixed.octets = withLength (d.octets.length - STUN_HEADER_SIZE) d.octets := by
    rw [length_octets_sub]
    exact d.octets_reserve 0
  rw [building_fixed, hfixed]
  exact getResult_written d.header_le

end Operations

end CStunMessageBuilder

end Stun
