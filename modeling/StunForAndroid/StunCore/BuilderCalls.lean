import Mathlib.Algebra.Order.BigOperators.Group.List
import StunForAndroid.StunCore.RoundTrip

/-!
# Sequences of calls of the builder

An `AddCall` is a public call that adds an attribute. `run_written` says what each of them writes: a
header with the type and the length of its value, the value, and padding. This is an attribute of
the grammar unless the call is `AddUnknownAttributes` with an odd number of attributes outside
legacy mode, which does not pad (`Aligned`). A reader finds one attribute for each call exactly when
every call is aligned (`addCalls_readable_iff`).
-/

namespace Stun

open Octets Fallible CDataStream CStunMessageBuilder CStunMessageReader

/-! ## The calls -/

/-- A public call that adds an attribute, with its arguments. -/
inductive AddCall where
  /-- `AddAttribute` with an array of `size` octets, which is a word. -/
  | rawAttribute (attribType : UInt16) (data : List UInt8) (hsize : data.length < 65536)
  /-- `AddStringAttribute`. -/
  | stringAttribute (attribType : UInt16) (pstr : CString)
  /-- `AddErrorCode`. -/
  | errorCode (errorNumber : UInt16) (pszReason : CString)
  /-- `AddUnknownAttributes`. -/
  | unknownAttributes (arr : List UInt16)
  /-- `AddXorMappedAddress`. -/
  | xorMappedAddress (addr : CSocketAddress)
  /-- `AddMappedAddress`. -/
  | mappedAddress (addr : CSocketAddress)
  /-- `AddResponseOriginAddress`. -/
  | responseOriginAddress (addr : CSocketAddress)
  /-- `AddOtherAddress`. -/
  | otherAddress (addr : CSocketAddress)
  /-- `AddResponsePort`. -/
  | responsePort (port : UInt16)
  /-- `AddPaddingAttribute`. -/
  | paddingAttribute (paddingSize : UInt16)
  /-- `AddChangeRequest`. -/
  | changeRequest (changeAttrib : StunChangeRequestAttribute)
  /-- `AddMessageIntegrityShortTerm`. -/
  | messageIntegrityShortTerm (pszPassword : CString)
  /-- `AddMessageIntegrityLongTerm`. -/
  | messageIntegrityLongTerm (pszUserName pszRealm pszPassword : CString)
  /-- `AddFingerprintAttribute`. -/
  | fingerprintAttribute
  /-- `AddUserName`. -/
  | userName (pszUserName : CString)
  /-- `AddNonce`. -/
  | nonce (pszNonce : CString)
  /-- `AddRealm`. -/
  | realm (pszRealm : CString)

namespace AddCall

/-- What a call does to the builder. -/
def run (D : Digests) : AddCall → Fallible CStunMessageBuilder Unit
  | rawAttribute attribType data _ =>
    addAttribute attribType (some data) (UInt16.ofNat data.length)
  | stringAttribute attribType pstr => addStringAttribute attribType pstr
  | errorCode errorNumber pszReason => addErrorCode errorNumber pszReason
  | unknownAttributes arr => addUnknownAttributes arr
  | xorMappedAddress addr => addXorMappedAddress addr
  | mappedAddress addr => addMappedAddress addr
  | responseOriginAddress addr => addResponseOriginAddress addr
  | otherAddress addr => addOtherAddress addr
  | responsePort port => addResponsePort port
  | paddingAttribute paddingSize => addPaddingAttribute paddingSize
  | changeRequest changeAttrib => addChangeRequest changeAttrib
  | messageIntegrityShortTerm pszPassword => addMessageIntegrityShortTerm D pszPassword
  | messageIntegrityLongTerm pszUserName pszRealm pszPassword =>
    addMessageIntegrityLongTerm D pszUserName pszRealm pszPassword
  | fingerprintAttribute => addFingerprintAttribute D
  | userName pszUserName => addUserName pszUserName
  | nonce pszNonce => addNonce pszNonce
  | realm pszRealm => addRealm pszRealm

/-- The calls of a list, up to the first that fails. -/
def runAll (D : Digests) (calls : List AddCall) : Fallible CStunMessageBuilder Unit :=
  calls.forM (run D)

/-- What a call checks of its arguments. -/
def Valid : AddCall → Prop
  | stringAttribute _ pstr => pstr.strlen ≠ 0
  | errorCode errorNumber pszReason =>
    pszReason.strlen < 128 ∧ ¬errorNumber < 300 ∧ ¬errorNumber > 600
  | unknownAttributes arr => (UInt16.ofNat (arr.length * 2)).toNat ≠ 0
  | messageIntegrityShortTerm pszPassword => pszPassword.strlen ≠ 0
  | messageIntegrityLongTerm pszUserName pszRealm pszPassword =>
    ¬pszUserName.strlen + pszRealm.strlen + pszPassword.strlen + 2 >
      MAX_STUN_AUTH_STRING_SIZE * 3 + 2
  | userName pszUserName => pszUserName.strlen ≠ 0
  | nonce pszNonce => pszNonce.strlen ≠ 0
  | realm pszRealm => pszRealm.strlen ≠ 0
  | _ => True

/-! ## What a call writes -/

/-- The type of the attribute of a call. -/
def type (fLegacy : Bool) : AddCall → UInt16
  | rawAttribute attribType _ _ => attribType
  | stringAttribute attribType _ => attribType
  | errorCode _ _ => STUN_ATTRIBUTE_ERRORCODE
  | unknownAttributes _ => STUN_ATTRIBUTE_UNKNOWNATTRIBUTES
  | xorMappedAddress _ =>
    if fLegacy then STUN_ATTRIBUTE_XORMAPPEDADDRESS_OPTIONAL else STUN_ATTRIBUTE_XORMAPPEDADDRESS
  | mappedAddress _ => STUN_ATTRIBUTE_MAPPEDADDRESS
  | responseOriginAddress _ =>
    if fLegacy then STUN_ATTRIBUTE_SOURCEADDRESS else STUN_ATTRIBUTE_RESPONSE_ORIGIN
  | otherAddress _ =>
    if fLegacy then STUN_ATTRIBUTE_CHANGEDADDRESS else STUN_ATTRIBUTE_OTHER_ADDRESS
  | responsePort _ => STUN_ATTRIBUTE_RESPONSE_PORT
  | paddingAttribute _ => STUN_ATTRIBUTE_PADDING
  | changeRequest _ => STUN_ATTRIBUTE_CHANGEREQUEST
  | messageIntegrityShortTerm _ => STUN_ATTRIBUTE_MESSAGEINTEGRITY
  | messageIntegrityLongTerm _ _ _ => STUN_ATTRIBUTE_MESSAGEINTEGRITY
  | fingerprintAttribute => STUN_ATTRIBUTE_FINGERPRINT
  | userName _ => STUN_ATTRIBUTE_USERNAME
  | nonce _ => STUN_ATTRIBUTE_NONCE
  | realm _ => STUN_ATTRIBUTE_REALM

/-- As many characters of a string as a size that is a word says. -/
def stringValue (pstr : CString) : List UInt8 :=
  pstr.chars.take (UInt16.ofNat pstr.strlen).toNat

/-- The value that a call writes, without padding. A digest is one of the octets `m`. -/
def value (D : Digests) (fLegacy : Bool) (transid : StunTransactionId) (m : List UInt8) :
    AddCall → List UInt8
  | rawAttribute _ data _ => data
  | stringAttribute _ pstr => stringValue pstr
  | errorCode errorNumber pszReason => errorValue errorNumber pszReason
  | unknownAttributes arr => unknownValue fLegacy arr
  | xorMappedAddress addr => addressValue (addr.applyStunXorMap transid)
  | mappedAddress addr => addressValue addr
  | responseOriginAddress addr => addressValue addr
  | otherAddress addr => addressValue addr
  | responsePort port => toBE 2 port.toNat
  | paddingAttribute paddingSize => List.replicate (roundedSize paddingSize).toNat 0
  | changeRequest changeAttrib => changeValue changeAttrib
  | messageIntegrityShortTerm pszPassword => D.hmacSha1 pszPassword.chars m
  | messageIntegrityLongTerm pszUserName pszRealm pszPassword => D.hmacSha1
      (D.md5 (pszUserName.chars ++ 0x3a :: (pszRealm.chars ++ 0x3a :: pszPassword.chars))) m
  | fingerprintAttribute => toBE 4 (D.crc32 m ^^^ STUN_FINGERPRINT_XOR).toNat
  | userName pszUserName => stringValue pszUserName
  | nonce pszNonce => stringValue pszNonce
  | realm pszRealm => stringValue pszRealm

/-- Whether the length that a call writes counts the padding: what goes through `AddAttribute`, and
`AddErrorCode`, in legacy mode. The values of the other calls need no padding, or do not get it. -/
def countsPadding (fLegacy : Bool) : AddCall → Bool
  | unknownAttributes _ => false
  | xorMappedAddress _ => false
  | mappedAddress _ => false
  | responseOriginAddress _ => false
  | otherAddress _ => false
  | paddingAttribute _ => false
  | messageIntegrityShortTerm _ => false
  | messageIntegrityLongTerm _ _ _ => false
  | fingerprintAttribute => false
  | _ => fLegacy

/-- Whether what a call writes ends on a 4-octet boundary. -/
def aligned (fLegacy : Bool) : AddCall → Bool
  | unknownAttributes arr => fLegacy || arr.length % 2 == 0
  | _ => true

/-- The octets that a call reserves in the length field before it computes a digest. -/
def patch (bs : List UInt8) : AddCall → List UInt8
  | messageIntegrityShortTerm _ => withLength (bs.length - STUN_HEADER_SIZE + 24) bs
  | messageIntegrityLongTerm _ _ _ => withLength (bs.length - STUN_HEADER_SIZE + 24) bs
  | fingerprintAttribute => withLength (bs.length - STUN_HEADER_SIZE + 8) bs
  | _ => bs

/-- The octets that a call appends to the octets `m`. -/
def octets (D : Digests) (fLegacy : Bool) (transid : StunTransactionId) (m : List UInt8)
    (c : AddCall) : List UInt8 :=
  if c.aligned fLegacy then
    attributeOctets (c.countsPadding fLegacy) (c.type fLegacy) (c.value D fLegacy transid m)
  else toBE 2 (c.type fLegacy).toNat ++ toBE 2 (c.value D fLegacy transid m).length ++
    c.value D fLegacy transid m

/-! ## Each call writes its octets -/

section Written

variable {cap : ℕ} {fLegacy : Bool} {transid : StunTransactionId} {bs : List UInt8}

/-- `AddStringAttribute` appends the characters that the size counts. -/
theorem addStringAttribute_written (attribType : UInt16) {pstr : CString} (hne : pstr.strlen ≠ 0) :
    Succeeds (Written cap fLegacy transid bs) (addStringAttribute attribType pstr)
      fun _ => Written cap fLegacy transid
        (bs ++ attributeOctets fLegacy attribType (stringValue pstr)) := by
  intro b hb
  have hsize : (UInt16.ofNat pstr.strlen).toNat ≤ pstr.chars.length := by
    rw [UInt16.toNat_ofNat']
    exact Nat.mod_le _ _
  rw [addStringAttribute, decide_eq_false hne, bind_of_ok (chkIf_false _ _)]
  exact addAttribute_written attribType (UInt16.ofNat pstr.strlen) hsize b hb

/-- `AddResponsePort` appends the port in network byte order. -/
theorem addResponsePort_written (port : UInt16) :
    Succeeds (Written cap fLegacy transid bs) (addResponsePort port)
      fun _ => Written cap fLegacy transid
        (bs ++ attributeOctets fLegacy STUN_ATTRIBUTE_RESPONSE_PORT (toBE 2 port.toNat)) := by
  have hsize : UInt16.ofNat (toBE 2 port.toNat).length = 2 := by
    rw [length_toBE]
    rfl
  have h := @addAttribute_written_all cap fLegacy transid bs STUN_ATTRIBUTE_RESPONSE_PORT
    (toBE 2 port.toNat) (by rw [length_toBE]; decide)
  rw [hsize] at h
  simpa only [addResponsePort, toLE_htons] using h

/-- `AddChangeRequest` appends the flags. -/
theorem addChangeRequest_written (changeAttrib : StunChangeRequestAttribute) :
    Succeeds (Written cap fLegacy transid bs) (addChangeRequest changeAttrib)
      fun _ => Written cap fLegacy transid
        (bs ++ attributeOctets fLegacy STUN_ATTRIBUTE_CHANGEREQUEST
          (changeValue changeAttrib)) := by
  have hsize : UInt16.ofNat (changeValue changeAttrib).length = 4 := by
    rw [length_changeValue]
    rfl
  have h := @addAttribute_written_all cap fLegacy transid bs STUN_ATTRIBUTE_CHANGEREQUEST
    (changeValue changeAttrib) (by rw [length_changeValue]; decide)
  rwa [hsize] at h

/-- An address call appends its address. -/
theorem addAddress_written (attribid : Bool → UInt16) (addr : StunTransactionId → CSocketAddress)
    {b : CStunMessageBuilder} (hb : Written cap fLegacy transid bs b) :
    ∃ u b', addMappedAddressImpl (attribid b.fLegacyMode) (addr b.transactionid) b = .ok u b' ∧
      Written cap fLegacy transid
        (bs ++ attributeOctets false (attribid fLegacy) (addressValue (addr transid))) b' := by
  rw [hb.legacy_eq, hb.transid_eq]
  exact addMappedAddressImpl_written (attribid fLegacy) (addr transid) b hb

/-- A call that is aligned writes the octets of its attribute. -/
theorem octets_of_aligned (D : Digests) (m : List UInt8) {c : AddCall}
    (h : c.aligned fLegacy = true) : c.octets D fLegacy transid m =
      attributeOctets (c.countsPadding fLegacy) (c.type fLegacy) (c.value D fLegacy transid m) :=
  if_pos h

/-- `AddUnknownAttributes` writes no padding, which an aligned value has no need of. -/
theorem octets_unknownAttributes (D : Digests) (m : List UInt8) (arr : List UInt16) :
    (unknownAttributes arr).octets D fLegacy transid m =
      toBE 2 STUN_ATTRIBUTE_UNKNOWNATTRIBUTES.toNat ++
        toBE 2 (unknownValue fLegacy arr).length ++ unknownValue fLegacy arr := by
  unfold octets
  split_ifs with h
  · have hmod : (unknownValue fLegacy arr).length % 4 = 0 := by
      rw [length_unknownValue_mod]
      exact if_pos h
    have hpad : padLength 4 (unknownValue fLegacy arr).length = 0 := if_pos hmod
    simp only [attributeOctets, countsPadding, type, value, hpad, Bool.false_eq_true, if_false,
      List.replicate_zero, List.append_nil]
  · rfl

/-- A call whose arguments are valid appends its octets, after it has patched the length field when
it computes a digest. -/
theorem run_written (D : Digests) {c : AddCall} (hvalid : c.Valid)
    (h20 : STUN_HEADER_SIZE ≤ bs.length) :
    Succeeds (Written cap fLegacy transid bs) (c.run D)
      fun _ => Written cap fLegacy transid
        (c.patch bs ++ c.octets D fLegacy transid (c.patch bs)) := by
  cases c with
  | rawAttribute attribType data hsize => exact addAttribute_written_all attribType data hsize
  | stringAttribute attribType pstr => exact addStringAttribute_written attribType hvalid
  | errorCode errorNumber pszReason =>
    obtain ⟨hreason, h300, h600⟩ := hvalid
    exact addErrorCode_written errorNumber pszReason hreason h300 h600
  | unknownAttributes arr =>
    rw [octets_unknownAttributes]
    exact addUnknownAttributes_written hvalid
  | xorMappedAddress addr =>
    -- The type and the value are those of the builder's own format and transaction id.
    exact fun b hb => addAddress_written (fun fLegacy =>
      if fLegacy then STUN_ATTRIBUTE_XORMAPPEDADDRESS_OPTIONAL else STUN_ATTRIBUTE_XORMAPPEDADDRESS)
      (fun transid => addr.applyStunXorMap transid) hb
  | mappedAddress addr => exact addMappedAddressImpl_written STUN_ATTRIBUTE_MAPPEDADDRESS addr
  | responseOriginAddress addr =>
    exact fun b hb => addAddress_written (fun fLegacy =>
      if fLegacy then STUN_ATTRIBUTE_SOURCEADDRESS else STUN_ATTRIBUTE_RESPONSE_ORIGIN)
      (fun _ => addr) hb
  | otherAddress addr =>
    exact fun b hb => addAddress_written (fun fLegacy =>
      if fLegacy then STUN_ATTRIBUTE_CHANGEDADDRESS else STUN_ATTRIBUTE_OTHER_ADDRESS)
      (fun _ => addr) hb
  | responsePort port => exact addResponsePort_written port
  | paddingAttribute paddingSize => exact addPaddingAttribute_written paddingSize
  | changeRequest changeAttrib => exact addChangeRequest_written changeAttrib
  | messageIntegrityShortTerm pszPassword => exact addMessageIntegrityImpl_written D hvalid h20 rfl
  | messageIntegrityLongTerm pszUserName pszRealm pszPassword =>
    intro b hb
    -- The key is the digest of the three strings, which fit into the buffer for them.
    have hlen : ¬pszUserName.strlen + pszRealm.strlen + pszPassword.strlen + 2 >
      MAX_STUN_AUTH_STRING_SIZE * 3 + 2 := hvalid
    simp only [run, addMessageIntegrityLongTerm]
    rw [decide_eq_false hlen, bind_of_ok (chkIf_false _ _)]
    exact addMessageIntegrityImpl_written D (by rw [D.length_md5]; decide) h20 rfl b hb
  | fingerprintAttribute => exact addFingerprintAttribute_written D h20 rfl
  | userName pszUserName => exact addStringAttribute_written STUN_ATTRIBUTE_USERNAME hvalid
  | nonce pszNonce => exact addStringAttribute_written STUN_ATTRIBUTE_NONCE hvalid
  | realm pszRealm => exact addStringAttribute_written STUN_ATTRIBUTE_REALM hvalid

end Written

/-! ## The arguments of a call that succeeds -/

/-- A step after `ChkIf` is reached when the condition does not hold. -/
theorem of_chkIf_bind {cond : Bool} {hr : HRESULT} {α : Type}
    {rest : Unit → Fallible CStunMessageBuilder α} {b b' : CStunMessageBuilder} {a : α}
    (h : (chkIf cond hr >>= rest) b = .ok a b') : cond = false ∧ rest () b = .ok a b' := by
  cases cond with
  | false => exact ⟨rfl, h⟩
  | true => cases h

/-- `AddStringAttribute` rejects the empty string. -/
theorem strlen_ne_of_ok {attribType : UInt16} {pstr : CString} {b b' : CStunMessageBuilder}
    (h : addStringAttribute attribType pstr b = .ok () b') : pstr.strlen ≠ 0 :=
  of_decide_eq_false (of_chkIf_bind h).1

/-- `AddUnknownAttributes` rejects an array whose size is zero as a word: there is nothing to
write. -/
theorem size_ne_of_ok {arr : List UInt16} {b b' : CStunMessageBuilder}
    (h : addUnknownAttributes arr b = .ok () b') : (UInt16.ofNat (arr.length * 2)).toNat ≠ 0 := by
  intro hzero
  obtain ⟨-, h⟩ := of_chkIf_bind h
  rw [bind_get] at h
  obtain ⟨_, b₁, -, h⟩ := bind_eq_ok_iff.mp h
  obtain ⟨_, b₂, hwrite, -⟩ := bind_eq_ok_iff.mp h
  rw [hzero, List.take_zero] at hwrite
  cases hwrite

/-- The arguments of a call that succeeds are valid. -/
theorem valid_of_ok {D : Digests} {c : AddCall} {b b' : CStunMessageBuilder}
    (h : c.run D b = .ok () b') : c.Valid := by
  cases c with
  | stringAttribute attribType pstr => exact strlen_ne_of_ok h
  | errorCode errorNumber pszReason =>
    obtain ⟨hreason, h⟩ := of_chkIf_bind h
    obtain ⟨h300, h⟩ := of_chkIf_bind h
    obtain ⟨h600, -⟩ := of_chkIf_bind h
    exact ⟨Nat.lt_of_not_le (of_decide_eq_false hreason), of_decide_eq_false h300,
      of_decide_eq_false h600⟩
  | unknownAttributes arr => exact size_ne_of_ok h
  | messageIntegrityShortTerm pszPassword => exact of_decide_eq_false (of_chkIf_bind h).1
  | messageIntegrityLongTerm pszUserName pszRealm pszPassword =>
    exact of_decide_eq_false (of_chkIf_bind h).1
  | userName pszUserName => exact strlen_ne_of_ok h
  | nonce pszNonce => exact strlen_ne_of_ok h
  | realm pszRealm => exact strlen_ne_of_ok h
  | _ => trivial

/-! ## Lengths -/

/-- The octets of the value of a call. -/
def valueLength (fLegacy : Bool) : AddCall → ℕ
  | rawAttribute _ data _ => data.length
  | stringAttribute _ pstr => (stringValue pstr).length
  | errorCode errorNumber pszReason => (errorValue errorNumber pszReason).length
  | unknownAttributes arr => (unknownValue fLegacy arr).length
  | xorMappedAddress addr => (addressValue addr).length
  | mappedAddress addr => (addressValue addr).length
  | responseOriginAddress addr => (addressValue addr).length
  | otherAddress addr => (addressValue addr).length
  | responsePort _ => 2
  | paddingAttribute paddingSize => (roundedSize paddingSize).toNat
  | changeRequest _ => 4
  | messageIntegrityShortTerm _ => 20
  | messageIntegrityLongTerm _ _ _ => 20
  | fingerprintAttribute => 4
  | userName pszUserName => (stringValue pszUserName).length
  | nonce pszNonce => (stringValue pszNonce).length
  | realm pszRealm => (stringValue pszRealm).length

/-- The length in the header of the attribute of a call. -/
def fieldLength (fLegacy : Bool) (c : AddCall) : ℕ :=
  if c.countsPadding fLegacy then
    c.valueLength fLegacy + padLength 4 (c.valueLength fLegacy)
  else c.valueLength fLegacy

/-- The octets that a call adds to the body. -/
def size (fLegacy : Bool) (c : AddCall) : ℕ :=
  4 + c.valueLength fLegacy + if c.aligned fLegacy then padLength 4 (c.valueLength fLegacy) else 0

variable {fLegacy : Bool}

/-- The length of a value does not depend on its digests. -/
theorem length_value (D : Digests) (transid : StunTransactionId) (m : List UInt8) (c : AddCall) :
    (c.value D fLegacy transid m).length = c.valueLength fLegacy := by
  cases c with
  | xorMappedAddress addr =>
    show (addressValue (addr.applyStunXorMap transid)).length = (addressValue addr).length
    rw [length_addressValue, length_addressValue]
    rfl
  | responsePort port => exact length_toBE 2 _
  | paddingAttribute paddingSize => exact List.length_replicate
  | changeRequest changeAttrib => exact length_changeValue changeAttrib
  | messageIntegrityShortTerm pszPassword => exact D.length_hmacSha1 _ _
  | messageIntegrityLongTerm pszUserName pszRealm pszPassword => exact D.length_hmacSha1 _ _
  | fingerprintAttribute => exact length_toBE 4 _
  | _ => rfl

/-- The octets of a call are as many as it adds to the body. -/
theorem length_octets (D : Digests) (transid : StunTransactionId) (m : List UInt8) (c : AddCall) :
    (c.octets D fLegacy transid m).length = c.size fLegacy := by
  have hvalue := @length_value fLegacy D transid m c
  unfold octets size
  split_ifs with h
  · rw [length_attributeOctets, hvalue]
  · simp only [List.length_append, length_toBE, hvalue]
    omega

/-- Patching the length field keeps the number of octets. -/
theorem length_patch {bs : List UInt8} (h20 : STUN_HEADER_SIZE ≤ bs.length) (c : AddCall) :
    (c.patch bs).length = bs.length := by
  cases c <;> first | rfl | exact length_withLength _ h20

/-! ## A call that is aligned appends an attribute -/

/-- Padding a padded value adds nothing. -/
theorem padLength_add_padLength (n : ℕ) : padLength 4 (n + padLength 4 n) = 0 :=
  if_pos (add_padLength_mod n (by decide))

/-- The length in the header and its padding are what the value and its padding are. -/
theorem fieldLength_add_padLength (c : AddCall) :
    c.fieldLength fLegacy + padLength 4 (c.fieldLength fLegacy) =
      c.valueLength fLegacy + padLength 4 (c.valueLength fLegacy) := by
  unfold fieldLength
  split_ifs
  · rw [padLength_add_padLength, Nat.add_zero]
  · rfl

/-- A value within the limit is within the limit with its padding, too. -/
theorem padded_le {n : ℕ} (h : n ≤ MAX_STUN_ATTRIBUTE_SIZE) :
    n + padLength 4 n ≤ MAX_STUN_ATTRIBUTE_SIZE := by
  have hmod := add_padLength_mod n (by decide : 0 < 4)
  have hlt := padLength_lt n (by decide : 0 < 4)
  unfold MAX_STUN_ATTRIBUTE_SIZE at h ⊢
  omega

/-- The attribute `t` is the one of the call. -/
structure IsAttribute (D : Digests) (fLegacy : Bool) (transid : StunTransactionId) (c : AddCall)
    (t : WireAttribute) : Prop where
  type : t.type = c.type fLegacy
  value : ∃ m, t.value = readValue (c.countsPadding fLegacy) (c.value D fLegacy transid m)

/-- The value of the attribute of a call is as long as its header says. -/
theorem IsAttribute.length {D : Digests} {transid : StunTransactionId} {c : AddCall}
    {t : WireAttribute} (h : IsAttribute D fLegacy transid c t) :
    t.value.length = c.fieldLength fLegacy := by
  obtain ⟨m, hvalue⟩ := h.value
  have hlen := @length_value fLegacy D transid m c
  rw [hvalue]
  unfold readValue fieldLength
  split_ifs <;> simp only [List.length_append, List.length_replicate, hlen]

/-- The attribute of an aligned call takes what the call adds to the body. -/
theorem IsAttribute.length_encode {D : Digests} {transid : StunTransactionId} {c : AddCall}
    {t : WireAttribute} (h : IsAttribute D fLegacy transid c t) (hc : c.aligned fLegacy = true) :
    t.encode.length = c.size fLegacy := by
  have hpad := @fieldLength_add_padLength fLegacy c
  rw [Tlv.length_encode, h.length]
  unfold size
  rw [if_pos hc]
  omega

/-- The draft whose length field a call has patched. -/
def patchDraft (d : Draft) : AddCall → Draft
  | messageIntegrityShortTerm _ => d.reserve 24
  | messageIntegrityLongTerm _ _ _ => d.reserve 24
  | fingerprintAttribute => d.reserve 8
  | _ => d

/-- Patching the length field of a draft patches that of its octets. -/
theorem octets_patchDraft (d : Draft) (c : AddCall) :
    (c.patchDraft d).octets = c.patch d.octets := by
  have hbody := length_octets_sub d
  cases c with
  | messageIntegrityShortTerm pszPassword =>
    show (d.reserve 24).octets = withLength (d.octets.length - STUN_HEADER_SIZE + 24) d.octets
    rw [hbody, d.octets_reserve]
  | messageIntegrityLongTerm pszUserName pszRealm pszPassword =>
    show (d.reserve 24).octets = withLength (d.octets.length - STUN_HEADER_SIZE + 24) d.octets
    rw [hbody, d.octets_reserve]
  | fingerprintAttribute =>
    show (d.reserve 8).octets = withLength (d.octets.length - STUN_HEADER_SIZE + 8) d.octets
    rw [hbody, d.octets_reserve]
  | _ => rfl

/-- A patched draft has the type field, the transaction id and the attributes of the draft. -/
theorem patchDraft_fields (d : Draft) (c : AddCall) : (c.patchDraft d).typeField = d.typeField ∧
    (c.patchDraft d).transid = d.transid ∧ (c.patchDraft d).attributes = d.attributes := by
  cases c <;> exact ⟨rfl, rfl, rfl⟩

/-- `d'` is the draft `d` with more attributes, and perhaps another length field. -/
structure Extends (d : Draft) (ts : List WireAttribute) (d' : Draft) : Prop where
  typeField : d'.typeField = d.typeField
  transid : d'.transid = d.transid
  attributes : d'.attributes = d.attributes ++ ts

section Building

variable {cap : ℕ} {d : Draft}

/-- A call that is aligned appends its attribute to the draft. -/
theorem run_building (D : Digests) {c : AddCall} (hvalid : c.Valid)
    (haligned : c.aligned fLegacy = true)
    (hlimit : c.valueLength fLegacy ≤ MAX_STUN_ATTRIBUTE_SIZE) :
    ∃ t d', IsAttribute D fLegacy d.transid c t ∧ Extends d [t] d' ∧
      Succeeds (Building cap fLegacy d) (c.run D) fun _ => Building cap fLegacy d' := by
  have hvalue : ∀ m, (c.value D fLegacy d.transid m).length +
      padLength 4 (c.value D fLegacy d.transid m).length ≤ MAX_STUN_ATTRIBUTE_SIZE := by
    intro m
    rw [length_value]
    exact padded_le hlimit
  set m := c.patch d.octets with hm
  obtain ⟨htypeField, htransid, hattributes⟩ := patchDraft_fields d c
  let t : WireAttribute := ofValue (c.countsPadding fLegacy) (c.type fLegacy)
    (c.value D fLegacy d.transid m) (hvalue m)
  refine ⟨t, (c.patchDraft d).add t, ⟨ofValue_type, m, ofValue_value⟩,
    ⟨htypeField, htransid, ?_⟩, ?_⟩
  · show (c.patchDraft d).attributes ++ [t] = d.attributes ++ [t]
    rw [hattributes]
  · have hwritten := @run_written cap fLegacy d.transid d.octets D c hvalid d.header_le
    rw [octets_of_aligned D m haligned, ← hm] at hwritten
    rw [building_add, encode_ofValue, octets_patchDraft, htransid]
    exact hwritten

/-- The calls of a list that are all aligned append one attribute each. -/
theorem runAll_building (D : Digests) (calls : List AddCall) (hvalid : ∀ c ∈ calls, c.Valid)
    (haligned : ∀ c ∈ calls, c.aligned fLegacy = true)
    (hlimit : ∀ c ∈ calls, c.valueLength fLegacy ≤ MAX_STUN_ATTRIBUTE_SIZE) :
    ∃ ts d', List.Forall₂ (IsAttribute D fLegacy d.transid) calls ts ∧ Extends d ts d' ∧
      Succeeds (Building cap fLegacy d) (runAll D calls) fun _ => Building cap fLegacy d' := by
  induction calls generalizing d with
  | nil =>
    refine ⟨[], d, .nil, ⟨rfl, rfl, (List.append_nil _).symm⟩, ?_⟩
    exact Succeeds.pure fun b hb => hb
  | cons c calls ih =>
    obtain ⟨t, d₁, ht, hd₁, hrun⟩ := @run_building fLegacy cap d D c (hvalid c (by simp))
      (haligned c (by simp)) (hlimit c (by simp))
    obtain ⟨ts, d₂, hts, hd₂, hrest⟩ := ih (d := d₁) (fun x hx => hvalid x (by simp [hx]))
      (fun x hx => haligned x (by simp [hx])) fun x hx => hlimit x (by simp [hx])
    rw [hd₁.transid] at hts
    refine ⟨t :: ts, d₂, .cons ht hts, ⟨?_, ?_, ?_⟩, hrun.bind fun _ => hrest⟩
    · rw [hd₂.typeField, hd₁.typeField]
    · rw [hd₂.transid, hd₁.transid]
    · rw [hd₂.attributes, hd₁.attributes, List.append_assoc, List.singleton_append]

end Building

/-! ## The length of what a list of calls writes -/

/-- The calls of a list that succeed have valid arguments. -/
theorem valid_of_runAll_ok {D : Digests} {calls : List AddCall} {b b' : CStunMessageBuilder}
    (h : runAll D calls b = .ok () b') : ∀ c ∈ calls, c.Valid := by
  induction calls generalizing b with
  | nil => simp
  | cons c calls ih =>
    obtain ⟨_, b₁, hrun, hrest⟩ := bind_eq_ok_iff.mp h
    intro x hx
    rcases List.mem_cons.mp hx with rfl | hx
    · exact valid_of_ok hrun
    · exact ih hrest x hx

/-- The calls of a list add their sizes to what was written. -/
theorem runAll_length {cap : ℕ} {transid : StunTransactionId} {bs : List UInt8} (D : Digests)
    (calls : List AddCall) (hvalid : ∀ c ∈ calls, c.Valid) (h20 : STUN_HEADER_SIZE ≤ bs.length) :
    Succeeds (Written cap fLegacy transid bs) (runAll D calls) fun _ b' => ∃ bs',
      Written cap fLegacy transid bs' b' ∧
        bs'.length = bs.length + (calls.map (size fLegacy)).sum := by
  induction calls generalizing bs with
  | nil => exact Succeeds.pure fun b hb => ⟨bs, hb, rfl⟩
  | cons c calls ih =>
    have hlen : (c.patch bs ++ c.octets D fLegacy transid (c.patch bs)).length =
        bs.length + c.size fLegacy := by
      rw [List.length_append, length_patch h20, length_octets]
    have hrest := @ih (c.patch bs ++ c.octets D fLegacy transid (c.patch bs))
      (fun x hx => hvalid x (by simp [hx])) (by omega)
    refine (run_written D (hvalid c (by simp)) h20).bind fun _ => hrest.mono (fun _ h => h) ?_
    rintro _ b' ⟨bs', hb', hlen'⟩
    refine ⟨bs', hb', ?_⟩
    rw [hlen', hlen, List.map_cons, List.sum_cons, Nat.add_assoc]

/-- A call adds no more octets than it would if it were aligned. -/
theorem size_le (c : AddCall) : c.size fLegacy ≤
    4 + c.fieldLength fLegacy + padLength 4 (c.fieldLength fLegacy) := by
  have hpad := @fieldLength_add_padLength fLegacy c
  unfold size
  split_ifs <;> omega

/-- A call that is not aligned adds less. -/
theorem size_lt {c : AddCall} (h : c.aligned fLegacy = false) : c.size fLegacy <
    4 + c.fieldLength fLegacy + padLength 4 (c.fieldLength fLegacy) := by
  have hpad := @fieldLength_add_padLength fLegacy c
  have hpos : 0 < padLength 4 (c.valueLength fLegacy) := by
    cases c with
    | unknownAttributes arr =>
      have hmod := length_unknownValue_mod fLegacy arr
      have hodd : (fLegacy || arr.length % 2 == 0) = false := h
      rw [hodd, if_neg (by decide)] at hmod
      show 0 < padLength 4 (unknownValue fLegacy arr).length
      rw [padLength, if_neg (by omega)]
      omega
    | _ => cases h
  unfold size
  rw [h, if_neg (by decide)]
  omega

end AddCall

/-! ## Reading what was written -/

namespace CStunMessageBuilder

/-- A message with a header, a transaction id and the attributes of a list of calls. -/
def writeCalls (D : Digests) (msgType : UInt16) (msgClass : StunMessageClass)
    (transid : StunTransactionId) (calls : List AddCall) : Fallible CStunMessageBuilder Unit := do
  addHeader msgType msgClass
  addTransactionId transid
  AddCall.runAll D calls

/-- The reader has accepted the message, with exactly one attribute for each call, which has its
type and length, and in legacy mode a length that is a multiple of four. -/
structure ReadsCalls (fLegacy : Bool) (calls : List AddCall) (r : CStunMessageReader) : Prop where
  state : r.state = .bodyValidated
  count : r.getAttributeCount = calls.length
  byIndex : ∀ i (hi : i < calls.length), ∃ a, r.getAttributeByIndex i = .ok a ∧
    a.attributeType = calls[i].type fLegacy ∧ a.size.toNat = calls[i].fieldLength fLegacy
  length_mod : fLegacy = true → ∀ i a, r.getAttributeByIndex i = .ok a → a.size.toNat % 4 = 0

section WriteCalls

variable {D : Digests} {fLegacy : Bool} {msgType : UInt16} {msgClass : StunMessageClass}
  {transid : StunTransactionId} {calls : List AddCall} {buf : Option CBuffer}

/-- The draft that starts a message. -/
def headerDraft (msgType : UInt16) (msgClass : StunMessageClass) (transid : StunTransactionId) :
    Draft :=
  ⟨msgTypeField msgType msgClass, 0, transid, []⟩

/-- The header of a message has 20 octets. -/
theorem length_headerDraft : (headerDraft msgType msgClass transid).octets.length =
    STUN_HEADER_SIZE := (headerDraft msgType msgClass transid).length_octets

/-- The header and the transaction id come before the calls. -/
theorem writeCalls_eq (D : Digests) (fLegacy : Bool) (msgType : UInt16)
    (msgClass : StunMessageClass) (transid : StunTransactionId) (calls : List AddCall)
    (buf : Option CBuffer) :
    ∃ b, Building 0 fLegacy (headerDraft msgType msgClass transid) b ∧
      writeCalls D msgType msgClass transid calls (start fLegacy buf) =
        AddCall.runAll D calls b := by
  obtain ⟨b₁, b₂, hheader, htransid, h₂⟩ := addHeader_addTransactionId_spec
    (show 0 < 0 → 200 ≤ 0 by omega) msgType msgClass transid
    (holds_start fLegacy buf).detached (start_fLegacyMode fLegacy buf)
  refine ⟨b₂, h₂, ?_⟩
  rw [writeCalls, bind_of_ok hheader, bind_of_ok htransid]

/-- Calls whose arguments are valid succeed. -/
theorem writeCalls_ok (D : Digests) (fLegacy : Bool) (msgType : UInt16)
    (msgClass : StunMessageClass) (transid : StunTransactionId) (buf : Option CBuffer)
    (hvalid : ∀ c ∈ calls, c.Valid) :
    writeCalls D msgType msgClass transid calls (start fLegacy buf) =
      .ok () (finalState (writeCalls D msgType msgClass transid calls) (start fLegacy buf)) := by
  obtain ⟨b, hb, hwrite⟩ := writeCalls_eq D fLegacy msgType msgClass transid calls buf
  obtain ⟨_, b', hrun, -⟩ := AddCall.runAll_length D calls hvalid (Draft.header_le _) b hb
  rw [finalState_of_ok (hwrite.trans hrun), hwrite, hrun]

/-- A reader of what was written that has one attribute for each call was given aligned calls: the
attributes fill the body, and a call that is not aligned adds less than its attribute takes. -/
theorem aligned_of_readsCalls {bs : List UInt8} {fAllow : Bool} {r : CStunMessageReader}
    (hlen : bs.length = STUN_HEADER_SIZE + (calls.map (AddCall.size fLegacy)).sum)
    (hfed : Fed fAllow bs r) (h : ReadsCalls fLegacy calls r) :
    ∀ c ∈ calls, c.aligned fLegacy = true := by
  obtain ⟨ts, hp⟩ := hfed.parsed h.state
  have hcount : ts.length = calls.length := by
    have := hp.getAttributeCount_eq.symm.trans h.count
    exact_mod_cast this
  -- The attributes are as long as the calls say.
  have hts : List.Forall₂ (fun c t => t.value.length = c.fieldLength fLegacy) calls ts := by
    refine List.forall₂_iff_get.mpr ⟨hcount.symm, fun i hi hi' => ?_⟩
    obtain ⟨a, ha, -, hsize⟩ := h.byIndex i hi
    obtain ⟨a', ha', -, hsize', -⟩ := hp.byIndex i hi'
    obtain rfl : a = a' := by
      rw [ha] at ha'
      cases ha'
      rfl
    exact hsize'.symm.trans hsize
  have hbody : (Tlv.encodeAll ts).length = (calls.map fun c =>
      4 + c.fieldLength fLegacy + padLength 4 (c.fieldLength fLegacy)).sum := by
    clear hcount hp hlen hfed h
    induction hts with
    | nil => rfl
    | cons ht _ ih =>
      rw [Tlv.encodeAll_cons, List.length_append, Tlv.length_encode, ht, ih, List.map_cons,
        List.sum_cons]
  have hfill := hp.length_body
  intro c hc
  by_contra hna
  have hlt := List.sum_lt_sum (AddCall.size fLegacy) (fun c =>
    4 + c.fieldLength fLegacy + padLength 4 (c.fieldLength fLegacy))
    (fun c _ => c.size_le) ⟨c, hc, AddCall.size_lt (by simpa using hna)⟩
  omega

/-- The length of an attribute of legacy mode is a multiple of four. -/
theorem fieldLength_mod (c : AddCall) : c.fieldLength true % 4 = 0 := by
  have haddress : ∀ addr : CSocketAddress, (addressValue addr).length % 4 = 0 := by
    intro addr
    rw [length_addressValue]
    cases addr.ip.family <;> rfl
  cases c with
  | unknownAttributes arr => exact (length_unknownValue_mod true arr).trans (if_pos rfl)
  | xorMappedAddress addr => exact haddress addr
  | mappedAddress addr => exact haddress addr
  | responseOriginAddress addr => exact haddress addr
  | otherAddress addr => exact haddress addr
  | paddingAttribute paddingSize => exact roundedSize_mod paddingSize
  | messageIntegrityShortTerm pszPassword => exact (rfl : 20 % 4 = 0)
  | messageIntegrityLongTerm pszUserName pszRealm pszPassword => exact (rfl : 20 % 4 = 0)
  | fingerprintAttribute => exact (rfl : 4 % 4 = 0)
  | _ => exact add_padLength_mod _ (by decide : 0 < 4)

/-- A reader of aligned calls finds one attribute for each. -/
theorem readsCalls_of_parsed {bs : List UInt8} {fAllow : Bool} {ts : List WireAttribute}
    {r : CStunMessageReader} (hts : List.Forall₂ (AddCall.IsAttribute D fLegacy transid) calls ts)
    (hp : Parsed fAllow bs ts r) : ReadsCalls fLegacy calls r := by
  have hget := (List.forall₂_iff_get.mp hts).2
  refine ⟨hp.state, ?_, fun i hi => ?_, ?_⟩
  · rw [hp.getAttributeCount_eq, hts.length_eq]
  · have hi' : i < ts.length := hts.length_eq ▸ hi
    obtain ⟨a, ha, htype, hsize, -⟩ := hp.byIndex i hi'
    exact ⟨a, ha, htype.trans (hget i hi hi').type, hsize.trans (hget i hi hi').length⟩
  · rintro rfl i a ha
    -- Only an index of an attribute gives one.
    rcases lt_or_ge i 0 with hneg | hpos
    · rw [getAttributeByIndex, if_pos hneg] at ha
      cases ha
    · obtain ⟨n, rfl⟩ := Int.eq_ofNat_of_zero_le hpos
      by_cases hn : n < ts.length
      · obtain ⟨a', ha', -, hsize, -⟩ := hp.byIndex n hn
        have hsame : (Except.ok a : Except HRESULT StunAttribute) = .ok a' := ha.symm.trans ha'
        cases hsame
        have hlength := (hget n (hts.length_eq ▸ hn) hn).length
        rw [hsize]
        exact (congrArg (· % 4) hlength).trans (fieldLength_mod _)
      · have herror := hp.reads.byIndex_error n (.inr (by omega))
        rw [herror] at ha
        cases ha

/-- The draft of a message of aligned calls within the limits is complete. -/
theorem complete_calls {d' : Draft} {ts : List WireAttribute}
    (haligned : ∀ c ∈ calls, c.aligned fLegacy = true) (hcount : calls.length ≤ MAX_NUM_ATTRIBUTES)
    (hbody : (calls.map (AddCall.size fLegacy)).sum ≤ MAX_STUN_MESSAGE_SIZE)
    (hts : List.Forall₂ (AddCall.IsAttribute D fLegacy transid) calls ts)
    (hd : AddCall.Extends (headerDraft msgType msgClass transid) ts d') :
    d'.fixed.Complete ∧ d'.fixed.attributes = ts := by
  have hattributes : d'.attributes = ts := hd.attributes
  have hlen : (Tlv.encodeAll ts).length = (calls.map (AddCall.size fLegacy)).sum := by
    clear hcount hbody hd hattributes
    induction hts with
    | nil => rfl
    | @cons c t calls ts ht _ ih =>
      rw [Tlv.encodeAll_cons, List.length_append, ht.length_encode (haligned c (by simp)),
        ih fun x hx => haligned x (by simp [hx]), List.map_cons, List.sum_cons]
  refine ⟨Draft.complete_fixed ?_ ?_ ?_, hattributes⟩
  · rw [hd.typeField]
    exact msgTypeField_and_c000 _ _
  · rwa [hattributes, ← hts.length_eq]
  · rwa [hattributes, hlen]

/-- Aligned calls within the limits are read back: there is an attribute for each, and a reader of
the message has parsed them. -/
theorem parsed_calls (D : Digests) (fLegacy : Bool) (msgType : UInt16) (msgClass : StunMessageClass)
    (transid : StunTransactionId) (buf rbuf : Option CBuffer) (r₀ : CStunMessageReader)
    (hvalid : ∀ c ∈ calls, c.Valid) (haligned : ∀ c ∈ calls, c.aligned fLegacy = true)
    (hcount : calls.length ≤ MAX_NUM_ATTRIBUTES)
    (hlimit : ∀ c ∈ calls, c.valueLength fLegacy ≤ MAX_STUN_ATTRIBUTE_SIZE)
    (hbody : (calls.map (AddCall.size fLegacy)).sum ≤ MAX_STUN_MESSAGE_SIZE) :
    ∃ b spBuffer b' ts,
      writeCalls D msgType msgClass transid calls (start fLegacy buf) = .ok () b ∧
      getResult b = .ok (some spBuffer) b' ∧
      List.Forall₂ (AddCall.IsAttribute D fLegacy transid) calls ts ∧
      Parsed true spBuffer.contents ts ((r₀.ready true rbuf).addBytes spBuffer.contents).2 ∧
      ((r₀.ready true rbuf).addBytes spBuffer.contents).2.transactionid = transid := by
  obtain ⟨b₁, hb₁, hwrite⟩ := writeCalls_eq D fLegacy msgType msgClass transid calls buf
  obtain ⟨ts, d', hts, hd, hrun⟩ := @AddCall.runAll_building fLegacy 0
    (headerDraft msgType msgClass transid) D calls hvalid haligned hlimit
  obtain ⟨_, b, hcalls, hb⟩ := hrun b₁ hb₁
  obtain ⟨_, b', hresult, -, -, spBuffer, rfl, hcontents⟩ := getResult_spec b hb
  obtain ⟨hcomplete, hattributes⟩ := complete_calls haligned hcount hbody hts hd
  have hp := hcomplete.parsed (.inl rfl) (fed_addBytes true rbuf r₀ d'.fixed.octets)
  have htransid := (Draft.header_of_parsed hp).2.2
  rw [hattributes, ← hcontents] at hp
  rw [← hcontents] at htransid
  exact ⟨b, spBuffer, b', ts, hwrite.trans hcalls, hresult, hts, hp, htransid.trans hd.transid⟩

/-- Every call is aligned when no call of `AddUnknownAttributes` has an odd number of attributes, or
in legacy mode. -/
theorem forall_aligned_iff : (∀ c ∈ calls, c.aligned fLegacy = true) ↔
    fLegacy = true ∨ ∀ arr, AddCall.unknownAttributes arr ∈ calls → arr.length % 2 = 0 := by
  constructor
  · intro h
    cases fLegacy with
    | true => exact .inl rfl
    | false => exact .inr fun arr harr => by simpa [AddCall.aligned] using h _ harr
  · rintro h c hc
    cases c with
    | unknownAttributes arr =>
      rcases h with rfl | h
      · rfl
      · simp [AddCall.aligned, h arr hc]
    | _ => rfl

/-- What a list of calls wrote within the limits of the reader is read back as one attribute for
each call exactly when, outside legacy mode, no call of `AddUnknownAttributes` had an odd number of
attributes. -/
theorem addCalls_readable_iff (D : Digests) (fLegacy : Bool) (msgType : UInt16)
    (msgClass : StunMessageClass) (transid : StunTransactionId) (calls : List AddCall)
    (buf rbuf : Option CBuffer) (r₀ : CStunMessageReader) {b : CStunMessageBuilder}
    (hrun : writeCalls D msgType msgClass transid calls (start fLegacy buf) = .ok () b)
    (hcount : calls.length ≤ MAX_NUM_ATTRIBUTES)
    (hlimit : ∀ c ∈ calls, c.valueLength fLegacy ≤ MAX_STUN_ATTRIBUTE_SIZE)
    (hbody : (calls.map (AddCall.size fLegacy)).sum ≤ MAX_STUN_MESSAGE_SIZE) :
    (∃ spBuffer b', getResult b = .ok (some spBuffer) b' ∧
      ReadsCalls fLegacy calls ((r₀.ready true rbuf).addBytes spBuffer.contents).2) ↔
    (fLegacy = true ∨ ∀ arr, AddCall.unknownAttributes arr ∈ calls → arr.length % 2 = 0) := by
  obtain ⟨b₁, hb₁, hwrite⟩ := writeCalls_eq D fLegacy msgType msgClass transid calls buf
  have hvalid := AddCall.valid_of_runAll_ok (hwrite.symm.trans hrun)
  rw [← forall_aligned_iff]
  constructor
  · rintro ⟨spBuffer, b', hresult, hreads⟩
    -- What was written has the length that the calls add up to.
    obtain ⟨bs, hb, hlen⟩ := (@AddCall.runAll_length fLegacy 0 transid
      (headerDraft msgType msgClass transid).octets D calls hvalid (Draft.header_le _)).of_ok hb₁
        (hwrite.symm.trans hrun)
    rw [length_headerDraft] at hlen
    have h20 : STUN_HEADER_SIZE ≤ bs.length := by omega
    obtain ⟨-, -, spBuffer', hsome, hcontents⟩ := (getResult_written h20).of_ok hb hresult
    obtain rfl : spBuffer = spBuffer' := Option.some.inj hsome
    have hlen' : spBuffer.contents.length =
        STUN_HEADER_SIZE + (calls.map (AddCall.size fLegacy)).sum := by
      rw [hcontents, length_withLength _ h20, hlen]
    exact aligned_of_readsCalls hlen' (fed_addBytes true rbuf r₀ _) hreads
  · intro haligned
    obtain ⟨b₂, spBuffer, b', ts, hrun', hresult, hts, hp, -⟩ := parsed_calls D fLegacy msgType
      msgClass transid buf rbuf r₀ hvalid haligned hcount hlimit hbody
    obtain rfl : b₂ = b := by
      rw [hrun] at hrun'
      cases hrun'
      rfl
    exact ⟨spBuffer, b', hresult, readsCalls_of_parsed hts hp⟩

end WriteCalls

/-- Digests that are zero. -/
def zeroDigests : Digests :=
  .constant (List.replicate 20 0) (List.replicate 16 0) 0 length_zeroHmacSha1 length_zeroMd5

/-- An error response's list of one unknown attribute. -/
def oneUnknown : List AddCall := [.unknownAttributes [0x0007]]

/-- The builder after a response with one unknown attribute. -/
def oneUnknownBuilder (fLegacy : Bool) : CStunMessageBuilder :=
  finalState (writeCalls zeroDigests StunMsgTypeBinding .failureResponse StunTransactionId.zero
    oneUnknown) (start fLegacy none)

/-- The calls that write one unknown attribute succeed. -/
theorem writeCalls_oneUnknown (fLegacy : Bool) :
    writeCalls zeroDigests StunMsgTypeBinding .failureResponse StunTransactionId.zero oneUnknown
      (start fLegacy none) = .ok () (oneUnknownBuilder fLegacy) := by
  exact writeCalls_ok zeroDigests fLegacy _ _ _ none (by unfold oneUnknown; simp [AddCall.Valid])

/-- A new reader that was fed what the builder returns. -/
def readResult : EStateM.Result HRESULT CStunMessageBuilder (Option CBuffer) →
    Option CStunMessageReader
  | .ok (some spBuffer) _ =>
    some ((({} : CStunMessageReader).ready true none).addBytes spBuffer.contents).2
  | _ => none

/-- A message with one unknown attribute in the format of RFC 5389 is not read. -/
theorem oneUnknown_unreadable :
    ¬∀ (D : Digests) (fLegacy : Bool) (msgType : UInt16) (msgClass : StunMessageClass)
      (transid : StunTransactionId) (calls : List AddCall) (buf rbuf : Option CBuffer)
      (r₀ : CStunMessageReader) (b : CStunMessageBuilder),
      writeCalls D msgType msgClass transid calls (start fLegacy buf) = .ok () b →
      calls.length ≤ MAX_NUM_ATTRIBUTES →
      (∀ c ∈ calls, c.valueLength fLegacy ≤ MAX_STUN_ATTRIBUTE_SIZE) →
      (calls.map (AddCall.size fLegacy)).sum ≤ MAX_STUN_MESSAGE_SIZE →
      ∃ spBuffer b', getResult b = .ok (some spBuffer) b' ∧
        ReadsCalls fLegacy calls ((r₀.ready true rbuf).addBytes spBuffer.contents).2 := by
  intro h
  obtain ⟨spBuffer, b', hresult, hreads⟩ := h zeroDigests false _ _ _ oneUnknown none none {} _
    (writeCalls_oneUnknown false) (by decide) (by decide) (by decide)
  have hstate : (readResult (getResult (oneUnknownBuilder false))).map CStunMessageReader.state =
      some .parseError := by decide +kernel
  rw [hresult] at hstate
  exact absurd (hreads.state.symm.trans (Option.some.inj hstate)) (by decide)

/-- `addCalls_readable_iff` for one unknown attribute in legacy mode. -/
theorem addCalls_readable_iff_legacy :
    ∃ spBuffer b', getResult (oneUnknownBuilder true) = .ok (some spBuffer) b' ∧
      ReadsCalls true oneUnknown
        ((({} : CStunMessageReader).ready true none).addBytes spBuffer.contents).2 :=
  (addCalls_readable_iff zeroDigests true StunMsgTypeBinding .failureResponse
    StunTransactionId.zero oneUnknown none none {} (writeCalls_oneUnknown true) (by decide)
    (by decide) (by decide)).mpr (.inl rfl)

end CStunMessageBuilder

end Stun
