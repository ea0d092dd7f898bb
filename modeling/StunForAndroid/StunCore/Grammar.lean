import StunForAndroid.Lib.Tlv
import StunForAndroid.StunCore.StunTypes

/-!
# The grammar of a message

A message is a header of 20 octets and a body. The header is the message type with its class, the
length of the body, and the transaction id, which starts with the cookie unless the message is in
the legacy format. The body is a concatenation of attributes.

`Accepts` is the grammar, and `Rejected` holds of a string that no continuation brings into it
(`Rejected.append`).
-/

namespace Stun

open Octets

/-! ## The fields of the header -/

/-- The type field of a message. -/
def typeField (bs : List UInt8) : UInt16 := UInt16.ofNat (ofBE (bs.take 2))

/-- The length field of a message. -/
def lengthField (bs : List UInt8) : UInt16 := UInt16.ofNat (ofBE ((bs.drop 2).take 2))

/-- The transaction id of a message, with the cookie field. -/
def transidField (bs : List UInt8) : StunTransactionId :=
  StunTransactionId.ofOctets ((bs.drop 4).take STUN_TRANSACTION_ID_LENGTH)

/-- A message without the cookie is in the legacy format. -/
def legacyField (bs : List UInt8) : Bool :=
  UInt32.ofNat (ofBE ((bs.drop 4).take 4)) != STUN_COOKIE

/-- The message class of a type field. -/
def messageClass (msgType : UInt16) : StunMessageClass :=
  if STUN_IS_REQUEST msgType then .request
  else if STUN_IS_INDICATION msgType then .indication
  else if STUN_IS_SUCCESS_RESP msgType then .successResponse
  else .failureResponse

/-! ## The grammar -/

/-- An attribute on the wire. -/
abbrev WireAttribute : Type := Tlv 4 MAX_STUN_ATTRIBUTE_SIZE

/-- `MAX_NUM_ATTRIBUTES` of `src/stuncore/stunreader.h`. -/
abbrev MAX_NUM_ATTRIBUTES : ℕ := 30

/-- A header that is valid: the top two bits of the type are zero, the length is a multiple of 4 and
within the limit, and the cookie is there unless the legacy format is allowed. -/
structure HeaderValid (allowLegacy : Bool) (bs : List UInt8) : Prop where
  type_bits : typeField bs &&& 0xc000 = 0
  length_mod : (lengthField bs).toNat % 4 = 0
  cookie : allowLegacy = true ∨ legacyField bs = false
  length_le : (lengthField bs).toNat ≤ MAX_STUN_MESSAGE_SIZE

/-- A body that is a concatenation of at most `MAX_NUM_ATTRIBUTES` attributes. -/
def BodyValid (body : List UInt8) : Prop :=
  ∃ ts : List WireAttribute, ts.length ≤ MAX_NUM_ATTRIBUTES ∧ body = Tlv.encodeAll ts

/-- The grammar of a message. -/
structure Accepts (allowLegacy : Bool) (bs : List UInt8) : Prop where
  length_eq : bs.length = STUN_HEADER_SIZE + (lengthField bs).toNat
  header : HeaderValid allowLegacy bs
  body : BodyValid (bs.drop STUN_HEADER_SIZE)

/-- What no longer string makes good. -/
def Rejected (allowLegacy : Bool) (bs : List UInt8) : Prop :=
  STUN_HEADER_SIZE ≤ bs.length ∧
    (¬HeaderValid allowLegacy bs ∨ STUN_HEADER_SIZE + (lengthField bs).toNat < bs.length ∨
      bs.length = STUN_HEADER_SIZE + (lengthField bs).toNat ∧
        ¬BodyValid (bs.drop STUN_HEADER_SIZE))

/-! ## Prefixes -/

section Prefix

variable {bs : List UInt8} (h : STUN_HEADER_SIZE ≤ bs.length) (c : List UInt8)
include h

/-- The type field is in the header. -/
theorem typeField_append : typeField (bs ++ c) = typeField bs := by
  unfold STUN_HEADER_SIZE at h
  rw [typeField, typeField, List.take_append_of_le_length (by omega)]

/-- The length field is in the header. -/
theorem lengthField_append : lengthField (bs ++ c) = lengthField bs := by
  unfold STUN_HEADER_SIZE at h
  rw [lengthField, lengthField, List.drop_append_of_le_length (by omega),
    List.take_append_of_le_length (by rw [List.length_drop]; omega)]

/-- Octets behind the header do not change whether its cookie is there. -/
theorem legacyField_append : legacyField (bs ++ c) = legacyField bs := by
  unfold STUN_HEADER_SIZE at h
  rw [legacyField, legacyField, List.drop_append_of_le_length (by omega),
    List.take_append_of_le_length (by rw [List.length_drop]; omega)]

/-- The transaction id is in the header. -/
theorem transidField_append : transidField (bs ++ c) = transidField bs := by
  unfold STUN_HEADER_SIZE at h
  rw [transidField, transidField, List.drop_append_of_le_length (by omega),
    List.take_append_of_le_length (by
      rw [List.length_drop]
      unfold STUN_TRANSACTION_ID_LENGTH
      omega)]

/-- Whether a header is valid does not depend on what follows it. -/
theorem headerValid_append {allowLegacy : Bool} :
    HeaderValid allowLegacy (bs ++ c) ↔ HeaderValid allowLegacy bs := by
  have ht := typeField_append h c
  have hl := lengthField_append h c
  have hi := legacyField_append h c
  constructor
  · rintro ⟨h1, h2, h3, h4⟩
    exact ⟨ht ▸ h1, hl ▸ h2, hi ▸ h3, hl ▸ h4⟩
  · rintro ⟨h1, h2, h3, h4⟩
    exact ⟨ht.symm ▸ h1, hl.symm ▸ h2, hi.symm ▸ h3, hl.symm ▸ h4⟩

end Prefix

/-- A message from the start of another one is all of it. -/
theorem Accepts.eq_of_extends {allowLegacy : Bool} {bs bs' : List UInt8}
    (h : Accepts allowLegacy bs)
    (h' : Accepts allowLegacy bs') (hstarts : bs <+: bs') : bs = bs' := by
  obtain ⟨c, rfl⟩ := hstarts
  have hlen := h.length_eq
  have hlen' := h'.length_eq
  -- The length is in the header, which the two have in common.
  rw [lengthField_append (by omega), List.length_append] at hlen'
  have hc : c = [] := List.eq_nil_of_length_eq_zero (by omega)
  rw [hc, List.append_nil]

/-- A string that was rejected stays rejected with more octets. -/
theorem Rejected.append {allowLegacy : Bool} {bs : List UInt8} (h : Rejected allowLegacy bs)
    (c : List UInt8) : Rejected allowLegacy (bs ++ c) := by
  obtain ⟨hlen, hcase⟩ := h
  have hl := lengthField_append hlen c
  cases c with
  | nil => rw [List.append_nil]; exact ⟨hlen, hcase⟩
  | cons b c =>
    have hlonger : bs.length < (bs ++ b :: c).length := by simp
    refine ⟨by omega, ?_⟩
    rcases hcase with hbad | hlong | ⟨heq, -⟩
    · exact .inl fun hv => hbad ((headerValid_append hlen _).mp hv)
    · exact .inr (.inl (by rw [hl]; omega))
    · exact .inr (.inl (by rw [hl]; omega))

/-- A string of the grammar is not rejected. -/
theorem Accepts.not_rejected {allowLegacy : Bool} {bs : List UInt8} (h : Accepts allowLegacy bs) :
    ¬Rejected allowLegacy bs := by
  rintro ⟨-, hbad | hlong | ⟨-, hbody⟩⟩
  · exact hbad h.header
  · have := h.length_eq
    omega
  · exact hbody h.body

end Stun
