import StunForAndroid.Common.CrcBasic
import StunForAndroid.StunCore.Fingerprint

/-!
# What the fingerprint detects

The fingerprint is the remainder of a division by a polynomial with a constant. Two messages in
which it is right, at the end, therefore differ in more than 32 bits in a row, with the lowest bit
of each octet first, and a message with such a burst of errors does not pass the check
(`burst_detected`), except by a fingerprint that is not the last attribute.
-/

namespace Stun

open Octets ShiftRegister CStunMessageBuilder

/-! ## Bits of octets -/

theorem bitsOf_append (bs bs' : List UInt8) : bitsOf (bs ++ bs') = bitsOf bs ++ bitsOf bs' :=
  List.flatMap_append

theorem octetBits_inj {byte byte' : UInt8} (h : octetBits byte = octetBits byte') :
    byte = byte' := by
  rw [← UInt8.toBitVec_inj]
  apply BitVec.eq_of_getLsbD_eq
  intro i hi
  exact List.map_inj_left.mp h i (List.mem_range.mpr hi)

/-- The octets can be told from their bits. -/
theorem bitsOf_inj {bs bs' : List UInt8} (h : bitsOf bs = bitsOf bs') : bs = bs' := by
  have hlen := congrArg List.length h
  rw [length_bitsOf, length_bitsOf] at hlen
  induction bs generalizing bs' with
  | nil => exact (List.eq_nil_of_length_eq_zero (by simpa using hlen.symm)).symm
  | cons byte bs ih =>
    cases bs' with
    | nil => simp at hlen
    | cons byte' bs' =>
      rw [bitsOf, bitsOf, List.flatMap_cons, List.flatMap_cons] at h
      obtain ⟨hbyte, hrest⟩ := List.append_inj h (by simp)
      rw [octetBits_inj hbyte, ih hrest (by simpa using hlen)]

/-- A burst of up to 32 bits changes the checksum. -/
theorem crc32_ne_of_burst {bs bs' : List UInt8} (h : DifferWithin 32 (bitsOf bs) (bitsOf bs'))
    (hne : bs ≠ bs') : crc32 bs ≠ crc32 bs' := by
  intro heq
  refine shiftBits_ne_of_differWithin CrcOptimal.InitRem.toBitVec
    (p := CrcOptimal.TruncPoly.toBitVec) (by decide) h (fun hbits => hne (bitsOf_inj hbits)) ?_
  have hword := congrArg UInt32.toBitVec heq
  rw [toBitVec_crc32, toBitVec_crc32, BitVec.xor_left_inj] at hword
  rw [← BitVec.reverse_reverse_eq (x := shiftBits _ _ (bitsOf bs)), hword,
    BitVec.reverse_reverse_eq]

namespace CStunMessageReader

/-- The digests of the program, with any hash functions. -/
def withCrc32 (D : Digests) : Digests := { D with crc32 := crc32 }

/-- A fingerprint and its header. -/
def fingerprintHeader : List UInt8 := toBE 2 STUN_ATTRIBUTE_FINGERPRINT.toNat ++ toBE 2 4

/-- A message with a right fingerprint ends with the fingerprint of what is before it. -/
theorem RightFingerprint.exists_eq {D : Digests} {bs : List UInt8} (h : RightFingerprint D bs) :
    ∃ m, bs = m ++ fingerprintHeader ++ fingerprintOf D m := by
  obtain ⟨before, fp, hbody, htype, h4, hvalue⟩ := h
  have hpadding : fp.padding = [] := by
    apply List.eq_nil_of_length_eq_zero
    rw [fp.length_padding, h4]
    rfl
  -- A value of four octets has no padding.
  have hencode : fp.encode = fingerprintHeader ++ fp.value := by
    rw [Tlv.encode, htype, h4, hpadding, List.append_nil]
    rfl
  rw [Tlv.encodeAll_append, Tlv.encodeAll_cons, Tlv.encodeAll_nil, List.append_nil,
    hencode] at hbody
  have hsplit : bs = bs.take STUN_HEADER_SIZE ++ Tlv.encodeAll before ++
      (fingerprintHeader ++ fp.value) := by
    rw [List.append_assoc, ← hbody, List.take_append_drop]
  have hheader : (bs.take STUN_HEADER_SIZE).length = STUN_HEADER_SIZE := by
    have hlen := congrArg List.length hbody
    rw [List.length_drop, List.length_append, List.length_append, h4] at hlen
    rw [List.length_take]
    omega
  refine ⟨bs.take STUN_HEADER_SIZE ++ Tlv.encodeAll before, ?_⟩
  -- The checksum is that of all that stands before the attribute.
  have hend : bs.take (endOfAttributes before) =
      bs.take STUN_HEADER_SIZE ++ Tlv.encodeAll before := by
    conv_lhs => rw [hsplit]
    rw [List.take_left']
    rw [List.length_append, hheader]
    rfl
  rw [hend] at hvalue
  rw [List.append_assoc, ← hvalue]
  exact hsplit

/-- Octets with the same fingerprint have the same checksum. -/
theorem fingerprintOf_inj {D : Digests} {m m' : List UInt8}
    (h : fingerprintOf D m = fingerprintOf D m') : D.crc32 m = D.crc32 m' := by
  have hback := congrArg ofBE h
  have hlt : ∀ x : UInt32, x.toNat < 256 ^ 4 := fun x => x.toNat_lt
  rw [fingerprintOf, fingerprintOf, ofBE_toBE, ofBE_toBE, Nat.mod_eq_of_lt (hlt _),
    Nat.mod_eq_of_lt (hlt _), UInt32.toNat_inj] at hback
  exact (UInt32.xor_left_inj _).mp hback

/-- Of two messages that differ in a burst of up to 32 bits, at most one has a right fingerprint. -/
theorem not_rightFingerprint_of_burst {D : Digests} {bs bs' : List UInt8}
    (h : DifferWithin 32 (bitsOf bs) (bitsOf bs')) (hne : bs ≠ bs')
    (hbs : RightFingerprint (withCrc32 D) bs) : ¬RightFingerprint (withCrc32 D) bs' := by
  intro hbs'
  obtain ⟨m, rfl⟩ := hbs.exists_eq
  obtain ⟨m', rfl⟩ := hbs'.exists_eq
  have hm : m ≠ m' := by
    rintro rfl
    exact hne rfl
  have hlen : (bitsOf m).length = (bitsOf m').length := by
    have hlen := h.1
    rw [length_bitsOf, length_bitsOf] at hlen ⊢
    simpa using hlen
  rw [bitsOf_append, bitsOf_append, bitsOf_append, bitsOf_append] at h
  -- The header of the fingerprint has 32 bits, so that a burst is before it or behind it.
  rcases h.eq_or_eq hlen (by rw [length_bitsOf]; decide) with hbefore | hbehind
  · exact hm (bitsOf_inj hbefore)
  · rw [List.append_assoc, List.append_assoc] at h
    exact crc32_ne_of_burst (h.of_append hlen) hm (fingerprintOf_inj (D := withCrc32 D)
      (bitsOf_inj hbehind))

/-- Only a message that was parsed passes. -/
theorem bodyValidated_of_valid {D : Digests} {r : CStunMessageReader}
    (h : r.isFingerprintAttributeValid D = true) : r.state = .bodyValidated := by
  by_contra hstate
  unfold isFingerprintAttributeValid at h
  cases hlookup : r.mapAttributes.lookup STUN_ATTRIBUTE_FINGERPRINT with
  | none =>
    rw [hlookup] at h
    exact Bool.false_ne_true h
  | some pAttrib =>
    rw [hlookup] at h
    simp only [if_pos hstate, ite_self] at h
    exact Bool.false_ne_true h

/-- Two different messages that differ only within 32 bits in a row do not both pass the check,
however the readers were fed, unless one of them passes by a fingerprint that other attributes
follow. -/
theorem burst_detected (D : Digests) (r₀ r₀' : CStunMessageReader) (fAllow fAllow' : Bool)
    (rbuf rbuf' : Option CBuffer) (chunks chunks' : List (List UInt8))
    (hburst : DifferWithin 32 (bitsOf chunks.flatten) (bitsOf chunks'.flatten))
    (hne : chunks.flatten ≠ chunks'.flatten)
    (hvalid : ((r₀.ready fAllow rbuf).addChunks chunks).isFingerprintAttributeValid
      (withCrc32 D) = true)
    (hvalid' : ((r₀'.ready fAllow' rbuf').addChunks chunks').isFingerprintAttributeValid
      (withCrc32 D) = true) :
    MisplacedFingerprint (withCrc32 D) fAllow chunks.flatten ∨
      MisplacedFingerprint (withCrc32 D) fAllow' chunks'.flatten := by
  obtain ⟨ts, hp⟩ := (fed_addChunks fAllow rbuf r₀ chunks).parsed (bodyValidated_of_valid hvalid)
  obtain ⟨ts', hp'⟩ :=
    (fed_addChunks fAllow' rbuf' r₀' chunks').parsed (bodyValidated_of_valid hvalid')
  rcases hp.right_or_misplaced hvalid with hright | hmis
  · rcases hp'.right_or_misplaced hvalid' with hright' | hmis'
    · exact absurd hright' (not_rightFingerprint_of_burst hburst hne hright)
    · exact .inr hmis'
  · exact .inl hmis

/-- The message with the misplaced fingerprint, with another type of the attribute behind it. -/
def otherMisplacedMessage : List UInt8 :=
  [0x00, 0x01, 0x00, 0x0c] ++ List.replicate 16 0 ++
    Tlv.encodeAll [earlyFingerprint, { trailingSoftware with type := 0x8023 }]

/-- `burst_detected` for a burst behind a misplaced fingerprint. -/
theorem burst_detected_misplaced :
    MisplacedFingerprint (withCrc32 zeroDigests) true misplacedMessage ∨
      MisplacedFingerprint (withCrc32 zeroDigests) true otherMisplacedMessage := by
  have hburst : DifferWithin 32 (bitsOf misplacedMessage) (bitsOf otherMisplacedMessage) := by
    refine ⟨by decide +kernel, 8 * 28, fun i hi => ?_⟩
    have hsame : ∀ j < 8 * 28, (bitsOf misplacedMessage)[j]? =
        (bitsOf otherMisplacedMessage)[j]? := by
      decide +kernel
    have hlt : i < 8 * 32 := by
      by_contra hge
      rw [List.getElem?_eq_none, List.getElem?_eq_none] at hi
      · exact hi rfl
      all_goals
        rw [length_bitsOf]
        exact Nat.le_of_not_lt hge
    refine ⟨?_, hlt⟩
    by_contra hge
    exact hi (hsame i (Nat.lt_of_not_le hge))
  have h := burst_detected zeroDigests {} {} true true none none [misplacedMessage]
    [otherMisplacedMessage] hburst (by decide +kernel) (by decide +kernel) (by decide +kernel)
  exact h

end CStunMessageReader

end Stun
