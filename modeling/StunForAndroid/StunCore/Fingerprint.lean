import StunForAndroid.Common.Crc
import StunForAndroid.StunCore.BuilderCalls

/-!
# The fingerprint

`AddFingerprintAttribute` appends the checksum of the message before it, and
`IsFingerprintAttributeValid` compares the fingerprint with the checksum of all but the last 8
octets. These are the octets before the fingerprint only when the fingerprint is the last attribute,
which a comment in the code promises but nothing checks. The check is right exactly when no
fingerprint that is followed by other attributes has the checksum of what comes 8 octets before the
end (`fingerprintChecked_iff`).
-/

namespace Stun

open Octets Fallible CStunMessageBuilder

namespace CStunMessageReader

/-! ## What the check should say -/

/-- The fingerprint of the octets `m`. -/
def fingerprintOf (D : Digests) (m : List UInt8) : List UInt8 :=
  toBE 4 (D.crc32 m ^^^ STUN_FINGERPRINT_XOR).toNat

/-- The last attribute of the message is a fingerprint of four octets, which is that of the octets
before it. -/
def RightFingerprint (D : Digests) (bs : List UInt8) : Prop :=
  ∃ before fp, bs.drop STUN_HEADER_SIZE = Tlv.encodeAll (before ++ [fp] : List WireAttribute) ∧
    fp.type = STUN_ATTRIBUTE_FINGERPRINT ∧ fp.value.length = 4 ∧
    fp.value = fingerprintOf D (bs.take (endOfAttributes before))

/-- The message that `AddFingerprintAttribute` completed as the last call, within the limits of the
reader. -/
def CompletedWithFingerprint (D : Digests) (bs : List UInt8) : Prop :=
  ∃ fLegacy msgType msgClass transid calls buf b spBuffer b',
    writeCalls D msgType msgClass transid (calls ++ [AddCall.fingerprintAttribute])
      (start fLegacy buf) = .ok () b ∧
    getResult b = .ok (some spBuffer) b' ∧ spBuffer.contents = bs ∧
    (calls ++ [AddCall.fingerprintAttribute]).length ≤ MAX_NUM_ATTRIBUTES ∧
    (∀ c ∈ calls, c.valueLength fLegacy ≤ MAX_STUN_ATTRIBUTE_SIZE) ∧
    ((calls ++ [AddCall.fingerprintAttribute]).map (AddCall.size fLegacy)).sum ≤
      MAX_STUN_MESSAGE_SIZE

/-- The check is right about the message `bs` that the reader was fed: it passes only a right
fingerprint, and it passes what `AddFingerprintAttribute` completed, unless the message is in the
legacy format and the reader does not allow that. -/
structure FingerprintChecked (D : Digests) (fAllow : Bool) (bs : List UInt8)
    (r : CStunMessageReader) : Prop where
  sound : r.state = .bodyValidated → r.isFingerprintAttributeValid D = true → RightFingerprint D bs
  complete : CompletedWithFingerprint D bs → fAllow = true ∨ legacyField bs = false →
    r.state = .bodyValidated ∧ r.isFingerprintAttributeValid D = true

/-- A message in which the last fingerprint is followed by other attributes, and has by its value
passed for one at the end. -/
def MisplacedFingerprint (D : Digests) (fAllow : Bool) (bs : List UInt8) : Prop :=
  Accepts fAllow bs ∧ ∃ before fp after,
    bs.drop STUN_HEADER_SIZE = Tlv.encodeAll (before ++ fp :: after : List WireAttribute) ∧
    after ≠ [] ∧ (∀ x ∈ after, x.type ≠ STUN_ATTRIBUTE_FINGERPRINT) ∧
    fp.type = STUN_ATTRIBUTE_FINGERPRINT ∧
    fp.value = fingerprintOf D (bs.take (bs.length - 8))

/-- A message whose last attribute is a fingerprint of four octets. -/
def EndsWithFingerprint (fAllow : Bool) (bs : List UInt8) : Prop :=
  Accepts fAllow bs ∧ ∃ before fp,
    bs.drop STUN_HEADER_SIZE = Tlv.encodeAll (before ++ [fp] : List WireAttribute) ∧
    fp.type = STUN_ATTRIBUTE_FINGERPRINT ∧ fp.value.length = 4

/-! ## What the check says -/

section Check

variable {D : Digests} {fAllow : Bool} {bs : List UInt8} {ts : List WireAttribute}
  {r : CStunMessageReader}

/-- A fingerprint has four octets. -/
@[simp]
theorem length_fingerprintOf (D : Digests) (m : List UInt8) : (fingerprintOf D m).length = 4 :=
  length_toBE 4 _

/-- Comparing the words is comparing their octets. -/
theorem ntohl_eq_iff {value : List UInt8} (h : value.length = 4) (x : UInt32) :
    ntohl (UInt32.ofNat (ofLE value)) = x ↔ value = toBE 4 x.toNat := by
  have hlt := ofBE_lt value
  have hback := toBE_ofBE value
  rw [h] at hlt hback
  have hx : x.toNat < 256 ^ 4 := x.toNat_lt
  rw [ntohl_ofLE h]
  constructor
  · rintro rfl
    rw [UInt32.toNat_ofNat', Nat.mod_eq_of_lt (show _ < 2 ^ 32 from hlt), hback]
  · intro hvalue
    rw [hvalue, ofBE_toBE, Nat.mod_eq_of_lt hx, UInt32.ofNat_toNat]

/-- The check looks at the last fingerprint, and at all but the last 8 octets. -/
theorem Parsed.isFingerprintAttributeValid_last {before after : List WireAttribute}
    {fp : WireAttribute} (h : Parsed fAllow bs (before ++ fp :: after) r)
    (hfp : fp.type = STUN_ATTRIBUTE_FINGERPRINT)
    (hafter : ∀ x ∈ after, x.type ≠ STUN_ATTRIBUTE_FINGERPRINT) :
    r.isFingerprintAttributeValid D = true ↔
      fp.value = fingerprintOf D (bs.take (bs.length - 8)) := by
  have h20 : ¬bs.length < STUN_HEADER_SIZE := by
    have := h.length_body
    omega
  obtain ⟨cap, p, hh⟩ := h.live.holds
  obtain ⟨spBuffer, hbuf, -, -⟩ := hh.exists_buffer (List.ne_nil_of_length_pos (by
    unfold STUN_HEADER_SIZE at h20
    omega))
  have hbuffer : ¬r.stream.getBuffer.isNone = true := by
    rw [CDataStream.getBuffer, hbuf, Option.isNone_some]
    decide
  have hbefore : r.dataAt 0 (bs.length - 8) = bs.take (bs.length - 8) := by
    rw [h.dataAt_eq (by omega), List.drop_zero]
  have hlookup := h.lookup_last fun x hx => hfp ▸ hafter x hx
  have hvalue := h.dataAt_value (show before ++ fp :: after = _ from rfl)
  obtain ⟨hsize, hoffset⟩ := h.record_toNat (show before ++ fp :: after = _ from rfl)
  have htype : ¬(record (endOfAttributes before + 4, fp)).attributeType ≠
      STUN_ATTRIBUTE_FINGERPRINT := not_not.mpr hfp
  rw [hfp] at hlookup
  unfold isFingerprintAttributeValid
  rw [hlookup]
  dsimp only
  rw [if_neg htype, if_neg (not_not.mpr h.state), if_neg hbuffer, hh.size_eq, if_neg h20, hbefore,
    hoffset]
  -- The code compares the value only when it has 4 octets, as many as a checksum has.
  by_cases h4 : fp.value.length = 4
  · have hsize4 : (record (endOfAttributes before + 4, fp)).size = 4 :=
      UInt16.toNat_inj.mp (hsize.trans h4)
    rw [h4] at hvalue
    rw [if_neg (not_not.mpr hsize4), hvalue, beq_iff_eq, ntohl_eq_iff h4]
    rfl
  · have hsize4 : (record (endOfAttributes before + 4, fp)).size ≠ 4 := by
      intro hsame
      exact h4 (hsize.symm.trans (congrArg UInt16.toNat hsame))
    rw [if_pos hsize4]
    refine iff_of_false (by decide) fun hvalue => h4 ?_
    rw [hvalue, length_fingerprintOf]

/-- The check passes when there is a fingerprint and the last one passes. -/
theorem Parsed.isFingerprintAttributeValid_iff (h : Parsed fAllow bs ts r) :
    r.isFingerprintAttributeValid D = true ↔ ∃ before fp after, ts = before ++ fp :: after ∧
      fp.type = STUN_ATTRIBUTE_FINGERPRINT ∧ (∀ x ∈ after, x.type ≠ STUN_ATTRIBUTE_FINGERPRINT) ∧
      fp.value = fingerprintOf D (bs.take (bs.length - 8)) := by
  constructor
  · intro hvalid
    rcases exists_last STUN_ATTRIBUTE_FINGERPRINT ts with
      hnone | ⟨before, fp, after, rfl, hfp, hafter⟩
    · unfold isFingerprintAttributeValid at hvalid
      rw [h.lookup_none hnone] at hvalid
      exact absurd hvalid Bool.false_ne_true
    · exact ⟨before, fp, after, rfl, hfp, hafter,
        (h.isFingerprintAttributeValid_last hfp hafter).mp hvalid⟩
  · rintro ⟨before, fp, after, rfl, hfp, hafter, hvalue⟩
    exact (h.isFingerprintAttributeValid_last hfp hafter).mpr hvalue

/-- A last attribute of four octets starts eight octets before the end. -/
theorem Parsed.endOfAttributes_eq {before : List WireAttribute} {fp : WireAttribute}
    (h : Parsed fAllow bs (before ++ [fp]) r) (h4 : fp.value.length = 4) :
    endOfAttributes before = bs.length - 8 := by
  have hlen := h.length_body
  rw [Tlv.encodeAll_append, Tlv.encodeAll_cons, Tlv.encodeAll_nil, List.append_nil,
    List.length_append, Tlv.length_encode, h4, show padLength 4 4 = 0 from rfl] at hlen
  unfold endOfAttributes
  omega

/-- A fingerprint that passes is a right or a misplaced one. -/
theorem Parsed.right_or_misplaced (h : Parsed fAllow bs ts r)
    (hvalid : r.isFingerprintAttributeValid D = true) :
    RightFingerprint D bs ∨ MisplacedFingerprint D fAllow bs := by
  obtain ⟨before, fp, after, rfl, hfp, hafter, hvalue⟩ :=
    h.isFingerprintAttributeValid_iff.mp hvalid
  have h4 : fp.value.length = 4 := by rw [hvalue, length_fingerprintOf]
  by_cases hend : after = []
  · subst hend
    refine .inl ⟨before, fp, h.body, hfp, h4, ?_⟩
    rw [h.endOfAttributes_eq h4, hvalue]
  · exact .inr ⟨h.accepts, before, fp, after, h.body, hend, hafter, hfp, hvalue⟩

/-- A misplaced fingerprint passes, and is not a right one. -/
theorem Parsed.misplaced_spec (h : Parsed fAllow bs ts r)
    (hmis : MisplacedFingerprint D fAllow bs) :
    r.isFingerprintAttributeValid D = true ∧ ¬RightFingerprint D bs := by
  obtain ⟨-, before, fp, after, hbody, hne, hafter, hfp, hvalue⟩ := hmis
  obtain rfl : ts = before ++ fp :: after :=
    Tlv.encodeAll_injective (by decide) (h.body.symm.trans hbody)
  refine ⟨(h.isFingerprintAttributeValid_last hfp hafter).mpr hvalue, ?_⟩
  rintro ⟨before', fp', hbody', hfp', -⟩
  have hsame : before ++ fp :: after = before' ++ [fp'] :=
    Tlv.encodeAll_injective (by decide) (hbody.symm.trans hbody')
  -- The last attribute is one of those that follow.
  have hlast : (fp :: after).getLast? = some fp' := by
    have := congrArg List.getLast? hsame
    rwa [List.getLast?_append_cons, List.getLast?_append_cons] at this
  obtain ⟨x, xs, rfl⟩ := List.exists_cons_of_ne_nil hne
  rw [List.getLast?_cons_cons] at hlast
  exact hafter fp' (List.mem_of_getLast? hlast) hfp'

end Check

/-! ## What the builder completes -/

section Completed

variable {D : Digests} {fAllow : Bool} {bs : List UInt8} {r : CStunMessageReader}

/-- `AddFingerprintAttribute` appends the type, the length and the fingerprint. -/
theorem octets_fingerprintAttribute (D : Digests) (fLegacy : Bool) (transid : StunTransactionId)
    (m : List UInt8) : AddCall.fingerprintAttribute.octets D fLegacy transid m =
      toBE 2 STUN_ATTRIBUTE_FINGERPRINT.toNat ++ toBE 2 4 ++ fingerprintOf D m := by
  have h4 : (fingerprintOf D m).length = 4 := length_fingerprintOf D m
  rw [AddCall.octets_of_aligned D m rfl]
  show attributeOctets false STUN_ATTRIBUTE_FINGERPRINT (fingerprintOf D m) = _
  unfold attributeOctets
  rw [h4, if_neg (by decide), show padLength 4 4 = 0 from rfl, List.replicate_zero, List.append_nil]

/-- A completed message ends with the fingerprint of what is before it. -/
theorem CompletedWithFingerprint.exists_eq (h : CompletedWithFingerprint D bs) :
    ∃ m, bs = m ++ (toBE 2 STUN_ATTRIBUTE_FINGERPRINT.toNat ++ toBE 2 4 ++ fingerprintOf D m) := by
  obtain ⟨fLegacy, msgType, msgClass, transid, calls, buf, b, spBuffer, b', hrun,
    hresult, rfl, -⟩ := h
  obtain ⟨b₁, hb₁, hwrite⟩ := writeCalls_eq D fLegacy msgType msgClass transid
    (calls ++ [AddCall.fingerprintAttribute]) buf
  have hcalls := hwrite.symm.trans hrun
  have hvalid := AddCall.valid_of_runAll_ok hcalls
  rw [AddCall.runAll, List.forM_eq_forM, List.forM_append] at hcalls
  obtain ⟨_, b₂, hbefore, hlast⟩ := bind_eq_ok_iff.mp hcalls
  obtain ⟨bs', hb₂, hlen⟩ := (@AddCall.runAll_length fLegacy 0 transid
    (headerDraft msgType msgClass transid).octets D calls (fun c hc => hvalid c (by simp [hc]))
    (Draft.header_le _)).of_ok hb₁ hbefore
  rw [length_headerDraft] at hlen
  have h20 : STUN_HEADER_SIZE ≤ bs'.length := by omega
  obtain ⟨_, b₃, hfinger, hend⟩ := bind_eq_ok_iff.mp hlast
  obtain rfl : b₃ = b := by
    cases hend
    rfl
  have hb := (AddCall.run_written D (c := .fingerprintAttribute) trivial h20).of_ok hb₂ hfinger
  -- The length field that `GetResult` writes is there already.
  set m := AddCall.fingerprintAttribute.patch bs' with hm
  have hmlen : m.length = bs'.length := AddCall.length_patch h20 _
  have hoctets : (AddCall.fingerprintAttribute.octets D fLegacy transid m).length = 8 := by
    rw [octets_fingerprintAttribute]
    simp
  have hsize : (m ++ AddCall.fingerprintAttribute.octets D fLegacy transid m).length =
      bs'.length + 8 := by
    rw [List.length_append, hoctets, hmlen]
  obtain ⟨-, -, spBuffer', hsome, hcontents⟩ := (getResult_written (by omega)).of_ok hb hresult
  obtain rfl : spBuffer = spBuffer' := Option.some.inj hsome
  have hagain : withLength (bs'.length + 8 - STUN_HEADER_SIZE) m = m := by
    rw [Nat.sub_add_comm h20, hm]
    exact withLength_withLength _ h20
  refine ⟨m, ?_⟩
  rw [hcontents, hsize, withLength_append _ (by omega), hagain, octets_fingerprintAttribute]

/-- The check passes what `AddFingerprintAttribute` completed, when the reader finds it at the
end. -/
theorem CompletedWithFingerprint.passes (h : CompletedWithFingerprint D bs)
    {before : List WireAttribute} {fp : WireAttribute} (hp : Parsed fAllow bs (before ++ [fp]) r)
    (hfp : fp.type = STUN_ATTRIBUTE_FINGERPRINT) (h4 : fp.value.length = 4) :
    r.isFingerprintAttributeValid D = true := by
  obtain ⟨m, hm⟩ := h.exists_eq
  have hmlen : bs.length - 8 = m.length := by
    rw [hm]
    simp
  have hstart := hp.endOfAttributes_eq h4
  have hpadding : fp.padding = [] := by
    apply List.eq_nil_of_length_eq_zero
    rw [fp.length_padding, h4]
    rfl
  rw [hp.isFingerprintAttributeValid_last hfp (by simp), hmlen]
  -- The value is what is 4 octets behind the octets before the attribute.
  calc fp.value = bs.drop (endOfAttributes before + 4) := by
        rw [hp.drop_value rfl, hpadding, Tlv.encodeAll_nil, List.append_nil, List.append_nil]
    _ = bs.drop (m.length + 4) := by rw [hstart, hmlen]
    _ = fingerprintOf D m := by
        rw [← List.drop_drop, hm, List.drop_left, List.drop_left' (by simp)]
    _ = fingerprintOf D (bs.take m.length) := by rw [hm, List.take_left]

/-- What `AddFingerprintAttribute` completes ends with the fingerprint, when the calls before it
keep to the 4-octet boundaries: in legacy mode, or when no call of `AddUnknownAttributes` has an odd
number of attributes. -/
theorem endsWithFingerprint_of_aligned (D : Digests) {fLegacy : Bool} {msgType : UInt16}
    {msgClass : StunMessageClass} {transid : StunTransactionId} {calls : List AddCall}
    {buf : Option CBuffer} {b b' : CStunMessageBuilder} {spBuffer : CBuffer}
    (hrun : writeCalls D msgType msgClass transid (calls ++ [AddCall.fingerprintAttribute])
      (start fLegacy buf) = .ok () b)
    (hresult : getResult b = .ok (some spBuffer) b')
    (hcount : (calls ++ [AddCall.fingerprintAttribute]).length ≤ MAX_NUM_ATTRIBUTES)
    (hlimit : ∀ c ∈ calls, c.valueLength fLegacy ≤ MAX_STUN_ATTRIBUTE_SIZE)
    (hbody : ((calls ++ [AddCall.fingerprintAttribute]).map (AddCall.size fLegacy)).sum ≤
      MAX_STUN_MESSAGE_SIZE)
    (haligned : fLegacy = true ∨ ∀ arr, AddCall.unknownAttributes arr ∈ calls →
      arr.length % 2 = 0) :
    EndsWithFingerprint true spBuffer.contents := by
  obtain ⟨b₁, -, hwrite⟩ := writeCalls_eq D fLegacy msgType msgClass transid
    (calls ++ [AddCall.fingerprintAttribute]) buf
  have hvalid := AddCall.valid_of_runAll_ok (hwrite.symm.trans hrun)
  have haligned' : ∀ c ∈ calls ++ [AddCall.fingerprintAttribute], c.aligned fLegacy = true :=
    forall_aligned_iff.mpr (haligned.imp_right fun h arr harr => h arr (by simpa using harr))
  obtain ⟨b₂, spBuffer', b₂', ts, hrun', hresult', hts, hp, -⟩ := parsed_calls D fLegacy msgType
    msgClass transid buf none {} hvalid haligned' hcount (fun c hc => by
      rcases List.mem_append.mp hc with hc | hc
      · exact hlimit c hc
      · rw [List.mem_singleton.mp hc]
        exact (by decide : 4 ≤ MAX_STUN_ATTRIBUTE_SIZE)) hbody
  obtain rfl : b₂ = b := by
    rw [hrun] at hrun'
    cases hrun'
    rfl
  obtain rfl : spBuffer = spBuffer' := by
    rw [hresult] at hresult'
    cases hresult'
    rfl
  -- The last attribute is that of the last call.
  have hreverse := List.forall₂_reverse_iff.mpr hts
  rw [List.reverse_append, List.reverse_singleton, List.singleton_append] at hreverse
  obtain ⟨fp, us, hfp, -, hus⟩ := List.forall₂_cons_left_iff.mp hreverse
  obtain rfl : ts = us.reverse ++ [fp] := by
    rw [← List.reverse_cons, ← hus, List.reverse_reverse]
  exact ⟨hp.accepts, us.reverse, fp, hp.body, hfp.type, hfp.length⟩

end Completed

/-- The check is right about a message exactly when it has no misplaced fingerprint, and ends with
the one that `AddFingerprintAttribute` wrote last. -/
theorem fingerprintChecked_iff (D : Digests) (r₀ : CStunMessageReader) (fAllow : Bool)
    (rbuf : Option CBuffer) (chunks : List (List UInt8)) :
    FingerprintChecked D fAllow chunks.flatten ((r₀.ready fAllow rbuf).addChunks chunks) ↔
      ¬MisplacedFingerprint D fAllow chunks.flatten ∧
        (CompletedWithFingerprint D chunks.flatten →
          fAllow = true ∨ legacyField chunks.flatten = false →
          EndsWithFingerprint fAllow chunks.flatten) := by
  have hfed := fed_addChunks fAllow rbuf r₀ chunks
  constructor
  · intro hc
    refine ⟨fun hmis => ?_, fun hcompleted hallow => ?_⟩
    · have hstate := hfed.bodyValidated_iff.mpr hmis.1
      obtain ⟨ts, hp⟩ := hfed.parsed hstate
      obtain ⟨hvalid, hwrong⟩ := hp.misplaced_spec hmis
      exact hwrong (hc.sound hstate hvalid)
    · -- A message that passes ends with its fingerprint, when the check is right.
      obtain ⟨hstate, hvalid⟩ := hc.complete hcompleted hallow
      obtain ⟨before, fp, hbody, hfp, h4, -⟩ := hc.sound hstate hvalid
      exact ⟨hfed.bodyValidated_iff.mp hstate, before, fp, hbody, hfp, h4⟩
  · rintro ⟨hmis, hends⟩
    refine ⟨fun hstate hvalid => ?_, fun hcompleted hallow => ?_⟩
    · obtain ⟨ts, hp⟩ := hfed.parsed hstate
      exact (hp.right_or_misplaced hvalid).resolve_right hmis
    · obtain ⟨haccepts, before, fp, hbody, hfp, h4⟩ := hends hcompleted hallow
      have hstate := hfed.bodyValidated_iff.mpr haccepts
      obtain ⟨ts, hp⟩ := hfed.parsed hstate
      obtain rfl : ts = before ++ [fp] :=
        Tlv.encodeAll_injective (by decide) (hp.body.symm.trans hbody)
      exact ⟨hstate, hcompleted.passes hp hfp h4⟩

/-! ## A fingerprint that is not at the end -/

/-- Digests with the checksum of the program. -/
def crcDigests : Digests := { zeroDigests with crc32 := crc32 }

/-- A fingerprint whose value is that of the header and the octets `80 28 00 04`, with which it
starts itself. -/
def earlyFingerprint : WireAttribute where
  type := STUN_ATTRIBUTE_FINGERPRINT
  value := [0x80, 0x87, 0x1d, 0x0d]
  padding := []
  length_value := by decide
  length_padding := by decide

/-- An attribute without a value behind it. -/
def trailingSoftware : WireAttribute where
  type := 0x8022
  value := []
  padding := []
  length_value := by decide
  length_padding := by decide

/-- A binding request in the legacy format, with the fingerprint and the attribute behind it. -/
def misplacedMessage : List UInt8 :=
  [0x00, 0x01, 0x00, 0x0c] ++ List.replicate 16 0 ++
    Tlv.encodeAll [earlyFingerprint, trailingSoftware]

/-- The check passes a fingerprint that is followed by another attribute. -/
theorem misplacedMessage_passes :
    let r := (({} : CStunMessageReader).ready true none).addChunks [misplacedMessage]
    r.state = .bodyValidated ∧ r.isFingerprintAttributeValid crcDigests = true ∧
      ¬RightFingerprint crcDigests misplacedMessage ∧
      ¬FingerprintChecked crcDigests true misplacedMessage r := by
  intro r
  have hfed : Fed true misplacedMessage r := fed_addChunks true none {} [misplacedMessage]
  have hstate : r.state = .bodyValidated := by decide +kernel
  have hmis : MisplacedFingerprint crcDigests true misplacedMessage :=
    ⟨hfed.bodyValidated_iff.mp hstate, [], earlyFingerprint, [trailingSoftware], rfl, by simp,
      by decide, rfl, by decide +kernel⟩
  obtain ⟨ts, hp⟩ := hfed.parsed hstate
  obtain ⟨hvalid, hwrong⟩ := hp.misplaced_spec hmis
  exact ⟨hstate, hvalid, hwrong, fun hc => hwrong (hc.sound hstate hvalid)⟩

end CStunMessageReader

end Stun
