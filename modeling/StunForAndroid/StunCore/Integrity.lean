import StunForAndroid.StunCore.RoundTrip

/-!
# Message integrity

`ValidateMessageIntegrity` succeeds exactly when the last MESSAGE-INTEGRITY attribute, followed by
nothing or by one FINGERPRINT, has the HMAC of what is `covered` by it for its value
(`Parsed.validateMessageIntegrity_ok_iff`). Two results follow. What the builder signs, with or
without a fingerprint after it, the reader validates (`buildSigned_validates`). And in a message
that validates, every attribute that a getter can find is in the part that is covered, whatever the
message repeats (`validated_covers`).
-/

namespace Stun

open Octets Fallible CDataStream CStunMessageBuilder

namespace CStunMessageReader

/-! ## What the reader hashes -/

/-- The part of the message `bs` that the message integrity at the position `n` covers: what is
before it, with the length field less the 8 octets of a fingerprint that follows. -/
def covered (fFingerprint : Bool) (bs : List UInt8) (n : ℕ) : List UInt8 :=
  bs.take 2 ++ toBE 2 (if fFingerprint then lengthField bs - 8 else lengthField bs).toNat ++
    (bs.take n).drop 4

/-- Without a fingerprint the message up to the position is covered as it is. -/
theorem covered_false {bs : List UInt8} {n : ℕ} (hn : 4 ≤ n) (hbs : n ≤ bs.length) :
    covered false bs n = bs.take n := by
  have h2 : ((bs.drop 2).take 2).length = 2 := by
    rw [List.length_take, List.length_drop]
    omega
  have hfour : bs.take 2 ++ (bs.drop 2).take 2 = (bs.take n).take 4 := by
    rw [← List.take_add, List.take_take, min_eq_left hn]
  rw [covered, if_neg (by decide), lengthField, toBE_ofNat_ofBE_two h2, hfour,
    List.take_append_drop]

section Hash

variable {cap p : ℕ} {bs : List UInt8} {s : CDataStream}

/-- The loop over the words hashes the octets. -/
theorem hashChunks_spec (h : Holds cap bs p s) {n : ℕ} (hn : p + 4 * n ≤ bs.length)
    (ctx : HMAC_CTX) :
    ∃ s', hashChunks n ctx s = .ok (ctx.update ((bs.drop p).take (4 * n))) s' := by
  induction n generalizing p s ctx with
  | zero => exact ⟨s, by simp [hashChunks, HMAC_CTX.update]; rfl⟩
  | succ n ih =>
    have h4 : ((bs.drop p).take 4).length = 4 := by
      rw [List.length_take, List.length_drop]
      omega
    obtain ⟨s', hrun⟩ := ih (h.withPos (q := p + 4) (by omega)) (by omega)
      (ctx.update ((bs.drop p).take 4))
    refine ⟨s', ?_⟩
    rw [hashChunks, bind_of_ok (h.readUint32_ok (by omega)), toLE_ofNat_ofLE_four h4, hrun,
      Nat.mul_succ, Nat.add_comm (4 * n), List.take_add, List.drop_drop]
    simp [HMAC_CTX.update]

/-- The reader hashes what is covered by an integrity attribute at the position `n`. -/
theorem hashMessage_spec (h : Holds cap bs 0 s) {n : ℕ} (hmod : n % 4 = 0) (h20 : 20 ≤ n)
    (hn : n ≤ bs.length) (key : List UInt8) (fAdjust : Bool) :
    ∃ s', hashMessage key fAdjust (n + 4) s = .ok ⟨key, covered fAdjust bs n⟩ s' := by
  have h2 : (bs.take 2).length = 2 := by
    rw [List.length_take]
    omega
  have h2' : ((bs.drop 2).take 2).length = 2 := by
    rw [List.length_take, List.length_drop]
    omega
  have hs2 := h.withPos (q := 2) (by omega)
  have hs4 := h.withPos (q := 4) (by omega)
  -- The length is hashed as received, or less the fingerprint.
  set w := UInt16.ofNat (ofLE ((bs.drop 2).take 2)) with hw
  have hlength : toLE 2 (if fAdjust then htons (ntohs w - 8) else w).toNat =
      toBE 2 (if fAdjust then lengthField bs - 8 else lengthField bs).toNat := by
    have hfield : ntohs w = lengthField bs := by rw [hw, ntohs_ofLE h2', lengthField]
    cases fAdjust
    · rw [if_neg (by decide), if_neg (by decide), ← hfield, ← toLE_htons, htons_ntohs]
    · rw [if_pos rfl, if_pos rfl, toLE_htons, hfield]
  have hchunks : 4 + 4 * ((n + 4 - 4 - 4) / 4) = n := by omega
  obtain ⟨s', hrun⟩ := hashChunks_spec hs4 (n := (n + 4 - 4 - 4) / 4) (by omega)
    (((⟨key, []⟩ : HMAC_CTX).update (bs.take 2)).update
      (toBE 2 (if fAdjust then lengthField bs - 8 else lengthField bs).toNat))
  refine ⟨s', ?_⟩
  rw [hashMessage, bind_of_ok (h.readUint16_ok (by omega)),
    bind_of_ok (hs2.readUint16_ok (by omega))]
  simp only [← hw, hlength, toLE_ofNat_ofLE_two h2, List.drop_zero, Nat.reduceAdd]
  rw [hrun]
  have hbody : (bs.drop 4).take (4 * ((n + 4 - 4 - 4) / 4)) = (bs.take n).drop 4 := by
    rw [List.drop_take]
    congr 1
    omega
  simp only [hbody, HMAC_CTX.update, List.nil_append, covered]

end Hash

/-! ## When the reader validates -/

section Validate

variable {allowLegacy : Bool} {bs : List UInt8} {before after : List WireAttribute}
  {mi : WireAttribute} {r : CStunMessageReader}

/-- The index of the last attribute of a type is an index. -/
theorem lastIndex_lt (attributeType : UInt16) (ts : List WireAttribute) :
    lastIndex attributeType ts < ts.length := by
  rcases exists_last attributeType ts with hnone | ⟨before, t, after, rfl, ht, hafter⟩
  · rw [lastIndex_eq_neg_one hnone]
    omega
  · rw [lastIndex_eq ht hafter, List.length_append, List.length_cons]
    omega

/-- Nothing but one fingerprint may follow the message integrity. -/
def FingerprintAtMost (after : List WireAttribute) : Prop :=
  after = [] ∨ ∃ fp, after = [fp] ∧ fp.type = STUN_ATTRIBUTE_FINGERPRINT

/-- What may follow the message integrity is not message integrity. -/
theorem FingerprintAtMost.ne (h : FingerprintAtMost after) :
    ∀ x ∈ after, x.type ≠ STUN_ATTRIBUTE_MESSAGEINTEGRITY := by
  rcases h with rfl | ⟨fp, rfl, hfp⟩
  · simp
  · intro x hx
    rw [List.mem_singleton.mp hx, hfp]
    decide

/-- The check of the indices succeeds exactly when at most a fingerprint comes after the message
integrity. -/
theorem Parsed.noOtherAttributesAfterIntegrity_iff
    (h : Parsed allowLegacy bs (before ++ mi :: after) r)
    (hmi : mi.type = STUN_ATTRIBUTE_MESSAGEINTEGRITY)
    (hafter : ∀ x ∈ after, x.type ≠ STUN_ATTRIBUTE_MESSAGEINTEGRITY) :
    r.noOtherAttributesAfterIntegrity = true ↔ FingerprintAtMost after := by
  have hcount := h.attributes.count
  have hint := h.attributes.integrity
  have hfinger := h.attributes.fingerprint
  rw [lastIndex_eq hmi hafter] at hint
  rw [List.length_append, List.length_cons] at hcount
  simp only [noOtherAttributesAfterIntegrity, hcount, hint, Bool.or_eq_true, Bool.and_eq_true,
    beq_iff_eq, FingerprintAtMost]
  constructor
  · rintro (hlast | ⟨hlast, hindex⟩)
    · exact .inl (List.eq_nil_of_length_eq_zero (by omega))
    · obtain ⟨fp, rfl⟩ : ∃ fp, after = [fp] := List.length_eq_one_iff.mp (by omega)
      refine .inr ⟨fp, rfl, ?_⟩
      -- Were it of another type, the index of the fingerprint would be before it.
      by_contra hfp
      have hsplit : before ++ [mi, fp] = (before ++ [mi]) ++ [fp] := by simp
      rw [hsplit, lastIndex_append_singleton, if_neg hfp] at hfinger
      have hlt := lastIndex_lt STUN_ATTRIBUTE_FINGERPRINT (before ++ [mi])
      rw [List.length_append, List.length_singleton] at hlt
      rw [List.length_singleton] at hindex
      omega
  · rintro (rfl | ⟨fp, rfl, hfp⟩)
    · simp
    · have hsplit : before ++ [mi, fp] = (before ++ [mi]) ++ [fp] := by simp
      rw [hsplit, lastIndex_append_singleton, if_pos hfp, List.length_append,
        List.length_singleton] at hfinger
      rw [List.length_singleton, hfinger]
      omega

/-- `ValidateMessageIntegrity` succeeds exactly when at most a fingerprint comes after the last
message integrity, and its value is the HMAC of what it covers. -/
theorem Parsed.validateMessageIntegrity_eq (h : Parsed allowLegacy bs (before ++ mi :: after) r)
    (hmi : mi.type = STUN_ATTRIBUTE_MESSAGEINTEGRITY)
    (hafter : ∀ x ∈ after, x.type ≠ STUN_ATTRIBUTE_MESSAGEINTEGRITY) (D : Digests)
    {key : List UInt8} (hkey : key.length ≠ 0) :
    r.validateMessageIntegrity D key = .ok () ↔ FingerprintAtMost after ∧
      mi.value = D.hmacSha1 key
        (covered (decide (after.length = 1)) bs (endOfAttributes before)) := by
  have hcount := h.attributes.count
  have hint := h.attributes.integrity
  rw [lastIndex_eq hmi hafter] at hint
  rw [List.length_append, List.length_cons] at hcount
  have hend := h.endOf_le rfl
  have hmod := Tlv.length_encodeAll_mod (by decide : 0 < 4) (by decide) before
  have hpos : endOfAttributes before = 20 + (Tlv.encodeAll before).length := rfl
  obtain ⟨hsize, hoffset⟩ := h.record_toNat rfl
  simp only [record] at hsize hoffset
  have hlookup := h.lookup_last (fun x hx => hmi ▸ hafter x hx)
  rw [hmi] at hlookup
  -- The buffer of the stream holds the message.
  obtain ⟨cap, p, hh⟩ := h.live.holds
  obtain ⟨spBuffer, hbuf, hcontents, hbufsize⟩ := hh.exists_buffer
    (List.ne_nil_of_length_pos (by omega))
  have hroom := hh.le_allocated
  simp only [getAllocatedSize, hbuf, Option.map_some, Option.getD_some] at hroom
  have hattached := holds_attach_reading spBuffer {} (by omega)
  rw [show spBuffer.contents = bs from hcontents] at hattached
  obtain ⟨s', hhash⟩ :=
    hashMessage_spec hattached (n := endOfAttributes before) (by omega) (by omega)
    (by omega) key (decide (after.length = 1))
  have hadjust : (r.indexMessageIntegrity == r.countAttributes - 1 - 1) =
      decide (after.length = 1) := by
    rw [hint, hcount, beq_eq_decide]
    exact decide_eq_decide.mpr (by omega)
  have hstate : ¬r.state ≠ .bodyValidated := not_not.mpr h.state
  rw [validateMessageIntegrity, if_neg hstate, if_neg (by omega), if_neg (by omega), if_neg hkey,
    hlookup]
  simp only [record, hoffset, getBuffer, hbuf, hadjust, hhash, HMAC_CTX.final]
  by_cases h20 : mi.value.length = 20
  · have hdata : r.dataAt (endOfAttributes before + 4) 20 = mi.value := by
      have hvalue := h.dataAt_value (show before ++ mi :: after = _ from rfl)
      rwa [h20] at hvalue
    rw [if_neg (by rw [h20]; decide), hdata]
    cases hno : r.noOtherAttributesAfterIntegrity with
    | false =>
      have hbad : ¬FingerprintAtMost after := fun hc => by
        rw [(h.noOtherAttributesAfterIntegrity_iff hmi hafter).mpr hc] at hno
        cases hno
      simp [hbad]
    | true =>
      have hgood := (h.noOtherAttributesAfterIntegrity_iff hmi hafter).mp hno
      rw [if_neg (by decide)]
      split_ifs with hsame
      · simp [hgood, hsame]
      · simp only [false_iff]
        exact fun hc => hsame hc.2.symm
  · have hne : UInt16.ofNat mi.value.length ≠ 20 := fun hc => h20 (by
      rw [← hsize, hc]
      rfl)
    rw [if_pos hne]
    simp only [reduceCtorEq, false_iff]
    rintro ⟨-, hc⟩
    exact h20 (by rw [hc, D.length_hmacSha1])

/-- `ValidateMessageIntegrity` succeeds exactly when the last message integrity, followed by at most
a fingerprint, is the HMAC of what it covers. -/
theorem Parsed.validateMessageIntegrity_ok_iff {ts : List WireAttribute}
    (h : Parsed allowLegacy bs ts r) (D : Digests) (key : List UInt8) :
    r.validateMessageIntegrity D key = .ok () ↔ key.length ≠ 0 ∧ ∃ before mi after,
      ts = before ++ mi :: after ∧ mi.type = STUN_ATTRIBUTE_MESSAGEINTEGRITY ∧
      FingerprintAtMost after ∧ mi.value = D.hmacSha1 key
        (covered (decide (after.length = 1)) bs (endOfAttributes before)) := by
  have hint := h.attributes.integrity
  have hstate : ¬r.state ≠ .bodyValidated := not_not.mpr h.state
  constructor
  · intro hok
    rcases exists_last STUN_ATTRIBUTE_MESSAGEINTEGRITY ts with
      hnone | ⟨before, mi, after, rfl, hmi, hafter⟩
    · rw [lastIndex_eq_neg_one hnone] at hint
      rw [validateMessageIntegrity, if_neg hstate] at hok
      split_ifs at hok
    · by_cases hkey : key.length = 0
      · rw [validateMessageIntegrity, if_neg hstate] at hok
        split_ifs at hok
      · obtain ⟨hat, hvalue⟩ := (h.validateMessageIntegrity_eq hmi hafter D hkey).mp hok
        exact ⟨hkey, before, mi, after, rfl, hmi, hat, hvalue⟩
  · rintro ⟨hkey, before, mi, after, rfl, hmi, hat, hvalue⟩
    exact (h.validateMessageIntegrity_eq hmi hat.ne D hkey).mpr ⟨hat, hvalue⟩

end Validate

end CStunMessageReader

/-! ## What the builder signs validates -/

/-- The credentials of a message: those of `AuthCredMechanism`, with their strings. -/
inductive Credentials where
  | shortTerm (pszPassword : CString)
  | longTerm (pszUser pszRealm pszPassword : CString)

namespace Credentials

variable (D : Digests)

/-- The key of the HMAC that credentials give. -/
def key : Credentials → List UInt8
  | shortTerm pszPassword => pszPassword.chars
  | longTerm pszUser pszRealm pszPassword =>
    D.md5 (CStunMessageReader.longTermKey pszUser pszRealm pszPassword)

/-- The builder's operation with the credentials. -/
def sign : Credentials → Fallible CStunMessageBuilder Unit
  | shortTerm pszPassword => addMessageIntegrityShortTerm D pszPassword
  | longTerm pszUser pszRealm pszPassword =>
    addMessageIntegrityLongTerm D pszUser pszRealm pszPassword

/-- The reader's operation with the credentials. -/
def validate : Credentials → CStunMessageReader → Except HRESULT Unit
  | shortTerm pszPassword => CStunMessageReader.validateMessageIntegrityShort D pszPassword
  | longTerm pszUser pszRealm pszPassword =>
    CStunMessageReader.validateMessageIntegrityLong D pszUser pszRealm pszPassword

/-- Credentials that can sign: a password that is not empty, or three strings within their limit. -/
def Usable : Credentials → Prop
  | shortTerm pszPassword => pszPassword.strlen ≠ 0
  | longTerm pszUser pszRealm pszPassword => pszUser.strlen ≤ MAX_STUN_AUTH_STRING_SIZE ∧
    pszRealm.strlen ≤ MAX_STUN_AUTH_STRING_SIZE ∧ pszPassword.strlen ≤ MAX_STUN_AUTH_STRING_SIZE

variable {creds : Credentials} {D}

/-- The key of usable credentials is not empty. -/
theorem Usable.length_key (h : creds.Usable) : (creds.key D).length ≠ 0 := by
  cases creds with
  | shortTerm pszPassword => exact h
  | longTerm pszUser pszRealm pszPassword =>
    rw [key, D.length_md5]
    decide

/-- Signing appends the message integrity under the key. -/
theorem Usable.sign_spec (h : creds.Usable) {cap : ℕ} {fLegacy : Bool} {d : Draft} :
    Succeeds (Building cap fLegacy d) (creds.sign D)
      fun _ => Building cap fLegacy (d.signed D (creds.key D)) := by
  cases creds with
  | shortTerm pszPassword => exact addMessageIntegrityShortTerm_spec D h
  | longTerm pszUser pszRealm pszPassword =>
    exact addMessageIntegrityLongTerm_spec D h.1 h.2.1 h.2.2

/-- Validating is `ValidateMessageIntegrity` with the key. -/
theorem validate_eq {allowLegacy : Bool} {bs : List UInt8} {ts : List WireAttribute}
    {r : CStunMessageReader} (h : CStunMessageReader.Parsed allowLegacy bs ts r) :
    creds.validate D r = r.validateMessageIntegrity D (creds.key D) := by
  cases creds with
  | shortTerm pszPassword => rfl
  | longTerm pszUser pszRealm pszPassword =>
    have hlen := h.length_body
    unfold STUN_HEADER_SIZE at hlen
    obtain ⟨cap, p, hh⟩ := h.live.holds
    obtain ⟨spBuffer, hbuf, -, -⟩ := hh.exists_buffer (List.ne_nil_of_length_pos (by omega))
    have hdata : r.stream.getDataPointerUnsafe ≠ none := by simp [getDataPointerUnsafe, hbuf]
    rw [validate, CStunMessageReader.validateMessageIntegrityLong, if_neg (not_not.mpr h.state),
      if_neg hdata]
    rfl

end Credentials

namespace Draft

/-- The message integrity of a draft covers the draft of the attributes before it. -/
theorem covered_octets (d : Draft) {before after : List WireAttribute}
    (hd : d.attributes = before ++ after) (fFingerprint : Bool) :
    CStunMessageReader.covered fFingerprint d.octets
        (CStunMessageReader.endOfAttributes before) =
      octets { d with
        length := if fFingerprint then d.length - 8 else d.length
        attributes := before } := by
  have hid : d.transid.id.length = 16 := d.transid.length_id
  have htake : d.octets.take 2 = toBE 2 d.typeField.toNat := by
    simp only [octets, List.append_assoc]
    exact List.take_left' (by simp)
  have hbody : (d.octets.take (CStunMessageReader.endOfAttributes before)).drop 4 =
      d.transid.id ++ Tlv.encodeAll before := by
    have hlen : CStunMessageReader.endOfAttributes before - 4 =
        (d.transid.id ++ Tlv.encodeAll before).length := by
      rw [List.length_append, hid]
      unfold CStunMessageReader.endOfAttributes STUN_HEADER_SIZE
      omega
    rw [List.drop_take, d.drop_four_octets, hd, Tlv.encodeAll_append, hlen, ← List.append_assoc,
      List.take_left]
  rw [CStunMessageReader.covered, htake, hbody, d.lengthField_octets]
  simp [octets]

/-- The draft of a signed message, with or without a fingerprint after the message integrity. -/
def finished (D : Digests) (key : List UInt8) (fFingerprint : Bool) (d : Draft) : Draft :=
  (if fFingerprint then (d.signed D key).fingerprinted D else d.signed D key).fixed

/-- A finished message has its attributes, the message integrity and then the fingerprint, if there
is one. -/
theorem attributes_finished (D : Digests) (key : List UInt8) (fFingerprint : Bool) (d : Draft) :
    ∃ after, CStunMessageReader.FingerprintAtMost after ∧
      after.length = (if fFingerprint then 1 else 0) ∧
      (Tlv.encodeAll after).length = (if fFingerprint then 8 else 0) ∧
      (d.finished D key fFingerprint).attributes =
        d.attributes ++ integrityAttribute D key (d.reserve 24).octets :: after := by
  cases fFingerprint with
  | false => exact ⟨[], .inl rfl, rfl, rfl, rfl⟩
  | true =>
    refine ⟨[fingerprintAttribute D ((d.signed D key).reserve 8).octets], .inr ⟨_, rfl, rfl⟩, rfl,
      ?_, ?_⟩
    · rw [Tlv.encodeAll_cons, Tlv.encodeAll_nil, List.append_nil, Tlv.length_encode]
      simp [fingerprintAttribute, padLength]
    · simp [finished, fixed, fingerprinted, signed, add, reserve]

/-- The message integrity of a signed message is the HMAC of what it covers. -/
theorem covered_finished (D : Digests) (key : List UInt8) (fFingerprint : Bool) (d : Draft) :
    CStunMessageReader.covered fFingerprint (d.finished D key fFingerprint).octets
        (CStunMessageReader.endOfAttributes d.attributes) = (d.reserve 24).octets := by
  obtain ⟨after, -, -, hafter, hattributes⟩ := d.attributes_finished D key fFingerprint
  have hmi : (integrityAttribute D key (d.reserve 24).octets).encode.length = 24 := by
    rw [Tlv.length_encode]
    simp [integrityAttribute, padLength, D.length_hmacSha1]
  have hlength : (d.finished D key fFingerprint).length = UInt16.ofNat
      ((Tlv.encodeAll d.attributes).length + 24 + if fFingerprint then 8 else 0) := by
    have hfixed : (d.finished D key fFingerprint).length =
        UInt16.ofNat (Tlv.encodeAll (d.finished D key fFingerprint).attributes).length := rfl
    rw [hfixed, hattributes, Tlv.encodeAll_append, Tlv.encodeAll_cons, List.length_append,
      List.length_append, hmi, hafter, Nat.add_assoc]
  rw [covered_octets _ hattributes, hlength]
  cases fFingerprint with
  | false => rfl
  | true =>
    have hsub : UInt16.ofNat ((Tlv.encodeAll d.attributes).length + 24 + 8) - 8 =
        UInt16.ofNat ((Tlv.encodeAll d.attributes).length + 24) := by
      rw [UInt16.ofNat_add _ 8]
      exact UInt16.add_sub_cancel _ _
    simp only [if_true, hsub]
    rfl

end Draft

namespace CStunMessageBuilder

/-- A signed message, with a fingerprint or without. -/
def buildSigned (D : Digests) (msgType : UInt16) (msgClass : StunMessageClass)
    (transid : StunTransactionId) (attribs : List (UInt16 × List UInt8)) (creds : Credentials)
    (fFingerprint : Bool) : Fallible CStunMessageBuilder (Option CBuffer) := do
  addHeader msgType msgClass
  addTransactionId transid
  addAttributes attribs
  creds.sign D
  if fFingerprint then addFingerprintAttribute D
  getResult

/-- A finished draft is complete. -/
theorem complete_finished (D : Digests) (key : List UInt8) (fFingerprint : Bool) {d : Draft}
    (htype : d.typeField &&& 0xc000 = 0)
    (hcount : d.attributes.length + 1 + (if fFingerprint then 1 else 0) ≤ MAX_NUM_ATTRIBUTES)
    (hbody : (Tlv.encodeAll d.attributes).length + 24 + (if fFingerprint then 8 else 0) ≤
      MAX_STUN_MESSAGE_SIZE) : (d.finished D key fFingerprint).Complete := by
  obtain ⟨after, -, hone, hafter, hattributes⟩ := d.attributes_finished D key fFingerprint
  have hmi : (integrityAttribute D key (d.reserve 24).octets).encode.length = 24 := by
    rw [Tlv.length_encode]
    simp [integrityAttribute, padLength, D.length_hmacSha1]
  have hlen : (Tlv.encodeAll (d.finished D key fFingerprint).attributes).length =
      (Tlv.encodeAll d.attributes).length + 24 + (if fFingerprint then 8 else 0) := by
    rw [hattributes, Tlv.encodeAll_append, Tlv.encodeAll_cons, List.length_append,
      List.length_append, hmi, hafter, Nat.add_assoc]
  refine Draft.complete_fixed (by cases fFingerprint <;> exact htype) ?_ (hlen.trans_le hbody)
  have hsame : (d.finished D key fFingerprint).attributes.length = _ :=
    congrArg List.length hattributes
  rw [List.length_append, List.length_cons, hone] at hsame
  exact hsame.trans_le (by omega)

/-- A reader that has parsed a finished draft validates it under the key. -/
theorem validate_finished (D : Digests) {key : List UInt8} (hkey : key.length ≠ 0)
    (fFingerprint : Bool) (d : Draft) {fAllow : Bool} {r : CStunMessageReader}
    (hp : CStunMessageReader.Parsed fAllow (d.finished D key fFingerprint).octets
      (d.finished D key fFingerprint).attributes r) :
    r.validateMessageIntegrity D key = .ok () := by
  obtain ⟨after, hat, hone, -, hattributes⟩ := d.attributes_finished D key fFingerprint
  refine (hp.validateMessageIntegrity_ok_iff D key).mpr
    ⟨hkey, d.attributes, _, after, hattributes, rfl, hat, ?_⟩
  have hflag : decide (after.length = 1) = fFingerprint := by
    rw [hone]
    cases fFingerprint <;> rfl
  rw [hflag, d.covered_finished D key fFingerprint]
  rfl

/-- A message that was built with credentials, and then perhaps with a fingerprint, validates under
the same credentials. -/
theorem buildSigned_validates (D : Digests) (fLegacy : Bool) (buf rbuf : Option CBuffer)
    (r₀ : CStunMessageReader) (msgType : UInt16) (msgClass : StunMessageClass)
    (transid : StunTransactionId) (attribs : List (UInt16 × List UInt8)) (creds : Credentials)
    (fFingerprint : Bool) (hcreds : creds.Usable)
    (hcount : attribs.length + 1 + (if fFingerprint then 1 else 0) ≤ MAX_NUM_ATTRIBUTES)
    (hlimit : ∀ a ∈ attribs, paddedLength a.2 ≤ MAX_STUN_ATTRIBUTE_SIZE)
    (hbody : (attribs.map fun a => 4 + paddedLength a.2).sum + 24 +
      (if fFingerprint then 8 else 0) ≤ MAX_STUN_MESSAGE_SIZE) :
    ∃ spBuffer b', buildSigned D msgType msgClass transid attribs creds fFingerprint
        (start fLegacy buf) = .ok (some spBuffer) b' ∧
      let r := ((r₀.ready true rbuf).addBytes spBuffer.contents).2
      r.state = .bodyValidated ∧ creds.validate D r = .ok () := by
  -- The builder writes the finished draft.
  obtain ⟨b₀, b₁, hheader, htransid, h₁⟩ := addHeader_addTransactionId_spec
    (show 0 < 0 → 200 ≤ 0 by omega) msgType msgClass transid
    (holds_start fLegacy buf).detached (start_fLegacyMode fLegacy buf)
  obtain ⟨ts, hts, hrun⟩ := @addAttributes_spec 0 fLegacy
    ⟨msgTypeField msgType msgClass, 0, transid, []⟩ attribs hlimit
  obtain ⟨_, b₂, hadd, h₂⟩ := hrun b₁ h₁
  rw [List.nil_append] at h₂
  obtain ⟨_, b₃, hsign, h₃⟩ := hcreds.sign_spec (D := D) b₂ h₂
  set d : Draft := ⟨msgTypeField msgType msgClass, 0, transid, ts⟩ with hd
  obtain ⟨b₄, hfinger, h₄⟩ : ∃ b₄,
      (if fFingerprint then addFingerprintAttribute D else pure ()) b₃ = .ok () b₄ ∧
      Building 0 fLegacy (if fFingerprint then (d.signed D (creds.key D)).fingerprinted D
        else d.signed D (creds.key D)) b₄ := by
    cases fFingerprint with
    | false => exact ⟨b₃, rfl, h₃⟩
    | true =>
      obtain ⟨_, b₄, hfinger, h₄⟩ := addFingerprintAttribute_spec D b₃ h₃
      exact ⟨b₄, hfinger, h₄⟩
  obtain ⟨_, b₅, hresult, -, -, spBuffer, rfl, hcontents⟩ := getResult_spec b₄ h₄
  have hbuild : buildSigned D msgType msgClass transid attribs creds fFingerprint
      (start fLegacy buf) = .ok (some spBuffer) b₅ := by
    rw [buildSigned, bind_of_ok hheader, bind_of_ok htransid, bind_of_ok hadd, bind_of_ok hsign]
    cases fFingerprint with
    | false =>
      cases hfinger
      exact hresult
    | true =>
      rw [if_pos rfl] at hfinger ⊢
      rw [bind_of_ok hfinger]
      exact hresult
  -- The reader parses it and validates it.
  refine ⟨spBuffer, b₅, hbuild, ?_⟩
  have hcomplete : (d.finished D (creds.key D) fFingerprint).Complete :=
    complete_finished D (creds.key D) fFingerprint (msgTypeField_and_c000 _ _)
      (by simpa [hd, ← hts.length_eq] using hcount)
      (by simpa only [hd, length_encodeAll_of_writtenAs hts] using hbody)
  rw [hcontents]
  have hp := hcomplete.parsed (.inl rfl) (CStunMessageReader.fed_addBytes true rbuf r₀ _)
  exact ⟨hp.state, (Credentials.validate_eq hp).trans
    (validate_finished D hcreds.length_key fFingerprint d hp)⟩

/-- The digests of the message of `buildSigned_validates_longTerm`. -/
def userNameDigests : Digests :=
  .constant
    [0xd4, 0xf1, 0x25, 0x2a, 0x57, 0x89, 0x2e, 0x90, 0x39, 0x41, 0x73, 0x98, 0x8b, 0x4d, 0x44, 0xfa,
      0x7a, 0x09, 0x71, 0xfc]
    [0xd6, 0xe7, 0xa7, 0x28, 0x8d, 0x38, 0xd4, 0xcf, 0x78, 0xb2, 0xf8, 0x2c, 0xc7, 0xf5, 0x0b, 0xba]
    0x86317322 rfl rfl

/-- `buildSigned_validates` for a legacy message with long-term credentials and a fingerprint. -/
theorem buildSigned_validates_longTerm :
    ∃ spBuffer b', buildSigned userNameDigests StunMsgTypeBinding .request StunTransactionId.zero
        [(STUN_ATTRIBUTE_USERNAME, [0x61])]
        (.longTerm ⟨[0x61], by decide⟩ ⟨[0x62], by decide⟩ ⟨[], by decide⟩) true
        (start true none) = .ok (some spBuffer) b' ∧
      Credentials.validate userNameDigests
        (.longTerm ⟨[0x61], by decide⟩ ⟨[0x62], by decide⟩ ⟨[], by decide⟩)
        ((({} : CStunMessageReader).ready true none).addBytes spBuffer.contents).2 = .ok () := by
  obtain ⟨spBuffer, b', hbuild, -, hvalid⟩ :=
    buildSigned_validates userNameDigests true none none {}
    StunMsgTypeBinding .request StunTransactionId.zero [(STUN_ATTRIBUTE_USERNAME, [0x61])]
    (.longTerm ⟨[0x61], by decide⟩ ⟨[0x62], by decide⟩ ⟨[], by decide⟩) true
    ⟨by decide, by decide, by decide⟩ (by decide) (by decide) (by decide)
  exact ⟨spBuffer, b', hbuild, hvalid⟩

end CStunMessageBuilder

/-! ## What a validated message covers -/

namespace CStunMessageReader

/-- The header, the value and the padding of an attribute are in the body before the position
`n`. -/
def Within (n : ℕ) (a : StunAttribute) : Prop :=
  STUN_HEADER_SIZE + 4 ≤ a.offset.toNat ∧
    a.offset.toNat + a.size.toNat + padLength 4 a.size.toNat ≤ n

/-- The attribute that a lookup by type finds is before the position `n`. -/
def FindsWithin (n : ℕ) (r : CStunMessageReader) (attributeType : UInt16) : Prop :=
  ∃ a, r.getAttributeByType attributeType = .ok a ∧ Within n a

/-- Whatever a getter returns is from an attribute before the position `n`, apart from the message
integrity and the fingerprint. -/
structure GettersWithin (n : ℕ) (r : CStunMessageReader) : Prop where
  getAttributeByType : ∀ attributeType a, attributeType ≠ STUN_ATTRIBUTE_MESSAGEINTEGRITY →
    attributeType ≠ STUN_ATTRIBUTE_FINGERPRINT → r.getAttributeByType attributeType = .ok a →
    Within n a
  getResponsePort : ∀ port, r.getResponsePort = .ok port →
    FindsWithin n r STUN_ATTRIBUTE_RESPONSE_PORT
  getChangeRequest : ∀ change, r.getChangeRequest = .ok change →
    FindsWithin n r STUN_ATTRIBUTE_CHANGEREQUEST
  getPaddingAttributeSize : ∀ size, r.getPaddingAttributeSize = .ok size →
    FindsWithin n r STUN_ATTRIBUTE_PADDING
  getErrorCode : ∀ code, r.getErrorCode = .ok code → FindsWithin n r STUN_ATTRIBUTE_ERRORCODE
  getStringAttributeByType : ∀ attributeType size s,
    attributeType ≠ STUN_ATTRIBUTE_MESSAGEINTEGRITY → attributeType ≠ STUN_ATTRIBUTE_FINGERPRINT →
    r.getStringAttributeByType attributeType size = .ok s → FindsWithin n r attributeType
  getMappedAddress : ∀ addr, r.getMappedAddress = .ok addr →
    FindsWithin n r STUN_ATTRIBUTE_MAPPEDADDRESS
  getOtherAddress : ∀ addr, r.getOtherAddress = .ok addr →
    FindsWithin n r STUN_ATTRIBUTE_OTHER_ADDRESS ∨ FindsWithin n r STUN_ATTRIBUTE_CHANGEDADDRESS
  getXorMappedAddress : ∀ addr, r.getXorMappedAddress = .ok addr →
    FindsWithin n r STUN_ATTRIBUTE_XORMAPPEDADDRESS ∨
      FindsWithin n r STUN_ATTRIBUTE_XORMAPPEDADDRESS_OPTIONAL
  getResponseOriginAddress : ∀ addr, r.getResponseOriginAddress = .ok addr →
    FindsWithin n r STUN_ATTRIBUTE_RESPONSE_ORIGIN ∨ FindsWithin n r STUN_ATTRIBUTE_SOURCEADDRESS

section Within

variable {n : ℕ} {r : CStunMessageReader} {allowLegacy : Bool} {bs : List UInt8}

/-- Every getter looks its attribute up by type. -/
theorem GettersWithin.of_lookup (h : ∀ attributeType a,
    attributeType ≠ STUN_ATTRIBUTE_MESSAGEINTEGRITY → attributeType ≠ STUN_ATTRIBUTE_FINGERPRINT →
    r.mapAttributes.lookup attributeType = some a → Within n a) : GettersWithin n r := by
  -- A getter that returns something has found its attribute, since each fails when there is none.
  have hfind : ∀ {attributeType}, attributeType ≠ STUN_ATTRIBUTE_MESSAGEINTEGRITY →
      attributeType ≠ STUN_ATTRIBUTE_FINGERPRINT →
      r.mapAttributes.lookup attributeType ≠ none → FindsWithin n r attributeType := by
    intro attributeType hmi hfp hne
    obtain ⟨a, ha⟩ := Option.ne_none_iff_exists'.mp hne
    exact ⟨a, by rw [CStunMessageReader.getAttributeByType, ha], h attributeType a hmi hfp ha⟩
  have hhelper : ∀ {attributeType addr}, attributeType ≠ STUN_ATTRIBUTE_MESSAGEINTEGRITY →
      attributeType ≠ STUN_ATTRIBUTE_FINGERPRINT →
      r.getAddressHelper attributeType = .ok addr → FindsWithin n r attributeType := by
    intro attributeType addr hmi hfp haddr
    exact hfind hmi hfp fun hnone => by simp [getAddressHelper, hnone] at haddr
  refine ⟨?_, ?_, ?_, ?_, ?_, ?_, ?_, ?_, ?_, ?_⟩
  · intro attributeType a hmi hfp ha
    cases hl : r.mapAttributes.lookup attributeType with
    | none => simp [CStunMessageReader.getAttributeByType, hl] at ha
    | some b =>
      simp only [CStunMessageReader.getAttributeByType, hl, Except.ok.injEq] at ha
      exact ha ▸ h attributeType b hmi hfp hl
  · intro port hport
    exact hfind (by decide) (by decide) fun hnone => by
      simp [CStunMessageReader.getResponsePort, hnone] at hport
  · intro change hchange
    exact hfind (by decide) (by decide) fun hnone => by
      simp [CStunMessageReader.getChangeRequest, hnone] at hchange
  · intro size hsize
    exact hfind (by decide) (by decide) fun hnone => by
      simp [CStunMessageReader.getPaddingAttributeSize, hnone] at hsize
  · intro code hcode
    exact hfind (by decide) (by decide) fun hnone => by
      simp [CStunMessageReader.getErrorCode, hnone] at hcode
  · intro attributeType size s hmi hfp hs
    exact hfind hmi hfp fun hnone => by
      simp [CStunMessageReader.getStringAttributeByType, hnone] at hs
  · intro addr haddr
    exact hhelper (by decide) (by decide) haddr
  · intro addr haddr
    rw [CStunMessageReader.getOtherAddress] at haddr
    split at haddr
    · exact .inl (hhelper (by decide) (by decide) ‹_›)
    · exact .inr (hhelper (by decide) (by decide) haddr)
  · intro addr haddr
    simp only [CStunMessageReader.getXorMappedAddress] at haddr
    split at haddr
    · exact .inl (hhelper (by decide) (by decide) ‹_›)
    · cases hopt : r.getAddressHelper STUN_ATTRIBUTE_XORMAPPEDADDRESS_OPTIONAL with
      | error hr => rw [hopt] at haddr; cases haddr
      | ok addr => exact .inr (hhelper (by decide) (by decide) hopt)
  · intro addr haddr
    rw [CStunMessageReader.getResponseOriginAddress] at haddr
    split at haddr
    · exact .inl (hhelper (by decide) (by decide) ‹_›)
    · exact .inr (hhelper (by decide) (by decide) haddr)

/-- An attribute that is neither the one nor among those after it is before it. -/
theorem exists_of_append_cons_eq {α : Type} {before after before' after' : List α} {x y : α}
    (h : before ++ x :: after = before' ++ y :: after') (hx : y ≠ x) (hafter : y ∉ after) :
    ∃ rest, before = before' ++ y :: rest := by
  rcases List.append_eq_append_iff.mp h with ⟨l, hl, htail⟩ | ⟨l, hl, htail⟩
  · have hy : y ∈ x :: after := by
      rw [htail]
      simp
    rcases List.mem_cons.mp hy with hxy | hmem
    · exact absurd hxy hx
    · exact absurd hmem hafter
  · cases l with
    | nil =>
      rw [List.nil_append] at htail
      exact absurd (List.cons.inj htail).1 hx
    | cons z l =>
      rw [List.cons_append] at htail
      obtain ⟨rfl, -⟩ := List.cons.inj htail
      exact ⟨l, hl⟩

/-- The getters of a message whose message integrity is last, but for a fingerprint, find what is
before it. -/
theorem Parsed.gettersWithin {before after : List WireAttribute} {mi : WireAttribute}
    (h : Parsed allowLegacy bs (before ++ mi :: after) r)
    (hmi : mi.type = STUN_ATTRIBUTE_MESSAGEINTEGRITY) (hafter : FingerprintAtMost after) :
    GettersWithin (endOfAttributes before) r := by
  refine .of_lookup fun attributeType a hnmi hnfp ha => ?_
  rcases exists_last attributeType (before ++ mi :: after) with
    hnone | ⟨before', t, after', hsplit, rfl, hlast⟩
  · rw [h.lookup_none hnone] at ha
    cases ha
  · obtain ⟨hsize, hoffset⟩ := h.record_toNat hsplit
    have hlookup :=
      (hsplit ▸ h : Parsed allowLegacy bs (before' ++ t :: after') r).lookup_last hlast
    rw [hlookup, Option.some.injEq] at ha
    obtain ⟨rest, rfl⟩ : ∃ rest, before = before' ++ t :: rest := by
      refine exists_of_append_cons_eq hsplit (fun hc => hnmi (hc ▸ hmi)) fun hmem => ?_
      rcases hafter with rfl | ⟨fp, rfl, hfp⟩
      · cases hmem
      · exact hnfp (List.mem_singleton.mp hmem ▸ hfp)
    rw [← ha]
    unfold Within
    rw [hsize, hoffset]
    unfold endOfAttributes STUN_HEADER_SIZE
    rw [Tlv.encodeAll_append, Tlv.encodeAll_cons, List.length_append, List.length_append,
      Tlv.length_encode]
    omega

/-- In a message that validates, the octets compared are the value of the last message integrity,
and the HMAC of the message before it; and whatever a getter can return is in that part of the
message, apart from the message integrity and the fingerprint themselves. -/
theorem validated_covers (D : Digests) (key : List UInt8) (r₀ : CStunMessageReader) (fAllow : Bool)
    (buf : Option CBuffer) (chunks : List (List UInt8))
    (hstate : ((r₀.ready fAllow buf).addChunks chunks).state = .bodyValidated)
    (hvalid : ((r₀.ready fAllow buf).addChunks chunks).validateMessageIntegrity D key = .ok ()) :
    let r := (r₀.ready fAllow buf).addChunks chunks
    ∃ before mi after,
      chunks.flatten.drop STUN_HEADER_SIZE = Tlv.encodeAll (before ++ mi :: after) ∧
      mi.type = STUN_ATTRIBUTE_MESSAGEINTEGRITY ∧ FingerprintAtMost after ∧
      (∃ a, r.getAttributeByType STUN_ATTRIBUTE_MESSAGEINTEGRITY = .ok a ∧
        r.dataAt a.offset.toNat 20 = mi.value) ∧
      mi.value = D.hmacSha1 key
        (covered (decide (after.length = 1)) chunks.flatten (endOfAttributes before)) ∧
      GettersWithin (endOfAttributes before) r := by
  intro r
  obtain ⟨ts, h⟩ := (fed_addChunks fAllow buf r₀ chunks).parsed hstate
  obtain ⟨-, before, mi, after, rfl, hmi, hafter, hvalue⟩ :=
    (h.validateMessageIntegrity_ok_iff D key).mp hvalid
  obtain ⟨-, hoffset⟩ := h.record_toNat rfl
  have hlookup := h.lookup_last fun x hx => hmi ▸ hafter.ne x hx
  have hdata := h.dataAt_value (show before ++ mi :: after = _ from rfl)
  have h20 : mi.value.length = 20 := by rw [hvalue, D.length_hmacSha1]
  refine ⟨before, mi, after, h.body, hmi, hafter, ⟨record (endOfAttributes before + 4, mi), ?_, ?_⟩,
    hvalue, h.gettersWithin hmi hafter⟩
  · rw [CStunMessageReader.getAttributeByType, ← hmi, hlookup]
  · rw [hoffset]
    rwa [h20] at hdata

end Within

/-- A binding request that asks for a response from the other address and port, signed under the
one-letter key: the value of the message integrity is the HMAC-SHA1 of what is before it. -/
def signedRequest : List (List UInt8) :=
  [[0x00, 0x01, 0x00, 0x20] ++ List.replicate 16 0,
    [0x00, 0x03, 0x00, 0x04, 0x00, 0x00, 0x00, 0x06],
    [0x00, 0x08, 0x00, 0x14, 0x9c, 0xf9, 0x31, 0x48, 0x50, 0xdf, 0x6a, 0xe3, 0x63, 0xcb, 0xf3, 0x70,
      0x6c, 0x4e, 0xde, 0x03, 0x11, 0xb5, 0xf1, 0x09]]

/-- `validated_covers` for this request, cut after its header and after the change request, which
the getter reads from what the HMAC covers. -/
theorem validated_covers_changeRequest :
    let r := (({} : CStunMessageReader).ready true none).addChunks signedRequest
    r.getChangeRequest = .ok ⟨true, true⟩ ∧
      ∃ before mi after,
        signedRequest.flatten.drop STUN_HEADER_SIZE = Tlv.encodeAll (before ++ mi :: after) ∧
        mi.type = STUN_ATTRIBUTE_MESSAGEINTEGRITY ∧
        FindsWithin (endOfAttributes before) r STUN_ATTRIBUTE_CHANGEREQUEST := by
  intro r
  have hchange : r.getChangeRequest = .ok ⟨true, true⟩ := by decide +kernel
  obtain ⟨before, mi, after, hbody, hmi, -, -, -, hwithin⟩ :=
    validated_covers
      (.constant (signedRequest.flatten.drop 32) (List.replicate 16 0) 0 (by decide) rfl) [0x61] {}
      true none signedRequest (by decide +kernel) (by decide +kernel)
  exact ⟨hchange, before, mi, after, hbody, hmi, hwithin.getChangeRequest _ hchange⟩

end CStunMessageReader

end Stun
