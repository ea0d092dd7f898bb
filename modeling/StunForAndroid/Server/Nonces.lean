import Mathlib.Data.Set.Function
import StunForAndroid.Common.Decimal
import StunForAndroid.Common.Digests
import StunForAndroid.Common.HResult

/-!
# The nonces of `CLongTermAuth`

`CreateNonce` and `ValidateNonce` of `src/server/sampleauthprovider.cpp`. A nonce is the time in
decimal, a colon, and the HMAC of the time in hexadecimal. What is signed when a nonce is made has
the colon at its end, and what is signed when it is checked does not, so that `ValidateNonce`
accepts none of the nonces that were made (`nonces_disagree`), and others that were not.

What `time` returns is a parameter, and so is HMAC-SHA1.
-/

namespace Stun

/-- `:` -/
def colon : UInt8 := 58

/-- A digit of `%x`. -/
def hexDigit (n : ℕ) : UInt8 := UInt8.ofNat (if n < 10 then 48 + n else 87 + n)

/-- What `sprintf` writes for `%.2x`. -/
def hex2 (b : UInt8) : List UInt8 := [hexDigit (b.toNat / 16), hexDigit (b.toNat % 16)]

/-- Different numbers below 16 have different digits. -/
theorem hexDigit_inj {m n : ℕ} (hm : m < 16) (hn : n < 16) (h : hexDigit m = hexDigit n) :
    m = n := by
  have hnat := congrArg UInt8.toNat h
  unfold hexDigit at hnat
  rw [UInt8.toNat_ofNat', UInt8.toNat_ofNat'] at hnat
  split_ifs at hnat <;> omega

/-- An octet is read off its digits. -/
theorem hex2_inj {b c : UInt8} (h : hex2 b = hex2 c) : b = c := by
  have hb := b.toNat_lt
  have hc := c.toNat_lt
  simp only [hex2, List.cons.injEq, and_true] at h
  have hhigh := hexDigit_inj (by omega) (by omega) h.1
  have hlow := hexDigit_inj (Nat.mod_lt _ (by decide)) (Nat.mod_lt _ (by decide)) h.2
  exact UInt8.toNat_inj.mp (by omega)

/-- No digit is a zero character. -/
theorem hexDigit_ne_zero {n : ℕ} (hn : n < 16) : hexDigit n ≠ 0 := by
  intro h
  have hnat := congrArg UInt8.toNat h
  unfold hexDigit at hnat
  rw [UInt8.toNat_ofNat'] at hnat
  split_ifs at hnat <;> simp at hnat <;> omega

namespace CLongTermAuth

/-- `c_szPrivateKey`, `Change this string if you are going to use this code`. -/
def c_szPrivateKey : CString :=
  ⟨[67, 104, 97, 110, 103, 101, 32, 116, 104, 105, 115, 32, 115, 116, 114, 105, 110, 103, 32, 105,
    102, 32, 121, 111, 117, 32, 97, 114, 101, 32, 103, 111, 105, 110, 103, 32, 116, 111, 32, 117,
    115, 101, 32, 116, 104, 105, 115, 32, 99, 111, 100, 101], by decide⟩

/-- `HmacToString`. -/
def hmacToString (hmacresult : List UInt8) : List UInt8 := hmacresult.flatMap hex2

/-- `HMAC` of a text under the private key. -/
def sign (D : Digests) (text : List UInt8) : List UInt8 := D.hmacSha1 c_szPrivateKey.chars text

/-- What `CreateNonce` writes at a time. -/
def nonceChars (D : Digests) (thetime : ℤ) : List UInt8 :=
  let szTime := decimal (UInt32.ofInt thetime) ++ [colon]
  szTime ++ hmacToString (sign D szTime)

/-- The octets of a digest are read off their digits. -/
theorem hmacToString_inj {bs cs : List UInt8} (h : hmacToString bs = hmacToString cs) :
    bs = cs := by
  induction bs generalizing cs with
  | nil =>
    cases cs with
    | nil => rfl
    | cons c cs => simp [hmacToString, hex2] at h
  | cons b bs ih =>
    cases cs with
    | nil => simp [hmacToString, hex2] at h
    | cons c cs =>
      rw [hmacToString, hmacToString, List.flatMap_cons, List.flatMap_cons] at h
      obtain ⟨hfirst, hrest⟩ := List.append_inj h rfl
      rw [hex2_inj hfirst, ih hrest]

/-- Every octet has two digits. -/
theorem length_hmacToString (bs : List UInt8) : (hmacToString bs).length = 2 * bs.length := by
  induction bs with
  | nil => rfl
  | cons b bs ih =>
    rw [hmacToString] at ih ⊢
    rw [List.flatMap_cons, List.length_append, ih, List.length_cons, Nat.mul_succ, Nat.add_comm]
    rfl

/-- A digest has 40 digits. -/
theorem length_hmacToString_sign (D : Digests) (text : List UInt8) :
    (hmacToString (sign D text)).length = 40 := by
  rw [length_hmacToString, sign, D.length_hmacSha1]

/-- No zero character is written. -/
theorem zero_notMem_hmacToString (bs : List UInt8) : 0 ∉ hmacToString bs := by
  intro h
  obtain ⟨b, -, hb⟩ := List.mem_flatMap.mp h
  have hlt := b.toNat_lt
  simp only [hex2, List.mem_cons, List.not_mem_nil, or_false] at hb
  rcases hb with hb | hb
  · exact hexDigit_ne_zero (by omega) hb.symm
  · exact hexDigit_ne_zero (Nat.mod_lt _ (by decide)) hb.symm

/-- Decimal digits are neither zero characters nor colons. -/
theorem notMem_decimal (n : UInt32) {c : UInt8} (hc : isdigit c = false) : c ∉ decimal n := by
  intro h
  rw [isdigit_of_mem_decimalDigits h] at hc
  cases hc

/-- `CreateNonce` at a time. -/
def createNonce (D : Digests) (thetime : ℤ) : CString where
  chars := nonceChars D thetime
  nul_free := by
    unfold nonceChars
    simp only [List.mem_append, List.mem_singleton, not_or]
    exact ⟨⟨notMem_decimal _ (by decide), by decide⟩, zero_notMem_hmacToString _⟩

/-- What `ValidateNonce` has of a string before the first colon, of at most 99 characters. -/
def leftHalf (pszNonce : CString) : CString where
  chars := (pszNonce.chars.take 99).takeWhile (· ≠ colon)
  nul_free := fun h =>
    pszNonce.nul_free (List.mem_of_mem_take ((List.takeWhile_sublist _).mem h))

/-- `ValidateNonce` at a time. -/
def validateNonce (D : Digests) (thecurrenttime : ℤ) (pszNonce : CString) : HRESULT :=
  match (pszNonce.chars.take 99).dropWhile (· ≠ colon) with
  | [] => E_FAIL
  | _ :: rightHalf =>
    let szNonce := leftHalf pszNonce
    let thetime := atoi szNonce
    let diff := thecurrenttime - thetime
    if diff > 120 ∨ diff < 0 then E_FAIL
    else if hmacToString (sign D szNonce.chars) ≠ rightHalf then E_FAIL
    else S_OK

/-- The signatures of texts of at most 11 octets differ. -/
def CollisionFree (D : Digests) : Prop := Set.InjOn (sign D) {text | text.length ≤ 11}

/-- `ValidateNonce` splits a string at its first colon. -/
theorem splits_iff {cs left right : List UInt8} :
    cs.takeWhile (· ≠ colon) = left ∧ cs.dropWhile (· ≠ colon) = colon :: right ↔
      cs = left ++ colon :: right ∧ colon ∉ left := by
  constructor
  · rintro ⟨rfl, hright⟩
    refine ⟨?_, fun hmem => by simpa using List.mem_takeWhile_imp hmem⟩
    rw [← hright, List.takeWhile_append_dropWhile]
  · rintro ⟨rfl, hleft⟩
    have hall : ∀ c ∈ left, (decide (c ≠ colon)) = true := by
      intro c hc
      exact decide_eq_true fun heq => hleft (heq ▸ hc)
    rw [List.takeWhile_append_of_pos hall, List.dropWhile_append_of_pos hall]
    simp

/-- `ValidateNonce` accepts a time that is not too old and not to come, with the signature of its
text. -/
theorem validateNonce_eq_ok_iff {D : Digests} {now : ℤ} {s : CString} :
    validateNonce D now s = S_OK ↔ ∃ left : CString, colon ∉ left.chars ∧
      s.chars.take 99 = left.chars ++ colon :: hmacToString (sign D left.chars) ∧
      0 ≤ now - atoi left ∧ now - atoi left ≤ 120 := by
  have hfail : E_FAIL ≠ S_OK := by decide
  unfold validateNonce
  constructor
  · intro h
    split at h
    · exact absurd h hfail
    next c right hdrop =>
      -- The loop over the left half stopped at a colon.
      have hc : c = colon := by
        have hhead := List.head?_dropWhile_not (· ≠ colon) (s.chars.take 99)
        rw [hdrop] at hhead
        simpa using hhead
      subst hc
      dsimp only at h
      by_cases hdiff : now - atoi (leftHalf s) > 120 ∨ now - atoi (leftHalf s) < 0
      · rw [if_pos hdiff] at h
        exact absurd h hfail
      rw [if_neg hdiff] at h
      by_cases hsign : hmacToString (sign D (leftHalf s).chars) = right
      · obtain ⟨hsplit, hleft⟩ := splits_iff.mp ⟨rfl, hdrop⟩
        exact ⟨leftHalf s, hleft, hsign ▸ hsplit, by omega, by omega⟩
      · rw [if_pos hsign] at h
        exact absurd h hfail
  · rintro ⟨left, hleft, hsplit, hlow, hhigh⟩
    obtain ⟨htake, hdrop⟩ := splits_iff.mpr ⟨hsplit, hleft⟩
    have hhalf : leftHalf s = left := by
      obtain ⟨chars, h⟩ := left
      exact CString.mk.injEq .. ▸ htake
    rw [hdrop]
    dsimp only
    rw [hhalf, if_neg (by omega), if_neg (not_not_intro rfl)]

/-- A text that is checked, without the colon that ended it when it was signed. -/
theorem nonceChars_split (D : Digests) (t : ℤ) : nonceChars D t =
    decimal (UInt32.ofInt t) ++ colon :: hmacToString
    (sign D (decimal (UInt32.ofInt t) ++ [colon])) := by
  simp [nonceChars]

/-- A nonce is short enough not to be cut. -/
theorem take_nonceChars (D : Digests) (t : ℤ) : (nonceChars D t).take 99 = nonceChars D t := by
  apply List.take_of_length_le
  have hdecimal := length_decimal_le (UInt32.ofInt t)
  rw [nonceChars_split, List.length_append, List.length_cons, length_hmacToString_sign]
  omega

/-- No nonce that was made is accepted. -/
theorem validateNonce_createNonce {D : Digests} (hfree : CollisionFree D) (t now : ℤ) :
    validateNonce D now (createNonce D t) ≠ S_OK := by
  intro h
  obtain ⟨left, hleft, hsplit, -, -⟩ := validateNonce_eq_ok_iff.mp h
  rw [createNonce, take_nonceChars, nonceChars_split] at hsplit
  -- Both are split at the first colon.
  obtain ⟨htake, hdrop⟩ := splits_iff.mpr ⟨hsplit, hleft⟩
  obtain ⟨htake', hdrop'⟩ := splits_iff.mpr
    ⟨rfl, notMem_decimal (UInt32.ofInt t) (c := colon) (by decide)⟩
  have hchars : decimal (UInt32.ofInt t) = left.chars := htake'.symm.trans htake
  have hdigits := List.tail_eq_of_cons_eq (hdrop'.symm.trans hdrop)
  rw [← hchars] at hdigits
  have hlen := length_decimal_le (UInt32.ofInt t)
  have htext := hfree (by simp; omega) (by simp; omega) (hmacToString_inj hdigits)
  exact absurd (congrArg List.length htext) (by simp)

/-- The nonce that would be accepted at a time: its text is signed without the colon. -/
def acceptableNonce (D : Digests) (now : ℤ) : CString where
  chars := decimal (UInt32.ofInt now) ++
    colon :: hmacToString (sign D (decimal (UInt32.ofInt now)))
  nul_free := by
    simp only [List.mem_append, List.mem_cons, not_or]
    exact ⟨notMem_decimal _ (by decide), by decide, zero_notMem_hmacToString _⟩

/-- The nonce that is accepted has 64 characters at most. -/
theorem strlen_acceptableNonce_le (D : Digests) (now : ℤ) :
    (acceptableNonce D now).strlen ≤ 64 := by
  have hdecimal := length_decimal_le (UInt32.ofInt now)
  rw [CString.strlen, acceptableNonce, List.length_append, List.length_cons,
    length_hmacToString_sign]
  omega

/-- The acceptable nonce is accepted. -/
theorem validateNonce_acceptableNonce (D : Digests) {now : ℤ} (hnow : 0 ≤ now)
    (hlt : now < 2 ^ 31) :
    validateNonce D now (acceptableNonce D now) = S_OK := by
  have hatoi : ∀ left : CString, left.chars = decimal (UInt32.ofInt now) → atoi left = now := by
    intro left hleft
    have hnat : ((UInt32.ofInt now).toNat : ℤ) = now := by
      rw [UInt32.ofInt, UInt32.toNat_ofNat']
      omega
    rw [atoi_decimal hleft (by omega), hnat]
  have hlen := strlen_acceptableNonce_le D now
  refine validateNonce_eq_ok_iff.mpr
    ⟨⟨decimal (UInt32.ofInt now), notMem_decimal _ (by decide)⟩, notMem_decimal _ (by decide),
      ?_, ?_, ?_⟩
  · rw [List.take_of_length_le (by unfold CString.strlen at hlen; omega)]
    rfl
  · rw [hatoi _ rfl]
    omega
  · rw [hatoi _ rfl]
    omega

/-- What is issued and what is accepted have nothing in common: no nonce that was made is accepted
at any time, and at every time there is a string of at most 64 characters that is accepted and was
not made. -/
theorem nonces_disagree {D : Digests} (hfree : CollisionFree D) :
    (∀ t now, validateNonce D now (createNonce D t) ≠ S_OK) ∧
      (∀ now s, validateNonce D now s = S_OK → ∀ t, s ≠ createNonce D t) ∧
      ∀ now, 0 ≤ now → now < 2 ^ 31 → ∃ s, s.strlen ≤ 64 ∧ validateNonce D now s = S_OK := by
  refine ⟨validateNonce_createNonce hfree, fun now s hs t heq => ?_, fun now hnow hlt => ?_⟩
  · exact validateNonce_createNonce hfree t now (heq ▸ hs)
  · exact ⟨acceptableNonce D now, strlen_acceptableNonce_le D now,
      validateNonce_acceptableNonce D hnow hlt⟩

/-- Digests where a message of at most 19 octets is its own HMAC, after its length. -/
def readableDigests : Digests where
  hmacSha1 := fun _ message => fixedArray 20 (UInt8.ofNat message.length :: message)
  length_hmacSha1 := fun _ _ => length_fixedArray _ _
  md5 := fun _ => List.replicate 16 0
  length_md5 := fun _ => List.length_replicate
  crc32 := fun _ => 0

/-- The readable digests are free of collisions. -/
theorem collisionFree_readableDigests : CollisionFree readableDigests := by
  intro text htext text' htext' h
  rw [Set.mem_ofPred_eq] at htext htext'
  have hread : ∀ l : List UInt8, l.length ≤ 11 →
      sign readableDigests l = UInt8.ofNat l.length :: (l ++ List.replicate (19 - l.length) 0) := by
    intro l hl
    show (UInt8.ofNat l.length :: (l ++ List.replicate 20 0)).take 20 = _
    rw [List.take_succ_cons, List.take_append, List.take_of_length_le (by omega),
      List.take_replicate, Nat.min_eq_left (by omega)]
  rw [hread text htext, hread text' htext', List.cons.injEq] at h
  have hlen := congrArg UInt8.toNat h.1
  rw [UInt8.toNat_ofNat', UInt8.toNat_ofNat', Nat.mod_eq_of_lt (by omega),
    Nat.mod_eq_of_lt (by omega)] at hlen
  exact (List.append_inj h.2 hlen).1

/-- With these digests the nonce of the second 1000 is not accepted in that second. -/
theorem createNonce_not_accepted : CollisionFree readableDigests ∧
    validateNonce readableDigests 1000 (createNonce readableDigests 1000) = E_FAIL :=
  ⟨collisionFree_readableDigests, by decide⟩

/-- `nonces_disagree` for digests that can be read. -/
theorem nonces_disagree_readable :
    (∀ t now, validateNonce readableDigests now (createNonce readableDigests t) ≠ S_OK) ∧
      (∀ now s, validateNonce readableDigests now s = S_OK →
        ∀ t, s ≠ createNonce readableDigests t) ∧
      ∀ now, 0 ≤ now → now < 2 ^ 31 →
        ∃ s, s.strlen ≤ 64 ∧ validateNonce readableDigests now s = S_OK :=
  nonces_disagree collisionFree_readableDigests

end CLongTermAuth

end Stun
