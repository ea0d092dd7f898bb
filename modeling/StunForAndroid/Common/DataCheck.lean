import StunForAndroid.Lib.Octets
import StunForAndroid.Lib.OnesComplement

/-!
# `dataCheck16`

`src/common/datacheck.cpp`, where an `unsigned long` has 32 bits. The 16-bit words of an array are
added up, what is carried out of the low word of the sum is added to it again until nothing is
carried, and the complement of that word is the checksum.
-/

namespace Stun

open Octets OnesComplement

/-! ## The code -/

/-- The loop that adds up the words, and the octet that is left of an array of odd size. -/
def sumWords : List UInt8 → UInt32 → UInt32
  | lo :: hi :: pData, cksum =>
    sumWords pData (cksum + (UInt16.ofNat (ofLE [lo, hi])).toUInt32)
  | [octet], cksum => cksum + octet.toUInt32
  | [], cksum => cksum

/-- What the body of the second loop makes of the sum. -/
def foldCarry (cksum : UInt32) : UInt32 := (cksum >>> 16) + (cksum &&& 0xffff)

/-- The second loop, when it ends within a number of tests. -/
def foldCarries : ℕ → UInt32 → Option UInt32
  | 0, _ => none
  | tests + 1, cksum =>
    if cksum >>> 16 > 0 then foldCarries tests (foldCarry cksum) else some cksum

/-- `dataCheck16`, when its second loop ends within a number of tests. -/
def dataCheck16 (tests : ℕ) (pData : List UInt8) : Option UInt16 :=
  (foldCarries tests (sumWords pData 0)).map fun cksum => (~~~cksum).toUInt16

/-! ## The sum -/

/-- The 16-bit words of an array of even size. -/
def words : List UInt8 → List ℕ
  | lo :: hi :: pData => ofLE [lo, hi] :: words pData
  | _ => []

/-- A word is below `2^16`. -/
theorem word_le (lo hi : UInt8) : ofLE [lo, hi] ≤ 65535 := by
  have h : ofLE [lo, hi] < 256 ^ 2 := ofLE_lt [lo, hi]
  omega

/-- No word exceeds 65535. -/
theorem le_of_mem_words {pData : List UInt8} {w : ℕ} (h : w ∈ words pData) : w ≤ 65535 := by
  fun_induction words pData with
  | case1 lo hi pData ih =>
    rcases List.mem_cons.mp h with rfl | hmem
    · exact word_le lo hi
    · exact ih hmem
  | case2 => cases h

/-- There is one word for every two octets. -/
theorem length_words (pData : List UInt8) : (words pData).length = pData.length / 2 := by
  fun_induction words pData with
  | case1 lo hi pData ih =>
    simp only [List.length_cons, ih]
    omega
  | case2 pData hshort =>
    match pData with
    | [] => rfl
    | [octet] => simp
    | lo :: hi :: rest => exact absurd rfl (hshort lo hi rest)

/-- The words of two arrays, the first of even length, are those of the first and then those of the
second. -/
theorem words_append {pData rest : List UInt8} (h : Even pData.length) :
    words (pData ++ rest) = words pData ++ words rest := by
  fun_induction words pData with
  | case1 lo hi pData ih =>
    have heven : Even pData.length := by
      rw [List.length_cons, List.length_cons] at h
      simpa [Nat.even_add_one] using h
    rw [List.cons_append, List.cons_append, words, ih heven, List.cons_append]
  | case2 pData hshort =>
    match pData with
    | [] => rfl
    | [_] => simp at h
    | lo :: hi :: rest => exact absurd rfl (hshort lo hi rest)

/-- The loop adds the words, on 32 bits. -/
theorem toNat_sumWords {pData : List UInt8} (h : Even pData.length) (cksum : UInt32) :
    (sumWords pData cksum).toNat = (cksum.toNat + (words pData).sum) % 2 ^ 32 := by
  fun_induction sumWords pData cksum with
  | case1 lo hi pData cksum ih =>
    have heven : Even pData.length := by
      rw [List.length_cons, List.length_cons] at h
      simpa [Nat.even_add_one] using h
    have hword : (UInt16.ofNat (ofLE [lo, hi])).toUInt32.toNat = ofLE [lo, hi] := by
      have hle := word_le lo hi
      rw [UInt16.toNat_toUInt32, UInt16.toNat_ofNat']
      omega
    rw [ih heven, UInt32.toNat_add, hword, words, List.sum_cons]
    omega
  | case2 cksum octet => simp at h
  | case3 cksum =>
    have hlt := cksum.toNat_lt
    simp only [words, List.sum_nil, Nat.add_zero]
    omega

/-- The sum of the words of an array of at most `131074` octets fits the accumulator:
`65535 * 65537` is the largest number that it holds. -/
theorem sum_words_le {pData : List UInt8} (h : pData.length ≤ 131074) :
    (words pData).sum ≤ 65535 * 65537 := by
  have hword : ∀ w ∈ words pData, w ≤ 65535 := fun w hw => le_of_mem_words hw
  have hsum := sum_le_mul hword
  rw [length_words] at hsum
  omega

/-! ## The carries -/

/-- The high word of the sum is its quotient by 65536. -/
theorem toNat_highWord (cksum : UInt32) : (cksum >>> 16).toNat = cksum.toNat / 65536 := by
  rw [UInt32.toNat_shiftRight]
  exact Nat.shiftRight_eq_div_pow cksum.toNat 16

/-- The low word of the sum is its remainder by 65536. -/
theorem toNat_lowWord (cksum : UInt32) : (cksum &&& 0xffff).toNat = cksum.toNat % 65536 := by
  rw [UInt32.toNat_and]
  exact Nat.and_two_pow_sub_one_eq_mod cksum.toNat 16

/-- The body of the loop does not wrap around. -/
theorem toNat_foldCarry (cksum : UInt32) :
    (foldCarry cksum).toNat = endAroundCarry 65535 cksum.toNat := by
  have hlt := cksum.toNat_lt
  rw [foldCarry, UInt32.toNat_add, toNat_highWord, toNat_lowWord, endAroundCarry]
  omega

/-- The loop goes on exactly while the sum exceeds a word. -/
theorem highWord_pos_iff (cksum : UInt32) : cksum >>> 16 > 0 ↔ 65535 < cksum.toNat := by
  have hhigh := toNat_highWord cksum
  rw [gt_iff_lt, UInt32.lt_iff_toNat_lt, hhigh]
  show 0 < cksum.toNat / 65536 ↔ 65535 < cksum.toNat
  omega

/-- The loop ends with a sum that is a word. -/
theorem foldCarries_of_le {cksum : UInt32} (h : cksum.toNat ≤ 65535) (tests : ℕ) :
    foldCarries (tests + 1) cksum = some cksum := by
  rw [foldCarries, if_neg (by rw [highWord_pos_iff]; omega)]

/-- More than a word goes around once more. -/
theorem foldCarries_of_lt {cksum : UInt32} (h : 65535 < cksum.toNat) (tests : ℕ) :
    foldCarries (tests + 1) cksum = foldCarries tests (foldCarry cksum) := by
  rw [foldCarries, if_pos (by rwa [highWord_pos_iff])]

/-- The first carry leaves less than `2^17`, and the second then leaves one word, so that the third
test ends the loop. -/
theorem foldCarries_eq_some {tests : ℕ} (htests : 3 ≤ tests) (cksum : UInt32) :
    ∃ word, foldCarries tests cksum = some word ∧ word.toNat = residue 65535 cksum.toNat := by
  obtain ⟨tests, rfl⟩ := Nat.exists_eq_add_of_le' htests
  have hlt := cksum.toNat_lt
  have hfirst := toNat_foldCarry cksum
  have hsecond := toNat_foldCarry (foldCarry cksum)
  rcases Nat.lt_or_ge 65535 cksum.toNat with hbig | hword
  · rw [foldCarries_of_lt hbig]
    rcases Nat.lt_or_ge 65535 (foldCarry cksum).toNat with hbig' | hword
    -- The high word of the first carry is at most one.
    · have hword : (foldCarry (foldCarry cksum)).toNat ≤ 65535 := by
        rw [hsecond]
        rw [hfirst] at hbig' ⊢
        unfold endAroundCarry at hbig' ⊢
        omega
      rw [foldCarries_of_lt hbig', foldCarries_of_le hword]
      refine ⟨_, rfl, ?_⟩
      rw [← residue_of_le hword, hsecond, residue_endAroundCarry, hfirst, residue_endAroundCarry]
    · rw [foldCarries_of_le hword]
      refine ⟨_, rfl, ?_⟩
      rw [← residue_of_le hword, hfirst, residue_endAroundCarry]
  · rw [foldCarries_of_le hword]
    exact ⟨cksum, rfl, (residue_of_le hword).symm⟩

/-! ## The checksum -/

/-- The checksum of an array that does not overflow the accumulator is the complement of the sum of
its words. -/
theorem dataCheck16_eq_some {tests : ℕ} (htests : 3 ≤ tests) {pData : List UInt8}
    (heven : Even pData.length) (hsum : (words pData).sum < 2 ^ 32) :
    ∃ value, dataCheck16 tests pData = some value ∧
      value.toNat = complement 65535 (words pData).sum := by
  obtain ⟨word, hword, hres⟩ := foldCarries_eq_some htests (sumWords pData 0)
  have htotal : (sumWords pData 0).toNat = (words pData).sum := by
    have hmod := toNat_sumWords heven 0
    rwa [UInt32.toNat_zero, Nat.zero_add, Nat.mod_eq_of_lt hsum] at hmod
  rw [htotal] at hres
  refine ⟨(~~~word).toUInt16, by rw [dataCheck16, hword]; rfl, ?_⟩
  have hle := residue_le (by decide : 0 < 65535) (words pData).sum
  have hsize : UInt32.size = 2 ^ 32 := rfl
  rw [UInt32.toNat_toUInt16, UInt32.toNat_not, hres, complement, hsize]
  omega

/-- A checksum that is stored with its low octet first is one word of the array. -/
theorem words_toLE (value : UInt16) : words (toLE 2 value.toNat) = [value.toNat] := by
  have hlt : value.toNat < 256 ^ 2 := value.toNat_lt
  have hread := ofLE_toLE 2 value.toNat
  rw [Nat.mod_eq_of_lt hlt] at hread
  show [ofLE (toLE 2 value.toNat)] = [value.toNat]
  rw [hread]

/-- An array with its own checksum appended has the checksum zero: the sum goes up to the next
multiple of `65535`, which the accumulator still holds. -/
theorem dataCheck16_append_self {tests : ℕ} (htests : 3 ≤ tests) {pData : List UInt8}
    (heven : Even pData.length) (hlen : pData.length ≤ 131074) {value : UInt16}
    (hvalue : value.toNat = complement 65535 (words pData).sum) :
    dataCheck16 tests (pData ++ toLE 2 value.toNat) = some 0 := by
  have hM : 0 < 65535 := by decide
  have heven' : Even (pData ++ toLE 2 value.toNat).length := by
    rw [List.length_append, length_toLE]
    exact heven.add even_two
  have hsum : (words (pData ++ toLE 2 value.toNat)).sum =
      (words pData).sum + complement 65535 (words pData).sum := by
    rw [words_append heven, words_toLE, List.sum_append, List.sum_singleton, hvalue]
  have hle := add_complement_le hM (by decide : 0 < 65537) (sum_words_le hlen)
  obtain ⟨check, hcheck, hzero⟩ := dataCheck16_eq_some htests heven' (by rw [hsum]; omega)
  rw [hsum, complement, residue_add_complement hM, Nat.sub_self] at hzero
  rw [hcheck, UInt16.toNat_inj.mp (hzero.trans UInt16.toNat_zero.symm)]

/-- The order of the words does not matter. -/
theorem dataCheck16_perm {tests : ℕ} {pData pData' : List UInt8} (heven : Even pData.length)
    (heven' : Even pData'.length) (h : (words pData').Perm (words pData)) :
    dataCheck16 tests pData' = dataCheck16 tests pData := by
  have hsum : sumWords pData' 0 = sumWords pData 0 := by
    rw [← UInt32.toNat_inj, toNat_sumWords heven', toNat_sumWords heven, h.sum_eq]
  rw [dataCheck16, dataCheck16, hsum]

/-- An array of whole words and of at most `131074` octets has a checksum, which the second loop
finds by its third test. With its checksum behind it the array has the checksum zero, and an array
of the same words in another order has the same checksum. -/
theorem dataCheck16_checks {pData : List UInt8} (heven : Even pData.length)
    (hlen : pData.length ≤ 131074) : ∃ value, ∀ tests ≥ 3,
      dataCheck16 tests pData = some value ∧
      dataCheck16 tests (pData ++ toLE 2 value.toNat) = some 0 ∧
      ∀ pData' : List UInt8, Even pData'.length → (words pData').Perm (words pData) →
        dataCheck16 tests pData' = some value := by
  have hfit : (words pData).sum < 2 ^ 32 := Nat.lt_of_le_of_lt (sum_words_le hlen) (by decide)
  obtain ⟨value, -, hvalue⟩ := dataCheck16_eq_some le_rfl heven hfit
  refine ⟨value, fun tests htests => ?_⟩
  obtain ⟨value', hcheck, hvalue'⟩ := dataCheck16_eq_some htests heven hfit
  obtain rfl : value' = value := UInt16.toNat_inj.mp (hvalue'.trans hvalue.symm)
  exact ⟨hcheck, dataCheck16_append_self htests heven hlen hvalue,
    fun pData' heven' hperm => (dataCheck16_perm heven heven' hperm).trans hcheck⟩

/-- `dataCheck16_checks` for three words. -/
theorem dataCheck16_checks_three_words : ∃ value, ∀ tests ≥ 3,
    dataCheck16 tests [1, 2, 3, 4, 5, 6] = some value ∧
    dataCheck16 tests ([1, 2, 3, 4, 5, 6] ++ toLE 2 value.toNat) = some 0 ∧
    ∀ pData' : List UInt8, Even pData'.length → (words pData').Perm (words [1, 2, 3, 4, 5, 6]) →
      dataCheck16 tests pData' = some value :=
  dataCheck16_checks (by decide) (by decide)

end Stun
