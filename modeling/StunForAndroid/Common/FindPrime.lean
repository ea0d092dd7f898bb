import Mathlib.NumberTheory.LucasPrimality
import Mathlib.Tactic.NormNum.Prime
import Mathlib.Tactic.ReduceModChar
import StunForAndroid.Lib.TrialDivision

/-!
# `FindPrime`

The width of a hash table of `src/common/fasthash.cpp`: the least prime from a number on. The loop
over the candidates runs for as many rounds as it is given, and the one over the divisors ends at
the square root, which is the exact one here.

The candidates are `unsigned int` and go on from 1 after the last of them. `findPrime_isLeast` is
for the numbers up to the greatest prime that they reach, and `findPrime_wraps` for the four after
it, for which 1 passes for a prime. So the search ends for every number, and never with 0
(`findPrime_ne_zero`).
-/

namespace Stun

open TrialDivision

/-- The tests of a candidate, from `x` on: `IS_DIVISIBLE_BY` ends them. -/
def isIndivisible (result : UInt32) : ℕ → ℕ → Bool
  | 0, _ => true
  | tests + 1, x => if result.toNat % x = 0 then false else isIndivisible result tests (x + 1)

/-- `fPrime` after the tests of a candidate, which are those from 3 up to `stop`. -/
def fPrime (result : UInt32) : Bool :=
  let stop := result.toNat.sqrt + 1
  isIndivisible result (stop + 1 - 3) 3

/-- The loop over the candidates: every second number from `result` on. -/
def searchPrime : ℕ → UInt32 → Option UInt32
  | 0, _ => none
  | rounds + 1, result => if fPrime result then some result else searchPrime rounds (result + 2)

/-- The first candidate: an even number is incremented. -/
def firstResult (val : UInt32) : UInt32 := if val % 2 = 0 then val + 1 else val

/-- `FindPrime`; `none` when the rounds do not suffice. -/
def findPrime (rounds : ℕ) (val : UInt32) : Option UInt32 :=
  if val ≤ 2 then some 2
  else if val = 3 then some 3
  else searchPrime rounds (firstResult val)

/-- `FastHash_GetHashTableWidth`. -/
def fastHash_GetHashTableWidth (rounds : ℕ) (maxConnections : UInt32) : Option UInt64 :=
  (findPrime rounds maxConnections).map UInt32.toUInt64

/-! ## The tests of a candidate -/

/-- A candidate passes its tests when none of the divisors divides it. -/
theorem isIndivisible_iff (result : UInt32) (tests x : ℕ) :
    isIndivisible result tests x = true ↔ ∀ d, x ≤ d → d < x + tests → ¬d ∣ result.toNat := by
  induction tests generalizing x with
  | zero =>
    simp only [isIndivisible, true_iff]
    intro d hd hlt
    omega
  | succ tests ih =>
    unfold isIndivisible
    split_ifs with hmod
    · simp only [false_iff]
      intro hnone
      exact hnone x le_rfl (by omega) (Nat.dvd_of_mod_eq_zero hmod)
    · rw [ih]
      constructor
      · intro hnone d hd hlt
        rcases Nat.eq_or_lt_of_le hd with rfl | hgt
        · exact fun hdvd => hmod (Nat.mod_eq_zero_of_dvd hdvd)
        · exact hnone d hgt (by omega)
      · intro hnone d hd hlt
        exact hnone d (by omega) (by omega)

/-- The tests of an odd candidate from 5 on decide whether it is prime. -/
theorem fPrime_iff {result : UInt32} (hodd : result.toNat % 2 = 1) (hgt : 3 < result.toNat) :
    fPrime result = true ↔ result.toNat.Prime := by
  have hstop := sqrt_succ_lt hgt
  have hsqrt : 0 < result.toNat.sqrt := Nat.sqrt_pos.mpr (by omega)
  rw [prime_iff_forall_le hodd (by omega) (Nat.le_succ _) hstop, fPrime, isIndivisible_iff]
  -- The tests from 3 on are as many as there are numbers up to `stop`.
  refine forall_congr' fun d => imp_congr_right fun hd => ?_
  have hlast : d < 3 + (result.toNat.sqrt + 1 + 1 - 3) ↔ d ≤ result.toNat.sqrt + 1 := by omega
  rw [hlast]

/-! ## The search -/

/-- The search from an odd candidate finds the least prime from it on, when there is one that the
rounds reach before the candidates wrap around. -/
theorem searchPrime_isLeast {q : ℕ} (hq : q.Prime) (hlt : q < 2 ^ 32) (rounds : ℕ) (result : UInt32)
    (hodd : result.toNat % 2 = 1) (hgt : 3 < result.toNat) (hle : result.toNat ≤ q)
    (hrounds : q < result.toNat + 2 * rounds) :
    ∃ p, searchPrime rounds result = some p ∧ IsLeast (primesFrom result.toNat) p.toNat := by
  induction rounds generalizing result with
  | zero => omega
  | succ rounds ih =>
    unfold searchPrime
    split_ifs with hf
    · exact ⟨result, rfl, isLeast_primesFrom ((fPrime_iff hodd hgt).mp hf)⟩
    · have hnot : ¬result.toNat.Prime := fun hp => hf ((fPrime_iff hodd hgt).mpr hp)
      -- The prime is beyond the candidate, and odd as it is, so the next candidate is not beyond
      -- it.
      have hne : q ≠ result.toNat := fun heq => hnot (heq ▸ hq)
      have hqodd : q % 2 = 1 := hq.eq_two_or_odd.resolve_left (by omega)
      have hnext : (result + 2).toNat = result.toNat + 2 := by
        rw [UInt32.toNat_add]
        exact Nat.mod_eq_of_lt (by show result.toNat + 2 < 2 ^ 32; omega)
      rw [← primesFrom_add_two hodd (by omega) hnot, ← hnext]
      exact ih (result + 2) (by omega) (by omega) (by omega) (by omega)

/-- The search is for the numbers above three. -/
theorem three_lt_iff {val : UInt32} : 3 < val.toNat ↔ ¬val ≤ 2 ∧ ¬val = 3 := by
  have h2 : (2 : UInt32).toNat = 2 := rfl
  have h3 : (3 : UInt32).toNat = 3 := rfl
  rw [UInt32.le_iff_toNat_le, ← UInt32.toNat_inj, h2, h3]
  omega

/-- The first candidate is the number itself, or the next one if that is even. -/
theorem firstResult_toNat {val : UInt32} (hgt : 3 < val.toNat) :
    (firstResult val).toNat = if val.toNat % 2 = 0 then val.toNat + 1 else val.toNat := by
  have hmod : (val % 2).toNat = val.toNat % 2 := UInt32.toNat_mod val 2
  have hzero : (0 : UInt32).toNat = 0 := rfl
  unfold firstResult
  split_ifs with heven hval hval
  · have := val.toNat_lt
    rw [UInt32.toNat_add]
    exact Nat.mod_eq_of_lt (by show val.toNat + 1 < 2 ^ 32; omega)
  · rw [← hmod, heven] at hval
    exact absurd hzero hval
  · rw [← hmod, ← hzero] at hval
    exact absurd (UInt32.toNat_inj.mp hval) heven
  · rfl

/-- The first candidate is odd, and not below the number. -/
theorem firstResult_spec {val : UInt32} (hgt : 3 < val.toNat) :
    (firstResult val).toNat % 2 = 1 ∧ val.toNat ≤ (firstResult val).toNat := by
  have hfirst := firstResult_toNat hgt
  split_ifs at hfirst <;> omega

/-- There is no prime from a number on and before the first candidate. -/
theorem primesFrom_firstResult {val : UInt32} (hgt : 3 < val.toNat) :
    primesFrom (firstResult val).toNat = primesFrom val.toNat := by
  rw [firstResult_toNat hgt]
  split_ifs with heven
  · exact primesFrom_succ (not_prime_of_even heven (by omega))
  · rfl

/-- `FindPrime` finds the least prime from a number on, when there is one that is an
`unsigned int`. -/
theorem findPrime_spec {q : ℕ} (hq : q.Prime) (hlt : q < 2 ^ 32) {val : UInt32}
    (hle : val.toNat ≤ q) {rounds : ℕ} (hrounds : 2 ^ 31 ≤ rounds) :
    ∃ p, findPrime rounds val = some p ∧ IsLeast (primesFrom val.toNat) p.toNat := by
  unfold findPrime
  split_ifs with h2 h3
  · refine ⟨2, rfl, ?_⟩
    rw [primesFrom_of_le_two (UInt32.le_iff_toNat_le.mp h2)]
    exact isLeast_primesFrom Nat.prime_two
  · refine ⟨3, rfl, ?_⟩
    rw [h3]
    exact isLeast_primesFrom Nat.prime_three
  · have hgt := three_lt_iff.mpr ⟨h2, h3⟩
    obtain ⟨hodd, hfirst⟩ := firstResult_spec hgt
    have hprimes := primesFrom_firstResult hgt
    have hmem : q ∈ primesFrom (firstResult val).toNat := hprimes ▸ ⟨hq, hle⟩
    rw [← hprimes]
    -- There are at most 2^31 odd numbers up to the prime, one for each round.
    exact searchPrime_isLeast hq hlt rounds _ hodd (by omega) hmem.2 (by omega)

/-- `FindPrime` finds the least prime from a number on, with as many rounds as there are odd
numbers. -/
theorem findPrime_isLeast {val : UInt32} (hprime : ∃ q : ℕ, q.Prime ∧ val.toNat ≤ q ∧ q < 2 ^ 32) :
    ∃ p, (∀ rounds, 2 ^ 31 ≤ rounds → findPrime rounds val = some p) ∧
      IsLeast (primesFrom val.toNat) p.toNat := by
  obtain ⟨q, hq, hle, hlt⟩ := hprime
  -- The least prime is one, so more rounds find the same.
  obtain ⟨p, -, hp⟩ := findPrime_spec hq hlt hle le_rfl
  refine ⟨p, fun rounds hrounds => ?_, hp⟩
  obtain ⟨p', hfind, hp'⟩ := findPrime_spec hq hlt hle hrounds
  rw [hfind, UInt32.toNat_inj.mp (hp'.unique hp)]

/-! ## The numbers after the last prime -/

/-- The greatest prime that is an `unsigned int`. -/
def greatestPrime : ℕ := 4294967291

/-- The greatest prime below 2^32 is prime: 2 generates the units modulo it. -/
theorem prime_greatestPrime : greatestPrime.Prime := by
  have hfactors : 4294967291 - 1 = 2 * 5 * 19 * 22605091 := by norm_num
  refine lucas_primality 4294967291 2 (by reduce_mod_char) fun q hq hdvd => ?_
  have hmem : q = 2 ∨ q = 5 ∨ q = 19 ∨ q = 22605091 := by
    simpa only [hfactors, hq.dvd_mul, or_assoc,
      Nat.prime_dvd_prime_iff_eq hq (by norm_num : Nat.Prime 2),
      Nat.prime_dvd_prime_iff_eq hq (by norm_num : Nat.Prime 5),
      Nat.prime_dvd_prime_iff_eq hq (by norm_num : Nat.Prime 19),
      Nat.prime_dvd_prime_iff_eq hq (by norm_num : Nat.Prime 22605091)] using hdvd
  rcases hmem with rfl | rfl | rfl | rfl <;> norm_num only <;> reduce_mod_char <;> decide

/-- The numbers between the greatest prime and 2^32 have divisors. -/
theorem not_prime_of_greatestPrime_lt {n : ℕ} (hgt : greatestPrime < n) (hlt : n < 2 ^ 32) :
    ¬n.Prime := by
  unfold greatestPrime at hgt
  obtain rfl | rfl | rfl | rfl :
    n = 4294967292 ∨ n = 4294967293 ∨ n = 4294967294 ∨ n = 4294967295 := by omega
  · exact not_prime_of_even (by norm_num) (by norm_num)
  · exact Nat.not_prime_of_dvd_of_lt (by norm_num : 9241 ∣ 4294967293) (by norm_num) (by norm_num)
  · exact not_prime_of_even (by norm_num) (by norm_num)
  · exact Nat.not_prime_of_dvd_of_lt (by norm_num : 3 ∣ 4294967295) (by norm_num) (by norm_num)

/-- There is a prime from a number on that is an `unsigned int` up to the greatest one. -/
theorem exists_prime_iff (n : ℕ) :
    (∃ q : ℕ, q.Prime ∧ n ≤ q ∧ q < 2 ^ 32) ↔ n ≤ greatestPrime := by
  constructor
  · rintro ⟨q, hq, hle, hlt⟩
    exact hle.trans (Nat.le_of_not_lt fun hgt => not_prime_of_greatestPrime_lt hgt hlt hq)
  · intro hle
    exact ⟨greatestPrime, prime_greatestPrime, hle, by norm_num [greatestPrime]⟩

/-- A candidate after the greatest prime fails its tests. -/
theorem searchPrime_of_greatestPrime_lt (rounds : ℕ) {result : UInt32} (hodd : result.toNat % 2 = 1)
    (hgt : greatestPrime < result.toNat) :
    searchPrime (rounds + 1) result = searchPrime rounds (result + 2) := by
  have hthree : 3 < result.toNat := lt_trans (by decide) hgt
  have hnot : ¬fPrime result = true := fun hf =>
    not_prime_of_greatestPrime_lt hgt result.toNat_lt ((fPrime_iff hodd hthree).mp hf)
  exact if_neg hnot

/-- After the greatest prime the candidates wrap around to 1, which no divisor is tested for. -/
theorem searchPrime_wraps (rounds : ℕ) {result : UInt32} (hodd : result.toNat % 2 = 1)
    (hgt : greatestPrime < result.toNat) : searchPrime (rounds + 3) result = some 1 := by
  -- The tests of 1 would go from 3 to 2, so there are none.
  have hone : ∀ rounds, searchPrime (rounds + 1) 1 = some 1 := by
    intro rounds
    simp [searchPrime, fPrime, isIndivisible]
  have hlast : ∀ rounds, searchPrime (rounds + 2) 4294967295 = some 1 := by
    intro rounds
    rw [searchPrime_of_greatestPrime_lt _ (by decide) (by decide)]
    exact hone rounds
  obtain hresult | hresult : result.toNat = 4294967293 ∨ result.toNat = 4294967295 := by
    have hlt := result.toNat_lt
    unfold greatestPrime at hgt
    omega
  · obtain rfl : result = 4294967293 := UInt32.toNat_inj.mp hresult
    rw [searchPrime_of_greatestPrime_lt _ hodd hgt]
    exact hlast rounds
  · obtain rfl : result = 4294967295 := UInt32.toNat_inj.mp hresult
    exact hlast (rounds + 1)

/-- `FindPrime` of a number after the greatest prime is 1. -/
theorem findPrime_wraps {val : UInt32} (hgt : greatestPrime < val.toNat) {rounds : ℕ}
    (hrounds : 2 ^ 31 ≤ rounds) : findPrime rounds val = some 1 := by
  have hthree : 3 < val.toNat := lt_trans (by decide) hgt
  obtain ⟨hodd, hfirst⟩ := firstResult_spec hthree
  obtain ⟨h2, h3⟩ := three_lt_iff.mp hthree
  obtain ⟨rounds, rfl⟩ := Nat.exists_eq_add_of_le' (le_trans (by norm_num : 3 ≤ 2 ^ 31) hrounds)
  rw [findPrime, if_neg h2, if_neg h3]
  exact searchPrime_wraps rounds hodd (hgt.trans_le hfirst)

/-- `FindPrime` ends for every number, and never with 0. -/
theorem findPrime_ne_zero (val : UInt32) :
    ∃ p, p ≠ 0 ∧ ∀ rounds, 2 ^ 31 ≤ rounds → findPrime rounds val = some p := by
  rcases Nat.lt_or_ge greatestPrime val.toNat with hgt | hle
  · exact ⟨1, by decide, fun rounds hrounds => findPrime_wraps hgt hrounds⟩
  · obtain ⟨p, hfind, hp⟩ := findPrime_isLeast ((exists_prime_iff _).mpr hle)
    refine ⟨p, fun h0 => ?_, hfind⟩
    have hpos := hp.1.1.pos
    rw [h0] at hpos
    exact absurd hpos (by decide)

end Stun
