import Mathlib.Data.Nat.Basic
import Mathlib.Algebra.Order.BigOperators.Group.List
import Mathlib.Tactic.Ring

/-!
# Sums with end-around carry

Arithmetic modulo `M` with digits to base `M + 1`, as checksums do it: what is carried out of the
low digit is added to it again (`endAroundCarry`), until nothing is carried. What is left is the
number's residue modulo `M`, where a multiple of `M` is left as `M` and not as zero (`residue`).
Only zero itself is left as zero. The complement of the residue brings a number to the next multiple
of `M` (`add_complement_le`), and so a sum that its own complement is added to is left as `M`
(`residue_add_complement`).
-/

namespace OnesComplement

variable {M : ℕ}

/-- What is carried, added to the low digit. -/
def endAroundCarry (M n : ℕ) : ℕ := n / (M + 1) + n % (M + 1)

/-- The residue of a number modulo `M` that is positive when the number is. -/
def residue (M n : ℕ) : ℕ := if n = 0 then 0 else (n - 1) % M + 1

/-- What the residue falls short of the largest digit. -/
def complement (M n : ℕ) : ℕ := M - residue M n

/-- The carry takes away a multiple of `M`. -/
theorem endAroundCarry_add (M n : ℕ) : endAroundCarry M n + M * (n / (M + 1)) = n := by
  have hdiv := Nat.div_add_mod n (M + 1)
  unfold endAroundCarry
  calc n / (M + 1) + n % (M + 1) + M * (n / (M + 1))
      = (M + 1) * (n / (M + 1)) + n % (M + 1) := by ring
    _ = n := hdiv

/-- The carry does not make a positive number zero. -/
theorem endAroundCarry_pos {n : ℕ} (h : 0 < n) : 0 < endAroundCarry M n := by
  rcases Nat.eq_zero_or_pos (endAroundCarry M n) with hzero | hpos
  · have hadd := endAroundCarry_add M n
    obtain ⟨hquot, -⟩ := Nat.add_eq_zero_iff.mp hzero
    rw [hzero, hquot, Nat.mul_zero] at hadd
    omega
  · exact hpos

/-- A multiple of `M` does not change the residue of a positive number. -/
theorem residue_add_mul {n : ℕ} (h : 0 < n) (k : ℕ) : residue M (n + M * k) = residue M n := by
  have hpred : n + M * k - 1 = n - 1 + M * k := by omega
  unfold residue
  rw [if_neg (by omega), if_neg (by omega), hpred, Nat.add_mul_mod_self_left]

/-- The end-around carry keeps the residue. -/
theorem residue_endAroundCarry (M n : ℕ) : residue M (endAroundCarry M n) = residue M n := by
  rcases Nat.eq_zero_or_pos n with rfl | hpos
  · simp [endAroundCarry]
  · have hcarry : 0 < endAroundCarry M n := endAroundCarry_pos hpos
    have h := residue_add_mul (M := M) hcarry (n / (M + 1))
    rw [endAroundCarry_add] at h
    exact h.symm

/-- A digit is its own residue. -/
theorem residue_of_le {n : ℕ} (h : n ≤ M) : residue M n = n := by
  unfold residue
  split_ifs with hzero
  · exact hzero.symm
  · rw [Nat.mod_eq_of_lt (by omega)]
    omega

/-- A residue is a digit. -/
theorem residue_le (hM : 0 < M) (n : ℕ) : residue M n ≤ M := by
  have hmod := Nat.mod_lt (n - 1) hM
  unfold residue
  split_ifs <;> omega

/-- A number and the complement of its residue are a multiple of `M`, and a positive one. -/
theorem add_complement (hM : 0 < M) (n : ℕ) : ∃ k, n + complement M n = M + M * k := by
  rcases Nat.eq_zero_or_pos n with rfl | hpos
  · exact ⟨0, by simp [complement, residue]⟩
  · refine ⟨(n - 1) / M, ?_⟩
    have hle := residue_le hM n
    have hdiv := Nat.div_add_mod (n - 1) M
    unfold complement
    unfold residue at hle ⊢
    rw [if_neg (by omega)] at hle ⊢
    omega

/-- The complement brings a number to the next multiple of `M`, and not beyond. -/
theorem add_complement_le (hM : 0 < M) {n k : ℕ} (hk : 0 < k) (h : n ≤ M * k) :
    n + complement M n ≤ M * k := by
  obtain ⟨j, hj⟩ := add_complement hM n
  have hsucc : n + complement M n = M * (j + 1) := by rw [hj, Nat.mul_succ, Nat.add_comm]
  rw [hsucc]
  refine Nat.mul_le_mul_left M ?_
  by_contra hlt
  -- A multiple beyond the next one would leave a complement that is no digit.
  rcases Nat.eq_zero_or_pos n with rfl | hpos
  · have hcomp : complement M 0 = M := by simp [complement, residue]
    rw [hcomp, Nat.zero_add] at hsucc
    have hone : j + 1 = 1 := Nat.eq_of_mul_eq_mul_left hM (by rw [← hsucc, Nat.mul_one])
    omega
  · have hcomp : complement M n < M := by
      have hres : 0 < residue M n := by
        unfold residue
        rw [if_neg (by omega)]
        exact Nat.succ_pos _
      unfold complement
      omega
    have hmul : M * k ≤ M * j := Nat.mul_le_mul_left M (by omega)
    omega

/-- A number and the complement of its residue leave the largest digit. -/
theorem residue_add_complement (hM : 0 < M) (n : ℕ) : residue M (n + complement M n) = M := by
  obtain ⟨k, hk⟩ := add_complement hM n
  rw [hk, residue_add_mul hM, residue_of_le le_rfl]

/-- A sum of digits is at most as many times the largest digit. -/
theorem sum_le_mul {l : List ℕ} (h : ∀ d ∈ l, d ≤ M) : l.sum ≤ M * l.length := by
  have hsum := List.sum_le_card_nsmul l M h
  rwa [nsmul_eq_mul, Nat.cast_id, Nat.mul_comm] at hsum

end OnesComplement
