import Mathlib.Data.List.Range
import Mathlib.Order.Filter.AtTopBot.Basic

/-!
# Runs without an end

A schedule says which action comes at which time, and the run of a step function takes them one
after the other. That something happens again and again is `∃ᶠ n in atTop`, and the fairness of a
schedule is stated with it. Two rules carry an argument from there to what comes about: what holds
until an action that happens again and again still holds when that happens next
(`exists_of_frequently`), and a number that always goes up from below a bound reaches the bound
(`exists_le_of_lt`).
-/

namespace Fairness

open Filter

variable {σ α : Type*}

/-- The states of a run. -/
def states (step : σ → α → σ) (start : σ) (actions : ℕ → α) : ℕ → σ
  | 0 => start
  | n + 1 => step (states step start actions n) (actions n)

section Run

variable {step : σ → α → σ} {start : σ} {actions : ℕ → α}

/-- A state of a run is what the actions before it lead to. -/
theorem states_eq_foldl (n : ℕ) :
    states step start actions n = ((List.range n).map actions).foldl step start := by
  induction n with
  | zero => rfl
  | succ n ih =>
    rw [List.range_succ, List.map_append, List.foldl_append, ← ih]
    rfl

/-- What every step keeps holds from any time on. -/
theorem holds_from {P : σ → Prop} {n : ℕ} (hn : P (states step start actions n))
    (hstep : ∀ k ≥ n, P (states step start actions k) →
      P (states step start actions (k + 1))) {m : ℕ}
    (hm : n ≤ m) : P (states step start actions m) := by
  induction m, hm using Nat.le_induction with
  | base => exact hn
  | succ k hk ih => exact hstep k hk ih

end Run

/-- What holds until an action that happens again and again holds when it happens next. -/
theorem exists_of_frequently {P A : ℕ → Prop} (hA : ∃ᶠ n in atTop, A n) {n : ℕ} (hn : P n)
    (huntil : ∀ k ≥ n, P k → ¬A k → P (k + 1)) : ∃ k ≥ n, P k ∧ A k := by
  classical
  have hex : ∃ k, n ≤ k ∧ A k := frequently_atTop.mp hA n
  obtain ⟨hle, hfirst⟩ := Nat.find_spec hex
  refine ⟨Nat.find hex, hle, ?_, hfirst⟩
  -- Up to the first time of the action it has not happened.
  have hholds : ∀ k, n ≤ k → k ≤ Nat.find hex → P k := by
    intro k hk
    induction k, hk using Nat.le_induction with
    | base => exact fun _ => hn
    | succ k hk ih =>
      intro hlt
      exact huntil k hk (ih (Nat.le_of_succ_le hlt)) fun hAk => Nat.find_min hex hlt ⟨hk, hAk⟩
  exact hholds _ hle le_rfl

/-- A number that from below a bound always goes up some time reaches the bound. -/
theorem exists_le_of_lt {f : ℕ → ℤ} {N : ℤ} {n : ℕ}
    (hgoes : ∀ k ≥ n, f k < N → ∃ m ≥ k, f k < f m) : ∃ m ≥ n, N ≤ f m := by
  obtain ⟨gap, hgap⟩ := Int.eq_ofNat_of_zero_le (le_max_right (N - f n) 0)
  induction gap using Nat.strong_induction_on generalizing n with
  | h gap ih =>
    by_cases hlt : f n < N
    · obtain ⟨k, hk, hup⟩ := hgoes n le_rfl hlt
      obtain ⟨m, hm, hle⟩ := ih (max (N - f k) 0).toNat (by omega)
        (fun j hj => hgoes j (hk.trans hj)) (by omega)
      exact ⟨m, hk.trans hm, hle⟩
    · exact ⟨n, le_rfl, not_lt.mp hlt⟩

end Fairness
