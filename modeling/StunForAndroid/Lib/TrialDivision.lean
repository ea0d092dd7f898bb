import Mathlib.Data.Nat.Prime.Basic
import Mathlib.Order.Bounds.Basic

/-!
# The least prime from a number on

A search for a prime that starts at `n` looks for the least element of `primesFrom n`. A number that
is not prime can be skipped, and from an odd number on so can every even one (`primesFrom_add_two`),
so that the search keeps the set it looks into while its candidate grows.

Trial division of an odd number by 3, 4, 5 and so on decides whether it is prime when the last
divisor is neither below its square root nor the number itself (`prime_iff_forall_le`).
-/

namespace TrialDivision

/-- The primes from `n` on. -/
def primesFrom (n : ℕ) : Set ℕ := {q | q.Prime ∧ n ≤ q}

/-- A prime is the least one from itself on. -/
theorem isLeast_primesFrom {n : ℕ} (hn : n.Prime) : IsLeast (primesFrom n) n :=
  ⟨⟨hn, le_rfl⟩, fun _ hq => hq.2⟩

/-- There is no prime below 2. -/
theorem primesFrom_of_le_two {n : ℕ} (hn : n ≤ 2) : primesFrom n = primesFrom 2 := by
  ext q
  exact ⟨fun hq => ⟨hq.1, hq.1.two_le⟩, fun hq => ⟨hq.1, hn.trans hq.2⟩⟩

/-- A number that is not prime can be skipped. -/
theorem primesFrom_succ {n : ℕ} (hn : ¬n.Prime) : primesFrom (n + 1) = primesFrom n := by
  ext q
  refine ⟨fun hq => ⟨hq.1, by have := hq.2; omega⟩, fun hq => ⟨hq.1, ?_⟩⟩
  have hne : q ≠ n := fun heq => hn (heq ▸ hq.1)
  have := hq.2
  omega

/-- An even number from 4 on is not prime. -/
theorem not_prime_of_even {n : ℕ} (heven : n % 2 = 0) (hn : 2 < n) : ¬n.Prime := by
  intro hp
  rcases hp.eq_two_or_odd with h2 | hodd <;> omega

/-- From an odd number that is not prime on, the next odd number is as good a start. -/
theorem primesFrom_add_two {n : ℕ} (hodd : n % 2 = 1) (hn : 1 < n) (hnot : ¬n.Prime) :
    primesFrom (n + 2) = primesFrom n := by
  have heven : ¬(n + 1).Prime := not_prime_of_even (by omega) (by omega)
  calc
    primesFrom (n + 2) = primesFrom (n + 1) := primesFrom_succ heven
    _ = primesFrom n := primesFrom_succ hnot

/-- From 4 on, one more than the square root of a number is still below it. -/
theorem sqrt_succ_lt {n : ℕ} (hn : 3 < n) : n.sqrt + 1 < n := by
  have hle : n.sqrt * n.sqrt ≤ n := Nat.sqrt_le n
  rcases Nat.lt_or_ge n.sqrt 2 with hlt | hge
  · omega
  · have hdouble : 2 * n.sqrt ≤ n.sqrt * n.sqrt := Nat.mul_le_mul_right _ hge
    omega

/-- An odd number is prime if and only if it has no divisor from 3 up to a bound that is at least
its square root, and below it. -/
theorem prime_iff_forall_le {n stop : ℕ} (hodd : n % 2 = 1) (hn : 1 < n) (hsqrt : n.sqrt ≤ stop)
    (hstop : stop < n) : n.Prime ↔ ∀ d, 3 ≤ d → d ≤ stop → ¬d ∣ n := by
  constructor
  · -- A prime's only divisors are 1 and itself, and the bound stops before it.
    intro hp d hd hle hdvd
    rcases (Nat.dvd_prime hp).mp hdvd with h1 | hself <;> omega
  · intro hnone
    refine Nat.prime_def_le_sqrt.mpr ⟨hn, fun d hd hle hdvd => ?_⟩
    rcases Nat.eq_or_lt_of_le hd with htwo | hthree
    · -- An odd number has no even divisor.
      subst htwo
      omega
    · exact hnone d hthree (hle.trans hsqrt) hdvd

end TrialDivision
