import Mathlib.Algebra.CharP.Two
import Mathlib.Algebra.Field.ZMod
import Mathlib.Algebra.Polynomial.FieldDivision
import Mathlib.Tactic.LinearCombination

/-!
# Shift registers with feedback

A register of `w` bits that takes in a message bit by bit: the bit meets the highest bit of the
register, the register is shifted, and when the two bits differed, the feedback `p` is added to it
(`shiftBit`). Bits are added without carry.

Read as polynomials over the field of two elements, a shift multiplies by `X` and the feedback takes
away a multiple of `X ^ w + p`, so that the register holds the remainder of what it was fed
(`toPoly_shiftBits`). Two things follow. The register is linear, and so it can take in a block of
bits at once (`shiftBits_eq_shiftLeft_xor`), and when the feedback has a lowest bit, two messages
that differ in a burst of at most `w` bits leave different remainders (`shiftBits_ne_of_burst`).
-/

namespace ShiftRegister

open Polynomial

variable {w : ℕ}

/-! ## The register -/

/-- The register `r` with the feedback `p` takes in a bit. -/
def shiftBit (p r : BitVec w) (bit : Bool) : BitVec w :=
  if r.msb ^^ bit then (r <<< 1) ^^^ p else r <<< 1

/-- The register takes in the bits of a message. -/
def shiftBits (p r : BitVec w) (bits : List Bool) : BitVec w := bits.foldl (shiftBit p) r

variable (p r : BitVec w)

@[simp]
theorem shiftBits_nil : shiftBits p r [] = r := rfl

@[simp]
theorem shiftBits_cons (bit : Bool) (bits : List Bool) :
    shiftBits p r (bit :: bits) = shiftBits p (shiftBit p r bit) bits := rfl

theorem shiftBits_append (bits bits' : List Bool) :
    shiftBits p r (bits ++ bits') = shiftBits p (shiftBits p r bits) bits' := List.foldl_append

/-! ## Blocks of bits -/

/-- A shift is linear. -/
theorem shiftBit_xor (r' : BitVec w) (bit bit' : Bool) :
    shiftBit p (r ^^^ r') (bit ^^ bit') = shiftBit p r bit ^^^ shiftBit p r' bit' := by
  unfold shiftBit
  rw [BitVec.msb_xor, BitVec.shiftLeft_xor_distrib]
  generalize r <<< 1 = s, r' <<< 1 = s'
  cases r.msb <;> cases r'.msb <;> cases bit <;> cases bit' <;>
    simp [BitVec.xor_assoc, BitVec.xor_comm p]

/-- A register that holds a sum takes in the bits for one of the terms, and zeros for the other. -/
theorem shiftBits_xor (bits : List Bool) (r' : BitVec w) :
    shiftBits p (r ^^^ r') bits =
      shiftBits p r bits ^^^ shiftBits p r' (List.replicate bits.length false) := by
  induction bits generalizing r r' with
  | nil => rfl
  | cons bit bits ih =>
    rw [List.length_cons, List.replicate_succ, shiftBits_cons, shiftBits_cons, shiftBits_cons, ← ih,
      ← shiftBit_xor, Bool.xor_false]

/-- The first `n` bits of the register, the highest one first. -/
def highBits (n : ℕ) (r : BitVec w) : List Bool := (List.range n).map r.getMsbD

theorem highBits_succ (n : ℕ) : highBits (n + 1) r = r.msb :: highBits n (r <<< 1) := by
  rw [highBits, List.range_succ_eq_map, List.map_cons, List.map_map]
  refine congrArg (_ :: ·) (List.map_congr_left fun i _ => ?_)
  rw [BitVec.getMsbD_shiftLeft]
  rfl

/-- A bit of the message and the highest bit of the register are taken in alike. -/
theorem shiftBit_eq (bit : Bool) :
    shiftBit p r bit = (r <<< 1) ^^^ shiftBit p 0#w (bit ^^ r.msb) := by
  unfold shiftBit
  cases bit <;> cases r.msb <;> simp

/-- A block of bits is taken in at once: what a register of zeros holds after the sums of the bits
with the highest ones of the register is added to the register, shifted. -/
theorem shiftBits_eq_shiftLeft_xor (bits : List Bool) :
    shiftBits p r bits = (r <<< bits.length) ^^^
      shiftBits p 0#w (List.zipWith (· ^^ ·) bits (highBits bits.length r)) := by
  induction bits generalizing r with
  | nil => simp [highBits]
  | cons bit bits ih =>
    have hlen : (List.zipWith (· ^^ ·) bits (highBits bits.length (r <<< 1))).length =
        bits.length := by
      simp [highBits]
    -- The feedback of the first bit goes its own way, as in a register of zeros.
    calc shiftBits p r (bit :: bits)
        = shiftBits p ((r <<< 1) ^^^ shiftBit p 0#w (bit ^^ r.msb)) bits := by
          rw [shiftBits_cons, shiftBit_eq]
      _ = (r <<< 1 <<< bits.length) ^^^ (shiftBits p 0#w
            (List.zipWith (· ^^ ·) bits (highBits bits.length (r <<< 1))) ^^^
              shiftBits p (shiftBit p 0#w (bit ^^ r.msb)) (List.replicate bits.length false)) := by
          rw [shiftBits_xor, ih, BitVec.xor_assoc]
      _ = (r <<< (bits.length + 1)) ^^^ shiftBits p (shiftBit p 0#w (bit ^^ r.msb))
            (List.zipWith (· ^^ ·) bits (highBits bits.length (r <<< 1))) := by
          have hsplit := shiftBits_xor p 0#w
            (List.zipWith (· ^^ ·) bits (highBits bits.length (r <<< 1)))
            (shiftBit p 0#w (bit ^^ r.msb))
          rw [hlen, BitVec.zero_xor] at hsplit
          rw [hsplit, ← BitVec.shiftLeft_add, Nat.add_comm 1]
      _ = _ := by
          rw [List.length_cons, highBits_succ, List.zipWith_cons_cons, shiftBits_cons]

/-! ## Remainders -/

/-- The bit as a coefficient. -/
def coeffOf (bit : Bool) : ZMod 2 := if bit then 1 else 0

theorem coeffOf_xor (bit bit' : Bool) : coeffOf (bit ^^ bit') = coeffOf bit + coeffOf bit' := by
  cases bit <;> cases bit' <;> decide

theorem coeffOf_inj {bit bit' : Bool} (h : coeffOf bit = coeffOf bit') : bit = bit' := by
  revert h
  cases bit <;> cases bit' <;> decide

/-- The bits of the register as coefficients, the lowest bit that of the constant. -/
noncomputable def toPoly (r : BitVec w) : (ZMod 2)[X] :=
  ∑ i ∈ Finset.range w, monomial i (coeffOf (r.getLsbD i))

theorem coeff_toPoly (i : ℕ) : (toPoly r).coeff i = coeffOf (r.getLsbD i) := by
  unfold toPoly
  simp only [finsetSum_coeff, coeff_monomial, Finset.sum_ite_eq', Finset.mem_range]
  by_cases hi : i < w
  · rw [if_pos hi]
  · rw [if_neg hi, BitVec.getLsbD_of_ge _ _ (Nat.le_of_not_lt hi)]
    rfl

theorem toPoly_xor (r' : BitVec w) : toPoly (r ^^^ r') = toPoly r + toPoly r' := by
  ext i
  simp only [coeff_add, coeff_toPoly, BitVec.getLsbD_xor, coeffOf_xor]

theorem degree_toPoly_lt : (toPoly r).degree < w := by
  rw [degree_lt_iff_coeff_zero]
  intro i hi
  rw [coeff_toPoly, BitVec.getLsbD_of_ge _ _ hi]
  rfl

/-- What is shifted out is the coefficient of `X ^ w`. -/
theorem toPoly_shiftLeft_one :
    toPoly (r <<< 1) + C (coeffOf r.msb) * X ^ w = X * toPoly r := by
  ext i
  rw [coeff_add, coeff_toPoly, coeff_C_mul_X_pow, BitVec.getLsbD_shiftLeft]
  cases i with
  | zero =>
    rw [coeff_X_mul_zero]
    rcases Nat.eq_zero_or_pos w with rfl | hw
    · rw [if_pos rfl, BitVec.of_length_zero (x := r)]
      rfl
    · rw [if_neg hw.ne]
      simp [coeffOf]
  | succ i =>
    rw [coeff_X_mul, coeff_toPoly, Nat.add_sub_cancel]
    rcases Nat.lt_trichotomy (i + 1) w with hlt | heq | hgt
    · rw [if_neg hlt.ne]
      simp [hlt]
    · subst heq
      rw [if_pos rfl, BitVec.msb_eq_getLsbD_last]
      simp [coeffOf]
    · rw [if_neg hgt.ne', BitVec.getLsbD_of_ge r i (by omega)]
      simp [coeffOf]

/-- What the feedback takes multiples of away. -/
noncomputable def divisor (p : BitVec w) : (ZMod 2)[X] := X ^ w + toPoly p

theorem monic_divisor : (divisor p).Monic := monic_X_pow_add (degree_toPoly_lt p)

theorem degree_divisor : (divisor p).degree = w := by
  rw [divisor, degree_add_eq_left_of_degree_lt] <;> rw [degree_X_pow]
  exact degree_toPoly_lt p

/-- A shift multiplies by `X`, adds the bit as the coefficient of `X ^ w`, and takes the divisor
away when it fits. -/
theorem toPoly_shiftBit (bit : Bool) : toPoly (shiftBit p r bit) =
    X * toPoly r + C (coeffOf bit) * X ^ w + C (coeffOf (r.msb ^^ bit)) * divisor p := by
  have hshift := toPoly_shiftLeft_one r
  have htwo : ∀ f : (ZMod 2)[X], f + f = 0 := CharTwo.add_self_eq_zero
  have hlow : toPoly (r <<< 1) = X * toPoly r + C (coeffOf r.msb) * X ^ w := by
    rw [← hshift, add_assoc, htwo, add_zero]
  unfold shiftBit
  rw [apply_ite toPoly, toPoly_xor, hlow, coeffOf_xor, C_add, divisor]
  cases r.msb <;> cases bit <;>
    simp only [coeffOf, Bool.xor_true, Bool.xor_false, Bool.not_true, Bool.not_false, if_true,
      Bool.false_eq_true, if_false, C_0, C_1]
  · ring
  · linear_combination -(htwo (X ^ w))
  · ring
  · linear_combination -(htwo (X ^ w + toPoly p))

/-- The bits of a message as coefficients, the last bit that of the constant. -/
noncomputable def message (bits : List Bool) : (ZMod 2)[X] :=
  bits.foldl (fun M bit => X * M + C (coeffOf bit)) 0

theorem message_concat (bits : List Bool) (bit : Bool) :
    message (bits ++ [bit]) = X * message bits + C (coeffOf bit) := by
  rw [message, List.foldl_append]
  rfl

theorem message_append (bits bits' : List Bool) :
    message (bits ++ bits') = X ^ bits'.length * message bits + message bits' := by
  induction bits' using List.reverseRecOn with
  | nil => simp [message]
  | append_singleton bits' bit ih =>
    rw [← List.append_assoc, message_concat, message_concat, ih, List.length_append,
      List.length_singleton]
    ring

theorem degree_message_lt (bits : List Bool) : (message bits).degree < bits.length := by
  induction bits using List.reverseRecOn with
  | nil => simp [message]
  | append_singleton bits bit ih =>
    rw [message_concat, List.length_append, List.length_singleton, degree_lt_iff_coeff_zero]
    intro i hi
    obtain ⟨i, rfl⟩ := Nat.exists_eq_add_of_le' (Nat.le_of_add_left_le hi)
    rw [coeff_add, coeff_X_mul, coeff_C_succ, add_zero]
    exact (degree_lt_iff_coeff_zero _ _).mp ih i (by omega)

/-- Messages of one length are told apart by their polynomials. -/
theorem message_inj {bits bits' : List Bool} (hlen : bits.length = bits'.length)
    (h : message bits = message bits') : bits = bits' := by
  induction bits using List.reverseRecOn generalizing bits' with
  | nil => exact (List.eq_nil_of_length_eq_zero hlen.symm).symm
  | append_singleton bits bit ih =>
    rcases List.eq_nil_or_concat' bits' with rfl | ⟨bits', bit', rfl⟩
    · simp at hlen
    · rw [List.length_append, List.length_append, List.length_singleton, List.length_singleton,
        Nat.add_right_cancel_iff] at hlen
      rw [message_concat, message_concat] at h
      have hlow : coeffOf bit = coeffOf bit' := by
        have h0 := congrArg (coeff · 0) h
        simpa only [coeff_add, coeff_X_mul_zero, coeff_C_zero, zero_add] using h0
      have hhigh : message bits = message bits' := by
        ext i
        have hi := congrArg (coeff · (i + 1)) h
        simpa only [coeff_add, coeff_X_mul, coeff_C_succ, add_zero] using hi
      rw [ih hlen hhigh, coeffOf_inj hlow]

/-- What the register holds is, up to a multiple of the divisor, what it held and the message, each
shifted as far as it was. -/
theorem dvd_shiftBits (bits : List Bool) :
    divisor p ∣ X ^ bits.length * toPoly r + X ^ w * message bits -
      toPoly (shiftBits p r bits) := by
  induction bits using List.reverseRecOn with
  | nil => simp [message]
  | append_singleton bits bit ih =>
    obtain ⟨q, hq⟩ := ih
    rw [shiftBits_append, shiftBits_cons, shiftBits_nil, toPoly_shiftBit, message_concat,
      List.length_append, List.length_singleton]
    refine ⟨X * q - C (coeffOf ((shiftBits p r bits).msb ^^ bit)), ?_⟩
    linear_combination X * hq

/-- The register holds the remainder of what it was fed. -/
theorem toPoly_shiftBits (bits : List Bool) : toPoly (shiftBits p r bits) =
    (X ^ bits.length * toPoly r + X ^ w * message bits) %ₘ divisor p := by
  rw [modByMonic_eq_of_dvd_sub (monic_divisor p) (dvd_shiftBits p r bits),
    (modByMonic_eq_self_iff (monic_divisor p)).mpr]
  rw [degree_divisor]
  exact degree_toPoly_lt _

/-! ## Bursts -/

variable {p}

/-- A divisor with a constant has no factor `X`. -/
theorem isCoprime_divisor (hp : p.getLsbD 0 = true) (n : ℕ) : IsCoprime (divisor p) (X ^ n) := by
  have hw : 0 < w := BitVec.lt_of_getLsbD hp
  refine IsCoprime.pow_right (isCoprime_comm.mp ?_)
  rw [(irreducible_X (R := ZMod 2)).coprime_iff_not_dvd, X_dvd_iff, divisor, coeff_add, coeff_X_pow,
    if_neg hw.ne, coeff_toPoly, hp]
  decide

/-- Two messages that differ in a burst that is not longer than the register leave different
remainders. -/
theorem shiftBits_ne_of_burst (hp : p.getLsbD 0 = true) (before after : List Bool)
    {burst burst' : List Bool} (hlen : burst.length = burst'.length) (hw : burst.length ≤ w)
    (hne : burst ≠ burst') :
    shiftBits p r (before ++ burst ++ after) ≠ shiftBits p r (before ++ burst' ++ after) := by
  intro heq
  apply hne
  have hzero : message burst - message burst' = 0 := by
    refine eq_zero_of_dvd_of_degree_lt (p := divisor p) ?_ ?_
    · -- The messages differ by a multiple of the divisor, and neither `X` nor its powers help.
      have h := dvd_shiftBits p r (before ++ burst ++ after)
      have h' := dvd_shiftBits p r (before ++ burst' ++ after)
      have hsub := dvd_sub h h'
      rw [heq] at hsub
      have hdiff : X ^ (before ++ burst ++ after).length * toPoly r +
            X ^ w * message (before ++ burst ++ after) -
            toPoly (shiftBits p r (before ++ burst' ++ after)) -
          (X ^ (before ++ burst' ++ after).length * toPoly r +
            X ^ w * message (before ++ burst' ++ after) -
            toPoly (shiftBits p r (before ++ burst' ++ after))) =
          X ^ (w + after.length) * (message burst - message burst') := by
        simp only [message_append, List.length_append, hlen]
        ring
      rw [hdiff] at hsub
      exact (isCoprime_divisor hp _).dvd_of_dvd_mul_left hsub
    · rw [degree_divisor]
      calc (message burst - message burst').degree
          ≤ max (message burst).degree (message burst').degree := degree_sub_le _ _
        _ < burst.length := max_lt (degree_message_lt _) (hlen ▸ degree_message_lt _)
        _ ≤ w := by exact_mod_cast hw
  exact message_inj hlen (sub_eq_zero.mp hzero)

/-- The lists have the same length, and differ only within `n` places in a row. -/
def DifferWithin {α : Type*} (n : ℕ) (u v : List α) : Prop :=
  u.length = v.length ∧ ∃ start, ∀ i, u[i]? ≠ v[i]? → start ≤ i ∧ i < start + n

/-- Lists that differ within some places do so in their parts before equally long ones. -/
theorem DifferWithin.of_append {α : Type*} {n : ℕ} {u v u' v' : List α}
    (h : DifferWithin n (u ++ u') (v ++ v')) (hlen : u.length = v.length) : DifferWithin n u v := by
  obtain ⟨-, start, hstart⟩ := h
  refine ⟨hlen, start, fun i hi => hstart i ?_⟩
  rcases Nat.lt_or_ge i u.length with hlt | hge
  · rwa [List.getElem?_append_left hlt, List.getElem?_append_left (hlen ▸ hlt)]
  · rw [List.getElem?_eq_none hge, List.getElem?_eq_none (hlen ▸ hge)] at hi
    exact absurd rfl hi

/-- Lists that differ within `n` places cannot differ both before and behind `n` places or more that
they have in common. -/
theorem DifferWithin.eq_or_eq {α : Type*} {n : ℕ} {u v m u' v' : List α}
    (h : DifferWithin n (u ++ m ++ u') (v ++ m ++ v')) (hlen : u.length = v.length)
    (hm : n ≤ m.length) : u = v ∨ u' = v' := by
  obtain ⟨-, start, hstart⟩ := h
  by_contra hne
  obtain ⟨hne, hne'⟩ := not_or.mp hne
  obtain ⟨i, hi⟩ : ∃ i, u[i]? ≠ v[i]? := not_forall.mp fun hall => hne (List.ext_getElem? hall)
  obtain ⟨j, hj⟩ : ∃ j, u'[j]? ≠ v'[j]? := not_forall.mp fun hall => hne' (List.ext_getElem? hall)
  have hlt : i < u.length := by
    by_contra hge
    rw [List.getElem?_eq_none (Nat.le_of_not_lt hge),
      List.getElem?_eq_none (hlen ▸ Nat.le_of_not_lt hge)] at hi
    exact hi rfl
  have hfirst := hstart i (by
    rwa [List.append_assoc, List.append_assoc, List.getElem?_append_left hlt,
      List.getElem?_append_left (hlen ▸ hlt)])
  have hlast := hstart (u.length + m.length + j) (by
    have hu : (u ++ m).length = u.length + m.length := List.length_append
    have hv : (v ++ m).length = u.length + m.length := by rw [List.length_append, hlen]
    rwa [List.getElem?_append_right (by omega), List.getElem?_append_right (by omega), hu, hv,
      Nat.add_sub_cancel_left])
  omega

/-- Two messages that differ only within as many bits as the register has leave different
remainders. -/
theorem shiftBits_ne_of_differWithin (hp : p.getLsbD 0 = true) {u v : List Bool}
    (h : DifferWithin w u v) (hne : u ≠ v) : shiftBits p r u ≠ shiftBits p r v := by
  obtain ⟨hlen, start, hstart⟩ := h
  have hsplit : ∀ l : List Bool,
      l = l.take start ++ (l.drop start).take w ++ l.drop (start + w) := by
    intro l
    rw [List.append_assoc, ← List.drop_drop, List.take_append_drop, List.take_append_drop]
  have hbefore : u.take start = v.take start := by
    refine List.ext_getElem? fun i => ?_
    rw [List.getElem?_take, List.getElem?_take]
    split
    · by_contra hi
      have := hstart i hi
      omega
    · rfl
  have hafter : u.drop (start + w) = v.drop (start + w) := by
    refine List.ext_getElem? fun i => ?_
    rw [List.getElem?_drop, List.getElem?_drop]
    by_contra hi
    have := hstart _ hi
    omega
  rw [hsplit u, hsplit v, hbefore, hafter]
  refine shiftBits_ne_of_burst r hp _ _ ?_ (List.length_take_le _ _) fun hburst => ?_
  · rw [List.length_take, List.length_take, List.length_drop, List.length_drop, hlen]
  · apply hne
    rw [hsplit u, hsplit v, hbefore, hafter, hburst]

end ShiftRegister
