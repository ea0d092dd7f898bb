import StunForAndroid.Common.CTypes

/-!
# Decimal numbers

`atoi`, which reads a number from the start of a string, and the digits that `sprintf` writes for
`%u`. A number below `2^31` is read back (`atoi_decimal`).
-/

namespace Stun

/-- `isspace`. -/
def isspace (c : UInt8) : Bool := (9 ≤ c && c ≤ 13) || c == 32

/-- `isdigit`. -/
def isdigit (c : UInt8) : Bool := 48 ≤ c && c ≤ 57

/-- The number that the digits at the start of a string are. -/
def leadingNumber (cs : List UInt8) : ℕ :=
  (cs.takeWhile isdigit).foldl (fun n c => 10 * n + (c.toNat - 48)) 0

/-- `strtol` to base 10 on a machine where a `long` has 64 bits: a number beyond its range becomes
the nearest one. -/
def strtol (s : CString) : ℤ :=
  match s.chars.dropWhile isspace with
  | 43 :: cs => min (leadingNumber cs) (2 ^ 63 - 1)
  | 45 :: cs => max (-leadingNumber cs) (-2 ^ 63)
  | cs => min (leadingNumber cs) (2 ^ 63 - 1)

/-- `atoi`, which is `strtol` with its result made an `int`. -/
def atoi (s : CString) : ℤ := Int.bmod (strtol s) (2 ^ 32)

/-- The last `k` digits of a number, at most, without leading zeros. -/
def decimalDigits : ℕ → ℕ → List UInt8
  | 0, _ => []
  | k + 1, n =>
    (if n < 10 then [] else decimalDigits k (n / 10)) ++ [UInt8.ofNat (48 + n % 10)]

/-- What `sprintf` writes for `%u`. -/
def decimal (n : UInt32) : List UInt8 := decimalDigits 10 n.toNat

/-- The digits are the characters from `0` to `9`. -/
theorem isdigit_iff {c : UInt8} : isdigit c = true ↔ 48 ≤ c.toNat ∧ c.toNat ≤ 57 := by
  unfold isdigit
  simp [UInt8.le_iff_toNat_le]

/-- The octet of a number below ten is a digit. -/
theorem isdigit_ofNat {d : ℕ} (h : d < 10) : isdigit (UInt8.ofNat (48 + d)) = true := by
  rw [isdigit_iff, UInt8.toNat_ofNat']
  omega

/-- A digit is no white space. -/
theorem isspace_of_isdigit {c : UInt8} (h : isdigit c = true) : isspace c = false := by
  obtain ⟨hlow, -⟩ := isdigit_iff.mp h
  have hne : c ≠ 32 := by
    rintro rfl
    exact absurd hlow (by decide)
  unfold isspace
  simp only [UInt8.le_iff_toNat_le, Bool.or_eq_false_iff, Bool.and_eq_false_iff,
    decide_eq_false_iff_not, beq_eq_false_iff_ne]
  refine ⟨.inr ?_, hne⟩
  show ¬c.toNat ≤ 13
  omega

/-- Only digits are printed. -/
theorem isdigit_of_mem_decimalDigits {k n : ℕ} {c : UInt8} (h : c ∈ decimalDigits k n) :
    isdigit c = true := by
  induction k generalizing n with
  | zero => cases h
  | succ k ih =>
    unfold decimalDigits at h
    rcases List.mem_append.mp h with hinit | hlast
    · split_ifs at hinit
      · cases hinit
      · exact ih hinit
    · obtain rfl := List.mem_singleton.mp hlast
      exact isdigit_ofNat (Nat.mod_lt n (by decide))

/-- No more digits are printed than were asked for. -/
theorem length_decimalDigits_le (k n : ℕ) : (decimalDigits k n).length ≤ k := by
  induction k generalizing n with
  | zero => exact le_rfl
  | succ k ih =>
    unfold decimalDigits
    rw [List.length_append, List.length_singleton]
    split_ifs
    · exact Nat.le_add_left 1 k
    · exact Nat.add_le_add_right (ih (n / 10)) 1

/-- A 32-bit number has at most 10 digits. -/
theorem length_decimal_le (n : UInt32) : (decimal n).length ≤ 10 := length_decimalDigits_le 10 _

/-- At least one digit is printed. -/
theorem decimal_ne_nil (n : UInt32) : decimal n ≠ [] :=
  List.append_ne_nil_of_right_ne_nil _ (List.cons_ne_nil _ _)

/-- The digits are those of the number, when it has no more than were asked for. -/
theorem foldl_decimalDigits {k n : ℕ} (h : n < 10 ^ k) :
    (decimalDigits k n).foldl (fun n c => 10 * n + (c.toNat - 48)) 0 = n := by
  induction k generalizing n with
  | zero =>
    rw [pow_zero, Nat.lt_one_iff] at h
    exact h.symm
  | succ k ih =>
    have hdigit : (UInt8.ofNat (48 + n % 10)).toNat - 48 = n % 10 := by
      rw [UInt8.toNat_ofNat']
      omega
    unfold decimalDigits
    rw [List.foldl_append, List.foldl_cons, List.foldl_nil, hdigit]
    split_ifs with hsmall
    · rw [List.foldl_nil]
      omega
    · rw [ih (by rw [pow_succ] at h; omega)]
      omega

/-- The digits of a number are read back as the number. -/
theorem leadingNumber_decimal (n : UInt32) : leadingNumber (decimal n) = n.toNat := by
  have hall : (decimal n).takeWhile isdigit = decimal n :=
    List.takeWhile_eq_self_iff.mpr fun c hc => isdigit_of_mem_decimalDigits hc
  have hlt := n.toNat_lt
  unfold leadingNumber
  rw [hall]
  exact foldl_decimalDigits (by omega)

/-- A number below `2^31` is read back. -/
theorem atoi_decimal {n : UInt32} {s : CString} (hs : s.chars = decimal n)
    (h : n.toNat < 2 ^ 31) : atoi s = n.toNat := by
  have hnumber := leadingNumber_decimal n
  obtain ⟨c, cs, hcs⟩ := List.exists_cons_of_ne_nil (decimal_ne_nil n)
  have hc : isdigit c = true := isdigit_of_mem_decimalDigits (hcs ▸ List.mem_cons_self)
  -- A digit is neither white space nor a sign, so that the number begins at once.
  have hplus : c ≠ 43 := by
    rintro rfl
    exact absurd hc (by decide)
  have hminus : c ≠ 45 := by
    rintro rfl
    exact absurd hc (by decide)
  have hstrtol : strtol s = min (n.toNat : ℤ) (2 ^ 63 - 1) := by
    unfold strtol
    rw [hs, hcs, List.dropWhile_cons_of_neg (by simp [isspace_of_isdigit hc])]
    rw [hcs] at hnumber
    split
    · exact absurd (List.cons.inj ‹_›).1 hplus
    · exact absurd (List.cons.inj ‹_›).1 hminus
    · rw [hnumber]
  unfold atoi
  rw [hstrtol, min_eq_left (by omega)]
  exact Int.bmod_eq_of_le (by omega) (by omega)

end Stun
