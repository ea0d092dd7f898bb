import Mathlib.Data.Nat.Basic
import Mathlib.Algebra.Order.Ring.Nat
import Mathlib.Tactic.Ring

/-!
# Words as octets

A word of `n` octets in memory is a list of `n` octets, least significant first on a little-endian
machine (`toLE`) and most significant first on the wire (`toBE`). `ofLE` and `ofBE` read the words
back. `byteSwap` exchanges the two orders on a word's value, as `htons` and `htonl` do on a
little-endian machine: the memory image of a swapped word is the wire image of the word
(`toLE_byteSwap`), and swapping a word read from memory reads it from the wire (`byteSwap_ofLE`).

`overwrite` is the effect of copying a block of octets over a list at a position.
-/

namespace Octets

/-! ## Words -/

/-- The `n` low octets of a number, least significant first. -/
def toLE : ℕ → ℕ → List UInt8
  | 0, _ => []
  | n + 1, x => UInt8.ofNat x :: toLE n (x / 256)

/-- The number whose octets are given least significant first. -/
def ofLE : List UInt8 → ℕ
  | [] => 0
  | b :: bs => b.toNat + 256 * ofLE bs

/-- The `n` low octets of a number, most significant first. -/
def toBE (n x : ℕ) : List UInt8 := (toLE n x).reverse

/-- The number whose octets are given most significant first. -/
def ofBE (bs : List UInt8) : ℕ := ofLE bs.reverse

/-- The number whose `n` octets are those of `x` in the other order. -/
def byteSwap (n x : ℕ) : ℕ := ofBE (toLE n x)

/-- A word of `n` octets has `n` octets. -/
@[simp]
theorem length_toLE (n x : ℕ) : (toLE n x).length = n := by
  induction n generalizing x with
  | zero => rfl
  | succ n ih => simp [toLE, ih]

/-- A word of `n` octets has `n` octets, in either order. -/
@[simp]
theorem length_toBE (n x : ℕ) : (toBE n x).length = n := by simp [toBE]

/-- The number of `n` octets is below `256^n`. -/
theorem ofLE_lt (bs : List UInt8) : ofLE bs < 256 ^ bs.length := by
  induction bs with
  | nil => simp [ofLE]
  | cons b bs ih =>
    have hb : b.toNat < 256 := b.toNat_lt
    have hpow : 256 ^ (bs.length + 1) = 256 * 256 ^ bs.length := by ring
    simp only [ofLE, List.length_cons, hpow]
    omega

/-- The number of `n` octets is below `256^n`, in either order. -/
theorem ofBE_lt (bs : List UInt8) : ofBE bs < 256 ^ bs.length := by
  simpa [ofBE] using ofLE_lt bs.reverse

/-- Reading a word back gives its `n` low octets. -/
theorem ofLE_toLE (n x : ℕ) : ofLE (toLE n x) = x % 256 ^ n := by
  induction n generalizing x with
  | zero => simp [toLE, ofLE, Nat.mod_one]
  | succ n ih =>
    have hpow : 256 ^ (n + 1) = 256 * 256 ^ n := by ring
    simp only [toLE, ofLE, ih, UInt8.toNat_ofNat', hpow, Nat.mod_mul]

/-- Writing the number that octets give writes these octets. -/
theorem toLE_ofLE (bs : List UInt8) : toLE bs.length (ofLE bs) = bs := by
  induction bs with
  | nil => rfl
  | cons b bs ih =>
    have hb : b.toNat < 256 := b.toNat_lt
    have hdiv : (b.toNat + 256 * ofLE bs) / 256 = ofLE bs := by omega
    have hmod : UInt8.ofNat (b.toNat + 256 * ofLE bs) = b := by
      apply UInt8.toNat_inj.mp
      rw [UInt8.toNat_ofNat']
      omega
    simp only [List.length_cons, toLE, ofLE, hdiv, hmod, ih]

/-- Only the `n` low octets of a number are written. -/
theorem toLE_mod (n x : ℕ) : toLE n (x % 256 ^ n) = toLE n x := by
  have h := toLE_ofLE (toLE n x)
  rwa [length_toLE, ofLE_toLE] at h

/-- Only the `n` low octets of a number are written, in either order. -/
theorem toBE_mod (n x : ℕ) : toBE n (x % 256 ^ n) = toBE n x := by
  rw [toBE, toLE_mod, toBE]

/-- Reading a wire word back gives its `n` low octets. -/
theorem ofBE_toBE (n x : ℕ) : ofBE (toBE n x) = x % 256 ^ n := by
  simp [ofBE, toBE, ofLE_toLE]

/-- Writing the number that wire octets give writes these octets. -/
theorem toBE_ofBE (bs : List UInt8) : toBE bs.length (ofBE bs) = bs := by
  have h := toLE_ofLE bs.reverse
  rw [List.length_reverse] at h
  rw [toBE, ofBE, h, List.reverse_reverse]

/-- The memory image of a swapped word is the wire image of the word. -/
theorem toLE_byteSwap (n x : ℕ) : toLE n (byteSwap n x) = toBE n x := by
  have h := toLE_ofLE (toLE n x).reverse
  rwa [List.length_reverse, length_toLE] at h

/-- Swapping a word read from memory reads it from the wire. -/
theorem byteSwap_ofLE (bs : List UInt8) : byteSwap bs.length (ofLE bs) = ofBE bs := by
  rw [byteSwap, toLE_ofLE]

/-! ## Copying over a list -/

section Overwrite

variable {α : Type*}

/-- The list `l` with the block `d` copied over it at position `p`, extended where `d` reaches past
its end. -/
def overwrite (l : List α) (p : ℕ) (d : List α) : List α :=
  l.take p ++ d ++ l.drop (p + d.length)

/-- Copying at the end of a list appends. -/
@[simp]
theorem overwrite_length (l d : List α) : overwrite l l.length d = l ++ d := by
  simp [overwrite]

/-- A copy within a list or over its end leaves the longer of the two. -/
theorem length_overwrite (l d : List α) (p : ℕ) (hp : p ≤ l.length) :
    (overwrite l p d).length = max l.length (p + d.length) := by
  simp only [overwrite, List.length_append, List.length_take, List.length_drop]
  omega

/-- A copy over the middle of a list replaces the middle. -/
theorem overwrite_append (a b c d : List α) (h : d.length = b.length) :
    overwrite (a ++ b ++ c) a.length d = a ++ d ++ c := by
  simp only [overwrite, h]
  rw [List.append_assoc a b c, List.take_left, ← List.append_assoc a b c,
    ← List.length_append, List.drop_left]

/-- A copy within a list does not see what follows the list. -/
theorem overwrite_append_left (l x d : List α) (p : ℕ) (h : p + d.length ≤ l.length) :
    overwrite (l ++ x) p d = overwrite l p d ++ x := by
  simp only [overwrite]
  rw [List.take_append_of_le_length (by omega), List.drop_append_of_le_length h,
    ← List.append_assoc]

/-- Copying the same block again changes nothing. -/
theorem overwrite_overwrite (l d : List α) (p : ℕ) (h : p + d.length ≤ l.length) :
    overwrite (overwrite l p d) p d = overwrite l p d := by
  have hp : (l.take p).length = p := by
    rw [List.length_take]
    omega
  have hagain := overwrite_append (l.take p) d (l.drop (p + d.length)) d rfl
  rwa [hp] at hagain

/-- A copy that starts within the first `n` elements, seen in the first `max n (p + d.length)`
elements of the result, does not depend on what follows them. -/
theorem take_overwrite (l d : List α) (p n : ℕ) (hp : p ≤ n)
    (hd : p + d.length ≤ l.length) :
    (overwrite l p d).take (max n (p + d.length)) = overwrite (l.take n) p d := by
  have hlen : (l.take p ++ d).length = p + d.length := by
    rw [List.length_append, List.length_take]
    omega
  have htake : (l.take n).take p = l.take p := by rw [List.take_take, min_eq_left hp]
  simp only [overwrite, htake]
  rw [List.take_append, List.take_of_length_le (by omega), hlen, List.drop_take]
  congr 2
  omega

end Overwrite

end Octets
