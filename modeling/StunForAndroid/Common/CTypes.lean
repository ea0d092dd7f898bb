import Mathlib.Data.List.TakeWhile
import Mathlib.Tactic.NormNum
import StunForAndroid.Lib.Octets

/-!
# Byte order, character strings, and fixed arrays

The parts of the C library that the program relies on: the byte-order functions of a little-endian
machine, strings that end at their first zero character, and arrays of a fixed size.
-/

namespace Stun

open Octets

/-! ## Byte order -/

/-- `htons`. -/
def htons (x : UInt16) : UInt16 := UInt16.ofNat (byteSwap 2 x.toNat)

/-- `ntohs`. -/
def ntohs (x : UInt16) : UInt16 := htons x

/-- `htonl`. -/
def htonl (x : UInt32) : UInt32 := UInt32.ofNat (byteSwap 4 x.toNat)

/-- `ntohl`. -/
def ntohl (x : UInt32) : UInt32 := htonl x

/-- Swapping keeps a word within its octets. -/
theorem byteSwap_lt (n x : ℕ) : byteSwap n x < 256 ^ n := by
  have h := ofBE_lt (toLE n x)
  rwa [length_toLE] at h

/-- The memory image of `htons x` is the wire image of `x`. -/
@[simp]
theorem toLE_htons (x : UInt16) : toLE 2 (htons x).toNat = toBE 2 x.toNat := by
  have hlt : byteSwap 2 x.toNat < 2 ^ 16 := byteSwap_lt 2 x.toNat
  rw [htons, UInt16.toNat_ofNat', Nat.mod_eq_of_lt hlt, toLE_byteSwap]

/-- The memory image of `htonl x` is the wire image of `x`. -/
@[simp]
theorem toLE_htonl (x : UInt32) : toLE 4 (htonl x).toNat = toBE 4 x.toNat := by
  have hlt : byteSwap 4 x.toNat < 2 ^ 32 := byteSwap_lt 4 x.toNat
  rw [htonl, UInt32.toNat_ofNat', Nat.mod_eq_of_lt hlt, toLE_byteSwap]

/-- `ntohs` of two octets in memory reads them from the wire. -/
theorem ntohs_ofLE {bs : List UInt8} (h : bs.length = 2) :
    ntohs (UInt16.ofNat (ofLE bs)) = UInt16.ofNat (ofBE bs) := by
  have hlt : ofLE bs < 2 ^ 16 := by
    have := ofLE_lt bs
    rw [h] at this
    omega
  have hswap := byteSwap_ofLE bs
  rw [h] at hswap
  rw [ntohs, htons, UInt16.toNat_ofNat', Nat.mod_eq_of_lt hlt, hswap]

/-- `ntohl` of four octets in memory reads them from the wire. -/
theorem ntohl_ofLE {bs : List UInt8} (h : bs.length = 4) :
    ntohl (UInt32.ofNat (ofLE bs)) = UInt32.ofNat (ofBE bs) := by
  have hlt : ofLE bs < 2 ^ 32 := by
    have := ofLE_lt bs
    rw [h] at this
    omega
  have hswap := byteSwap_ofLE bs
  rw [h] at hswap
  rw [ntohl, htonl, UInt32.toNat_ofNat', Nat.mod_eq_of_lt hlt, hswap]

/-- The memory image of a word read from memory. -/
theorem toLE_ofNat_ofLE_two {bs : List UInt8} (h : bs.length = 2) :
    toLE 2 (UInt16.ofNat (ofLE bs)).toNat = bs := by
  have hlt := ofLE_lt bs
  have hle := toLE_ofLE bs
  rw [h] at hlt hle
  rw [UInt16.toNat_ofNat', Nat.mod_eq_of_lt (by simpa using hlt), hle]

/-- The memory image of a long word read from memory. -/
theorem toLE_ofNat_ofLE_four {bs : List UInt8} (h : bs.length = 4) :
    toLE 4 (UInt32.ofNat (ofLE bs)).toNat = bs := by
  have hlt := ofLE_lt bs
  have hle := toLE_ofLE bs
  rw [h] at hlt hle
  rw [UInt32.toNat_ofNat', Nat.mod_eq_of_lt (by simpa using hlt), hle]

/-- The wire image of a word read from the wire. -/
theorem toBE_ofNat_ofBE_two {bs : List UInt8} (h : bs.length = 2) :
    toBE 2 (UInt16.ofNat (ofBE bs)).toNat = bs := by
  have hlt := ofBE_lt bs
  have hbe := toBE_ofBE bs
  rw [h] at hlt hbe
  rw [UInt16.toNat_ofNat', Nat.mod_eq_of_lt (by simpa using hlt), hbe]

/-- A word on the wire is the number modulo `2^16`. -/
theorem toBE_toNat_ofNat (x : ℕ) : toBE 2 (UInt16.ofNat x).toNat = toBE 2 x := by
  rw [UInt16.toNat_ofNat']
  exact toBE_mod 2 x

/-- A word is read back from its wire image. -/
theorem ofNat_ofBE_toBE (x : UInt16) : UInt16.ofNat (ofBE (toBE 2 x.toNat)) = x := by
  have hlt : x.toNat < 256 ^ 2 := x.toNat_lt
  rw [ofBE_toBE, Nat.mod_eq_of_lt hlt, UInt16.ofNat_toNat]

/-- `ntohs` undoes `htons`. -/
@[simp]
theorem ntohs_htons (x : UInt16) : ntohs (htons x) = x := by
  have h := ntohs_ofLE (length_toLE 2 (htons x).toNat)
  have hlt : (htons x).toNat < 256 ^ 2 := (htons x).toNat_lt
  rwa [ofLE_toLE, Nat.mod_eq_of_lt hlt, UInt16.ofNat_toNat, toLE_htons, ofNat_ofBE_toBE] at h

/-- `htons` undoes `ntohs`. -/
@[simp]
theorem htons_ntohs (x : UInt16) : htons (ntohs x) = x := ntohs_htons x

/-! ## Character strings -/

/-- A string that a `char*` points to, without the zero character that ends it. -/
structure CString where
  /-- The characters. -/
  chars : List UInt8
  /-- The first zero character ends the string. -/
  nul_free : 0 ∉ chars
deriving DecidableEq

namespace CString

/-- The empty string has no zero character. -/
theorem nul_free_nil : (0 : UInt8) ∉ ([] : List UInt8) := List.not_mem_nil

/-- `strlen`. -/
def strlen (s : CString) : ℕ := s.chars.length

/-- The string at the start of an array that holds a zero character. -/
def ofArray (buf : List UInt8) : CString where
  chars := buf.takeWhile (· ≠ 0)
  nul_free := fun h => by simpa using List.mem_takeWhile_imp h

/-- The characters of a string followed by a zero character read as the string. -/
theorem ofArray_append_zero (s : CString) (rest : List UInt8) :
    ofArray (s.chars ++ 0 :: rest) = s := by
  obtain ⟨chars, h⟩ := s
  have hall : ∀ c ∈ chars, (c ≠ 0) = true := by
    intro c hc
    simp only [ne_eq, eq_iff_iff, iff_true]
    rintro rfl
    exact h hc
  simp only [ofArray, mk.injEq]
  rw [List.takeWhile_append_of_pos (by simpa using hall)]
  simp

end CString

/-! ## Fixed arrays -/

/-- The array of `n` octets after `memcpy` of `l` to its start. An array that `l` does not fill is
zero behind `l`. -/
def fixedArray (n : ℕ) (l : List UInt8) : List UInt8 := (l ++ List.replicate n 0).take n

/-- An array has its size. -/
@[simp]
theorem length_fixedArray (n : ℕ) (l : List UInt8) : (fixedArray n l).length = n := by
  simp [fixedArray]

/-- An array that is filled holds what it is filled with. -/
theorem fixedArray_of_length {n : ℕ} {l : List UInt8} (h : l.length = n) : fixedArray n l = l := by
  subst h
  simp [fixedArray]

end Stun
