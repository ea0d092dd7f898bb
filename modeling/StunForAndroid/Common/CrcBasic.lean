import StunForAndroid.Common.Crc
import StunForAndroid.Lib.ShiftRegister

/-!
# `boost::crc_basic`

`src/boost/crc.hpp` has two classes: `crc_basic` divides bit by bit, with the polynomial and the
other parameters chosen at run time, and `crc_optimal`, which `crc_32_type` is, keeps its remainder
reflected and takes an octet at a time from a table. Both are a shift register
(`CrcBasic.processBytes_eq`, `CrcOptimal.reverse_processBytes`), and with the same parameters they
have the same remainder, that of a division of polynomials, and the same checksum
(`crcOptimal_agrees`).
-/

namespace Stun

open ShiftRegister Polynomial

/-- `crc_basic<32>`. -/
structure CrcBasic where
  rem : UInt32
  poly : UInt32
  final : UInt32
  rftIn : Bool
  rftOut : Bool

namespace CrcBasic

/-- The constructor. -/
def new (truncatedPolynominal initialRemainder finalXorValue : UInt32)
    (reflectInput reflectRemainder : Bool) : CrcBasic where
  rem := initialRemainder
  poly := truncatedPolynominal
  final := finalXorValue
  rftIn := reflectInput
  rftOut := reflectRemainder

/-- `masking_type::high_bit`. -/
def highBitMask : UInt32 := 0x80000000

/-- `masking_type::sig_bits`. -/
def sigBits : UInt32 := 0xffffffff

/-- `get_interim_remainder`. -/
def getInterimRemainder (c : CrcBasic) : UInt32 := c.rem &&& sigBits

/-- `process_bit`. -/
def processBit (c : CrcBasic) (bit : Bool) : CrcBasic :=
  let rem := c.rem ^^^ (if bit then highBitMask else 0)
  let doPolyDiv := rem &&& highBitMask ≠ 0
  let rem := rem <<< 1
  { c with rem := if doPolyDiv then rem ^^^ c.poly else rem }

/-- The loop of `process_bits`, from its upper bit on. -/
def processUpperBits : ℕ → UInt8 → CrcBasic → CrcBasic
  | 0, _, c => c
  | i + 1, bits, c => processUpperBits i (bits <<< 1) (c.processBit (bits &&& 0x80 ≠ 0))

/-- `process_bits`, of the lower bits. -/
def processBits (bits : UInt8) (bitCount : ℕ) (c : CrcBasic) : CrcBasic :=
  processUpperBits bitCount (bits <<< UInt8.ofNat (8 - bitCount)) c

/-- `process_byte`. -/
def processByte (c : CrcBasic) (byte : UInt8) : CrcBasic :=
  c.processBits (if c.rftIn then (CrcOptimal.reflect 8 byte.toUInt32).toUInt8 else byte) 8

/-- `process_bytes`. -/
def processBytes (bytes : List UInt8) (c : CrcBasic) : CrcBasic := bytes.foldl processByte c

/-- `checksum`. -/
def checksum (c : CrcBasic) : UInt32 :=
  ((if c.rftOut then CrcOptimal.reflect 32 c.rem else c.rem) ^^^ c.final) &&& sigBits

end CrcBasic

namespace CrcOptimal

/-- `get_interim_remainder` of `crc_32_type`. -/
def getInterimRemainder (rem : UInt32) : UInt32 := reflect 32 rem &&& CrcBasic.sigBits

/-- `crc_basic` with the parameters of `crc_32_type`. -/
def basic (initRem : UInt32) : CrcBasic := CrcBasic.new TruncPoly initRem FinalXor true true

end CrcOptimal

/-! ## Bits of words -/

/-- A mask of one bit tests that bit. -/
theorem and_twoPow_ne_zero_iff {w : ℕ} (x : BitVec w) {i : ℕ} (hi : i < w) :
    x &&& BitVec.twoPow w i ≠ 0#w ↔ x.getLsbD i = true := by
  have hne : BitVec.twoPow w i ≠ 0#w := by
    intro hzero
    have hbit := congrArg (·.getLsbD i) hzero
    simp [hi] at hbit
  rw [BitVec.and_twoPow]
  cases x.getLsbD i <;> simp [hne]

theorem and_highBitMask_ne_zero_iff (x : UInt32) :
    x &&& CrcBasic.highBitMask ≠ 0 ↔ x.toBitVec.msb = true := by
  rw [Ne, ← UInt32.toBitVec_inj, UInt32.toBitVec_and, BitVec.msb_eq_getLsbD_last]
  exact and_twoPow_ne_zero_iff x.toBitVec (by decide : 31 < 32)

/-- What `process_bit` and the loop of `init_table` do with a bit is what the shift register
does. -/
theorem toBitVec_divide (poly rem : UInt32) (bit : Bool) :
    (let rem := rem ^^^ (if bit then CrcBasic.highBitMask else 0)
      if rem &&& CrcBasic.highBitMask ≠ 0 then (rem <<< 1) ^^^ poly else rem <<< 1).toBitVec =
      shiftBit poly.toBitVec rem.toBitVec bit := by
  have hmsb : ∀ r : UInt32, (r ^^^ (if bit then CrcBasic.highBitMask else 0)).toBitVec.msb =
      (r.toBitVec.msb ^^ bit) := by
    intro r
    rw [UInt32.toBitVec_xor, BitVec.msb_xor]
    cases bit <;> rfl
  -- The mask itself is shifted out.
  have hshift : ((rem ^^^ (if bit then CrcBasic.highBitMask else 0)) <<< 1).toBitVec =
      rem.toBitVec <<< 1 := by
    have hmask : (if bit then CrcBasic.highBitMask else 0).toBitVec <<< 1 = 0#32 := by
      cases bit <;> rfl
    calc ((rem ^^^ (if bit then CrcBasic.highBitMask else 0)) <<< 1).toBitVec
        = (rem.toBitVec ^^^ (if bit then CrcBasic.highBitMask else 0).toBitVec) <<< 1 := rfl
      _ = rem.toBitVec <<< 1 := by rw [BitVec.shiftLeft_xor_distrib, hmask, BitVec.xor_zero]
  dsimp only
  unfold shiftBit
  simp only [and_highBitMask_ne_zero_iff, hmsb]
  cases hbit : rem.toBitVec.msb ^^ bit
  · exact hshift
  · rw [if_pos rfl, if_pos rfl, UInt32.toBitVec_xor, hshift]

namespace CrcOptimal

/-- After some iterations of `reflect` the bits that have been passed are in their places. -/
theorem reflectBit_foldl {bits : ℕ} (hbits : bits ≤ 32) (x : UInt32) (k : ℕ) (hk : k ≤ bits) :
    let state := (List.range k).foldl (reflectBit bits) (0, x)
    state.2.toBitVec = x.toBitVec >>> k ∧ ∀ i, state.1.toBitVec.getLsbD i =
      (decide (i < bits ∧ bits - 1 - i < k) && x.toBitVec.getLsbD (bits - 1 - i)) := by
  induction k with
  | zero => simp
  | succ k ih =>
    obtain ⟨hrest, hplaced⟩ := ih (Nat.le_of_succ_le hk)
    rw [List.range_succ, List.foldl_append, List.foldl_cons, List.foldl_nil]
    generalize (List.range k).foldl (reflectBit bits) (0, x) = state at hrest hplaced
    obtain ⟨reflection, rest⟩ := state
    dsimp only at hrest hplaced
    have hbit : rest &&& 1 ≠ 0 ↔ x.toBitVec.getLsbD k = true := by
      rw [Ne, ← UInt32.toBitVec_inj, UInt32.toBitVec_and, hrest]
      refine (and_twoPow_ne_zero_iff _ (by decide : 0 < 32)).trans ?_
      rw [BitVec.getLsbD_ushiftRight, Nat.add_zero]
    have hplace : (1 <<< UInt32.ofNat (bits - 1 - k) : UInt32).toBitVec =
        BitVec.twoPow 32 (bits - 1 - k) := by
      have hmod : (bits - 1 - k) % 2 ^ 32 % 32 = bits - 1 - k := by omega
      rw [UInt32.toBitVec_shiftLeft, BitVec.shiftLeft_eq', BitVec.twoPow_eq]
      exact congrArg (1#32 <<< ·) hmod
    unfold reflectBit
    dsimp only
    refine ⟨?_, fun i => ?_⟩
    · calc (rest >>> 1).toBitVec = rest.toBitVec >>> 1 := rfl
        _ = x.toBitVec >>> (k + 1) := by rw [hrest, BitVec.shiftRight_add]
    · -- The bit goes to the place of its mirror image.
      by_cases hi : i < bits ∧ bits - 1 - i = k
      · obtain ⟨hlt, rfl⟩ := hi
        have hback : bits - 1 - (bits - 1 - i) = i := by omega
        rw [hback] at hplace
        by_cases hx : x.toBitVec.getLsbD (bits - 1 - i) = true
        · rw [if_pos (hbit.mpr hx), UInt32.toBitVec_or, BitVec.getLsbD_or, hback, hplace, hx,
            BitVec.getLsbD_twoPow]
          simp [hlt, Nat.lt_of_lt_of_le hlt hbits]
        · rw [if_neg (hbit.not.mpr hx), hplaced, Bool.eq_false_of_not_eq_true hx, Bool.and_false,
            Bool.and_false]
      · have hother : (i < bits ∧ bits - 1 - i < k + 1) ↔ (i < bits ∧ bits - 1 - i < k) := by omega
        have hsame : (if rest &&& 1 ≠ 0 then reflection ||| (1 <<< UInt32.ofNat (bits - 1 - k))
            else reflection).toBitVec.getLsbD i = reflection.toBitVec.getLsbD i := by
          split
          · rw [UInt32.toBitVec_or, BitVec.getLsbD_or, hplace, BitVec.getLsbD_twoPow,
              decide_eq_false (show bits - 1 - k ≠ i by omega), Bool.and_false, Bool.or_false]
          · rfl
        rw [hsame, hplaced, decide_eq_decide.mpr hother]

/-- Reflecting puts the lower bits of a value in the opposite order. -/
theorem getLsbD_reflect {bits : ℕ} (hbits : bits ≤ 32) (x : UInt32) (i : ℕ) :
    (reflect bits x).toBitVec.getLsbD i =
      (decide (i < bits) && x.toBitVec.getLsbD (bits - 1 - i)) := by
  have hall : (i < bits ∧ bits - 1 - i < bits) ↔ i < bits := by omega
  rw [reflect, (reflectBit_foldl hbits x bits le_rfl).2 i, decide_eq_decide.mpr hall]

/-- Reflecting a whole word puts all of its bits in the opposite order. -/
theorem toBitVec_reflect (x : UInt32) : (reflect 32 x).toBitVec = x.toBitVec.reverse := by
  apply BitVec.eq_of_getLsbD_eq
  intro i _
  rw [getLsbD_reflect le_rfl, BitVec.getLsbD_reverse, BitVec.getMsbD]

/-- A reflected octet is an octet. -/
theorem toNat_reflect_lt (x : UInt32) : (reflect 8 x).toNat < 256 := by
  refine Nat.lt_pow_two_of_testBit (n := 8) _ fun i hi => ?_
  rw [← UInt32.toNat_toBitVec, BitVec.testBit_toNat, getLsbD_reflect (by decide),
    decide_eq_false (Nat.not_lt.mpr hi), Bool.false_and]

/-- Reflecting an octet twice gives the octet. -/
theorem reflect_reflect {x : UInt32} (hx : x.toNat < 256) : reflect 8 (reflect 8 x) = x := by
  rw [← UInt32.toBitVec_inj]
  apply BitVec.eq_of_getLsbD_eq
  intro i _
  rw [getLsbD_reflect (by decide), getLsbD_reflect (by decide)]
  by_cases hi : i < 8
  · have hback : 8 - 1 - (8 - 1 - i) = i := by omega
    simp [hi, hback]
    intro h
    omega
  · have hpow : 2 ^ 8 ≤ 2 ^ i := Nat.pow_le_pow_right Nat.two_pos (Nat.le_of_not_lt hi)
    have hzero : x.toBitVec.getLsbD i = false := by
      rw [← BitVec.testBit_toNat]
      exact Nat.testBit_lt_two_pow (Nat.lt_of_lt_of_le hx hpow)
    simp [hi, hzero]

end CrcOptimal

/-! ## Octets -/

/-- The bits of an octet, the lowest one first. -/
def octetBits (byte : UInt8) : List Bool := (List.range 8).map byte.toBitVec.getLsbD

/-- The bits of octets in the order in which they are divided when the input is reflected. -/
def bitsOf (bytes : List UInt8) : List Bool := bytes.flatMap octetBits

@[simp]
theorem length_octetBits (byte : UInt8) : (octetBits byte).length = 8 := by
  simp [octetBits]

@[simp]
theorem length_bitsOf (bytes : List UInt8) : (bitsOf bytes).length = 8 * bytes.length := by
  rw [bitsOf, List.length_flatMap, List.map_congr_left fun byte _ => length_octetBits byte,
    List.map_const', List.sum_replicate, smul_eq_mul, Nat.mul_comm]

/-- The bits of a reflected octet, highest first, are those of the octet, lowest first. -/
theorem highBits_reflect (byte : UInt8) :
    highBits 8 (CrcOptimal.reflect 8 byte.toUInt32).toUInt8.toBitVec = octetBits byte := by
  refine List.map_congr_left fun i hi => ?_
  have hi : i < 8 := List.mem_range.mp hi
  have hback : 8 - 1 - (8 - 1 - i) = i := by omega
  have hlow : ∀ j < 8, (CrcOptimal.reflect 8 byte.toUInt32).toUInt8.toBitVec.getLsbD j =
      (CrcOptimal.reflect 8 byte.toUInt32).toBitVec.getLsbD j := by
    intro j hj
    rw [UInt32.toBitVec_toUInt8, BitVec.getLsbD_setWidth, decide_eq_true hj, Bool.true_and]
  have hplace : 8 - 1 - i < 8 := by omega
  have hword : i < 32 := by omega
  rw [BitVec.getMsbD_eq_getLsbD, decide_eq_true hi, Bool.true_and, hlow _ hplace,
    CrcOptimal.getLsbD_reflect (by decide), hback, UInt8.toBitVec_toUInt32, BitVec.getLsbD_setWidth,
    decide_eq_true hplace, decide_eq_true hword, Bool.true_and, Bool.true_and]

namespace CrcBasic

variable (c : CrcBasic)

/-- `process_bit` is a shift of the register. -/
theorem processBit_rem (bit : Bool) :
    (c.processBit bit).rem.toBitVec = shiftBit c.poly.toBitVec c.rem.toBitVec bit :=
  toBitVec_divide c.poly c.rem bit

/-- The upper bits of an octet are taken in one after the other. -/
theorem processUpperBits_eq (n : ℕ) (bits : UInt8) : ∃ rem : UInt32,
    c.processUpperBits n bits = { c with rem := rem } ∧
      rem.toBitVec = shiftBits c.poly.toBitVec c.rem.toBitVec (highBits n bits.toBitVec) := by
  induction n generalizing c bits with
  | zero => exact ⟨c.rem, rfl, rfl⟩
  | succ n ih =>
    obtain ⟨rem, heq, hrem⟩ := ih (c.processBit (bits &&& 0x80 ≠ 0)) (bits <<< 1)
    refine ⟨rem, heq, ?_⟩
    have hbit : decide (bits &&& 0x80 ≠ 0) = bits.toBitVec.msb := by
      rw [Bool.eq_iff_iff, decide_eq_true_iff, Ne, ← UInt8.toBitVec_inj, UInt8.toBitVec_and,
        BitVec.msb_eq_getLsbD_last]
      exact and_twoPow_ne_zero_iff bits.toBitVec (by decide : 7 < 8)
    rw [hrem, processBit_rem, hbit, highBits_succ]
    rfl

/-- The bits of an octet in the order in which they are divided. -/
def inputBits (rftIn : Bool) (byte : UInt8) : List Bool :=
  if rftIn then octetBits byte else highBits 8 byte.toBitVec

/-- `process_byte` divides the bits of the octet. -/
theorem processByte_eq (byte : UInt8) : ∃ rem : UInt32, c.processByte byte = { c with rem := rem } ∧
    rem.toBitVec = shiftBits c.poly.toBitVec c.rem.toBitVec (inputBits c.rftIn byte) := by
  obtain ⟨rem, heq, hrem⟩ := c.processUpperBits_eq 8
    ((if c.rftIn then (CrcOptimal.reflect 8 byte.toUInt32).toUInt8 else byte) <<<
      UInt8.ofNat (8 - 8))
  refine ⟨rem, heq, ?_⟩
  have hzero : ∀ x : UInt8, (x <<< UInt8.ofNat (8 - 8)).toBitVec = x.toBitVec := by
    intro x
    simp
  rw [hrem, hzero, inputBits]
  cases c.rftIn
  · rfl
  · exact congrArg _ (highBits_reflect byte)

/-- `process_bytes` divides the bits of the octets, whatever the parameters are. -/
theorem processBytes_eq (bytes : List UInt8) : ∃ rem : UInt32,
    c.processBytes bytes = { c with rem := rem } ∧ rem.toBitVec =
      shiftBits c.poly.toBitVec c.rem.toBitVec (bytes.flatMap (inputBits c.rftIn)) := by
  induction bytes generalizing c with
  | nil => exact ⟨c.rem, rfl, rfl⟩
  | cons byte bytes ih =>
    obtain ⟨rem, hbyte, hrem⟩ := c.processByte_eq byte
    obtain ⟨rem', hbytes, hrem'⟩ := ih { c with rem := rem }
    refine ⟨rem', ?_, ?_⟩
    · rw [← hbytes, ← hbyte]
      rfl
    · rw [List.flatMap_cons, shiftBits_append, ← hrem]
      exact hrem'

end CrcBasic

namespace CrcOptimal

/-! ## The table -/

theorem masks_map (dividend : UInt32) :
    masks.map (fun mask => decide (dividend &&& mask ≠ 0)) =
      (List.range 8).map fun i => dividend.toBitVec.getLsbD (7 - i) := by
  have hbit : ∀ i < 8, decide (dividend &&& UInt32.ofBitVec (BitVec.twoPow 32 i) ≠ 0) =
      dividend.toBitVec.getLsbD i := by
    intro i hi
    rw [Bool.eq_iff_iff, decide_eq_true_iff, Ne, ← UInt32.toBitVec_inj, UInt32.toBitVec_and]
    exact and_twoPow_ne_zero_iff dividend.toBitVec (by omega : i < 32)
  calc masks.map (fun mask => decide (dividend &&& mask ≠ 0))
      = (List.range 8).map fun i =>
          decide (dividend &&& UInt32.ofBitVec (BitVec.twoPow 32 (7 - i)) ≠ 0) := rfl
    _ = _ := List.map_congr_left fun i hi => hbit _ (by omega)

/-- An iteration of the inner loop is a shift of the register. -/
theorem toBitVec_divideBit (dividend rem mask : UInt32) :
    (divideBit dividend rem mask).toBitVec =
      shiftBit TruncPoly.toBitVec rem.toBitVec (decide (dividend &&& mask ≠ 0)) := by
  rw [← toBitVec_divide]
  by_cases hbit : dividend &&& mask ≠ 0
  · simp only [divideBit, if_pos hbit, decide_eq_true hbit, if_true]
    rfl
  · simp only [divideBit, if_neg hbit, decide_eq_false hbit, Bool.false_eq_true, if_false,
      UInt32.xor_zero]
    rfl

/-- The inner loop of `init_table` divides the upper bits of the dividend. -/
theorem toBitVec_remainder (dividend : UInt32) : (remainder dividend).toBitVec =
    shiftBits TruncPoly.toBitVec 0#32
      ((List.range 8).map fun i => dividend.toBitVec.getLsbD (7 - i)) := by
  have hstep : ∀ (l : List UInt32) (rem : UInt32),
      (l.foldl (divideBit dividend) rem).toBitVec = shiftBits TruncPoly.toBitVec rem.toBitVec
        (l.map fun mask => decide (dividend &&& mask ≠ 0)) := by
    intro l
    induction l with
    | nil => exact fun _ => rfl
    | cons mask l ih =>
      intro rem
      rw [List.foldl_cons, ih, toBitVec_divideBit, List.map_cons, shiftBits_cons]
  rw [← masks_map]
  exact hstep masks 0

/-- An entry that is written to the table once, or was there, is found in it. -/
theorem table_foldl {α : Type} (index : α → ℕ) (entry : ℕ → UInt32) (l : List α) (t : List UInt32)
    (i : ℕ) (hi : i < t.length) (hmem : i ∈ l.map index ∨ t.getD i 0 = entry i) :
    (l.foldl (fun t x => t.set (index x) (entry (index x))) t).getD i 0 = entry i := by
  induction l generalizing t with
  | nil => exact hmem.resolve_left (by simp)
  | cons x l ih =>
    refine ih _ (by rwa [List.length_set]) ?_
    by_cases hx : i = index x
    · subst hx
      refine .inr ?_
      simp [hi]
    · rw [List.map_cons, List.mem_cons] at hmem
      refine hmem.imp (fun h => h.resolve_left hx) fun h => ?_
      rw [List.getD_eq_getElem?_getD, List.getElem?_set_ne (Ne.symm hx),
        ← List.getD_eq_getElem?_getD, h]

/-- The entries of the table: the reflected remainder, at the index of the octet that is
reflected. -/
theorem table_eq {byteIndex : UInt32} (h : byteIndex.toNat < 256) :
    table byteIndex = reflect 32 (remainder (reflect 8 byteIndex)) := by
  have hself : ∀ x : UInt32, UInt32.ofNat x.toNat = x := fun x => UInt32.ofNat_toNat
  have hfill : initTable = (List.range 256).foldl (fun t dividend =>
      t.set (reflect 8 (UInt32.ofNat dividend)).toNat (reflect 32 (remainder (reflect 8
        (UInt32.ofNat (reflect 8 (UInt32.ofNat dividend)).toNat))))) (List.replicate 256 0) := by
    refine List.foldl_ext _ _ _ fun t dividend hd => ?_
    have hlt : (UInt32.ofNat dividend).toNat < 256 := by
      rw [UInt32.toNat_ofNat']
      exact (Nat.mod_le _ _).trans_lt (List.mem_range.mp hd)
    rw [hself, reflect_reflect hlt]
  have hmem : byteIndex.toNat ∈
      (List.range 256).map fun dividend => (reflect 8 (UInt32.ofNat dividend)).toNat := by
    refine List.mem_map.mpr ⟨(reflect 8 byteIndex).toNat,
      List.mem_range.mpr (toNat_reflect_lt byteIndex), ?_⟩
    rw [hself, reflect_reflect h]
  unfold table
  rw [hfill, table_foldl (fun dividend => (reflect 8 (UInt32.ofNat dividend)).toNat)
    (fun i => reflect 32 (remainder (reflect 8 (UInt32.ofNat i)))) _ _ byteIndex.toNat
    (by rwa [List.length_replicate]) (.inl hmem), hself]

/-! ## The checksum -/

/-- A shift to the right is a shift to the left of the reflected value. -/
theorem reverse_ushiftRight {w : ℕ} (x : BitVec w) (n : ℕ) :
    (x >>> n).reverse = x.reverse <<< n := by
  apply BitVec.eq_of_getLsbD_eq
  intro i hi
  rw [BitVec.getLsbD_reverse, BitVec.getLsbD_shiftLeft, BitVec.getLsbD_reverse,
    BitVec.getMsbD_ushiftRight]
  by_cases hn : i < n <;> simp [hi, hn]

theorem reverse_xor {w : ℕ} (x y : BitVec w) : (x ^^^ y).reverse = x.reverse ^^^ y.reverse := by
  apply BitVec.eq_of_getLsbD_eq
  intro i hi
  rw [BitVec.getLsbD_xor, BitVec.getLsbD_reverse, BitVec.getLsbD_reverse, BitVec.getLsbD_reverse,
    BitVec.getMsbD_xor]

/-- The entry of the table for an octet that has met the remainder: what is left of the sums of
their bits. -/
theorem toBitVec_table (rem : UInt32) (byte : UInt8) :
    (table ((byte.toUInt32 ^^^ rem) &&& 0xff)).toBitVec.reverse = shiftBits TruncPoly.toBitVec 0#32
      (List.zipWith (· ^^ ·) (octetBits byte) (highBits 8 rem.toBitVec.reverse)) := by
  have hlt : ((byte.toUInt32 ^^^ rem) &&& 0xff).toNat < 256 := by
    rw [UInt32.toNat_and]
    exact Nat.lt_of_le_of_lt Nat.and_le_right (by decide)
  rw [table_eq hlt, toBitVec_reflect, BitVec.reverse_reverse_eq, toBitVec_remainder, octetBits,
    highBits, List.zipWith_map, List.zipWith_self]
  refine congrArg _ (List.map_congr_left fun i hi => ?_)
  have hi : i < 8 := List.mem_range.mp hi
  have hback : 8 - 1 - (7 - i) = i := by omega
  rw [getLsbD_reflect (by decide), decide_eq_true (show 7 - i < 8 by omega), hback, Bool.true_and,
    BitVec.getMsbD_reverse, UInt32.toBitVec_and, UInt32.toBitVec_xor, UInt8.toBitVec_toUInt32,
    BitVec.getLsbD_and, BitVec.getLsbD_xor, BitVec.getLsbD_setWidth,
    decide_eq_true (show i < 32 by omega), Bool.true_and]
  have hmask : ∀ j < 8, (0xff : UInt32).toBitVec.getLsbD j = true := by decide
  rw [hmask i hi, Bool.and_true]

/-- `process_block` takes in an octet as the register takes in its bits, the lowest one first. -/
theorem reverse_processByte (rem : UInt32) (byte : UInt8) :
    (processByte rem byte).toBitVec.reverse =
      shiftBits TruncPoly.toBitVec rem.toBitVec.reverse (octetBits byte) := by
  calc (processByte rem byte).toBitVec.reverse
      = (rem.toBitVec >>> 8).reverse ^^^
          (table ((byte.toUInt32 ^^^ rem) &&& 0xff)).toBitVec.reverse := by
        rw [← reverse_xor]
        rfl
    _ = (rem.toBitVec.reverse <<< (octetBits byte).length) ^^^ shiftBits TruncPoly.toBitVec 0#32
          (List.zipWith (· ^^ ·) (octetBits byte)
            (highBits (octetBits byte).length rem.toBitVec.reverse)) := by
        rw [reverse_ushiftRight, toBitVec_table, length_octetBits]
    _ = _ := (shiftBits_eq_shiftLeft_xor _ _ _).symm

/-- `process_bytes` leaves the remainder of the bits. -/
theorem reverse_processBytes (bytes : List UInt8) (rem : UInt32) :
    (processBytes bytes rem).toBitVec.reverse =
      shiftBits TruncPoly.toBitVec rem.toBitVec.reverse (bitsOf bytes) := by
  induction bytes generalizing rem with
  | nil => rfl
  | cons byte bytes ih =>
    rw [bitsOf, List.flatMap_cons, shiftBits_append, ← reverse_processByte]
    exact ih _

end CrcOptimal

/-- The checksum is the reflected remainder of the bits, inverted. -/
theorem toBitVec_crc32 (bytes : List UInt8) : (crc32 bytes).toBitVec =
    (shiftBits CrcOptimal.TruncPoly.toBitVec CrcOptimal.InitRem.toBitVec (bitsOf bytes)).reverse ^^^
      CrcOptimal.FinalXor.toBitVec := by
  have hrem := CrcOptimal.reverse_processBytes bytes (CrcOptimal.reflect 32 CrcOptimal.InitRem)
  rw [CrcOptimal.toBitVec_reflect, BitVec.reverse_reverse_eq] at hrem
  rw [← hrem, BitVec.reverse_reverse_eq]
  rfl

/-- The two classes agree: the table, the reflected remainder and the division of an octet at once
change neither the remainder nor the checksum. Both are the remainder of a division of polynomials,
of what the remainder was and of the octets, with the lowest bit of each first, by that of
`crc_32_type`. -/
theorem crcOptimal_agrees (initRem : UInt32) (bytes : List UInt8) :
    CrcOptimal.getInterimRemainder (CrcOptimal.processBytes bytes (CrcOptimal.reflect 32 initRem)) =
        ((CrcOptimal.basic initRem).processBytes bytes).getInterimRemainder ∧
      CrcOptimal.checksum (CrcOptimal.processBytes bytes (CrcOptimal.reflect 32 initRem)) =
        ((CrcOptimal.basic initRem).processBytes bytes).checksum ∧
      toPoly ((CrcOptimal.basic initRem).processBytes bytes).getInterimRemainder.toBitVec =
        (X ^ (8 * bytes.length) * toPoly initRem.toBitVec + X ^ 32 * message (bitsOf bytes)) %ₘ
          divisor CrcOptimal.TruncPoly.toBitVec := by
  set optimal := CrcOptimal.processBytes bytes (CrcOptimal.reflect 32 initRem)
  set basic := (CrcOptimal.basic initRem).processBytes bytes
  obtain ⟨rem, heq, hrem⟩ := (CrcOptimal.basic initRem).processBytes_eq bytes
  -- The optimal class holds the remainder with its bits the other way round.
  have hoptimal : optimal.toBitVec = rem.toBitVec.reverse := by
    have hreverse := CrcOptimal.reverse_processBytes bytes (CrcOptimal.reflect 32 initRem)
    rw [CrcOptimal.toBitVec_reflect, BitVec.reverse_reverse_eq] at hreverse
    rw [hrem, ← BitVec.reverse_reverse_eq (x := optimal.toBitVec)]
    exact congrArg BitVec.reverse hreverse
  have hreflect : CrcOptimal.reflect 32 optimal = rem := by
    rw [← UInt32.toBitVec_inj, CrcOptimal.toBitVec_reflect, hoptimal, BitVec.reverse_reverse_eq]
  have hback : optimal = CrcOptimal.reflect 32 rem := by
    rw [← UInt32.toBitVec_inj, CrcOptimal.toBitVec_reflect, hoptimal]
  have hsig : ∀ x : UInt32, x &&& CrcBasic.sigBits = x := by
    intro x
    rw [← UInt32.toBitVec_inj]
    exact BitVec.and_allOnes
  have hbasic : basic.getInterimRemainder = rem := by
    rw [show basic = _ from heq]
    exact hsig rem
  refine ⟨?_, ?_, ?_⟩
  · rw [hbasic, CrcOptimal.getInterimRemainder, hreflect, hsig]
  · rw [show basic = _ from heq, hback]
    exact (hsig _).symm
  · rw [hbasic, hrem, toPoly_shiftBits]
    rw [← length_bitsOf]
    rfl

end Stun
