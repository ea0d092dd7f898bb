import Mathlib.Data.Nat.Notation

/-!
# `boost::crc_32_type`

`src/boost/crc.hpp`, for the parameters of `crc_32_type`: 32 bits, the polynomial `0x04C11DB7`, an
initial remainder and a final mask of all ones, and input and remainder reflected. The remainder is
kept reflected, so that an octet meets its low bits, and a table has the remainders of all octets.
-/

namespace Stun

namespace CrcOptimal

/-- `TruncPoly`. -/
def TruncPoly : UInt32 := 0x04c11db7

/-- `InitRem`. -/
def InitRem : UInt32 := 0xffffffff

/-- `FinalXor`. -/
def FinalXor : UInt32 := 0xffffffff

/-! ## The table -/

/-- An iteration of the loop of `reflector<Bits>::reflect`: the lowest bit of what is left of the
value goes to its place. -/
def reflectBit (bits : ℕ) (state : UInt32 × UInt32) (i : ℕ) : UInt32 × UInt32 :=
  let (reflection, x) := state
  (if x &&& 1 ≠ 0 then reflection ||| (1 <<< UInt32.ofNat (bits - 1 - i)) else reflection, x >>> 1)

/-- `reflector<Bits>::reflect`: the bits in the opposite order. -/
def reflect (bits : ℕ) (x : UInt32) : UInt32 :=
  ((List.range bits).foldl (reflectBit bits) (0, x)).1

/-- `fast_hi_bit`. -/
def fastHiBit : UInt32 := 0x80000000

/-- The values of `mask` in the loop of `init_table`. -/
def masks : List UInt32 := [0x80, 0x40, 0x20, 0x10, 0x08, 0x04, 0x02, 0x01]

/-- An iteration of the inner loop of `init_table`: the polynomial division for one bit. -/
def divideBit (dividend remainder mask : UInt32) : UInt32 :=
  let remainder := if dividend &&& mask ≠ 0 then remainder ^^^ fastHiBit else remainder
  if remainder &&& fastHiBit ≠ 0 then (remainder <<< 1) ^^^ TruncPoly else remainder <<< 1

/-- The inner loop of `init_table`. -/
def remainder (dividend : UInt32) : UInt32 := masks.foldl (divideBit dividend) 0

/-- `init_table`: the reflected remainder of every octet, at the index of the reflected octet. -/
def initTable : List UInt32 :=
  (List.range 256).foldl (fun table dividend =>
    table.set (reflect 8 (UInt32.ofNat dividend)).toNat
      (reflect 32 (remainder (UInt32.ofNat dividend)))) (List.replicate 256 0)

/-- `table_`, which `init_table` computes once. -/
def table (byteIndex : UInt32) : UInt32 := initTable.getD byteIndex.toNat 0

/-! ## The checksum -/

/-- An iteration of the loop of `process_block`. -/
def processByte (rem : UInt32) (byte : UInt8) : UInt32 :=
  let byteIndex := (byte.toUInt32 ^^^ rem) &&& 0xff
  (rem >>> 8) ^^^ table byteIndex

/-- `process_bytes`. -/
def processBytes (bytes : List UInt8) (rem : UInt32) : UInt32 := bytes.foldl processByte rem

/-- `checksum`. -/
def checksum (rem : UInt32) : UInt32 := rem ^^^ FinalXor

end CrcOptimal

/-- The checksum of a new `crc_32_type` that has processed the octets. -/
def crc32 (bytes : List UInt8) : UInt32 :=
  CrcOptimal.checksum (CrcOptimal.processBytes bytes (CrcOptimal.reflect 32 CrcOptimal.InitRem))

/-- The check value of CRC-32: that of the digits from 1 to 9. -/
example : crc32 [0x31, 0x32, 0x33, 0x34, 0x35, 0x36, 0x37, 0x38, 0x39] = 0xcbf43926 := by
  decide +kernel

end Stun
