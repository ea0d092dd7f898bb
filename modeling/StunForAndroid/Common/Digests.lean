import Mathlib.Data.Nat.Notation

/-!
# HMAC-SHA1, MD5, and CRC-32

OpenSSL's digests are not part of the repository, and nothing here depends on what they compute, so
they are arbitrary functions with results of the documented sizes. `HMAC_Update` appends to what
is hashed.
-/

namespace Stun

/-- The digests that the messages are signed and checked with. -/
structure Digests where
  /-- HMAC-SHA1 of a message under a key. -/
  hmacSha1 : (key message : List UInt8) → List UInt8
  /-- It has 20 octets. -/
  length_hmacSha1 : ∀ key message, (hmacSha1 key message).length = 20
  /-- MD5. -/
  md5 : List UInt8 → List UInt8
  /-- It has 16 octets, `MD5_DIGEST_LENGTH`. -/
  length_md5 : ∀ message, (md5 message).length = 16
  /-- The checksum of `boost::crc_32_type`. -/
  crc32 : List UInt8 → UInt32

/-- Digests that are the same for every message. -/
def Digests.constant (mac md5 : List UInt8) (crc : UInt32) (hmac : mac.length = 20)
    (hmd5 : md5.length = 16) : Digests where
  hmacSha1 := fun _ _ => mac
  length_hmacSha1 := fun _ _ => hmac
  md5 := fun _ => md5
  length_md5 := fun _ => hmd5
  crc32 := fun _ => crc

/-- A digest of HMAC-SHA1 that is all zeros has 20 octets. -/
theorem length_zeroHmacSha1 : (List.replicate 20 (0 : UInt8)).length = 20 := List.length_replicate

/-- A digest of MD5 that is all zeros has 16 octets. -/
theorem length_zeroMd5 : (List.replicate 16 (0 : UInt8)).length = 16 := List.length_replicate

/-- `HMAC_CTX`: the key and what has been hashed so far. -/
structure HMAC_CTX where
  key : List UInt8
  message : List UInt8 := []

namespace HMAC_CTX

/-- `HMAC_Update`. -/
def update (data : List UInt8) (ctx : HMAC_CTX) : HMAC_CTX :=
  { ctx with message := ctx.message ++ data }

/-- `HMAC_Final`. -/
def final (D : Digests) (ctx : HMAC_CTX) : List UInt8 := D.hmacSha1 ctx.key ctx.message

end HMAC_CTX

end Stun
