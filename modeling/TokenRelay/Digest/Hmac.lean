/-
# Keyed digests

Supplies the keyed digest HMAC with SHA-256. A key longer than a block is replaced by its digest.
-/

import TokenRelay.Digest.Sha256

namespace TokenRelay.Digest

/-- The number of bytes of a block. -/
def blockLength : Nat := 64

/-- The keyed digest of a message. -/
def hmacSha256 (key message : List UInt8) : List UInt8 :=
  let short := if blockLength < key.length then sha256 key else key
  let block := short ++ List.replicate (blockLength - short.length) 0
  let inner := sha256 (block.map (· ^^^ 0x36) ++ message)
  sha256 (block.map (· ^^^ 0x5C) ++ inner)

end TokenRelay.Digest
