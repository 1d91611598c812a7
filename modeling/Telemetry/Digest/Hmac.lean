/-
A keyed digest: SHA-256 over the message between two paddings of the key, so that
only who holds the key can make or check it.
-/
import Telemetry.Digest.Sha256

namespace Telemetry.Digest

open Text (Bytes)

/-- The key at the length of a block: hashed when longer, filled up with zeros. -/
def blockKey (key : Bytes) : Bytes :=
  let k := if 64 < key.length then Sha256.hash key else key
  k ++ List.replicate (64 - k.length) 0

def hmac (key message : Bytes) : Bytes :=
  let k := blockKey key
  let inner := Sha256.hash (k.map (· ^^^ 0x36) ++ message)
  Sha256.hash (k.map (· ^^^ 0x5c) ++ inner)

end Telemetry.Digest
