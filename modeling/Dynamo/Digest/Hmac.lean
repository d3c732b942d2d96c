import Dynamo.Digest.Sha256

/-! # Keyed hashes

HMAC with SHA-256: a hash of a message that only who knows the key can make. -/

namespace Dynamo.Hmac

/-- A key of one block: longer keys are hashed, and zeros fill up. -/
def blockKey (key : Bytes) : Bytes :=
  let key := if 64 < key.length then Sha256.digest key else key
  key ++ List.replicate (64 - key.length) 0

/-- **The keyed hash of a message.** -/
def digest (key message : Bytes) : Bytes :=
  let key := blockKey key
  let inner := Sha256.digest (key.map (· ^^^ 0x36) ++ message)
  Sha256.digest (key.map (· ^^^ 0x5c) ++ inner)

end Dynamo.Hmac
