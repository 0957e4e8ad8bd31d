import AdminConsole.Digest.Sha256

/-!
# Keyed digests

HMAC over SHA-256: the key, brought to the length of a block, is mixed into an inner and an outer
digest.
-/

namespace AdminConsole.Hmac

/-- The key in exactly one block: a long one is digested first, a short one filled with zeros. -/
def blockKey (key : List UInt8) : List UInt8 :=
  let short := if key.length ≤ Sha256.blockSize then key else Sha256.digest key
  short ++ List.replicate (Sha256.blockSize - short.length) 0

/-- The keyed digest of a message. -/
def authenticate (key message : List UInt8) : List UInt8 :=
  let k := blockKey key
  let inner := Sha256.digest (k.map (· ^^^ 0x36) ++ message)
  Sha256.digest (k.map (· ^^^ 0x5c) ++ inner)

end AdminConsole.Hmac
