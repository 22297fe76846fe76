import Microblog.Digest.Sha256

/-!
# HMAC with SHA-256

The keyed digest of a message: two nested digests under two masks of the key.
-/

namespace Microblog.Digest.Hmac

open Microblog.Bytes

/-- The key as one whole block: a longer key stands for its digest. -/
def blockKey (key : List UInt8) : List UInt8 :=
  let k := if key.length > 64 then Sha256.digest key else key
  k ++ List.replicate (64 - k.length) 0

/-- The 32 bytes of the keyed digest. -/
def sign (key message : List UInt8) : List UInt8 :=
  let k := blockKey key
  let inner := Sha256.digest (k.map (· ^^^ 0x36) ++ message)
  Sha256.digest (k.map (· ^^^ 0x5c) ++ inner)

end Microblog.Digest.Hmac
