import Microblog.Account.Claims
import Microblog.Account.TokenHeader
import Microblog.Digest.Hmac
import Microblog.Text.Split

/-!
# Bearer tokens

A token is three texts with points between them: a header that names the
algorithm, the claims, and the HMAC-SHA256 of the two before it, all in base64.
An `Authority` signs claims and verifies tokens with one secret; it accepts
only claims that name itself as issuer and its own audience.
-/

namespace Microblog.Account

structure Authority where
  secret : String
  issuer : String
  audience : String
  /-- How long a token holds, in seconds. -/
  ttl : Nat
  deriving DecidableEq, Repr

/-- The claims of a token, which must be an object. -/
def payload? (cs : List Char) : Option Claims :=
  match unarmor? cs with
  | none => none
  | some bs =>
    if Json.skipSpace bs |>.head? |>.any (· == 0x7b) then (Json.read bs).toOption else none

namespace Authority

/-- An authority whose tokens hold for some hours, none if that is negative; `none` if there
are too many seconds for 64 bits. -/
def of? (secret issuer audience : String) (hours : Int64) : Option Authority :=
  let ttl := hours.toInt.toNat * 3600
  if ttl < 0x10000000000000000 then some ⟨secret, issuer, audience, ttl⟩ else none

/-- The claims of a token for a user; `none` if the end of its time has no 64-bit number. -/
def claimsFor? (a : Authority) (now : Int64) (userId : Int64) : Option Claims :=
  let exp := now.toInt + (Int64.ofNat a.ttl).toInt
  if -0x8000000000000000 ≤ exp ∧ exp < 0x8000000000000000 then
    let sub := String.ofList (Json.writeInt userId.toInt)
    some ⟨sub, a.issuer, a.audience, now, now, Int64.ofInt exp⟩
  else none

/-- The signature of a header and claims with the point between them. -/
def signature (a : Authority) (message : List Char) : List Char :=
  armor (Digest.Hmac.sign (Text.Utf8.encode a.secret) (Text.Utf8.encode (String.ofList message)))

/-- The token with some claims. -/
def sign (a : Authority) (c : Claims) : Except TokenFault String :=
  if a.secret = "" then .error .signing
  else
    let message := TokenHeader.own ++ '.' :: armor (Text.Utf8.encode (Json.encode c).render)
    .ok (String.ofList (message ++ '.' :: a.signature message))

/-- Whether claims are accepted at a time. -/
def check (a : Authority) (now : Int64) (c : Claims) : Except TokenFault Unit :=
  if c.exp < 0 then .error (.rejected (.missingClaim "exp"))
  else if c.nbf < 0 then .error (.rejected (.missingClaim "nbf"))
  else if c.exp < now then .error .expired
  else if now < c.nbf then .error (.rejected .immature)
  else if c.iss ≠ a.issuer then .error (.rejected .invalidIssuer)
  else if c.aud ≠ a.audience then .error (.rejected .invalidAudience)
  else .ok ()

/-- The claims of a token, if it is accepted at a time. -/
def verify (a : Authority) (now : Int64) (token : String) : Except TokenFault Claims :=
  match Text.cutAtLast (· == '.') token.toList with
  | none => .error .malformed
  | some (message, signature) =>
    match Text.cutAtLast (· == '.') message with
    | none => .error .malformed
    | some (header, payload) =>
      match TokenHeader.algorithm? header with
      | none => .error .malformed
      | some .foreign => .error (.rejected .invalidAlgorithm)
      | some .hs256 =>
        if signature ≠ a.signature message then .error .invalidSignature
        else
          match payload? payload with
          | none => .error .malformed
          | some c => (a.check now c).map fun _ => c

end Authority

end Microblog.Account
