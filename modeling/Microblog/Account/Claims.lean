import Microblog.Json.Shaped
import Microblog.Text.Integer
import Microblog.Account.TokenFault

/-!
# Claims

What a bearer token says: whom it stands for, who issued it for which audience,
and the times, in seconds since 1970, when it was issued and between which it
holds.
-/

namespace Microblog.Account

structure Claims where
  sub : String
  iss : String
  aud : String
  iat : Int64
  nbf : Int64
  exp : Int64
  deriving DecidableEq, Repr

open Json in
instance : Shaped Claims where
  shape := .record "Claims" <|
    .cons "sub" .required .string <|
    .cons "iss" .required .string <|
    .cons "aud" .required .string <|
    .cons "iat" .required .int64 <|
    .cons "nbf" .required .int64 <|
    .cons "exp" .required .int64 .nil
  toVal c := (c.sub, c.iss, c.aud, c.iat, c.nbf, c.exp, ())
  ofVal | (sub, iss, aud, iat, nbf, exp, ()) => ⟨sub, iss, aud, iat, nbf, exp⟩

namespace Claims

/-- The user that the claims stand for. -/
def userId (c : Claims) : Except TokenFault Int64 :=
  match Text.int64? c.sub with
  | some id => .ok id
  | none => .error .invalidSubject

end Claims

end Microblog.Account
