/-!
# Faults of bearer tokens

Why a bearer token could not be made or is not accepted.
-/

namespace Microblog.Account

/-- A rule for claims that a token with a good signature breaks. -/
inductive Rejection where
  | invalidAlgorithm
  | missingClaim (name : String)
  | immature
  | invalidIssuer
  | invalidAudience
  /-- A reason given by its text. -/
  | other (text : String)
  deriving DecidableEq, Repr

def Rejection.text : Rejection → String
  | invalidAlgorithm => "InvalidAlgorithm"
  | missingClaim name => "MissingRequiredClaim(\"" ++ name ++ "\")"
  | immature => "ImmatureSignature"
  | invalidIssuer => "InvalidIssuer"
  | invalidAudience => "InvalidAudience"
  | other text => text

inductive TokenFault where
  /-- There is no secret to sign with. -/
  | signing
  | invalidSignature
  | expired
  | malformed
  | invalidSubject
  | rejected (reason : Rejection)
  deriving DecidableEq, Repr

def TokenFault.message : TokenFault → String
  | signing => "token signing secret is not configured"
  | invalidSignature => "token signature is invalid"
  | expired => "token has expired"
  | malformed => "token is malformed"
  | invalidSubject => "token subject is not a user id"
  | rejected reason => "token rejected: " ++ reason.text

end Microblog.Account
