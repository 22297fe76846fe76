import Microblog.Failure
import Microblog.Account.TokenFault
import Microblog.Http.Reply
import Microblog.Text.Integer

/-!
# Refusals

Why the service does not do what a client asks for. Every refusal has a status
and a body with one member, `error`, whose value is its message.
-/

namespace Microblog

inductive Refusal where
  | validation (message : String)
  | unauthorized
  /-- The client may name other credentials for basic authentication. -/
  | unauthorizedBasic
  | forbidden
  | notFound
  | conflict (message : String)
  | rateLimited (retryAfter : Nat)
  | internal
  deriving DecidableEq, Repr

namespace Refusal

def message : Refusal → String
  | validation message => message
  | unauthorized => "unauthorized"
  | unauthorizedBasic => "unauthorized"
  | forbidden => "forbidden"
  | notFound => "not found"
  | conflict message => message
  | rateLimited retryAfter => "rate limit exceeded, retry in " ++ toString retryAfter ++ " seconds"
  | internal => "the server encountered a problem and could not process your request"

def status : Refusal → Nat
  | validation _ => 400
  | unauthorized => 401
  | unauthorizedBasic => 401
  | forbidden => 403
  | notFound => 404
  | conflict _ => 409
  | rateLimited _ => 429
  | internal => 500

/-- The header that says how to do better. -/
def advice : Refusal → List (String × String)
  | unauthorizedBasic => [("www-authenticate", "Basic realm=\"restricted\", charset=\"UTF-8\"")]
  | rateLimited retryAfter => [("retry-after", toString retryAfter)]
  | _ => []

/-- The reply to the client. -/
def reply (r : Refusal) : Http.Reply :=
  let plain := Http.Reply.json r.status (.object [("error", .string r.message)])
  { plain with headers := plain.headers ++ r.advice }

/-- What a client is told of a failure of storage. -/
def ofFailure : Failure → Refusal
  | .notFound => notFound
  | .versionConflict => notFound
  | .alreadyExists => conflict "resource already exists"
  | .duplicateEmail => conflict "a user with that email already exists"
  | .duplicateUsername => conflict "a user with that username already exists"
  | .timeout => internal
  | .database _ => internal

/-- What a client is told of a bad token. -/
def ofTokenFault : Account.TokenFault → Refusal
  | .signing => internal
  | _ => unauthorized

end Refusal

/-- The id that a path names; anything but a 64-bit integer is refused. -/
def pathId (raw entity : String) : Except Refusal Int64 :=
  match Text.int64? raw with
  | some id => .ok id
  | none => .error (.validation ("invalid " ++ entity ++ " id"))

end Microblog
