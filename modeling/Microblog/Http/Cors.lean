import Microblog.Http.Headers
import Microblog.Http.Reply

/-!
# Requests from other origins

Every reply tells browsers which origins may read it: all of them, or one that
is configured. A request with the method OPTIONS is answered by this policy
alone.
-/

namespace Microblog.Http

/-- Who may read replies. -/
inductive Origins where
  | any
  | only (origin : String)
  deriving DecidableEq, Repr

namespace Origins

/-- The policy of a configured text; a text that is no header value allows any origin. -/
def of (s : String) : Origins :=
  if s = "*" ∨ ¬ Headers.isText s then any else only s

/-- The request headers on which replies depend. -/
def vary : String × String :=
  ("vary", "origin, access-control-request-method, access-control-request-headers")

/-- The headers of every reply. -/
def origin : Origins → List (String × String)
  | any => [("access-control-allow-origin", "*"), vary]
  | only o => [("access-control-allow-origin", o), vary]

/-- The further headers of a reply to OPTIONS. -/
def preflight : Origins → List (String × String)
  | any => [("access-control-allow-methods", "*"), ("access-control-allow-headers", "*")]
  | only _ => [
    ("access-control-allow-methods", "GET,POST,PUT,PATCH,DELETE,OPTIONS"),
    ("access-control-allow-headers", "accept,authorization,content-type,x-csrf-token"),
    ("access-control-max-age", "300")]

/-- The further headers of any other reply. -/
def exposed : Origins → List (String × String)
  | any => [("access-control-expose-headers", "*")]
  | only _ => []

end Origins

/-- The reply to OPTIONS. -/
def Reply.preflight (o : Origins) : Reply := ⟨200, o.origin ++ o.preflight, .empty⟩

/-- A reply with the headers of the policy. -/
def Reply.withOrigins (r : Reply) (o : Origins) : Reply :=
  { r with headers := r.headers ++ o.origin ++ o.exposed }

end Microblog.Http
