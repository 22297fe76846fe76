import Microblog.Http.Address
import Microblog.Http.Headers
import Microblog.Http.Target

/-!
# Requests

A request has a method, a path and a query as they were sent, headers, the
address of its client where it is known, and the bytes of its body.
-/

namespace Microblog.Http

structure Request where
  method : String
  path : String
  query : Option String
  headers : Headers
  peer : Option SocketAddress
  body : List UInt8
  deriving Repr

/-- Why the head of a request cannot be read. -/
inductive HeadFault where
  | method
  | target (f : TargetFault)
  | header (f : HeaderFault)
  deriving DecidableEq, Repr

def HeadFault.message : HeadFault → String
  | method => "invalid HTTP method"
  | target f => f.message
  | header f => f.message

namespace Request

/-- The request with a given head and body. -/
def of (method target : String) (headers : List (String × String))
    (peer : Option SocketAddress) (body : List UInt8) : Except HeadFault Request :=
  if method = "" ∨ ¬ method.toList.all isTokenChar then .error .method
  else
    match Target.parse target with
    | .error f => .error (.target f)
    | .ok target =>
      match Headers.of headers with
      | .error f => .error (.header f)
      | .ok headers => .ok ⟨method, target.path, target.query, headers, peer, body⟩

end Request

end Microblog.Http
