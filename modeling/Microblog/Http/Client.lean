import Microblog.Http.Address
import Microblog.Http.Headers

/-!
# Clients

Clients are told apart by their address, or by the first address that a proxy
has noted where their own is not known.
-/

namespace Microblog.Http

/-- The first address in the header of proxies. -/
def forwardedFor? (hs : Headers) : Option String :=
  (Headers.text? hs "x-forwarded-for").bind fun s =>
    match Text.splitOn (· == ',') s.toList with
    | [] => none
    | first :: _ =>
      let first := Text.trimChars first
      if first = [] then none else some (String.ofList first)

/-- The name under which the calls of a client are counted. -/
def clientKey (peer : Option SocketAddress) (hs : Headers) : String :=
  match peer with
  | some address => address.ip.text
  | none => (forwardedFor? hs).getD "unknown"

end Microblog.Http
