import Microblog.Http.Percent
import Microblog.Http.Url

/-!
# Where the server of a cache is

The server is a host of the network or a file of this machine, and its URL says
which: the scheme `redis` stands for a host, with the number of a database as
its path, and the schemes `unix` and `redis+unix` stand for a file, with the
number among the parameters of the query.
-/

namespace Microblog.Cache

inductive Location where
  | host (name : String) (port : Nat) (database : Int64)
  /-- A file, whose path is percent-encoded. -/
  | file (path : String) (database : Int64)
  deriving DecidableEq, Repr

namespace Location

/-- The port of a server that names none. -/
def standardPort : Nat := 6379

/-- The number of a database between slashes; without one it is the first. -/
def database? (path : List Char) : Option Int64 :=
  let inner := ((path.dropWhile (· == '/')).reverse.dropWhile (· == '/')).reverse
  if inner.isEmpty then some 0 else Text.int64? (String.ofList inner)

/-- The host that a URL names; user and password must be UTF-8. -/
def host? (u : Http.Url) : Option Location := do
  let a ← u.authority
  let _ ← Http.Percent.segment? a.user
  let _ ← Http.Percent.segment? a.password
  let database ← database? u.path.toList
  if a.host.isEmpty then none else return .host a.host (a.port.getD standardPort) database

/-- The file that a URL names, which lies on this machine. The last parameter with the name of
the database counts. -/
def file? (u : Http.Url) : Option Location := do
  let params := (u.query.map Http.Percent.params).getD []
  let database ← match params.reverse.lookup "db" with
    | some number => Text.int64? number
    | none => some 0
  let isHere := u.authority.all fun a => a.host.isEmpty || a.host == "localhost"
  if isHere && u.path.toList.head? == some '/' then return .file u.path database else none

/-- The location that a text names. -/
def parse? (text : String) : Option Location := do
  let u ← Http.Url.parse? text
  match u.scheme with
  | "redis" => host? u
  | "unix" => file? u
  | "redis+unix" => file? u
  | _ => none

end Location

end Microblog.Cache
