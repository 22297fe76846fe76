import Microblog.Http.Address
import Microblog.Text.Split

/-!
# URLs of servers

A URL is a scheme, an authority if two slashes announce one, a path, and a query
if there is one; a fragment is cut off. The host of an authority is a name, or an
IPv6 address in brackets, and may be empty only where it stands alone. Segments
of points are taken out of a path that begins with a slash.
-/

namespace Microblog.Http

/-- Where a server is, and who asks it; user and password are percent-encoded. -/
structure Url.Authority where
  user : String
  password : String
  host : String
  port : Option Nat
  deriving DecidableEq, Repr

structure Url where
  scheme : String
  authority : Option Url.Authority
  path : String
  query : Option String
  deriving DecidableEq, Repr

namespace Url

/-- The characters that are left of a text: none of the lowest ones and no space at its ends, and
no tab or line break anywhere. -/
def cleaned (cs : List Char) : List Char :=
  let low (c : Char) : Bool := c.toNat ≤ 0x20
  let inner := ((cs.dropWhile low).reverse.dropWhile low).reverse
  inner.filter fun c => c != '\t' && c != '\n' && c != '\r'

def isSchemeChar (c : Char) : Bool := c.isAlphanum || "+-.".toList.contains c

/-- The scheme in lower case, and what follows its colon. -/
def scheme? (cs : List Char) : Option (String × List Char) :=
  match Text.cutAt (· == ':') cs with
  | some (c :: name, rest) =>
    if c.isAlpha && name.all isSchemeChar then
      some (String.ofList ((c :: name).map Char.toLower), rest)
    else none
  | _ => none

/-! ## Authorities -/

/-- The characters that no name of a host holds. -/
def isForbidden (c : Char) : Bool := c == '\x00' || " #/:<>?@[\\]^|".toList.contains c

/-- A name or an IPv6 address in brackets, and what follows it. -/
def host? : List Char → Option (String × List Char)
  | '[' :: cs => do
    let (address, rest) ← Text.cutAt (· == ']') cs
    let (_, []) ← Http.Address.ipv6 address | none
    return (String.ofList address, rest)
  | cs =>
    let name := cs.takeWhile (· != ':')
    if name.any isForbidden then none else some (String.ofList name, cs.drop name.length)

/-- A port if a colon and digits give one, and what follows; only a backslash can follow. -/
def port? : List Char → Option (Option Nat × List Char)
  | [] => some (none, [])
  | ':' :: cs =>
    let digits := cs.takeWhile Char.isDigit
    let rest := cs.drop digits.length
    if rest.head?.any (· != '\\') then none
    else if digits.isEmpty then some (none, rest)
    else
      match Text.natural? digits with
      | some n => if n ≤ 65535 then some (some n, rest) else none
      | none => none
  | _ => none

/-- An authority and what follows it. Neither credentials nor a port stand at an empty host, but
a colon alone says nothing. -/
def authority? (cs : List Char) : Option (Authority × List Char) := do
  let credentials := (Text.cutAtLast (· == '@') cs).map (·.1)
  let place := match Text.cutAtLast (· == '@') cs with
    | some (_, place) => place
    | none => cs
  let (host, behind) ← host? place
  let (port, rest) ← port? behind
  if host.isEmpty && (credentials.any (· != [':']) || !behind.isEmpty) then none
  else
    let given := credentials.getD []
    let (user, password) := (Text.cutAt (· == ':') given).getD (given, [])
    return (⟨String.ofList user, String.ofList password, host, port⟩, rest)

/-! ## Paths -/

/-- The number of points in a segment that holds nothing else; a point may be percent-encoded. -/
def points? : List Char → Option Nat
  | [] => some 0
  | '.' :: cs => (points? cs).map (· + 1)
  | '%' :: '2' :: e :: cs => if e == 'e' || e == 'E' then (points? cs).map (· + 1) else none
  | _ => none

/-- Whether a segment names a drive, which no points lead out of. -/
def isDrive : List Char → Bool
  | [c, d] => c.isAlpha && (d == ':' || d == '|')
  | c :: d :: '\\' :: _ => c.isAlpha && (d == ':' || d == '|')
  | _ => false

/-- One more segment below some others, of which the last comes first. A point stays where it
is, and two points lead one segment up. -/
def descend (above : List (List Char)) (segment : List Char) : List (List Char) :=
  match points? segment with
  | some 1 => above
  | some 2 =>
    match above with
    | [] => []
    | last :: others => if isDrive last then above else others
  | _ => segment :: above

/-- The segments of a path without those of points, last first. Where the last one is of points,
an empty one takes its place. -/
def settle : List (List Char) → List (List Char) → List (List Char)
  | above, [] => above
  | above, [s] =>
    if points? s = some 1 ∨ points? s = some 2 then [] :: descend above s else s :: above
  | above, s :: t :: rest => settle (descend above s) (t :: rest)

/-- The path that some characters stand for. -/
def pathOf : List Char → List Char
  | '/' :: cs => (settle [] (Text.splitOn (· == '/') cs)).reverse.flatMap ('/' :: ·)
  | cs => cs

/-! ## Whole URLs -/

/-- Whether a character ends the authority. -/
def endsAuthority (c : Char) : Bool := c == '/' || c == '?' || c == '#'

/-- The authority if two slashes announce one, and what follows it. -/
def authorityAndRest? : List Char → Option (Option Authority × List Char)
  | '/' :: '/' :: cs => do
    let front := cs.takeWhile fun c => !endsAuthority c
    let (a, rest) ← authority? front
    let slash := if rest.isEmpty then [] else ['/']
    return (some a, slash ++ rest ++ cs.drop front.length)
  | cs => some (none, cs)

/-- Reads a URL. -/
def parse? (text : String) : Option Url := do
  let (scheme, cs) ← scheme? (cleaned text.toList)
  let (authority, cs) ← authorityAndRest? cs
  let cs := cs.takeWhile (· != '#')
  let (front, query) := match Text.cutAt (· == '?') cs with
    | some (front, query) => (front, some (String.ofList query))
    | none => (cs, none)
  return ⟨scheme, authority, String.ofList (pathOf front), query⟩

end Url

end Microblog.Http
