/-!
# Request targets

The target of a request is a path with a query, such a path behind a scheme and
an authority, an authority alone, or a star. `Target.parse` keeps the path and
the query; a fragment is dropped, and of an authority only its form is checked.
-/

namespace Microblog.Http

/-- Why a target cannot be read. -/
inductive TargetFault where
  | empty
  | tooLong
  | char
  | schemeTooLong
  | authority
  | format
  deriving DecidableEq, Repr

def TargetFault.message : TargetFault → String
  | empty => "empty string"
  | tooLong => "uri too long"
  | char => "invalid uri character"
  | schemeTooLong => "scheme too long"
  | authority => "invalid authority"
  | format => "invalid format"

structure Target where
  path : String
  query : Option String
  deriving DecidableEq, Repr

namespace Target

/-- The greatest number of bytes of a target. -/
def maxBytes : Nat := 65534

/-! ## Path and query -/

/-- The characters of a path. -/
def isPathChar (c : Char) : Bool :=
  let n := c.toNat
  n == 0x21 || n == 0x22 || (0x24 ≤ n && n ≤ 0x3b) || n == 0x3d || (0x40 ≤ n && n ≤ 0x5f) ||
    (0x61 ≤ n && n != 0x7f)

/-- The characters of a query. -/
def isQueryChar (c : Char) : Bool :=
  let n := c.toNat
  n == 0x21 || (0x24 ≤ n && n ≤ 0x3b) || n == 0x3d || (0x3f ≤ n && n != 0x7f)

/-- The path and the query of a text; an empty path is the root. -/
def ofPath (cs : List Char) : Except TargetFault Target :=
  let path := cs.takeWhile fun c => c != '?' && c != '#'
  let query := match cs.drop path.length with
    | '?' :: rest => some (rest.takeWhile (· != '#'))
    | _ => none
  if path.all isPathChar && query.all (·.all isQueryChar) then
    .ok ⟨if path.isEmpty then "/" else String.ofList path, query.map String.ofList⟩
  else .error .char

/-! ## Authorities -/

/-- The characters of an authority that have no meaning of their own. -/
def isPlainChar (c : Char) : Bool := c.isAlphanum || "!$&'()*+,-.;=_~".toList.contains c

/-- What is known of an authority of which some characters have been read. -/
structure Seen where
  /-- The colons since the last at sign or closing bracket. -/
  colons : Nat
  opened : Bool
  closed : Bool
  /-- Whether there was a percent sign since the last at sign or closing bracket. -/
  percent : Bool
  /-- The last character. -/
  last : Option Char

namespace Seen

def nothing : Seen := ⟨0, false, false, false, none⟩

/-- One more character. -/
def next (s : Seen) (c : Char) : Except TargetFault Seen :=
  let s := { s with last := some c }
  match c with
  | ':' => if s.colons < 8 then .ok { s with colons := s.colons + 1 } else .error .authority
  | '[' => if s.percent || s.opened then .error .authority else .ok { s with opened := true }
  | ']' =>
    if !s.opened || s.closed then .error .authority
    else .ok { s with closed := true, colons := 0, percent := false }
  | '@' => .ok { s with colons := 0, percent := false }
  | '%' => .ok { s with percent := true }
  | c => if isPlainChar c then .ok s else .error .char

/-- Whether what has been read may be a whole authority. -/
def complete (s : Seen) : Bool :=
  s.opened == s.closed && s.colons ≤ 1 && s.last != some '@' && !s.percent

end Seen

/-- The characters that end an authority. -/
def endsAuthority (c : Char) : Bool := c == '/' || c == '?' || c == '#'

/-- The authority at the front of a text, and what follows it. -/
def authority (cs : List Char) : Except TargetFault (List Char × List Char) := do
  let a := cs.takeWhile fun c => !endsAuthority c
  let seen ← a.foldlM Seen.next .nothing
  if seen.complete then return (a, cs.drop a.length) else throw .authority

/-! ## Targets -/

/-- The characters of schemes. -/
def isSchemeChar (c : Char) : Bool := c.isAlphanum || "+-.~".toList.contains c

/-- What follows a scheme at the front of a text, if there is one. -/
def behindScheme (cs : List Char) : Except TargetFault (Option (List Char)) :=
  let scheme := cs.takeWhile isSchemeChar
  match cs.drop scheme.length with
  | ':' :: '/' :: '/' :: rest =>
    if cs.length ≤ 3 then .ok none
    else if 64 < scheme.length then .error .schemeTooLong
    else .ok (some rest)
  | _ => .ok none

/-- Reads a target that does not begin with a path. -/
def ofAuthority (cs : List Char) : Except TargetFault Target := do
  match ← behindScheme cs with
  | none =>
    let (_, rest) ← authority cs
    if rest.isEmpty then return ⟨"", none⟩
    else throw (if cs.length = 1 then .char else .format)
  | some [] => throw .empty
  | some cs =>
    let (a, rest) ← authority cs
    if a.isEmpty then throw .format
    ofPath rest

/-- Reads a target. -/
def parse (s : String) : Except TargetFault Target :=
  if maxBytes < s.utf8ByteSize then .error .tooLong
  else
    match s.toList with
    | [] => .error .empty
    | ['*'] => .ok ⟨"*", none⟩
    | '/' :: cs => ofPath ('/' :: cs)
    | cs => ofAuthority cs

end Target

end Microblog.Http
