import Microblog.Http.Headers

/-!
# Media types

A media type is `type/subtype`, with parameters behind semicolons. A body is
JSON if its type is `application/json` or `application/…+json`, letter case and
parameters aside.
-/

namespace Microblog.Http

/-- Where the reader of parameters stands. -/
inductive ParamState where
  | beforeName
  | name
  | beforeValue
  | value
  | beforeQuoted
  | quoted
  | afterQuoted
  deriving DecidableEq, Repr

namespace ParamState

/-- The place after one more character, if that may stand there. -/
def step : ParamState → Char → Option ParamState
  | beforeName, c => if c = ' ' then some beforeName else if isTokenChar c then some name else none
  | name, c => if c = '=' then some beforeValue else if isTokenChar c then some name else none
  | beforeValue, c =>
    if c = '"' then some beforeQuoted else if isTokenChar c then some value else none
  | value, c => if c = ';' then some beforeName else if isTokenChar c then some value else none
  | beforeQuoted, c => if 0x1f < c.toNat ∧ c.toNat ≠ 0x7f then some quoted else none
  | quoted, c =>
    if c = '"' then some afterQuoted
    else if 0x1f < c.toNat ∧ c.toNat ≠ 0x7f then some quoted else none
  | afterQuoted, c =>
    if c = ';' then some beforeName else if c = ' ' then some afterQuoted else none

/-- Whether the parameters may end. -/
def accepting : ParamState → Bool
  | beforeName | beforeValue | value | afterQuoted => true
  | _ => false

/-- Whether some characters may follow and end the parameters. -/
def run (s : ParamState) (cs : List Char) : Bool :=
  (cs.foldlM step s).any accepting

end ParamState

/-- The text in front of the last plus sign that is not the first character, and behind it. -/
def cutSuffix (cs : List Char) : List Char × Option (List Char) :=
  match cs with
  | [] => ([], none)
  | c :: cs =>
    match Text.cutAtLast (· == '+') cs with
    | none => (c :: cs, none)
    | some (front, back) => (c :: front, some back)

/-- Whether a media type is JSON. -/
def isJsonType (s : String) : Bool :=
  let cs := s.toList.map Char.toLower
  match Text.cutAt (· == '/') cs with
  | none => false
  | some (type, rest) =>
    let subtype := rest.takeWhile (· != ';')
    let params := (rest.drop subtype.length).drop 1
    let (front, back) := cutSuffix subtype
    subtype ≠ [] && subtype.all isTokenChar &&
      ParamState.run .beforeName params &&
      type == "application".toList &&
      (front == "json".toList || back == some "json".toList)

end Microblog.Http
