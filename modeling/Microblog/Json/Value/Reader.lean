import Microblog.Json.Reader

/-!
# Reading any JSON value

`Value.reader` reads a value of whatever kind at the front of a text. All
members of an object are kept, in their order and with repeated keys. Arrays and
objects lie in one another only up to a depth.
-/

namespace Microblog.Json.Value

def ofNumber : Number → Value
  | .int i => int i
  | .float bits => float bits

/-- The members of an object from the next one on; `acc` holds the ones before, last first. -/
def membersFrom {n : Nat} (read : Reader Value) (first : Bool) (acc : List (String × Value))
    (bs : Bytes) (hn : bs.length < n) : Except Fault (Read (List (String × Value)) n) :=
  match Fields.nextKey first bs with
  | .error f => .error f
  | .ok ⟨none, rest, _⟩ => .ok ⟨acc.reverse, rest, by omega⟩
  | .ok ⟨some key, rest, _⟩ =>
    match colon rest with
    | .error f => .error (f.inside (.key key))
    | .ok ⟨_, rest₁, _⟩ =>
      match read rest₁ with
      | .error f => .error (f.inside (.key key))
      | .ok ⟨v, rest₂, _⟩ => membersFrom read false ((key, v) :: acc) rest₂ (by omega)
termination_by bs.length
decreasing_by omega

/-- A value that is neither array nor object, given its first byte. -/
def scalar (b : UInt8) (rest : Bytes) : Except Fault (Read Value (rest.length + 1)) :=
  if b = 0x6e then (literalNull rest).map (·.map fun _ => null)
  else if b = 0x74 then (literalTrue rest).map (·.map fun _ => bool true)
  else if b = 0x66 then (literalFalse rest).map (·.map fun _ => bool false)
  else if b = 0x2d then (number true rest).map (·.map ofNumber)
  else if isDigit b then (numberFrom false b rest).map (·.map ofNumber)
  else if b = 0x22 then (stringBody rest).map (·.map string)
  else .error (flawAhead .expectedValue (b :: rest))

/-- Any value in which arrays and objects are at most `depth` deep. -/
def reader : (depth : Nat) → Reader Value
  | 0 => afterSpace fun b rest =>
    if b = 0x5b ∨ b = 0x7b then .error (flawAhead .tooDeep (b :: rest)) else scalar b rest
  | depth + 1 => afterSpace fun b rest =>
    if b = 0x5b then do
      let ⟨items, rest', h⟩ ← itemsFrom (reader depth) true 0 [] rest (length_lt_succ rest)
      (conclude (.ok (array items)) (closeArray rest')).map (Read.mono (by omega))
    else if b = 0x7b then do
      let ⟨members, rest', h⟩ ← membersFrom (reader depth) true [] rest (length_lt_succ rest)
      (conclude (.ok (object members)) (closeObject rest')).map (Read.mono (by omega))
    else scalar b rest

/-- How deep arrays and objects may lie in one another. -/
def maxDepth : Nat := 127

/-- Reads a value that fills a text but for blanks. -/
def read (text : Bytes) : Except Fault Value := (reader maxDepth).whole text

end Microblog.Json.Value
