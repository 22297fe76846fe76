import Microblog.Json.Shape
import Microblog.Json.Fault

/-!
# Reading a shape from a JSON value

`Shape.decode` reads a value of a shape from a JSON value that is at hand as a
whole. The members of an object are taken in the order of their keys, and the
last of several members with one key counts; what is missing is found at the
end. An array that stands for a record must have one item for each field.
-/

namespace Microblog.Json

/-- An integer between two bounds. -/
def decodeInteger (lo hi : Int) (expected : String) : Value → Except Cause Int
  | .int i => if lo ≤ i ∧ i ≤ hi then .ok i else .error (.range (.int i) expected)
  | v => .error (.kind v.found expected)

/-- The value of the last member with a key. -/
def lastMember? (key : String) (members : List (String × Value)) : Option Value :=
  (members.reverse.find? fun m => m.1 == key).map (·.2)

namespace Fields

/-- What reading each field gives. -/
@[reducible] def Outcomes : Fields → Type
  | .nil => Unit
  | .cons _ _ s rest => Option (Except Cause s.Val) × rest.Outcomes

/-- The faults of fields, with their keys. -/
def faults : (fs : Fields) → fs.Outcomes → List (String × Cause)
  | .nil, () => []
  | .cons key _ _ rest, (some (.error cause), os) => (key, cause) :: rest.faults os
  | .cons _ _ _ rest, (_, os) => rest.faults os

/-- The record, if every field that must be present has been read. -/
def gather : (fs : Fields) → fs.Outcomes → Except Cause fs.Val
  | .nil, () => .ok ()
  | .cons _ _ _ rest, (some r, os) => do
    let v ← r
    let vs ← rest.gather os
    return (v, vs)
  | .cons key presence s rest, (none, os) =>
    if presence.object then (rest.gather os).map fun vs => (s.blank, vs)
    else .error (.missing key)

end Fields

/-- The cause that belongs to the least key. -/
def leastKey : List (String × Cause) → Option Cause
  | [] => none
  | (k, c) :: rest =>
    if rest.all fun (k', _) => k ≤ k' then some c else leastKey rest

mutual

/-- Reads a value of a shape. -/
def Shape.decode : (s : Shape) → Value → Except Cause s.Val
  | .int64, v => (decodeInteger (-0x8000000000000000) 0x7fffffffffffffff "i64" v).map Int64.ofInt
  | .int32, v => (decodeInteger (-0x80000000) 0x7fffffff "i32" v).map Int32.ofInt
  | .string, .string s => .ok s
  | .string, v => .error (.kind v.found Shape.string.expected)
  | .bool, .bool b => .ok b
  | .bool, v => .error (.kind v.found Shape.bool.expected)
  | .time, .string s => (Time.Rfc3339.parse s).mapError .time
  | .time, v => .error (.kind v.found Shape.time.expected)
  | .list s, .array vs => vs.mapM s.decode
  | .list s, v => .error (.kind v.found (Shape.list s).expected)
  | .maybe _, .null => .ok none
  | .maybe s, v => (s.decode v).map some
  | .record name fs, .array vs =>
    match fs.decodeItems (fun i => .length i (fs.expectedLength name)) 0 vs with
    | .error cause => .error cause
    | .ok v =>
      if vs.length ≤ fs.length then .ok v
      else .error (.length vs.length "fewer elements in array")
  | .record _ fs, .object ms =>
    let outcomes := fs.decodeMembers ms
    match leastKey (fs.faults outcomes) with
    | some cause => .error cause
    | none => fs.gather outcomes
  | .record name fs, v => .error (.kind v.found (Shape.record name fs).expected)

/-- Reads the fields from the items of an array, from number `i` on. -/
def Fields.decodeItems (short : Nat → Cause) : (fs : Fields) → Nat → List Value →
    Except Cause fs.Val
  | .nil, _, _ => .ok ()
  | .cons _ _ s rest, i, v :: vs => do
    let v ← s.decode v
    let vs ← rest.decodeItems short (i + 1) vs
    return (v, vs)
  | .cons _ presence s rest, i, [] =>
    if presence.array then
      (rest.decodeItems short (i + 1) []).map fun vs => (s.blank, vs)
    else .error (short i)

/-- Reads the fields from the members of an object. -/
def Fields.decodeMembers : (fs : Fields) → List (String × Value) → fs.Outcomes
  | .nil, _ => ()
  | .cons key _ s rest, ms =>
    ((lastMember? key ms).map s.decode, rest.decodeMembers ms)

end

end Microblog.Json
