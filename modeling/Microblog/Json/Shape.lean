import Microblog.Json.Value
import Microblog.Time.Rfc3339

/-!
# Shapes of JSON values

A `Shape` says what a JSON value is read as and written from: `Shape.Val` is
the type of what it holds. A record is a value with named fields; it is written
as an object with its fields in order.
-/

namespace Microblog.Json

/-- Whether a field may be left out of an object, and whether it may be left out of an array
that stands for the record. -/
structure Presence where
  object : Bool
  array : Bool
  deriving DecidableEq, Repr

namespace Presence

def required : Presence := ⟨false, false⟩

/-- An object may lack the field. -/
def optional : Presence := ⟨true, false⟩

/-- Both forms may lack the field. -/
def defaulted : Presence := ⟨true, true⟩

end Presence

mutual

inductive Shape where
  | int64
  | int32
  | string
  | bool
  | time
  | list (item : Shape)
  | maybe (shape : Shape)
  | record (name : String) (fields : Fields)

/-- The fields of a record in their order. -/
inductive Fields where
  | nil
  | cons (key : String) (presence : Presence) (shape : Shape) (rest : Fields)

end

mutual

/-- What a shape holds. -/
@[reducible] def Shape.Val : Shape → Type
  | .int64 => Int64
  | .int32 => Int32
  | .string => String
  | .bool => Bool
  | .time => Timestamp
  | .list s => List s.Val
  | .maybe s => Option s.Val
  | .record _ fs => fs.Val

@[reducible] def Fields.Val : Fields → Type
  | .nil => Unit
  | .cons _ _ s rest => s.Val × rest.Val

end

mutual

/-- What a field holds when it is left out. -/
def Shape.blank : (s : Shape) → s.Val
  | .int64 => (0 : Int64)
  | .int32 => (0 : Int32)
  | .string => ""
  | .bool => false
  | .time => Timestamp.epoch
  | .list _ => []
  | .maybe _ => none
  | .record _ fs => fs.blank

def Fields.blank : (fs : Fields) → fs.Val
  | .nil => ()
  | .cons _ _ s rest => (s.blank, rest.blank)

end

mutual

/-- The JSON value that is written. -/
def Shape.encode : (s : Shape) → s.Val → Value
  | .int64, i => .int i.toInt
  | .int32, i => .int i.toInt
  | .string, s => .string s
  | .bool, b => .bool b
  | .time, t => .string (Time.Rfc3339.write t)
  | .list s, vs => .array (vs.map s.encode)
  | .maybe _, none => .null
  | .maybe s, some v => s.encode v
  | .record _ fs, v => .object (fs.encode v)

/-- The members of the object that is written. -/
def Fields.encode : (fs : Fields) → fs.Val → List (String × Value)
  | .nil, () => []
  | .cons k _ s rest, (v, vs) => (k, s.encode v) :: rest.encode vs

end

def Fields.length : Fields → Nat
  | .nil => 0
  | .cons _ _ _ rest => rest.length + 1

/-- What the reader of a faulty text is told to have expected. -/
def Shape.expected : Shape → String
  | .int64 => "i64"
  | .int32 => "i32"
  | .string => "a string"
  | .bool => "a boolean"
  | .time => "an RFC3339-formatted `OffsetDateTime`"
  | .list _ => "a sequence"
  | .maybe s => s.expected
  | .record name _ => "struct " ++ name

/-- The length that the array of a record should have had. -/
def Fields.expectedLength (fs : Fields) (name : String) : String :=
  "struct " ++ name ++ " with " ++ toString fs.length ++
    (if fs.length = 1 then " element" else " elements")


end Microblog.Json
