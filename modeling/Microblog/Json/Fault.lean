import Microblog.Json.Value
import Microblog.Text.Quoted
import Microblog.Time.Rfc3339

/-!
# What can be wrong with a JSON text

A `Cause` is either a flaw of the grammar or a value of the wrong kind. A
`Fault` adds where in the value it was met and how many bytes of the text were
left; `Fault.message` turns these into a line and a column, the column being
the number of bytes read on that line.
-/

namespace Microblog.Json

/-- A breach of the grammar. -/
inductive Flaw where
  | endInArray
  | endInObject
  | endInString
  | endInValue
  | expectedColon
  | expectedArrayEnd
  | expectedObjectEnd
  | expectedLiteral
  | expectedValue
  | invalidEscape
  | invalidNumber
  | numberOutOfRange
  | invalidCodePoint
  | controlCharacter
  | keyNotString
  | loneSurrogate
  | trailingComma
  | trailingCharacters
  | endOfEscape
  | tooDeep
  deriving DecidableEq, Repr

def Flaw.message : Flaw → String
  | endInArray => "EOF while parsing a list"
  | endInObject => "EOF while parsing an object"
  | endInString => "EOF while parsing a string"
  | endInValue => "EOF while parsing a value"
  | expectedColon => "expected `:`"
  | expectedArrayEnd => "expected `,` or `]`"
  | expectedObjectEnd => "expected `,` or `\x7d`"
  | expectedLiteral => "expected ident"
  | expectedValue => "expected value"
  | invalidEscape => "invalid escape"
  | invalidNumber => "invalid number"
  | numberOutOfRange => "number out of range"
  | invalidCodePoint => "invalid unicode code point"
  | controlCharacter => "control character (\\u0000-\\u001F) found while parsing a string"
  | keyNotString => "key must be a string"
  | loneSurrogate => "lone leading surrogate in hex escape"
  | trailingComma => "trailing comma"
  | trailingCharacters => "trailing characters"
  | endOfEscape => "unexpected end of hex escape"
  | tooDeep => "recursion limit exceeded"

/-- What stands where something else was expected. -/
inductive Found where
  | null
  | bool (b : Bool)
  | int (i : Int)
  | float (bits : UInt64)
  | string (s : String)
  | array
  | object
  deriving DecidableEq, Repr

def Found.text : Found → String
  | null => "null"
  | bool b => "boolean `" ++ (if b then "true" else "false") ++ "`"
  | int i => "integer `" ++ String.ofList (writeInt i) ++ "`"
  | float bits => "floating point `" ++ Decimal.text bits ++ "`"
  | string s => "string " ++ Text.quoted s
  | array => "sequence"
  | object => "map"

/-- What a value is called where something else was expected. -/
def Value.found : Value → Found
  | .null => .null
  | .bool b => .bool b
  | .int i => .int i
  | .float bits => .float bits
  | .string s => .string s
  | .array _ => .array
  | .object _ => .object

/-- The reason of a fault. -/
inductive Cause where
  | flaw (f : Flaw)
  | missing (key : String)
  | repeated (key : String)
  | length (n : Nat) (expected : String)
  | kind (found : Found) (expected : String)
  | range (found : Found) (expected : String)
  | time (f : Time.TimeFault)
  deriving DecidableEq, Repr

def Cause.message : Cause → String
  | flaw f => f.message
  | missing key => "missing field `" ++ key ++ "`"
  | repeated key => "duplicate field `" ++ key ++ "`"
  | length n expected => "invalid length " ++ toString n ++ ", expected " ++ expected
  | kind found expected => "invalid type: " ++ found.text ++ ", expected " ++ expected
  | range found expected => "invalid value: " ++ found.text ++ ", expected " ++ expected
  | time f => f.message

/-- Whether the text is JSON up to the fault. -/
def Cause.isData : Cause → Bool
  | flaw _ => false
  | _ => true

/-- One step from a value into it. -/
inductive Step where
  | key (k : String)
  | index (i : Nat)
  deriving DecidableEq, Repr

/-- The text of a way into a value: a point before every key but a first one. -/
def pathText (steps : List Step) : String :=
  let rec from' (first : Bool) : List Step → String
    | [] => ""
    | .key k :: rest => (if first then k else "." ++ k) ++ from' false rest
    | .index i :: rest => "[" ++ toString i ++ "]" ++ from' false rest
  from' true steps

structure Fault where
  path : List Step
  cause : Cause
  /-- The number of bytes behind the position of the fault. -/
  remaining : Nat
  deriving DecidableEq, Repr

namespace Fault

/-- The same fault, met one step further down. -/
def inside (s : Step) (f : Fault) : Fault := { f with path := s :: f.path }

/-- The line and the column after some bytes. -/
def position (read : List UInt8) : Nat × Nat :=
  let lineEnd : UInt8 := 10
  (1 + read.count lineEnd, (read.reverse.takeWhile (· != lineEnd)).length)

/-- The message for a fault in a text. -/
def message (text : List UInt8) (f : Fault) : String :=
  let (line, column) := position (text.take (text.length - f.remaining))
  f.cause.message ++ " at line " ++ toString line ++ " column " ++ toString column

/-- The message with the way into the value in front of it, if the fault lies inside. -/
def messageWithPath (text : List UInt8) (f : Fault) : String :=
  if f.path.isEmpty then f.message text else pathText f.path ++ ": " ++ f.message text

end Fault

end Microblog.Json
