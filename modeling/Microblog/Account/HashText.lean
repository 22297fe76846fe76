import Microblog.Bytes.Base64
import Microblog.Text.Integer
import Microblog.Text.Split
import Microblog.Text.Utf8

/-!
# The text of a password hash

A password hash is stored as the fields of `$algorithm$v=version$params$salt$output`.
Everything behind the algorithm may be left out, and each field has its own
alphabet and bounds. `HashText.parse` names the first field that breaks them.
-/

namespace Microblog.Account

/-- What is wrong with the value of a parameter or with a salt. -/
inductive ValueFault where
  | invalidChar (c : Char)
  | invalidFormat
  | malformed
  | tooLong
  | tooShort
  deriving DecidableEq, Repr

def ValueFault.message : ValueFault → String
  | invalidChar c => "contains invalid character: '" ++ c.toString ++ "'"
  | invalidFormat => "value format is invalid"
  | malformed => "value malformed"
  | tooLong => "value to long"
  | tooShort => "value to short"

/-- What is wrong with the text of a password hash. -/
inductive HashFault where
  | missingField
  | trailing
  | invalidName
  | invalidValue (f : ValueFault)
  | tooManyParams
  | invalidSalt (f : ValueFault)
  | base64
  | base64Length
  | outputTooShort
  deriving DecidableEq, Repr

def HashFault.message : HashFault → String
  | missingField => "password hash string missing field"
  | trailing => "password hash string contains trailing characters"
  | invalidName => "invalid parameter name"
  | invalidValue f => "invalid parameter value: " ++ f.message
  | tooManyParams => "maximum number of parameters reached"
  | invalidSalt f => "salt invalid: " ++ f.message
  | base64 => "invalid Base64 encoding"
  | base64Length => "invalid Base64 length"
  | outputTooShort => "output size too short, expected at least 10 bytes"

structure HashText where
  algorithm : String
  version : Option Nat
  params : List (String × String)
  salt : Option String
  output : Option (List UInt8)
  deriving DecidableEq, Repr

namespace HashText

/-- The characters of names. -/
def isNameChar (c : Char) : Bool := c.isLower || c.isDigit || c == '-'

/-- The characters of values and salts. -/
def isValueChar (c : Char) : Bool :=
  c.isAlphanum || c == '/' || c == '+' || c == '.' || c == '-'

/-- The name of an algorithm or of a parameter. -/
def name (cs : List Char) : Except HashFault String :=
  if 1 ≤ cs.length ∧ cs.length ≤ 32 ∧ cs.all isNameChar then .ok (String.ofList cs)
  else .error .invalidName

/-- The length of a text in bytes. -/
def byteLength (cs : List Char) : Nat := (String.ofList cs).utf8ByteSize

/-- The value of a parameter. -/
def value (cs : List Char) : Except HashFault String :=
  if 64 < byteLength cs then .error (.invalidValue .tooLong)
  else
    match cs.find? fun c => !isValueChar c with
    | some c => .error (.invalidValue (.invalidChar c))
    | none => .ok (String.ofList cs)

/-- A 32-bit number without leading zeros. -/
def number (s : String) : Except HashFault Nat :=
  match s.toList with
  | [] => .error (.invalidValue .malformed)
  | c :: cs =>
    match (c :: cs).find? fun c => !c.isDigit with
    | some c => .error (.invalidValue (.invalidChar c))
    | none =>
      if c = '0' ∧ cs ≠ [] then .error (.invalidValue .invalidFormat)
      else
        match Text.natural? (c :: cs) with
        | some n => if n < 0x100000000 then .ok n else .error (.invalidValue .invalidFormat)
        | none => .error (.invalidValue .invalidFormat)

/-- One parameter: a name, an equals sign and a value. -/
def param (cs : List Char) : Except HashFault (String × String) :=
  match Text.splitOn (· == '=') cs with
  | [] => .error .invalidName
  | n :: rest => do
    let n ← name n
    match rest with
    | [] => throw (.invalidValue .malformed)
    | [v] => return (n, ← value v)
    | v :: _ => do
      let _ ← value v
      throw (.invalidValue .malformed)

/-- Parameters with commas between them. -/
def paramList (cs : List Char) : Except HashFault (List (String × String)) :=
  if 127 < byteLength cs then .error .tooManyParams
  else (Text.splitOn (· == ',') cs).mapM param

def saltText (cs : List Char) : Except HashFault String :=
  if byteLength cs < 4 then .error (.invalidSalt .tooShort)
  else if 64 < byteLength cs then .error (.invalidSalt .tooLong)
  else
    match cs.find? fun c => !isValueChar c with
    | some c => .error (.invalidSalt (.invalidChar c))
    | none => .ok (String.ofList cs)

/-- The output has 10 to 64 bytes. -/
def outputBytes (cs : List Char) : Except HashFault (List UInt8) :=
  if 64 < byteLength cs / 4 * 3 + byteLength cs % 4 * 3 / 4 then .error .base64Length
  else
    match Bytes.Base64.decode? .standard cs with
    | none => .error .base64
    | some bs => if bs.length < 10 then .error .outputTooShort else .ok bs

/-- The version, if the first field is one, and the fields behind it. -/
def takeVersion : List (List Char) → Except HashFault (Option Nat × List (List Char))
  | ('v' :: '=' :: cs) :: rest =>
    if cs.contains ',' then .ok (none, ('v' :: '=' :: cs) :: rest)
    else do return (some (← number (← value cs)), rest)
  | fields => .ok (none, fields)

/-- The parameters, if the first field holds some, and the fields behind it. -/
def takeParams : List (List Char) → Except HashFault (List (String × String) × List (List Char))
  | field :: rest =>
    if field.contains '=' then do return (← paramList field, rest) else .ok ([], field :: rest)
  | [] => .ok ([], [])

/-- Reads the text of a password hash. -/
def parse (s : String) : Except HashFault HashText :=
  match Text.splitOn (· == '$') s.toList with
  | [] :: algorithm :: fields => do
    let algorithm ← name algorithm
    let (version, fields) ← takeVersion fields
    let (params, fields) ← takeParams fields
    match fields with
    | [] => return ⟨algorithm, version, params, none, none⟩
    | [salt] => return ⟨algorithm, version, params, some (← saltText salt), none⟩
    | salt :: output :: rest =>
      let salt ← saltText salt
      let output ← outputBytes output
      if rest.isEmpty then return ⟨algorithm, version, params, some salt, some output⟩
      else throw .trailing
  | _ => .error .missingField

end HashText

end Microblog.Account
