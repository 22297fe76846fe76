import Microblog.Text.Integer
import Microblog.Text.Utf8
import Microblog.Bytes.Hex
import Microblog.Decimal.Shortest

/-!
# JSON values and their text

`Value` is a JSON value whose members keep their order, and `Value.render` is
its compact text: no space between tokens, and in strings only what must be
escaped is escaped.
-/

namespace Microblog.Json

/-- A JSON value; a number is an integer or a double, which is given by its bits. -/
inductive Value where
  | null
  | bool (b : Bool)
  | int (i : Int)
  | float (bits : UInt64)
  | string (s : String)
  | array (items : List Value)
  | object (members : List (String × Value))
  deriving BEq, Repr, Inhabited

/-- How a character is written in a string. -/
def escape (c : Char) : List Char :=
  match c with
  | '"' => ['\\', '"']
  | '\\' => ['\\', '\\']
  | '\x08' => ['\\', 'b']
  | '\x0c' => ['\\', 'f']
  | '\n' => ['\\', 'n']
  | '\r' => ['\\', 'r']
  | '\t' => ['\\', 't']
  | c =>
    if c.toNat < 0x20 then '\\' :: 'u' :: '0' :: '0' :: Bytes.hexOfByte (UInt8.ofNat c.toNat)
    else [c]

/-- A string between its quotes. -/
def writeString (s : String) : List Char := '"' :: s.toList.flatMap escape ++ ['"']

/-- An integer in decimal. -/
def writeInt : Int → List Char
  | .ofNat n => Text.decimal n
  | .negSucc n => '-' :: Text.decimal (n + 1)

namespace Value

mutual

/-- The characters of the compact text. -/
def write : Value → List Char
  | null => ['n', 'u', 'l', 'l']
  | bool true => ['t', 'r', 'u', 'e']
  | bool false => ['f', 'a', 'l', 's', 'e']
  | int i => writeInt i
  | float bits => (Decimal.text bits).toList
  | string s => writeString s
  | array [] => ['[', ']']
  | array (v :: vs) => '[' :: write v ++ writeItems vs
  | object [] => ['{', '}']
  | object ((k, v) :: ms) => '{' :: writeString k ++ ':' :: write v ++ writeMembers ms

/-- The items after the first one, and the end of the array. -/
def writeItems : List Value → List Char
  | [] => [']']
  | v :: vs => ',' :: write v ++ writeItems vs

/-- The members after the first one, and the end of the object. -/
def writeMembers : List (String × Value) → List Char
  | [] => ['}']
  | (k, v) :: ms => ',' :: writeString k ++ ':' :: write v ++ writeMembers ms

end

/-- The compact text. -/
def render (v : Value) : String := String.ofList v.write

/-- An object with further members behind its own. -/
def append : Value → List (String × Value) → Value
  | object members, more => object (members ++ more)
  | v, _ => v

end Value

end Microblog.Json
