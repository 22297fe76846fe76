import Microblog.Bytes.Hex
import Microblog.Text.Split
import Microblog.Text.Utf8

/-!
# Percent encoding

A percent sign with two hexadecimal digits stands for a byte; any other percent
sign stands for itself. In the parameters of a query a plus sign is a space.
-/

namespace Microblog.Http.Percent

/-- The value of a hexadecimal digit. -/
def digit? (b : UInt8) : Option Nat := Bytes.hexValue? (Char.ofNat b.toNat)

/-- The byte of a percent sign and two digits. -/
def escaped? (b x y : UInt8) : Option UInt8 :=
  if b = 0x25 then
    match digit? x, digit? y with
    | some hi, some lo => some (UInt8.ofNat (hi * 16 + lo))
    | _, _ => none
  else none

/-- The bytes that encoded bytes stand for. -/
def decode : List UInt8 → List UInt8
  | b :: x :: y :: bs =>
    match escaped? b x y with
    | some c => c :: decode bs
    | none => b :: decode (x :: y :: bs)
  | bs => bs

/-- The text of a segment of a path, if it is UTF-8. -/
def segment? (s : String) : Option String := Text.Utf8.decode? (decode (Text.Utf8.encode s))

/-- The text of a name or value in a query. -/
def field (bs : List UInt8) : String :=
  Text.Utf8.decodeLossy (decode (bs.map fun b => if b = 0x2b then 0x20 else b))

/-- A name and its value. -/
def pair (bs : List UInt8) : String × String :=
  match Text.cutAt (· == 0x3d) bs with
  | none => (field bs, "")
  | some (name, value) => (field name, field value)

/-- The parameters of a query in their order. -/
def params (query : String) : List (String × String) :=
  (Text.splitOn (· == 0x26) (Text.Utf8.encode query)).filter (· != []) |>.map pair

end Microblog.Http.Percent
