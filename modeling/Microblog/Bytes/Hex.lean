/-!
# Hexadecimal text

Two lower-case digits for each byte; digits of either case are read.
-/

namespace Microblog.Bytes

/-- The lower-case digit of a number below sixteen. -/
def hexDigit (n : Nat) : Char :=
  if n < 10 then Char.ofNat ('0'.toNat + n) else Char.ofNat ('a'.toNat + (n - 10))

/-- The value of a hexadecimal digit. -/
def hexValue? (c : Char) : Option Nat :=
  if '0' ≤ c ∧ c ≤ '9' then some (c.toNat - '0'.toNat)
  else if 'a' ≤ c ∧ c ≤ 'f' then some (c.toNat - 'a'.toNat + 10)
  else if 'A' ≤ c ∧ c ≤ 'F' then some (c.toNat - 'A'.toNat + 10)
  else none

def hexOfByte (b : UInt8) : List Char := [hexDigit (b.toNat / 16), hexDigit (b.toNat % 16)]

/-- The hexadecimal text of some bytes. -/
def hex (bs : List UInt8) : String := String.ofList (bs.flatMap hexOfByte)

/-- The bytes of a hexadecimal text. -/
def ofHex? : List Char → Option (List UInt8)
  | [] => some []
  | [_] => none
  | a :: b :: cs => do
    let hi ← hexValue? a
    let lo ← hexValue? b
    let rest ← ofHex? cs
    return UInt8.ofNat (hi * 16 + lo) :: rest

/-- The hexadecimal digits of a number without leading zeros. -/
def hexOfNat (n : Nat) : List Char := Nat.toDigits 16 n

end Microblog.Bytes
