/-!
# Decimal integers

An integer is written as an optional sign and one or more ASCII digits, and
nothing else. `int64?` and `unsigned?` read such a text if its value has the
width that is asked for.
-/

namespace Microblog.Text

/-- The value of an ASCII digit. -/
def digit? (c : Char) : Option Nat :=
  if '0' ≤ c ∧ c ≤ '9' then some (c.toNat - '0'.toNat) else none

/-- The value of a run of digits after a value already read. -/
def digits? (acc : Nat) : List Char → Option Nat
  | [] => some acc
  | c :: cs => (digit? c).bind fun d => digits? (acc * 10 + d) cs

/-- One or more digits. -/
def natural? : List Char → Option Nat
  | [] => none
  | cs => digits? 0 cs

/-- An optional sign and one or more digits. -/
def integer? : List Char → Option Int
  | '-' :: cs => (natural? cs).map fun n => -(n : Int)
  | '+' :: cs => (natural? cs).map fun n => (n : Int)
  | cs => (natural? cs).map fun n => (n : Int)

/-- A signed 64-bit integer. -/
def int64? (s : String) : Option Int64 :=
  (integer? s.toList).bind fun i =>
    if -0x8000000000000000 ≤ i ∧ i < 0x8000000000000000 then some (Int64.ofInt i) else none

/-- An integer below `2 ^ bits`, with no minus sign. -/
def unsigned? (bits : Nat) (s : String) : Option Nat :=
  let read (cs : List Char) : Option Nat :=
    (natural? cs).bind fun n => if n < Nat.pow 2 bits then some n else none
  match s.toList with
  | '+' :: cs => read cs
  | cs => read cs

/-- The decimal digits of a number, most significant first. -/
def decimal (n : Nat) : List Char := Nat.toDigits 10 n

/-- The digits of `n`, padded with zeros at the left to `width`. -/
def padded (width n : Nat) : List Char :=
  let ds := decimal n
  List.replicate (width - ds.length) '0' ++ ds

end Microblog.Text
