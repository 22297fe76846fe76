import Microblog.Text.Integer

/-!
# The shortest decimal text of a binary fraction

`shortest` gives the fewest decimal digits that read back as a given double,
and of those the nearest to it. It looks at the grids of 1, 2, ... 17 digits in
turn and takes the first one with a point among the reals that round to the
double. `text` writes the digits in positional notation, with a point, from
`10 ^ -5` up to `10 ^ 16`, and with a signed exponent beyond.
-/

namespace Microblog.Decimal

/-- `digits` times ten to the `exponent`. -/
structure Scaled where
  digits : Nat
  exponent : Int
  deriving DecidableEq, Repr

/-- The greatest `e` with `10 ^ e ≤ num / den`. -/
def floorLog (num den : Nat) : Int :=
  if den ≤ num then (Text.decimal (num / den)).length - 1
  else -(Text.decimal ((den + num - 1) / num - 1)).length

/-- The reals that round to a double lie from `lo` to `hi` about `mid`, all over `den`; the
ends belong to them if `closed`. -/
structure Window where
  lo : Nat
  mid : Nat
  hi : Nat
  den : Nat
  closed : Bool

/-- The window of `m * 2 ^ q`; below a power of two the doubles lie closer. -/
def Window.of (m : Nat) (q : Int) (lowest : Bool) : Window :=
  let below := if m = 0x10000000000000 ∧ !lowest then 1 else 2
  let up := Nat.pow 2 (q - 2).toNat
  ⟨(4 * m - below) * up, 4 * m * up, (4 * m + 2) * up, Nat.pow 2 (2 - q).toNat, m % 2 == 0⟩

/-- Whether `num / den'` lies in the window, with `den' = w.den * den`. -/
def Window.contains (w : Window) (num den : Nat) : Bool :=
  let x := num * w.den
  if w.closed then w.lo * den ≤ x && x ≤ w.hi * den else w.lo * den < x && x < w.hi * den

/-- The point of the grid of `n` digits in the window that is nearest to its middle. -/
def Window.onGrid? (w : Window) (n : Nat) : Option Scaled :=
  let e := floorLog w.mid w.den - n + 1
  let up := Nat.pow 10 e.toNat
  let down := Nat.pow 10 (-e).toNat
  let d := w.mid * down / (w.den * up)
  let inside (k : Nat) : Bool := w.contains (k * up) down
  let twice := 2 * w.mid * down
  let half := (2 * d + 1) * up * w.den
  let first := if twice < half ∨ (twice = half ∧ d % 2 = 0) then d else d + 1
  let second := if first = d then d + 1 else d
  if inside first then some ⟨first, e⟩ else if inside second then some ⟨second, e⟩ else none

/-- The fewest digits for a positive double given as `m * 2 ^ q`. -/
def shortestOf (m : Nat) (q : Int) (lowest : Bool) : Scaled :=
  let w := Window.of m q lowest
  ((List.range 17).findSome? fun n => w.onGrid? (n + 1)).getD ⟨m, 0⟩

/-- The bits of a finite double as a sign, `m` and `q` with the value `m * 2 ^ q`, and whether
its exponent is the lowest one. -/
def unpack (bits : UInt64) : Bool × Nat × Int × Bool :=
  let n := bits.toNat
  let exponent : Nat := n / 0x10000000000000 % 2048
  let low : Nat := n % 0x10000000000000
  let negative : Bool := n ≥ 0x8000000000000000
  if exponent = 0 then (negative, low, -1074, true)
  else (negative, low + 0x10000000000000, (exponent : Int) - 1075, exponent == 1)

/-- Digits and exponent without zeros at the end of the digits. -/
def strip : Nat → Scaled → Scaled
  | 0, s => s
  | fuel + 1, s => if s.digits % 10 = 0 ∧ s.digits ≠ 0 then strip fuel ⟨s.digits / 10, s.exponent + 1⟩ else s

/-- The characters of a positive number. -/
def Scaled.write (s : Scaled) : List Char :=
  let ds := Text.decimal s.digits
  let point : Int := ds.length + s.exponent
  if -5 ≤ point - 1 ∧ point - 1 ≤ 15 then
    if point ≤ 0 then '0' :: '.' :: List.replicate (-point).toNat '0' ++ ds
    else if ds.length ≤ point.toNat then
      ds ++ List.replicate (point.toNat - ds.length) '0' ++ ['.', '0']
    else ds.take point.toNat ++ '.' :: ds.drop point.toNat
  else
    let tail := ds.drop 1
    let exponent := point - 1
    ds.take 1 ++ (if tail = [] then [] else '.' :: tail) ++
      'e' :: (if exponent < 0 then '-' else '+') :: Text.decimal exponent.natAbs

/-- The text of a finite double given by its bits. -/
def text (bits : UInt64) : String :=
  let (negative, m, q, lowest) := unpack bits
  let body := if m = 0 then ['0', '.', '0'] else (strip 400 (shortestOf m q lowest)).write
  String.ofList (if negative then '-' :: body else body)

end Microblog.Decimal
