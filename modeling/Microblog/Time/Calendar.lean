/-!
# The calendar

The Gregorian calendar in both directions: a day is counted from the first of
January of the year 0, and `Date` gives it a year, a month and a day of the
month. `yearStart y` is the number of the first day of the year `y`.
-/

namespace Microblog.Time

def isLeap (y : Int) : Bool := y % 4 == 0 && (y % 100 != 0 || y % 400 == 0)

/-- The number of the first day of a year. -/
def yearStart (y : Int) : Int := 365 * y + (y + 3) / 4 - (y + 99) / 100 + (y + 399) / 400

/-- The days of the months of a year. -/
def monthLengths (y : Int) : List Nat :=
  [31, if isLeap y then 29 else 28, 31, 30, 31, 30, 31, 31, 30, 31, 30, 31]

/-- The days of a month; zero for a month that does not exist. -/
def daysInMonth (y : Int) (month : Nat) : Nat :=
  if month = 0 then 0 else (monthLengths y).getD (month - 1) 0

structure Date where
  year : Int
  month : Nat
  day : Nat
  deriving DecidableEq, Repr

namespace Date

/-- The month exists and has the day. -/
def Valid (d : Date) : Prop := 1 ≤ d.month ∧ d.month ≤ 12 ∧ 1 ≤ d.day ∧ d.day ≤ daysInMonth d.year d.month

instance (d : Date) : Decidable d.Valid := inferInstanceAs (Decidable (_ ∧ _ ∧ _ ∧ _))

/-- The number of a day. -/
def toDays (d : Date) : Int :=
  let before : Nat := ((monthLengths d.year).take (d.month - 1)).foldl (· + ·) 0
  yearStart d.year + before + (d.day - 1 : Int)

/-- The year of a day. -/
def yearOfDays (n : Int) : Int :=
  let guess := n * 400 / 146097
  if n < yearStart guess then guess - 1
  else if yearStart (guess + 1) ≤ n then guess + 1
  else guess

/-- The month and the day that stand `n` days after the first of the month `month`, given
the lengths of that month and the later ones. -/
def monthAndDay (month : Nat) : List Nat → Nat → Nat × Nat
  | [], n => (month, n + 1)
  | [_], n => (month, n + 1)
  | k :: ks, n => if n < k then (month, n + 1) else monthAndDay (month + 1) ks (n - k)

/-- The date of a day. -/
def ofDays (n : Int) : Date :=
  let y := yearOfDays n
  let (month, day) := monthAndDay 1 (monthLengths y) (n - yearStart y).toNat
  ⟨y, month, day⟩

end Date

/-- The number of the first of January 1970. -/
def epochDay : Int := yearStart 1970

end Microblog.Time
