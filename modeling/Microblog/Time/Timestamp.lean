import Microblog.Time.Calendar

/-!
# Points in time

A `Timestamp` is a point in time together with the offset from UTC under which
it was written down. The offset does not count when two of them are compared.
Local dates run from the year -9999 to 9999; a sum outside is `none`.
-/

namespace Microblog

/-- Nanoseconds since 1970 in UTC, and the offset in seconds. -/
structure Timestamp where
  nanos : Int
  offset : Int
  deriving DecidableEq, Repr

namespace Timestamp

/-- Nanoseconds of a second. -/
def second : Int := 1000000000

/-- Nanoseconds of a day. -/
def day : Int := 86400 * second

/-- The first of January 1970. -/
def epoch : Timestamp := ⟨0, 0⟩

/-- A point in time in UTC, by its seconds since 1970. -/
def ofUnix (seconds : Int) : Timestamp := ⟨seconds * second, 0⟩

/-- Whole seconds since 1970, rounded down. -/
def unix (t : Timestamp) : Int := t.nanos / second

/-- The nanoseconds beyond the whole seconds. -/
def subsecond (t : Timestamp) : Nat := (t.nanos % second).toNat

/-- `t` is not after `u`. -/
def notAfter (t u : Timestamp) : Bool := t.nanos ≤ u.nanos

/-- The nanoseconds since 1970 that a clock under the offset shows. -/
def localNanos (t : Timestamp) : Int := t.nanos + t.offset * second

/-- The day that a clock under the offset shows. -/
def localDay (t : Timestamp) : Int := Time.epochDay + t.localNanos / day

/-- Whether the local date lies in the years -9999 to 9999. -/
def InRange (t : Timestamp) : Prop :=
  Time.yearStart (-9999) ≤ t.localDay ∧ t.localDay < Time.yearStart 10000

instance (t : Timestamp) : Decidable t.InRange := inferInstanceAs (Decidable (_ ∧ _))

/-- The point in time some nanoseconds later. -/
def add? (t : Timestamp) (nanos : Int) : Option Timestamp :=
  let u : Timestamp := ⟨t.nanos + nanos, t.offset⟩
  if u.InRange then some u else none

end Timestamp

end Microblog
