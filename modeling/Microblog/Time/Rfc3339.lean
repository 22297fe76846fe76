import Microblog.Time.Timestamp
import Microblog.Text.Integer

/-!
# Times as RFC 3339 text

`write` gives the local date and time and the offset of a timestamp, `Z` for
none; a fraction of a second is written without trailing zeros, and not at all
when it is zero. `parse` reads what RFC 3339 allows, with any character of ASCII
between date and time and further digits of a fraction cut off. The sixtieth
second is read as the last nanosecond before it, and only where a leap second
can stand: at the end of a month in UTC.
-/

namespace Microblog.Time

/-- Why a text is not a time. -/
inductive TimeFault where
  | literal
  | component (name : String)
  | range (name : String)
  | trailing
  deriving DecidableEq, Repr

def TimeFault.message : TimeFault → String
  | literal => "a character literal was not valid"
  | component name => "the '" ++ name ++ "' component could not be parsed"
  | range name => name ++ " was not in range"
  | trailing => "unexpected trailing characters; the end of input was expected"

/-- A date and time under an offset. -/
structure Moment where
  date : Date
  hour : Nat
  minute : Nat
  second : Nat
  nanos : Nat
  offset : Int
  deriving DecidableEq, Repr

namespace Moment

def toTimestamp (m : Moment) : Timestamp :=
  let seconds := (m.date.toDays - epochDay) * 86400 + m.hour * 3600 + m.minute * 60 + m.second
  ⟨(seconds - m.offset) * Timestamp.second + m.nanos, m.offset⟩

def ofTimestamp (t : Timestamp) : Moment :=
  let s := (t.localNanos % Timestamp.day / Timestamp.second).toNat
  ⟨Date.ofDays t.localDay, s / 3600, s / 60 % 60, s % 60, t.subsecond, t.offset⟩

end Moment

namespace Rfc3339

/-! ## Writing -/

/-- The digits of a fraction of a second without trailing zeros. -/
def fraction (nanos : Nat) : List Char :=
  if nanos = 0 then []
  else '.' :: ((Text.padded 9 nanos).reverse.dropWhile (· == '0')).reverse

def writeOffset (offset : Int) : List Char :=
  if offset = 0 then ['Z']
  else
    let minutes := offset.natAbs / 60
    (if offset < 0 then '-' else '+') ::
      (Text.padded 2 (minutes / 60) ++ ':' :: Text.padded 2 (minutes % 60))

def writeMoment (m : Moment) : List Char :=
  Text.padded 4 m.date.year.toNat ++ '-' :: Text.padded 2 m.date.month ++ '-' ::
    Text.padded 2 m.date.day ++ 'T' :: Text.padded 2 m.hour ++ ':' ::
    Text.padded 2 m.minute ++ ':' :: Text.padded 2 m.second ++
    fraction m.nanos ++ writeOffset m.offset

/-- The text of a timestamp. -/
def write (t : Timestamp) : String := String.ofList (writeMoment (.ofTimestamp t))

/-! ## Reading -/

/-- Exactly `n` digits in front. -/
def digits? : Nat → Nat → List Char → Option (Nat × List Char)
  | 0, acc, cs => some (acc, cs)
  | n + 1, acc, c :: cs => (Text.digit? c).bind fun d => digits? n (acc * 10 + d) cs
  | _ + 1, _, [] => none

/-- A component of exactly `n` digits. -/
def number (name : String) (n : Nat) (cs : List Char) : Except TimeFault (Nat × List Char) :=
  match digits? n 0 cs with
  | some r => .ok r
  | none => .error (.component name)

/-- A given character in front. -/
def literal (c : Char) : List Char → Except TimeFault (List Char)
  | d :: cs => if c = d then .ok cs else .error .literal
  | [] => .error .literal

/-- Between date and time stands any character of ASCII; what is left of a wider character
after its first byte is no hour. -/
def separator : List Char → Except TimeFault (List Char)
  | [] => .error (.component "separator")
  | c :: cs => if c.toNat < 0x80 then .ok cs else .error (.component "hour")

/-- The first nine of the digits in front, as nanoseconds, and what follows the digits. -/
def nanosOf (cs : List Char) : Nat × List Char :=
  let ds := cs.takeWhile fun c => (Text.digit? c).isSome
  let used := ds.take 9
  (((Text.digits? 0 used).getD 0) * Nat.pow 10 (9 - used.length), cs.dropWhile fun c => (Text.digit? c).isSome)

def parseFraction : List Char → Except TimeFault (Nat × List Char)
  | '.' :: cs =>
    match cs with
    | c :: _ =>
      if (Text.digit? c).isSome then .ok (nanosOf cs) else .error (.component "subsecond")
    | [] => .error (.component "subsecond")
  | cs => .ok (0, cs)

/-- `Z`, or a sign with hours and minutes; in seconds. -/
def parseOffset : List Char → Except TimeFault (Int × List Char)
  | [] => .error (.component "offset hour")
  | c :: cs =>
    if c = 'Z' ∨ c = 'z' then .ok (0, cs)
    else if c = '+' ∨ c = '-' then do
      let (h, cs) ← number "offset hour" 2 cs
      if 23 < h then throw (.component "offset hour")
      let cs ← literal ':' cs
      let (m, cs) ← number "offset minute" 2 cs
      if 59 < m then throw (.range "offset minute")
      let seconds : Int := (h * 60 + m) * 60
      return (if c = '-' then -seconds else seconds, cs)
    else .error (.component "offset hour")

/-- Checks that the components lie in their ranges. -/
def check (m : Moment) : Except TimeFault Timestamp := do
  if 12 < m.date.month then throw (.range "month")
  if ¬ m.date.Valid then throw (.range "day")
  if 23 < m.hour then throw (.range "hour")
  if 59 < m.minute then throw (.range "minute")
  if m.second = 60 then
    let t := { m with second := 59, nanos := 999999999 }.toTimestamp
    let utc := Moment.ofTimestamp ⟨t.nanos, 0⟩
    if utc.hour = 23 ∧ utc.minute = 59 ∧ utc.second = 59 ∧
        utc.date.day = daysInMonth utc.date.year utc.date.month then return t
    else throw (.range "second")
  if 60 < m.second then throw (.range "second")
  return m.toTimestamp

/-- Reads the characters of a time. -/
def parseChars (cs : List Char) : Except TimeFault Timestamp := do
  let (year, cs) ← number "year" 4 cs
  let cs ← literal '-' cs
  let (month, cs) ← number "month" 2 cs
  if month = 0 then throw (.component "month")
  let cs ← literal '-' cs
  let (day, cs) ← number "day" 2 cs
  let cs ← separator cs
  let (hour, cs) ← number "hour" 2 cs
  let cs ← literal ':' cs
  let (minute, cs) ← number "minute" 2 cs
  let cs ← literal ':' cs
  let (second, cs) ← number "second" 2 cs
  let (nanos, cs) ← parseFraction cs
  let (offset, cs) ← parseOffset cs
  match cs with
  | [] => check ⟨⟨year, month, day⟩, hour, minute, second, nanos, offset⟩
  | _ :: _ => throw .trailing

/-- Reads a time. -/
def parse (s : String) : Except TimeFault Timestamp := parseChars s.toList

end Rfc3339

end Microblog.Time
