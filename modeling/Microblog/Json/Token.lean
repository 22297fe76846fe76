import Microblog.Json.Fault

/-!
# The tokens of a JSON text

Readers of blanks, literals, numbers and strings. A reader takes some bytes and
gives a value and what follows it; it carries the proof that it has moved on,
so the loops built from readers end.
-/

namespace Microblog.Json

abbrev Bytes := List UInt8

/-- A value and fewer than `n` bytes that follow it. -/
structure Read (α : Type) (n : Nat) where
  value : α
  rest : Bytes
  shorter : rest.length < n

namespace Read

variable {α β : Type} {m n : Nat}

def map (f : α → β) (r : Read α n) : Read β n := ⟨f r.value, r.rest, r.shorter⟩

/-- The same value, counted against more bytes. -/
def mono (h : n ≤ m) (r : Read α n) : Read α m := ⟨r.value, r.rest, Nat.lt_of_lt_of_le r.shorter h⟩

end Read

/-! Facts about lengths that readers hand on. -/

theorem length_lt_succ (bs : Bytes) : bs.length < bs.length + 1 := Nat.lt_succ_self _

theorem shorter_trans {as bs : Bytes} {n : Nat} (h : as.length < bs.length) (hn : bs.length < n) :
    as.length < n := Nat.lt_trans h hn

theorem shorter_of_cons {b : UInt8} {bs : Bytes} {n : Nat} (hn : (b :: bs).length < n) :
    bs.length < n := Nat.lt_of_succ_lt hn

theorem shorter_of_cons_of_read {b : UInt8} {as bs : Bytes} {n : Nat}
    (h : as.length < bs.length + 1) (hn : (b :: bs).length < n) : as.length < n :=
  Nat.lt_trans h hn

/-- Reads a value of type `α` at the front of some bytes. -/
abbrev Reader (α : Type) := (bs : Bytes) → Except Fault (Read α bs.length)

/-- A flaw right before the rest. -/
def flawAt (f : Flaw) (rest : Bytes) : Fault := ⟨[], .flaw f, rest.length⟩

/-- A flaw that the next byte shows. -/
def flawAhead (f : Flaw) (rest : Bytes) : Fault := ⟨[], .flaw f, rest.length - 1⟩

/-! ## Blanks and literals -/

def isSpace (b : UInt8) : Bool := b = 0x20 || b = 0x0a || b = 0x09 || b = 0x0d

theorem length_dropWhile_le {α : Type} (p : α → Bool) (l : List α) :
    (l.dropWhile p).length ≤ l.length := (List.dropWhile_sublist p).length_le

/-- What follows the blanks in front. -/
def skipSpace (bs : Bytes) : Bytes := bs.dropWhile isSpace

theorem length_skipSpace (bs : Bytes) : (skipSpace bs).length ≤ bs.length :=
  length_dropWhile_le _ _

theorem shorter_of_skipSpace {b : UInt8} {bs rest : Bytes} (h : skipSpace bs = b :: rest) :
    rest.length < bs.length := by
  have hle := length_skipSpace bs
  rw [h, List.length_cons] at hle
  omega

/-- The bytes of a literal after its first one. -/
def literal : Bytes → (bs : Bytes) → Except Fault (Read Unit (bs.length + 1))
  | [], bs => .ok ⟨(), bs, length_lt_succ bs⟩
  | _ :: _, [] => .error (flawAt .endInValue [])
  | e :: es, b :: bs =>
    if e = b then (literal es bs).map (Read.mono (by simp)) else .error (flawAt .expectedLiteral bs)

/-- The three literals after their first byte. -/
def literalNull := literal [0x75, 0x6c, 0x6c]
def literalTrue := literal [0x72, 0x75, 0x65]
def literalFalse := literal [0x61, 0x6c, 0x73, 0x65]

/-! ## Numbers -/

/-- A number as it is read: an integer that 64 bits hold, or a double. -/
inductive Number where
  | int (i : Int)
  | float (bits : UInt64)
  deriving DecidableEq, Repr

def Number.found : Number → Found
  | int i => .int i
  | float bits => .float bits

def isDigit (b : UInt8) : Bool := 0x30 ≤ b && b ≤ 0x39

def startsWithDigit : Bytes → Bool
  | [] => false
  | b :: _ => isDigit b

/-- The digits in front that keep the number below `limit`: the number, how many were read,
and the rest. -/
def digitsBelow (limit : Nat) (acc count : Nat) : Bytes → Nat × Nat × Bytes
  | [] => (acc, count, [])
  | b :: bs =>
    if isDigit b then
      let next := acc * 10 + (b.toNat - 0x30)
      if next < limit then digitsBelow limit next (count + 1) bs else (acc, count, b :: bs)
    else (acc, count, b :: bs)

theorem length_digitsBelow (limit acc count : Nat) (bs : Bytes) :
    (digitsBelow limit acc count bs).2.2.length ≤ bs.length := by
  induction bs generalizing acc count with
  | nil => simp [digitsBelow]
  | cons b bs ih =>
    simp only [digitsBelow]
    split
    · split
      · exact Nat.le_succ_of_le (ih ..)
      · simp
    · simp

/-- The largest number of a significand, plus one. -/
def wordLimit : Nat := 0x10000000000000000

/-- Ten to a power below 309, as a double. -/
def powerOfTen (e : Nat) : Float := Float.ofScientific 1 false e

/-- A double times a power of ten; `none` if the product is too large. -/
def scale : Nat → Float → Int → Option Float
  | 0, f, _ => some f
  | fuel + 1, f, e =>
    if e.natAbs ≤ 308 then
      if 0 ≤ e then
        let g := f * powerOfTen e.natAbs
        if g.isInf then none else some g
      else some (f / powerOfTen e.natAbs)
    else if f == 0 then some f
    else if 0 ≤ e then none
    else scale fuel (f / powerOfTen 308) (e + 308)

/-- The double `n * 10 ^ e`. Four steps of scaling bring every significand to zero. -/
def double (negative : Bool) (n : Nat) (e : Int) : Option Number :=
  (scale 4 (UInt64.ofNat n).toFloat e).map fun f => .float (if negative then -f else f).toBits

/-- A finished double before the rest. -/
def finish (negative : Bool) (n : Nat) (e : Int) (bs : Bytes) :
    Except Fault (Read Number (bs.length + 1)) :=
  match double negative n e with
  | some x => .ok ⟨x, bs, Nat.lt_succ_self _⟩
  | none => .error (flawAt .numberOutOfRange bs)

/-- The largest exponent, plus one. -/
def exponentLimit : Nat := 0x80000000

/-- A sum held between the bounds of an exponent. -/
def clampExponent (e : Int) : Int := max (-0x80000000) (min 0x7fffffff e)

/-- The exponent after its letter and sign, for a significand `n` already shifted by `e`. -/
def exponentDigits (negative : Bool) (n : Nat) (e : Int) (down : Bool) :
    (bs : Bytes) → Except Fault (Read Number (bs.length + 1))
  | [] => .error (flawAt .endInValue [])
  | b :: bs =>
    if isDigit b then
      let r := digitsBelow exponentLimit (b.toNat - 0x30) 0 bs
      let rest := r.2.2
      have h : rest.length ≤ bs.length := length_digitsBelow exponentLimit (b.toNat - 0x30) 0 bs
      if startsWithDigit rest then
        if n ≠ 0 ∧ ¬ down then .error (flawAt .numberOutOfRange (rest.drop 1))
        else
          .ok ⟨.float (if negative then 0x8000000000000000 else 0), rest.dropWhile isDigit, by
            have := length_dropWhile_le isDigit rest
            simp only [List.length_cons]; omega⟩
      else
        (finish negative n (clampExponent (if down then e - r.1 else e + r.1)) rest).map
          (Read.mono (by simp only [List.length_cons]; omega))
    else .error (flawAt .invalidNumber bs)

/-- The exponent after its letter. -/
def exponent (negative : Bool) (n : Nat) (e : Int) :
    (bs : Bytes) → Except Fault (Read Number (bs.length + 1))
  | [] => exponentDigits negative n e false []
  | b :: bs =>
    if b = 0x2b then (exponentDigits negative n e false bs).map (Read.mono (by simp))
    else if b = 0x2d then (exponentDigits negative n e true bs).map (Read.mono (by simp))
    else exponentDigits negative n e false (b :: bs)

/-- An exponent if there is one. -/
def afterDigits (negative : Bool) (n : Nat) (e : Int) :
    (bs : Bytes) → Except Fault (Read Number (bs.length + 1))
  | [] => finish negative n e []
  | b :: bs =>
    if b = 0x65 ∨ b = 0x45 then (exponent negative n e bs).map (Read.mono (by simp))
    else finish negative n e (b :: bs)

/-- The fraction after its point. -/
def fraction (negative : Bool) (n : Nat) (e : Int) (bs : Bytes) :
    Except Fault (Read Number (bs.length + 1)) :=
  let r := digitsBelow wordLimit n 0 bs
  let rest := r.2.2
  have h : rest.length ≤ bs.length := length_digitsBelow wordLimit n 0 bs
  let shifted := e - r.2.1
  if startsWithDigit rest then
    (afterDigits negative r.1 shifted (rest.dropWhile isDigit)).map (Read.mono (by
      have := length_dropWhile_le isDigit rest
      omega))
  else if r.2.1 = 0 then
    .error (flawAhead (if rest = [] then .endInValue else .invalidNumber) rest)
  else (afterDigits negative r.1 shifted rest).map (Read.mono (by omega))

/-- An integer without fraction and exponent; one that 64 bits do not hold is a double, and so
is a negative zero. -/
def integer (negative : Bool) (n : Nat) : Number :=
  if !negative then .int n
  else if 1 ≤ n ∧ n ≤ 0x8000000000000000 then .int (-n)
  else .float (-(UInt64.ofNat n).toFloat).toBits

/-- A fraction or an exponent if there is one. -/
def afterInteger (negative : Bool) (n : Nat) :
    (bs : Bytes) → Except Fault (Read Number (bs.length + 1))
  | [] => .ok ⟨integer negative n, [], Nat.lt_succ_self _⟩
  | b :: bs =>
    if b = 0x2e then (fraction negative n 0 bs).map (Read.mono (by simp))
    else if b = 0x65 ∨ b = 0x45 then (exponent negative n 0 bs).map (Read.mono (by simp))
    else .ok ⟨integer negative n, b :: bs, Nat.lt_succ_self _⟩

/-- What follows the digits of an integer too long for 64 bits. -/
def afterLongInteger (negative : Bool) (n : Nat) (dropped : Nat) :
    (bs : Bytes) → Except Fault (Read Number (bs.length + 1))
  | [] => finish negative n dropped []
  | b :: bs =>
    if b = 0x2e then (fraction negative n dropped bs).map (Read.mono (by simp))
    else afterDigits negative n dropped (b :: bs)

/-- A number after its first digit `b`. -/
def numberFrom (negative : Bool) (b : UInt8) (bs : Bytes) :
    Except Fault (Read Number (bs.length + 1)) :=
  if b = 0x30 then
    if startsWithDigit bs then .error (flawAhead .invalidNumber bs)
    else afterInteger negative 0 bs
  else
    let r := digitsBelow wordLimit (b.toNat - 0x30) 0 bs
    let rest := r.2.2
    have h : rest.length ≤ bs.length := length_digitsBelow wordLimit (b.toNat - 0x30) 0 bs
    if startsWithDigit rest then
      let more := rest.dropWhile isDigit
      have h' : more.length ≤ rest.length := length_dropWhile_le isDigit rest
      (afterLongInteger negative r.1 (rest.length - more.length) more).map
        (Read.mono (by omega))
    else (afterInteger negative r.1 rest).map (Read.mono (by omega))

/-- A number after its sign. -/
def number (negative : Bool) : (bs : Bytes) → Except Fault (Read Number (bs.length + 1))
  | [] => .error (flawAt .endInValue [])
  | b :: bs =>
    if isDigit b then (numberFrom negative b bs).map (Read.mono (by simp))
    else .error (flawAt .invalidNumber bs)

/-! ## Strings -/

/-- The value of a hexadecimal digit. -/
def hexDigit? (b : UInt8) : Option Nat := Bytes.hexValue? (Char.ofNat b.toNat)

/-- Four hexadecimal digits. -/
def hex4 : (bs : Bytes) → Except Fault (Read Nat (bs.length + 1))
  | a :: b :: c :: d :: bs =>
    match hexDigit? a, hexDigit? b, hexDigit? c, hexDigit? d with
    | some a, some b, some c, some d =>
      .ok ⟨((a * 16 + b) * 16 + c) * 16 + d, bs, by simp only [List.length_cons]; omega⟩
    | _, _, _, _ => .error (flawAt .invalidEscape bs)
  | _ => .error (flawAt .endInString [])

def isHighSurrogate (n : Nat) : Bool := 0xd800 ≤ n && n ≤ 0xdbff

def isLowSurrogate (n : Nat) : Bool := 0xdc00 ≤ n && n ≤ 0xdfff

/-- A given byte of the second half of a pair of surrogates. -/
def pairByte (e : UInt8) : (bs : Bytes) → Except Fault (Read Unit (bs.length + 1))
  | [] => .error (flawAt .endInString [])
  | b :: bs =>
    if b = e then .ok ⟨(), bs, by simp only [List.length_cons]; omega⟩
    else .error (flawAt .endOfEscape bs)

/-- A code point after `\u`; one above the first plane is written as two surrogates. -/
def codePoint (bs : Bytes) : Except Fault (Read Char (bs.length + 1)) := do
  let ⟨n, rest, h⟩ ← hex4 bs
  if isLowSurrogate n then throw (flawAt .loneSurrogate rest)
  if isHighSurrogate n then
    let ⟨_, rest₁, h₁⟩ ← pairByte 0x5c rest
    let ⟨_, rest₂, h₂⟩ ← pairByte 0x75 rest₁
    let ⟨m, rest₃, h₃⟩ ← hex4 rest₂
    if isLowSurrogate m then
      return ⟨Char.ofNat (0x10000 + (n - 0xd800) * 0x400 + (m - 0xdc00)), rest₃, by omega⟩
    else throw (flawAt .loneSurrogate rest₃)
  else return ⟨Char.ofNat n, rest, h⟩

/-- The character that a letter after a backslash stands for. -/
def escaped? (b : UInt8) : Option Char :=
  if b = 0x22 then some '"'
  else if b = 0x5c then some '\\'
  else if b = 0x2f then some '/'
  else if b = 0x62 then some '\x08'
  else if b = 0x66 then some '\x0c'
  else if b = 0x6e then some '\n'
  else if b = 0x72 then some '\r'
  else if b = 0x74 then some '\t'
  else none

/-- The character after a backslash. -/
def escapeSequence : (bs : Bytes) → Except Fault (Read Char (bs.length + 1))
  | [] => .error (flawAt .endInString [])
  | b :: bs =>
    match escaped? b with
    | some c => .ok ⟨c, bs, by simp only [List.length_cons]; omega⟩
    | none =>
      if b = 0x75 then (codePoint bs).map (Read.mono (by simp))
      else .error (flawAt .invalidEscape bs)

/-- The fault of a string whose bytes are no text. It lies as far before the rest as the bytes
reach beyond the whole characters at their front. -/
def invalidText (bytes rest : Bytes) : Fault :=
  ⟨[], .flaw .invalidCodePoint, rest.length + (bytes.length - Text.Utf8.wholeLength bytes)⟩

/-- A string after its first quote; `acc` holds the bytes so far, last first. -/
def stringFrom {n : Nat} (acc : Bytes) (bs : Bytes) (h : bs.length < n) :
    Except Fault (Read String n) :=
  match bs with
  | [] => .error (flawAt .endInString [])
  | b :: rest =>
    if b = 0x22 then
      match Text.Utf8.decode? acc.reverse with
      | some s => .ok ⟨s, rest, shorter_of_cons h⟩
      | none => .error (invalidText acc.reverse rest)
    else if b = 0x5c then
      match escapeSequence rest with
      | .error f => .error f
      | .ok ⟨c, rest', h'⟩ =>
        stringFrom ((String.utf8EncodeChar c).reverse ++ acc) rest' (shorter_of_cons_of_read h' h)
    else if b < 0x20 then .error (flawAt .controlCharacter rest)
    else stringFrom (b :: acc) rest (shorter_of_cons h)
termination_by bs.length
decreasing_by
  · exact h'
  · exact length_lt_succ rest

/-- A string after its first quote. -/
def stringBody (bs : Bytes) : Except Fault (Read String (bs.length + 1)) :=
  stringFrom [] bs (length_lt_succ bs)

/-! ## Passing over values -/

/-- Passes over an escape after its backslash; a code point is not checked. -/
def skipEscape : (bs : Bytes) → Except Fault (Read Unit (bs.length + 1))
  | [] => .error (flawAt .endInString [])
  | b :: bs =>
    if (escaped? b).isSome then .ok ⟨(), bs, by simp only [List.length_cons]; omega⟩
    else if b = 0x75 then (hex4 bs).map fun r => ⟨(), r.rest, Nat.lt_succ_of_lt r.shorter⟩
    else .error (flawAt .invalidEscape bs)

/-- Passes over a string after its first quote; its characters are not checked. -/
def skipStringFrom {n : Nat} (bs : Bytes) (h : bs.length < n) : Except Fault (Read Unit n) :=
  match bs with
  | [] => .error (flawAt .endInString [])
  | b :: rest =>
    if b = 0x22 then .ok ⟨(), rest, shorter_of_cons h⟩
    else if b = 0x5c then
      match skipEscape rest with
      | .error f => .error f
      | .ok ⟨_, rest', h'⟩ => skipStringFrom rest' (shorter_of_cons_of_read h' h)
    else if b < 0x20 then .error (flawAt .controlCharacter (b :: rest))
    else skipStringFrom rest (shorter_of_cons h)
termination_by bs.length
decreasing_by
  · exact h'
  · exact length_lt_succ rest

def skipString (bs : Bytes) : Except Fault (Read Unit (bs.length + 1)) :=
  skipStringFrom bs (length_lt_succ bs)

/-- Passes over an exponent after its letter. -/
def skipExponent (bs : Bytes) : Except Fault (Read Unit (bs.length + 1)) :=
  let unsigned := match bs with
    | b :: rest => if b = 0x2b ∨ b = 0x2d then rest else bs
    | [] => []
  match h : unsigned with
  | b :: rest =>
    if isDigit b then
      .ok ⟨(), rest.dropWhile isDigit, by
        have := length_dropWhile_le isDigit rest
        have : unsigned.length ≤ bs.length := by
          simp only [unsigned]; split
          · split <;> simp
          · simp
        rw [h] at this; simp only [List.length_cons] at this; omega⟩
    else .error (flawAt .invalidNumber rest)
  | [] => .error (flawAt .invalidNumber [])

/-- Passes over an exponent if there is one. -/
def skipAfterDigits : (bs : Bytes) → Except Fault (Read Unit (bs.length + 1))
  | [] => .ok ⟨(), [], by simp⟩
  | b :: bs =>
    if b = 0x65 ∨ b = 0x45 then (skipExponent bs).map (Read.mono (by simp))
    else .ok ⟨(), b :: bs, Nat.lt_succ_self _⟩

/-- Passes over a fraction or an exponent if there is one. -/
def skipAfterInteger : (bs : Bytes) → Except Fault (Read Unit (bs.length + 1))
  | [] => .ok ⟨(), [], by simp⟩
  | b :: bs =>
    if b = 0x2e then
      if startsWithDigit bs then
        (skipAfterDigits (bs.dropWhile isDigit)).map (Read.mono (by
          have := length_dropWhile_le isDigit bs
          simp only [List.length_cons]; omega))
      else .error (flawAhead .invalidNumber bs)
    else skipAfterDigits (b :: bs)

/-- Passes over a number after its sign. -/
def skipNumber : (bs : Bytes) → Except Fault (Read Unit (bs.length + 1))
  | [] => .error (flawAt .invalidNumber [])
  | b :: bs =>
    if b = 0x30 then
      if startsWithDigit bs then .error (flawAhead .invalidNumber bs)
      else (skipAfterInteger bs).map (Read.mono (by simp))
    else if isDigit b then
      (skipAfterInteger (bs.dropWhile isDigit)).map (Read.mono (by
        have := length_dropWhile_le isDigit bs
        simp only [List.length_cons]; omega))
    else .error (flawAt .invalidNumber bs)

end Microblog.Json
