import Microblog.Json.Token
import Microblog.Json.Shape

/-!
# Reading a shape from JSON text

`Shape.reader` reads a value of a shape at the front of a text. A record is
read from an object, whose unknown members are passed over, or from an array of
its fields in order. The first fault ends the reading. A fault that concerns a
record as a whole, such as a missing field, is placed behind the attempt to read
the record's end.
-/

namespace Microblog.Json

/-! ## Values passed over -/

/-- An array or object under way. -/
inductive Frame where
  | array
  | object
  deriving DecidableEq, Repr

namespace Frame

def closer : Frame → UInt8
  | array => 0x5d
  | object => 0x7d

/-- The flaw of a text that ends inside. -/
def unfinished : Frame → Flaw
  | array => .endInArray
  | object => .endInObject

/-- The flaw of an item that is followed neither by a comma nor by the end. -/
def unseparated : Frame → Flaw
  | array => .expectedArrayEnd
  | object => .expectedObjectEnd

end Frame

/-- Passes over a colon. -/
def colon (bs : Bytes) : Except Fault (Read Unit (bs.length + 1)) :=
  match h : skipSpace bs with
  | [] => .error (flawAhead .endInObject [])
  | b :: rest =>
    if b = 0x3a then
      .ok ⟨(), rest, by
        have := length_skipSpace bs
        rw [h] at this; simp only [List.length_cons] at this; omega⟩
    else .error (flawAhead .expectedColon (b :: rest))

/-- Passes over the key and the colon of a member that is passed over. -/
def skipKey (bs : Bytes) : Except Fault (Read Unit (bs.length + 1)) :=
  match h : skipSpace bs with
  | [] => .error (flawAhead .endInObject [])
  | b :: rest =>
    have hb : rest.length < bs.length := by
      have := length_skipSpace bs
      rw [h, List.length_cons] at this; omega
    if b = 0x22 then do
      let ⟨_, rest₁, h₁⟩ ← skipString rest
      let ⟨_, rest₂, h₂⟩ ← colon rest₁
      return ⟨(), rest₂, by omega⟩
    else .error (flawAhead .keyNotString (b :: rest))

/-- Passes over a value that is neither array nor object, given its first byte. -/
def skipScalar (b : UInt8) (rest : Bytes) : Except Fault (Read Unit (rest.length + 1)) :=
  if b = 0x6e then literalNull rest
  else if b = 0x74 then literalTrue rest
  else if b = 0x66 then literalFalse rest
  else if b = 0x2d then skipNumber rest
  else if b = 0x30 then
    if startsWithDigit rest then .error (flawAhead .invalidNumber rest) else skipAfterInteger rest
  else if isDigit b then
    (skipAfterInteger (rest.dropWhile isDigit)).map (Read.mono (by
      have := length_dropWhile_le isDigit rest
      omega))
  else if b = 0x22 then skipString rest
  else .error (flawAhead .expectedValue (b :: rest))

/-- Where a value that is passed over stands: before an inner value, after the opening bracket
of the innermost frame, or after an inner value. -/
inductive SkipState where
  | value
  | opened
  | filled
  deriving DecidableEq, Repr

theorem shorter_cons {b : UInt8} {bs rest : Bytes} {n : Nat} (hb : rest.length < bs.length)
    (hn : bs.length < n) : (b :: rest).length < n := Nat.lt_of_le_of_lt hb hn

theorem shorter_of_read {bs rest rest' : Bytes} {n : Nat} (h : rest'.length < rest.length + 1)
    (hb : rest.length < bs.length) (hn : bs.length < n) : rest'.length < n := by omega

theorem shorter_of_read_cons {b : UInt8} {bs rest rest' : Bytes} {n : Nat}
    (h : rest'.length < (b :: rest).length + 1) (hb : rest.length < bs.length)
    (hn : bs.length < n) : rest'.length < n := by
  rw [List.length_cons] at h
  omega

/-- Passes over the rest of a value with the given frames, innermost first. -/
def skipFrom {n : Nat} (state : SkipState) (frames : List Frame) (bs : Bytes)
    (hn : bs.length < n) : Except Fault (Read Unit n) :=
  match state, frames with
  | .value, frames =>
    match h : skipSpace bs with
    | [] => .error (flawAhead .endInValue [])
    | b :: rest =>
      have hb := shorter_of_skipSpace h
      if b = 0x5b then skipFrom .opened (.array :: frames) rest (shorter_trans hb hn)
      else if b = 0x7b then skipFrom .opened (.object :: frames) rest (shorter_trans hb hn)
      else
        match skipScalar b rest with
        | .error f => .error f
        | .ok ⟨_, rest', h'⟩ =>
          match frames with
          | [] => .ok ⟨(), rest', shorter_of_read h' hb hn⟩
          | frame :: outer => skipFrom .filled (frame :: outer) rest' (shorter_of_read h' hb hn)
  | _, [] => .ok ⟨(), bs, hn⟩
  | .opened, frame :: outer =>
    match h : skipSpace bs with
    | [] => .error (flawAhead frame.unfinished [])
    | b :: rest =>
      have hb := shorter_of_skipSpace h
      if b = frame.closer then
        match outer with
        | [] => .ok ⟨(), rest, shorter_trans hb hn⟩
        | frame :: outer => skipFrom .filled (frame :: outer) rest (shorter_trans hb hn)
      else
        match frame with
        | .array => skipFrom .value (.array :: outer) (b :: rest) (shorter_cons hb hn)
        | .object =>
          match skipKey (b :: rest) with
          | .error f => .error f
          | .ok ⟨_, rest', h'⟩ =>
            skipFrom .value (.object :: outer) rest' (shorter_of_read_cons h' hb hn)
  | .filled, frame :: outer =>
    match h : skipSpace bs with
    | [] => .error (flawAhead frame.unfinished [])
    | b :: rest =>
      have hb := shorter_of_skipSpace h
      if b = 0x2c then
        match frame with
        | .array => skipFrom .value (.array :: outer) rest (shorter_trans hb hn)
        | .object =>
          match skipKey rest with
          | .error f => .error f
          | .ok ⟨_, rest', h'⟩ =>
            skipFrom .value (.object :: outer) rest' (shorter_of_read h' hb hn)
      else if b = frame.closer then
        match outer with
        | [] => .ok ⟨(), rest, shorter_trans hb hn⟩
        | frame :: outer => skipFrom .filled (frame :: outer) rest (shorter_trans hb hn)
      else .error (flawAhead frame.unseparated (b :: rest))
termination_by 2 * bs.length + (if state = .opened then 1 else 0)
decreasing_by
  all_goals simp_wf
  all_goals first
    | omega
    | (simp only [List.length_cons] at *; omega)

/-! ## Scalars -/

/-- The fault of a value of the wrong kind; blanks before it have been passed over. A scalar is
read first, so that a flaw in it comes before its kind. -/
def mismatch (expected : String) : Bytes → Fault
  | [] => flawAhead .endInValue []
  | b :: rest =>
    let found (x : Found) (after : Bytes) : Fault := ⟨[], .kind x expected, after.length⟩
    let scalar {n : Nat} (r : Except Fault (Read Found n)) : Fault :=
      match r with
      | .error f => f
      | .ok r => found r.value r.rest
    if b = 0x6e then scalar ((literalNull rest).map (·.map fun _ => .null))
    else if b = 0x74 then scalar ((literalTrue rest).map (·.map fun _ => .bool true))
    else if b = 0x66 then scalar ((literalFalse rest).map (·.map fun _ => .bool false))
    else if b = 0x2d then scalar ((number true rest).map (·.map Number.found))
    else if isDigit b then scalar ((numberFrom false b rest).map (·.map Number.found))
    else if b = 0x22 then scalar ((stringBody rest).map (·.map .string))
    else if b = 0x5b then found .array (b :: rest)
    else if b = 0x7b then found .object (b :: rest)
    else flawAhead .expectedValue (b :: rest)

/-- Reads after the blanks in front. -/
def afterSpace {α : Type} (read : (b : UInt8) → (rest : Bytes) → Except Fault (Read α (rest.length + 1))) :
    Reader α := fun bs =>
  match h : skipSpace bs with
  | [] => .error (flawAhead .endInValue [])
  | b :: rest => (read b rest).map (Read.mono (by
      have := length_skipSpace bs
      rw [h] at this; simpa using this))

/-- The integer of a number, if it lies between two bounds. -/
def integerOf {n : Nat} (lo hi : Int) (expected : String) (r : Read Number n) :
    Except Fault (Read Int n) :=
  match r.value with
  | .int i =>
    if lo ≤ i ∧ i ≤ hi then .ok ⟨i, r.rest, r.shorter⟩
    else .error ⟨[], .range (.int i) expected, r.rest.length⟩
  | .float bits => .error ⟨[], .kind (.float bits) expected, r.rest.length⟩

/-- An integer between two bounds. -/
def readInteger (lo hi : Int) (expected : String) : Reader Int :=
  afterSpace fun b rest =>
    if b = 0x2d then number true rest >>= integerOf lo hi expected
    else if isDigit b then numberFrom false b rest >>= integerOf lo hi expected
    else .error (mismatch expected (b :: rest))

def readString (expected : String) : Reader String :=
  afterSpace fun b rest =>
    if b = 0x22 then stringBody rest else .error (mismatch expected (b :: rest))

def readBool : Reader Bool :=
  afterSpace fun b rest =>
    if b = 0x74 then (literalTrue rest).map (·.map fun _ => true)
    else if b = 0x66 then (literalFalse rest).map (·.map fun _ => false)
    else .error (mismatch Shape.bool.expected (b :: rest))

def readTime : Reader Timestamp := fun bs => do
  let ⟨s, rest, h⟩ ← readString Shape.time.expected bs
  match Time.Rfc3339.parse s with
  | .ok t => return ⟨t, rest, h⟩
  | .error f => throw ⟨[], .time f, rest.length⟩

/-- `null`, or a value. -/
def readMaybe {α : Type} (read : Reader α) : Reader (Option α) := fun bs =>
  match h : skipSpace bs with
  | b :: rest =>
    if b = 0x6e then
      (literalNull rest).map fun r => ⟨none, r.rest, by
        have := length_skipSpace bs
        rw [h] at this; simp only [List.length_cons] at this
        have := r.shorter; omega⟩
    else (read bs).map (·.map some)
  | [] => (read bs).map (·.map some)

/-! ## The ends of arrays and objects -/

/-- The outcome of reading an end and what follows the attempt. -/
structure Closing (n : Nat) where
  outcome : Except Fault Unit
  rest : Bytes
  shorter : rest.length < n

/-- The end of an array. -/
def closeArray (bs : Bytes) : Closing (bs.length + 1) :=
  match h : skipSpace bs with
  | [] => ⟨.error (flawAhead .endInArray []), [], by simp⟩
  | b :: rest =>
    have hb : rest.length < bs.length := by
      have := length_skipSpace bs
      rw [h] at this; simp only [List.length_cons] at this; omega
    if b = 0x5d then ⟨.ok (), rest, by omega⟩
    else if b = 0x2c then
      have := length_skipSpace rest
      let flaw := match skipSpace rest with
        | [] => .trailingCharacters
        | c :: _ => if c = 0x5d then .trailingComma else .trailingCharacters
      ⟨.error (flawAhead flaw (skipSpace rest)), skipSpace rest, by omega⟩
    else ⟨.error (flawAhead .trailingCharacters (b :: rest)), b :: rest, by
      simp only [List.length_cons]; omega⟩

/-- The end of an object. -/
def closeObject (bs : Bytes) : Closing (bs.length + 1) :=
  match h : skipSpace bs with
  | [] => ⟨.error (flawAhead .endInObject []), [], by simp⟩
  | b :: rest =>
    have hb : rest.length < bs.length := by
      have := length_skipSpace bs
      rw [h] at this; simp only [List.length_cons] at this; omega
    if b = 0x7d then ⟨.ok (), rest, by omega⟩
    else
      let flaw := if b = 0x2c then .trailingComma else .trailingCharacters
      ⟨.error (flawAhead flaw (b :: rest)), b :: rest, by simp only [List.length_cons]; omega⟩

/-- A value with its end: a cause that has no place yet is placed behind the end. -/
def conclude {α : Type} {n : Nat} (value : Except Cause α) (c : Closing n) :
    Except Fault (Read α n) :=
  match value, c.outcome with
  | .error cause, _ => .error ⟨[], cause, c.rest.length⟩
  | .ok _, .error f => .error f
  | .ok v, .ok () => .ok ⟨v, c.rest, c.shorter⟩

/-! ## Arrays -/

/-- Whether an item follows in an array; the end of the array is left to be read. -/
def nextItem (first : Bool) (bs : Bytes) : Except Fault (Read Bool (bs.length + 1)) :=
  match h : skipSpace bs with
  | [] => .error (flawAhead .endInArray [])
  | b :: rest =>
    have hb : rest.length < bs.length := by
      have := length_skipSpace bs
      rw [h] at this; simp only [List.length_cons] at this; omega
    have hb' : (b :: rest).length < bs.length + 1 := by simp only [List.length_cons]; omega
    if b = 0x5d then .ok ⟨false, b :: rest, hb'⟩
    else if first then .ok ⟨true, b :: rest, hb'⟩
    else if b = 0x2c then
      have := length_skipSpace rest
      match skipSpace rest with
      | [] => .error (flawAhead .endInValue [])
      | c :: more =>
        if c = 0x5d then .error (flawAhead .trailingComma (c :: more))
        else .ok ⟨true, rest, by omega⟩
    else .error (flawAhead .expectedArrayEnd (b :: rest))

/-- The items from number `i` on; `acc` holds the ones before, last first. -/
def itemsFrom {α : Type} {n : Nat} (read : Reader α) (first : Bool) (i : Nat) (acc : List α)
    (bs : Bytes) (hn : bs.length < n) : Except Fault (Read (List α) n) :=
  match nextItem first bs with
  | .error f => .error (f.inside (.index i))
  | .ok ⟨false, rest, _⟩ => .ok ⟨acc.reverse, rest, by omega⟩
  | .ok ⟨true, rest, _⟩ =>
    match read rest with
    | .error f => .error (f.inside (.index i))
    | .ok ⟨a, rest', _⟩ => itemsFrom read false (i + 1) (a :: acc) rest' (by omega)
termination_by bs.length
decreasing_by omega

/-- An array of values. -/
def readList {α : Type} (expected : String) (read : Reader α) : Reader (List α) :=
  afterSpace fun b rest =>
    if b = 0x5b then do
      let ⟨items, rest', h⟩ ← itemsFrom read true 0 [] rest (length_lt_succ rest)
      (conclude (.ok items) (closeArray rest')).map (Read.mono (by omega))
    else .error (mismatch expected (b :: rest))

/-! ## Records -/

namespace Fields

/-- A reader for each field. -/
@[reducible] def Readers : Fields → Type
  | .nil => Unit
  | .cons _ _ s rest => Reader s.Val × rest.Readers

/-- The fields read so far. -/
@[reducible] def Partial : Fields → Type
  | .nil => Unit
  | .cons _ _ s rest => Option s.Val × rest.Partial

/-- No field. -/
def start : (fs : Fields) → fs.Partial
  | .nil => ()
  | .cons _ _ _ rest => (none, rest.start)

/-- The value after the key of a member. -/
def memberValue {α : Type} (key : String) (read : Reader α) (bs : Bytes) :
    Except Fault (Read α (bs.length + 1)) :=
  let value : Except Fault (Read α (bs.length + 1)) :=
    match colon bs with
    | .error f => .error f
    | .ok ⟨_, rest, h⟩ => (read rest).map (Read.mono (Nat.le_of_lt h))
  value.mapError (Fault.inside (.key key))

/-- Passes over a value; there must be one. -/
def skipReader : Reader Unit := afterSpace fun b rest =>
  if b = 0x5b then skipFrom .opened [.array] rest (length_lt_succ rest)
  else if b = 0x7b then skipFrom .opened [.object] rest (length_lt_succ rest)
  else skipScalar b rest

/-- Reads the value after a key into its field. A second value for a field is a fault, and the
value of a key that no field has is passed over. -/
def feed : (fs : Fields) → fs.Readers → String → fs.Partial → (bs : Bytes) →
    Except Fault (Read (Except Cause fs.Partial) (bs.length + 1))
  | .nil, (), key, (), bs => (memberValue key skipReader bs).map (·.map .ok)
  | .cons k _ _ rest, (read, readers), key, (v, vs), bs =>
    if key = k then
      match v with
      | some _ => .ok ⟨.error (.repeated k), bs, Nat.lt_succ_self _⟩
      | none => (memberValue key read bs).map (·.map fun v => .ok (some v, vs))
    else (rest.feed readers key vs bs).map (·.map fun r => r.map fun vs => (v, vs))

/-- The record, if no field is missing. -/
def complete : (fs : Fields) → fs.Partial → Except Cause fs.Val
  | .nil, () => .ok ()
  | .cons k presence s rest, (v, vs) =>
    match v with
    | some v => (rest.complete vs).map fun vs => (v, vs)
    | none =>
      if presence.object then (rest.complete vs).map fun vs => (s.blank, vs)
      else .error (.missing k)

/-- The next key of an object, if there is one; the end of the object is left to be read. -/
def nextKey (first : Bool) (bs : Bytes) : Except Fault (Read (Option String) (bs.length + 1)) :=
  let key (b : UInt8) (rest : Bytes) : Except Fault (Read (Option String) (rest.length + 1)) :=
    if b = 0x22 then (stringBody rest).map (·.map some)
    else if b = 0x7d then .error (flawAhead .trailingComma (b :: rest))
    else .error (flawAhead .keyNotString (b :: rest))
  match h : skipSpace bs with
  | [] => .error (flawAhead .endInObject [])
  | b :: rest =>
    have hb : rest.length < bs.length := by
      have := length_skipSpace bs
      rw [h] at this; simp only [List.length_cons] at this; omega
    if b = 0x7d then .ok ⟨none, b :: rest, by simp only [List.length_cons]; omega⟩
    else if first then (key b rest).map (Read.mono (by omega))
    else if b = 0x2c then
      have := length_skipSpace rest
      match h' : skipSpace rest with
      | [] => .error (flawAhead .endInValue [])
      | c :: more => (key c more).map (Read.mono (by
          rw [h'] at this; simp only [List.length_cons] at this; omega))
    else .error (flawAhead .expectedObjectEnd (b :: rest))

/-- The members of an object from the next one on. -/
def membersFrom {n : Nat} (fs : Fields) (readers : fs.Readers) (first : Bool) (p : fs.Partial)
    (bs : Bytes) (hn : bs.length < n) : Except Fault (Read (Except Cause fs.Partial) n) :=
  match nextKey first bs with
  | .error f => .error f
  | .ok ⟨none, rest, _⟩ => .ok ⟨.ok p, rest, by omega⟩
  | .ok ⟨some key, rest, _⟩ =>
    match fs.feed readers key p rest with
    | .error f => .error f
    | .ok ⟨.error cause, rest', _⟩ => .ok ⟨.error cause, rest', by omega⟩
    | .ok ⟨.ok p, rest', _⟩ =>
      if h : rest'.length < bs.length then fs.membersFrom readers false p rest' (by omega)
      else .ok ⟨.ok p, rest', by omega⟩
termination_by bs.length

/-- The fields of a record from an array, from number `i` on; `short` is the cause for an array
that ends too early. -/
def fromArray {n : Nat} (short : Nat → Cause) : (fs : Fields) → fs.Readers → Bool → Nat →
    (bs : Bytes) → bs.length < n → Except Fault (Read (Except Cause fs.Val) n)
  | .nil, (), _, _, bs, hn => .ok ⟨.ok (), bs, hn⟩
  | .cons _ presence s rest, (read, readers), first, i, bs, hn =>
    match nextItem first bs with
    | .error f => .error (f.inside (.index i))
    | .ok ⟨false, bs', _⟩ =>
      if presence.array then
        (fromArray short rest readers first (i + 1) bs' (by omega)).map
          (·.map fun r => r.map fun vs => (s.blank, vs))
      else .ok ⟨.error (short i), bs', by omega⟩
    | .ok ⟨true, bs', _⟩ =>
      match read bs' with
      | .error f => .error (f.inside (.index i))
      | .ok ⟨v, bs'', _⟩ =>
        (fromArray short rest readers false (i + 1) bs'' (by omega)).map
          (·.map fun r => r.map fun vs => (v, vs))

/-- A record, from an array or an object. -/
def readRecord (fs : Fields) (name : String) (readers : fs.Readers) : Reader fs.Val :=
  afterSpace fun b rest =>
    if b = 0x5b then do
      let short (i : Nat) : Cause := .length i (fs.expectedLength name)
      let ⟨v, rest', h⟩ ← fromArray short fs readers true 0 rest (length_lt_succ rest)
      (conclude v (closeArray rest')).map (Read.mono (by omega))
    else if b = 0x7b then do
      let ⟨p, rest', h⟩ ← fs.membersFrom readers true fs.start rest (length_lt_succ rest)
      (conclude (p.bind fs.complete) (closeObject rest')).map (Read.mono (by omega))
    else .error (mismatch ("struct " ++ name) (b :: rest))

end Fields

mutual

/-- The reader of a shape. -/
def Shape.reader : (s : Shape) → Reader s.Val
  | .int64 => fun bs => (readInteger (-0x8000000000000000) 0x7fffffffffffffff "i64" bs).map (·.map Int64.ofInt)
  | .int32 => fun bs => (readInteger (-0x80000000) 0x7fffffff "i32" bs).map (·.map Int32.ofInt)
  | .string => readString Shape.string.expected
  | .bool => readBool
  | .time => readTime
  | .list s => readList "a sequence" s.reader
  | .maybe s => readMaybe s.reader
  | .record name fs => fs.readRecord name fs.readers

/-- The readers of the fields. -/
def Fields.readers : (fs : Fields) → fs.Readers
  | .nil => ()
  | .cons _ _ s rest => (s.reader, rest.readers)

end

/-- Reads a value at the front of a text. -/
def Shape.readFront (s : Shape) (text : Bytes) : Except Fault s.Val :=
  (s.reader text).map (·.value)

/-- Reads a value that fills a text but for blanks. -/
def Reader.whole {α : Type} (read : Reader α) (text : Bytes) : Except Fault α := do
  let r ← read text
  match skipSpace r.rest with
  | [] => return r.value
  | b :: rest => throw (flawAhead .trailingCharacters (b :: rest))

/-- Reads a value that fills a text but for blanks. -/
def Shape.read (s : Shape) (text : Bytes) : Except Fault s.Val := s.reader.whole text

end Microblog.Json
