import Microblog.Sql.Session

/-!
# Rows

The columns of a row are read one after the other. Every column must have a
value; the first one that has none is named in the failure. The server keeps
times to the microsecond, counted from the year 2000, and gives them in UTC.
-/

namespace Microblog.Sql

/-- Reads some columns from the front of a row. -/
abbrev RowReader (α : Type) := StateT (List Cell) (Except Fault) α

namespace RowReader

/-- Reads a column. -/
def column {α : Type} (c : Column) (value? : Cell → Option α) : RowReader α := do
  match ← get with
  | [] => throw (.nullColumn c)
  | cell :: rest =>
    set rest
    match value? cell with
    | some a => return a
    | none => throw (.nullColumn c)

def int (c : Column) : RowReader Int := column c fun
  | .int i => some i
  | _ => none

def int64 (name : String) : RowReader Int64 := Int64.ofInt <$> int (.named name)

def int32 (name : String) : RowReader Int32 := Int32.ofInt <$> int (.named name)

def bool (name : String) : RowReader Bool := column (.named name) fun
  | .bool b => some b
  | _ => none

def text (name : String) : RowReader String := column (.named name) fun
  | .text s => some s
  | _ => none

def texts (name : String) : RowReader (List String) := column (.named name) fun
  | .texts l => some l
  | _ => none

def timeAt (c : Column) : RowReader Timestamp := column c fun
  | .time t => some t
  | _ => none

def time (name : String) : RowReader Timestamp := timeAt (.named name)

/-- Reads a row. -/
def run {α : Type} (r : RowReader α) (row : List Cell) : Except Fault α :=
  (StateT.run r row).map (·.1)

end RowReader

namespace Exchange

/-- What is read from a row. -/
def ofRow {α : Type} (r : RowReader α) (row : List Cell) : Exchange α :=
  match r.run row with
  | .ok a => pure a
  | .error f => fail f

/-- The first row that is found, if there is one. -/
def queryOptional {α : Type} (sql : String) (binds : List Bind) (r : RowReader α) :
    Exchange (Option α) := do
  match ← query sql binds with
  | [] => return none
  | row :: _ => return some (← ofRow r row)

/-- The first row that is found; there must be one. -/
def queryOne {α : Type} (sql : String) (binds : List Bind) (r : RowReader α) : Exchange α := do
  match ← queryOptional sql binds r with
  | some a => return a
  | none => fail .noRow

/-- All rows that are found. -/
def queryAll {α : Type} (sql : String) (binds : List Bind) (r : RowReader α) :
    Exchange (List α) := do
  (← query sql binds).mapM (ofRow r)

end Exchange

/-- The beginning of the year 2000 in nanoseconds. -/
def epoch2000 : Int := 946684800 * Timestamp.second

/-- A time in UTC, cut to the microsecond. -/
def serverTime (t : Timestamp) : Timestamp :=
  ⟨epoch2000 + (t.nanos - epoch2000).tdiv 1000 * 1000, 0⟩

/-- A time as the server takes it; `none` if its date in UTC is out of range. -/
def serverTime? (t : Timestamp) : Option Timestamp :=
  if (⟨t.nanos, 0⟩ : Timestamp).InRange then some (serverTime t) else none

namespace Exchange

/-- A time to be bound. -/
def bindTime (t : Timestamp) : Exchange Bind :=
  match serverTime? t with
  | some t => pure (.time t)
  | none => throw .overflow

end Exchange

end Microblog.Sql
