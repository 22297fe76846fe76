import Microblog.Sql.Fault
import Microblog.Time.Timestamp

/-!
# Sessions with a database

A session sends statements and reads what the server answers. It is run here
against a script of answers, one for each statement with parameters, and keeps
all that was sent. A transaction that does not end in a commit is rolled back,
unless an answer never came: then the connection is lost.
-/

namespace Microblog.Sql

/-- A value that is bound to a parameter. -/
inductive Bind where
  | null
  | int (i : Int)
  | text (s : String)
  | texts (l : List String)
  | time (t : Timestamp)
  deriving DecidableEq, Repr

/-- A value in a row. -/
inductive Cell where
  | null
  | int (i : Int)
  | bool (b : Bool)
  | text (s : String)
  | texts (l : List String)
  | time (t : Timestamp)
  deriving DecidableEq, Repr

/-- What begins and ends a transaction. -/
inductive Control where
  | begin
  | commit
  | rollback
  deriving DecidableEq, Repr

def Control.text : Control → String
  | begin => "BEGIN"
  | commit => "COMMIT"
  | rollback => "ROLLBACK"

/-- What is sent. -/
inductive Sent where
  | control (c : Control)
  | statement (sql : String) (binds : List Bind)
  deriving DecidableEq, Repr

/-- What the server answers to a statement. -/
inductive Response where
  | rows (rs : List (List Cell))
  /-- A number of rows was changed. -/
  | affected (n : Nat)
  | error (e : ServerError)
  /-- Nothing, for ever. -/
  | hang
  deriving DecidableEq, Repr

structure Session where
  /-- The answers to the statements to come; after the last one nothing is found or changed. -/
  script : List Response
  /-- The control statement that the server refuses, if there is one. -/
  refused : Option Control
  /-- What has been sent, newest first. -/
  log : List Sent
  deriving DecidableEq, Repr

/-- How an exchange ends without a result. -/
inductive Halt where
  | failed (f : Failure)
  | hung
  /-- A time is out of range. -/
  | overflow
  deriving DecidableEq, Repr

/-- An exchange with a server. -/
abbrev Exchange (α : Type) := ExceptT Halt (StateM Session) α

namespace Session

/-- A session about to be run against a script. -/
def start (script : List Response) (refused : Option Control) : Session := ⟨script, refused, []⟩

/-- All that was sent, in order. -/
def sent (s : Session) : List Sent := s.log.reverse

def record (m : Sent) (s : Session) : Session := { s with log := m :: s.log }

end Session

/-- The answer to a refused control statement. -/
def refusal : ServerError := ⟨some "40001", none, "scripted failure"⟩

namespace Exchange

def fail {α : Type} (f : Fault) : Exchange α := throw (.failed f.failure)

/-- Sends a control statement. -/
def control (c : Control) : Exchange Unit := do
  modify (·.record (.control c))
  if (← get).refused = some c then fail (.server refusal)

/-- Takes the next answer of the script. -/
def nextResponse : Exchange Response := do
  let s ← get
  match s.script with
  | [] => return .affected 0
  | r :: rest =>
    set { s with script := rest }
    return r

/-- Sends a statement with parameters. -/
def statement (sql : String) (binds : List Bind) : Exchange Response := do
  modify (·.record (.statement sql binds))
  match ← nextResponse with
  | .error e => fail (.server e)
  | .hang => throw .hung
  | r => return r

/-- The rows that a statement finds. -/
def query (sql : String) (binds : List Bind) : Exchange (List (List Cell)) := do
  match ← statement sql binds with
  | .rows rs => return rs
  | _ => return []

/-- The number of rows that a statement changes. -/
def execute (sql : String) (binds : List Bind) : Exchange Nat := do
  match ← statement sql binds with
  | .affected n => return n
  | _ => return 0

/-- Runs a transaction. -/
def transaction {α : Type} (body : Exchange α) : Exchange α := do
  let whole : Exchange α := do
    control .begin
    let a ← body
    control .commit
    return a
  tryCatch whole fun h => do
    if h ≠ .hung then modify (·.record (.control .rollback))
    throw h

/-- An exchange with a limit on its time. -/
def limited {α : Type} (e : Exchange α) : Exchange α :=
  tryCatch e fun h => throw (if h = .hung then .failed .timeout else h)

/-- Runs an exchange in a session. -/
def runIn {α : Type} (e : Exchange α) (s : Session) : Except Halt α × Session :=
  (ExceptT.run e).run s

end Exchange

end Microblog.Sql
