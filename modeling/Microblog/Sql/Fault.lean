import Microblog.Failure

/-!
# Faults of a database

What goes wrong in an exchange with a database, and the failure of storage that
it means.
-/

namespace Microblog.Sql

/-- An error that the server answers. -/
structure ServerError where
  /-- The five characters of the kind of error. -/
  code : Option String
  constraint : Option String
  message : String
  deriving DecidableEq, Repr

/-- How a column is named in a fault. -/
inductive Column where
  | named (name : String)
  | numbered (n : Nat)
  deriving DecidableEq, Repr

def Column.text : Column → String
  | named name => "\"" ++ name ++ "\""
  | numbered n => toString n

inductive Fault where
  | noRow
  | server (e : ServerError)
  | nullColumn (c : Column)
  | poolTimedOut
  | workerCrashed
  deriving DecidableEq, Repr

namespace Fault

def message : Fault → String
  | noRow => "no rows returned by a query that expected to return at least one row"
  | server e => "error returned from database: " ++ e.message
  | nullColumn c => "error occurred while decoding column " ++ c.text ++
      ": unexpected null; try decoding as an `Option`"
  | poolTimedOut => "pool timed out while waiting for an open connection"
  | workerCrashed => "attempted to communicate with a crashed background worker"

/-- The failure of storage. A broken constraint of the users' addresses and names is known by its
name, other broken rules by their code. -/
def failure (f : Fault) : Failure :=
  match f with
  | noRow => .notFound
  | server e =>
    if e.constraint = some "users_email_key" then .duplicateEmail
    else if e.constraint = some "users_username_key" then .duplicateUsername
    else if e.code = some "23505" then .alreadyExists
    else if e.code = some "23503" then .notFound
    else .database f.message
  | _ => .database f.message

end Fault

end Microblog.Sql
