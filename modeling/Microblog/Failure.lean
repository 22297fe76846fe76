/-!
# Failures of storage

Why a storage operation gave no answer.
-/

namespace Microblog

inductive Failure where
  | notFound
  | alreadyExists
  | duplicateEmail
  | duplicateUsername
  | versionConflict
  | timeout
  /-- The database answered with an error that is none of the above. -/
  | database (message : String)
  deriving DecidableEq, Repr

namespace Failure

def message : Failure → String
  | notFound => "record not found"
  | alreadyExists => "record already exists"
  | duplicateEmail => "duplicated email"
  | duplicateUsername => "duplicated username"
  | versionConflict => "version conflict"
  | timeout => "storage operation timed out"
  | database message => message

end Failure

/-- How an operation ends that can fail or reach a number that its type cannot hold. -/
inductive Stop where
  | failed (f : Failure)
  | overflow
  deriving DecidableEq, Repr

end Microblog
