import Microblog.Json.Shaped

/-!
# Roles

A role is a named level of privilege; a higher level holds every privilege of
the lower ones.
-/

namespace Microblog.Account

structure Role where
  id : Int64
  name : String
  level : Int32
  description : String
  deriving DecidableEq, Repr

namespace Role

/-- The role without a name, below every role that has one. -/
def blank : Role := ⟨0, "", 0, ""⟩

open Json in
instance : Shaped Role where
  shape := .record "Role" <|
    .cons "id" .required .int64 <|
    .cons "name" .required .string <|
    .cons "level" .required .int32 <|
    .cons "description" .required .string .nil
  toVal r := (r.id, r.name, r.level, r.description, ())
  ofVal | (id, name, level, description, ()) => ⟨id, name, level, description⟩

end Role

end Microblog.Account
