import Microblog.Account.Role
import Microblog.Account.Password

/-!
# Users

A user is written to JSON without the password, and one that is read from JSON
has an unknown password.
-/

namespace Microblog.Account

structure User where
  id : Int64
  username : String
  email : String
  password : Password
  createdAt : Timestamp
  isActive : Bool
  roleId : Int64
  role : Role
  deriving DecidableEq, Repr

/-- A user to be registered. -/
structure NewUser where
  username : String
  email : String
  password : Password
  deriving DecidableEq, Repr

open Json in
instance : Shaped User where
  shape := .record "User" <|
    .cons "id" .required .int64 <|
    .cons "username" .required .string <|
    .cons "email" .required .string <|
    .cons "created_at" .required .time <|
    .cons "is_active" .required .bool <|
    .cons "role_id" .required .int64 <|
    .cons "role" .required (Shaped.shape Role) .nil
  toVal u := (u.id, u.username, u.email, u.createdAt, u.isActive, u.roleId, Shaped.toVal u.role, ())
  ofVal
    | (id, username, email, createdAt, isActive, roleId, role, ()) =>
      ⟨id, username, email, .unknown, createdAt, isActive, roleId, Shaped.ofVal role⟩

end Microblog.Account
