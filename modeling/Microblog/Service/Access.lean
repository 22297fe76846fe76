import Microblog.Refusal
import Microblog.Store.Users

/-!
# Access

A post or comment may be changed by its owner, and by everyone whose role is as
high as a required one. An owner needs no role to be read.
-/

namespace Microblog.Service

open Account

inductive Access where
  | owner
  | privileged
  | denied
  deriving DecidableEq, Repr

namespace Access

def name : Access → String
  | owner => "Owner"
  | privileged => "Privileged"
  | denied => "Denied"

/-- The access that a caller has to what someone owns. -/
def check (store : Store) (caller : User) (ownerId : Int64) (required : String) :
    Except Failure Access :=
  if caller.id = ownerId then .ok owner
  else
    match store.getRole required with
    | .error f => .error f
    | .ok role => .ok (if role.level ≤ caller.role.level then privileged else denied)

/-- Refuses a caller without access. -/
def demand (store : Store) (caller : User) (ownerId : Int64) (required : String) :
    Except Refusal Unit :=
  match check store caller ownerId required with
  | .ok owner => .ok ()
  | .ok privileged => .ok ()
  | .ok denied => .error .forbidden
  | .error _ => .error .internal

end Access

end Microblog.Service
