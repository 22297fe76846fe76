import Microblog.Account.User
import Microblog.Content.Post
import Microblog.Content.Comment
import Microblog.Failure
import Microblog.Store.Table

/-!
# The store

All users, invitations, posts, comments and follow edges. Users, posts and
comments are numbered by one counter, and each is created one second after the
one before by the store's own clock. An operation gives its outcome and the
store after it; a failing operation may still have moved the clock.

Each operation holds the lock of the store, and one that overflows stops with
it: the store beside an overflow is the one that stays locked for good. The lock
itself is left out, so a later operation is not kept from that store here.
-/

namespace Microblog

open Account Content Store

/-- An invitation is for a user and ends at some time. -/
structure Invitation where
  userId : Int64
  expiry : Timestamp
  deriving DecidableEq, Repr

structure Store where
  /-- The id that was given last. -/
  lastId : Int64
  clock : Timestamp
  roles : List Role
  users : Table Int64 User
  /-- Under the digests of their tokens. -/
  invitations : Table String Invitation
  posts : Table Int64 Post
  comments : Table Int64 Comment
  /-- Follower and followed. -/
  follows : List (Int64 × Int64)
  /-- How many times a user has been read by id. -/
  reads : Nat
  /-- Whether roles cannot be read at present. -/
  rolesDown : Bool
  deriving DecidableEq

namespace Store

/-- What an operation gives, and the store after it. -/
abbrev Op (α : Type) := Store → Except Stop α × Store

/-- A role that is described by its name. -/
def namedRole (id : Int64) (name : String) (level : Int32) : Role :=
  ⟨id, name, level, name ++ " role"⟩

/-- Three roles and nothing else. -/
def initial : Store where
  lastId := 100
  clock := .ofUnix (18250 * 86400)
  roles := [namedRole 1 "user" 1, namedRole 2 "moderator" 2, namedRole 3 "admin" 3]
  users := .empty
  invitations := .empty
  posts := .empty
  comments := .empty
  follows := []
  reads := 0
  rolesDown := false

/-- The clock one second on. -/
def tick (s : Store) : Option (Timestamp × Store) :=
  (s.clock.add? Timestamp.second).map fun now => (now, { s with clock := now })

/-- A new id and the time of its creation. -/
def fresh (s : Store) : Option (Int64 × Timestamp × Store) :=
  if s.lastId = Int64.maxValue then none
  else
    let id := s.lastId + 1
    ({ s with lastId := id } : Store).tick.map fun (now, s) => (id, now, s)

/-! ## Roles -/

def role? (s : Store) (name : String) : Option Role := s.roles.find? fun r => r.name == name

/-- The role of a name, if roles can be read. -/
def getRole (name : String) (s : Store) : Except Failure Role :=
  if s.rolesDown then .error .timeout
  else
    match s.role? name with
    | some r => .ok r
    | none => .error .notFound

end Store

end Microblog
