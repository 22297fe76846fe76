import Microblog.Refusal
import Microblog.Store.Users

/-!
# Reading users through a cache

`resolve` reads a user by id. With a cache, the cache is asked first; a user it
does not have is read from the store and put into it. Nothing but the passing
of time removes a user from a cache, so an entry may be older than the store.
Instants are in nanoseconds.
-/

namespace Microblog.Cache

open Account

/-- How long an entry is used, in seconds. -/
def ttlSecs : Nat := 48 * 60 * 60

/-- How long an entry is used, in nanoseconds. -/
def ttl : Nat := ttlSecs * 1000000000

/-- Why a cache does not answer. -/
inductive Fault where
  /-- The server refuses a command. -/
  | server
  /-- An entry cannot be read. -/
  | unreadable (reason : String)
  deriving DecidableEq, Repr

def Fault.message : Fault → String
  | server => "the cache does not answer"
  | unreadable reason => "cached value is not valid json: " ++ reason

/-- Why a user cannot be resolved. -/
inductive ResolveFault where
  | store (f : Failure)
  | cache (f : Fault)
  deriving DecidableEq, Repr

namespace ResolveFault

def message : ResolveFault → String
  | store f => f.message
  | cache f => f.message

def refusal : ResolveFault → Refusal
  | store f => .ofFailure f
  | cache _ => .internal

end ResolveFault

/-- A cache of users. -/
class UserCache (C : Type) where
  /-- The user cached under an id at some instant; `none` is no fault. -/
  get : Int64 → Int → C → Except Fault (Option User) × C
  set : User → Int → C → Except Fault Unit × C

/-- Reads a user through a cache. -/
def resolveThrough {C : Type} [UserCache C] (id : Int64) (now : Int) (c : C) (s : Store) :
    Except ResolveFault User × C × Store :=
  match UserCache.get id now c with
  | (.error f, c) => (.error (.cache f), c, s)
  | (.ok (some u), c) => (.ok u, c, s)
  | (.ok none, c) =>
    match s.getUser id with
    | (.error f, s) => (.error (.store f), c, s)
    | (.ok u, s) =>
      match UserCache.set u now c with
      | (.error f, c) => (.error (.cache f), c, s)
      | (.ok (), c) => (.ok u, c, s)

/-- Reads a user, through a cache if there is one. -/
def resolve {C : Type} [UserCache C] (id : Int64) (now : Int) (c : Option C) (s : Store) :
    Except ResolveFault User × Option C × Store :=
  match c with
  | none =>
    match s.getUser id with
    | (.error f, s) => (.error (.store f), none, s)
    | (.ok u, s) => (.ok u, none, s)
  | some c =>
    match resolveThrough id now c s with
    | (outcome, c, s) => (outcome, some c, s)

end Microblog.Cache
