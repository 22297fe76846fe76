import Microblog.Cache.Basic

/-!
# A cache in memory

Entries carry the instant at which they were made.
-/

namespace Microblog.Cache

open Account Store

/-- A user, and when it was cached. -/
structure Entry where
  user : User
  storedAt : Int
  deriving DecidableEq

structure Memory where
  entries : Table Int64 Entry
  /-- Whether every write fails. -/
  writesFail : Bool
  deriving DecidableEq

namespace Memory

def empty : Memory := ⟨.empty, false⟩

/-- Whether an entry is still used at some instant. -/
def fresh (now : Int) (e : Entry) : Bool := (now - e.storedAt).toNat < ttl

/-- The user cached under an id. -/
def get? (m : Memory) (id : Int64) (now : Int) : Option User :=
  ((m.entries.get? id).filter (fresh now)).map (·.user)

instance : UserCache Memory where
  get id now m := (.ok (m.get? id now), m)
  set u now m :=
    if m.writesFail then (.error .server, m)
    else (.ok (), { m with entries := m.entries.insert u.id ⟨u, now⟩ })

end Memory

end Microblog.Cache
