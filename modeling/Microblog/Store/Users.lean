import Microblog.Digest.Sha256
import Microblog.Store.Basic

/-!
# Users and invitations

A user who registers is inactive until the invitation is taken up. Of the token
of an invitation only the SHA-256 digest is kept.
-/

namespace Microblog.Store

open Account Content

/-- The key of the invitation with a token. -/
def tokenKey (token : String) : String := Digest.Sha256.hexDigest token

/-- Adds a user with the role of a name, or with the blank one if there is none. -/
def insertUser (u : NewUser) (roleName : String) (active : Bool) : Op Int64 := fun s =>
  match s.fresh with
  | none => (.error .overflow, s)
  | some (id, now, s) =>
    let role := (s.role? roleName).getD .blank
    let user : User := ⟨id, u.username, u.email, u.password, now, active, role.id, role⟩
    (.ok id, { s with users := s.users.insert id user })

def renameUser (id : Int64) (username : String) (s : Store) : Store :=
  { s with users := s.users.modify id fun u => { u with username := username } }

/-- Reads a user, which counts as a read. -/
def getUser (id : Int64) (s : Store) : Except Failure User × Store :=
  let outcome := match s.users.get? id with
    | some u => .ok u
    | none => .error .notFound
  (outcome, { s with reads := s.reads + 1 })

/-- The active user with an address. If several have it, which one is found depends on the order of
the users. -/
def getUserByEmail (email : String) (s : Store) : Except Failure User :=
  match s.users.values.find? fun u => u.email == email && u.isActive with
  | some u => .ok u
  | none => .error .notFound

/-- Adds an inactive user, and an invitation that ends some nanoseconds from now. If there is no date
for the end, the user is left without an invitation, in a store that stays locked. -/
def createAndInvite (u : NewUser) (token : String) (ttl : Int) (now : Timestamp) : Op User :=
  fun s =>
    if s.users.values.any fun v => v.email == u.email then (.error (.failed .duplicateEmail), s)
    else if s.users.values.any fun v => v.username == u.username then
      (.error (.failed .duplicateUsername), s)
    else
      match s.fresh with
      | none => (.error .overflow, s)
      | some (id, createdAt, s) =>
        let role := (s.role? "user").getD .blank
        let user : User := ⟨id, u.username, u.email, u.password, createdAt, false, role.id, role⟩
        let s := { s with users := s.users.insert id user }
        match now.add? ttl with
        | none => (.error .overflow, s)
        | some expiry =>
          (.ok user, { s with invitations := s.invitations.insert (tokenKey token) ⟨id, expiry⟩ })

/-- Takes up an invitation that has not ended: its user becomes active and keeps no invitation. -/
def activate (token : String) (now : Timestamp) (s : Store) : Except Failure Unit × Store :=
  match s.invitations.get? (tokenKey token) with
  | none => (.error .notFound, s)
  | some inv =>
    if inv.expiry.notAfter now then (.error .notFound, s)
    else
      (.ok (), { s with
        users := s.users.modify inv.userId fun u => { u with isActive := true }
        invitations := s.invitations.filter fun _ i => i.userId != inv.userId })

/-- Removes a user and the user's invitations. -/
def deleteUser (id : Int64) (s : Store) : Store :=
  { s with
    invitations := s.invitations.filter fun _ i => i.userId != id
    users := s.users.erase id }

end Microblog.Store
