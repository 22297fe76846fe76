import Microblog.Account.User
import Microblog.Sql.Row
import Microblog.Store.Users

/-!
# Users in the database

A registration stores the user and the invitation in one transaction and then
reads the user back, which has a limit on its time of its own.
-/

namespace Microblog.Sql

open Account

/-- The statement that reads roles. -/
def selectRole : String := "SELECT id, name, level, description FROM roles WHERE name = $1"

def roleRow : RowReader Role := do
  return ⟨← .int64 "id", ← .text "name", ← .int32 "level", ← .text "description"⟩

def getRole (name : String) : Exchange Role := .limited (.queryOne selectRole [.text name] roleRow)

/-- The statement that reads users, up to its condition. -/
def selectUser : String :=
  "SELECT u.id, u.username, u.email, u.password, u.created_at, u.is_active, " ++
  "r.id AS role_id, r.name AS role_name, r.level AS role_level, " ++
  "r.description AS role_description FROM users u JOIN roles r ON u.role_id = r.id"

def userRow : RowReader User := do
  let id ← .int64 "id"
  let username ← .text "username"
  let email ← .text "email"
  let password ← .text "password"
  let createdAt ← .time "created_at"
  let isActive ← .bool "is_active"
  let roleId ← .int64 "role_id"
  let roleName ← .text "role_name"
  let roleLevel ← .int32 "role_level"
  let roleDescription ← .text "role_description"
  return ⟨id, username, email, ⟨password⟩, createdAt, isActive, roleId,
    ⟨roleId, roleName, roleLevel, roleDescription⟩⟩

def getUser (id : Int64) : Exchange User :=
  .limited (.queryOne (selectUser ++ " WHERE u.id = $1") [.int id.toInt] userRow)

/-- The active user with an address. -/
def getUserByEmail (email : String) : Exchange User :=
  .limited (.queryOne (selectUser ++ " WHERE u.email = $1 AND u.is_active = true")
    [.text email] userRow)

/-- The statement that adds a user. -/
def insertUser : String :=
  "INSERT INTO users (username, email, password, role_id) " ++
  "VALUES ($1, $2, $3, (SELECT id FROM roles WHERE name = $4)) RETURNING id, created_at"

/-- The id and the time of a new user. -/
def newUserRow : RowReader (Int64 × Timestamp) := do
  let id ← .int (.numbered 0)
  let createdAt ← .timeAt (.numbered 1)
  return (.ofInt id, createdAt)

/-- The statement that adds an invitation. -/
def insertInvitation : String :=
  "INSERT INTO users_invitations (token, user_id, expiry) VALUES ($1, $2, $3)"

/-- Adds a user and an invitation, and gives the user's id. -/
def insertWithInvitation (u : NewUser) (token : String) (ttl : Int) (now : Timestamp) :
    Exchange Int64 := do
  let binds := [.text u.username, .text u.email, .text u.password.text, .text "user"]
  let (id, _) ← .queryOne insertUser binds newUserRow
  match now.add? ttl with
  | none => throw .overflow
  | some expiry =>
    let expiry ← .bindTime expiry
    let _ ← .execute insertInvitation [.text (Store.tokenKey token), .int id.toInt, expiry]
    return id

/-- Adds an inactive user, and an invitation that ends some nanoseconds from now. -/
def createAndInvite (u : NewUser) (token : String) (ttl : Int) (now : Timestamp) :
    Exchange User := do
  let id ← .limited (.transaction (insertWithInvitation u token ttl now))
  getUser id

/-- The statement that finds a live invitation. -/
def selectInvitation : String :=
  "SELECT user_id FROM users_invitations WHERE token = $1 AND expiry > $2"

def activateUser : String := "UPDATE users SET is_active = true WHERE id = $1"

def deleteInvitations : String := "DELETE FROM users_invitations WHERE user_id = $1"

/-- Takes up an invitation that has not ended. -/
def activate (token : String) (now : Timestamp) : Exchange Unit :=
  .limited <| .transaction do
    let now ← .bindTime now
    let found ← .queryOptional selectInvitation [.text (Store.tokenKey token), now]
      (.int (.numbered 0))
    match found with
    | none => .fail .noRow
    | some id => do
      let _ ← .execute activateUser [.int id]
      let _ ← .execute deleteInvitations [.int id]

/-- Removes a user and the user's invitations. -/
def deleteUser (id : Int64) : Exchange Unit :=
  .limited <| .transaction do
    let _ ← .execute deleteInvitations [.int id.toInt]
    let _ ← .execute "DELETE FROM users WHERE id = $1" [.int id.toInt]

end Microblog.Sql
