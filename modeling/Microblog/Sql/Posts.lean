import Microblog.Sql.Row
import Microblog.Store.Feed

/-!
# Posts in the database

A change is made by one statement whose condition names the version, so that a
version that is not stored any more changes nothing.
-/

namespace Microblog.Sql

open Content Feed

/-- The columns of a post. -/
def postColumns : String := "id, user_id, title, content, tags, created_at, updated_at, version"

def postRow : RowReader Post := do
  return ⟨← .int64 "id", ← .int64 "user_id", ← .text "title", ← .text "content",
    ← .texts "tags", ← .time "created_at", ← .time "updated_at", ← .int32 "version"⟩

def createPost (d : NewPost) : Exchange Post :=
  .limited <| .queryOne
    ("INSERT INTO posts (user_id, title, content, tags) VALUES ($1, $2, $3, $4) RETURNING " ++
      postColumns)
    [.int d.userId.toInt, .text d.title, .text d.content, .texts d.tags] postRow

def getPost (id : Int64) : Exchange Post :=
  .limited <| .queryOne ("SELECT " ++ postColumns ++ " FROM posts WHERE id = $1")
    [.int id.toInt] postRow

/-- The statement that changes a post. -/
def updatePostText : String :=
  "UPDATE posts SET title = $1, content = $2, tags = $3, updated_at = now(), " ++
  "version = version + 1 WHERE id = $4 AND version = $5 RETURNING " ++ postColumns

/-- Sets title, content and tags if the stored version is the one given. -/
def updatePost (p : Post) : Exchange Post := .limited do
  let binds :=
    [.text p.title, .text p.content, .texts p.tags, .int p.id.toInt, .int p.version.toInt]
  match ← .queryOptional updatePostText binds postRow with
  | some p => return p
  | none => throw (.failed .versionConflict)

def deletePost (id : Int64) : Exchange Unit := .limited do
  let _ ← .execute "DELETE FROM posts WHERE id = $1" [.int id.toInt]

/-! ## Feeds -/

/-- The condition that keeps the posts in which a text is found. -/
def searchCondition : String :=
  "(p.title ILIKE '%' || $4 || '%' OR p.content ILIKE '%' || $4 || '%')"

/-- The statement that reads a feed. -/
def feedText (direction : Direction) : String :=
  "SELECT p.id, p.user_id, p.title, p.content, p.tags, p.created_at, p.updated_at, p.version, " ++
  "COUNT(c.id) AS comments_count, u.username FROM posts p JOIN users u ON u.id = p.user_id " ++
  "LEFT JOIN comments c ON c.post_id = p.id WHERE (p.user_id = $1 OR p.user_id IN " ++
  "(SELECT user_id FROM followers WHERE follower_id = $1)) AND " ++ searchCondition ++
  " AND (cardinality($5::text[]) = 0 OR p.tags && $5::text[]) " ++
  "AND ($6::timestamptz IS NULL OR p.created_at >= $6) " ++
  "AND ($7::timestamptz IS NULL OR p.created_at <= $7) GROUP BY p.id, u.username " ++
  "ORDER BY p.created_at " ++ direction.sql ++ ", p.id " ++ direction.sql ++ " LIMIT $2 OFFSET $3"

def feedRow : RowReader Item := do
  let post ← postRow
  let count ← .int64 "comments_count"
  let username ← .text "username"
  return ⟨post, count, username⟩

/-- A time that may be absent, to be bound. -/
def bindBound : Option Timestamp → Exchange Bind
  | none => pure .null
  | some t => .bindTime t

/-- The part of a user's feed that a query asks for. -/
def feed (viewer : Int64) (q : Query) : Exchange (List Item) := .limited do
  let earliest ← bindBound q.earliest
  let latest ← bindBound q.latest
  let binds := [.int viewer.toInt, .int q.limit.toInt, .int q.offset.toInt, .text q.search,
    .texts q.tags, earliest, latest]
  .queryAll (feedText q.sort) binds feedRow

end Microblog.Sql
