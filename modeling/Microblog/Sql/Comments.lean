import Microblog.Content.Comment
import Microblog.Sql.Row

/-!
# Comments and follow edges in the database

A comment is read with the name that its author has now.
-/

namespace Microblog.Sql

open Content

def commentRow : RowReader Comment := do
  return ⟨← .int64 "id", ← .int64 "post_id", ← .int64 "user_id", ← .text "content",
    ← .time "created_at", ← .text "username"⟩

/-- The statement that adds a comment. -/
def insertComment : String :=
  "WITH inserted AS ( INSERT INTO comments (post_id, user_id, content) VALUES ($1, $2, $3) " ++
  "RETURNING id, post_id, user_id, content, created_at ) " ++
  "SELECT i.id, i.post_id, i.user_id, i.content, i.created_at, u.username " ++
  "FROM inserted i JOIN users u ON u.id = i.user_id"

/-- The statement that reads comments, up to its condition. -/
def selectComment : String :=
  "SELECT c.id, c.post_id, c.user_id, c.content, c.created_at, u.username " ++
  "FROM comments c JOIN users u ON c.user_id = u.id"

def createComment (d : NewComment) : Exchange Comment :=
  .limited <| .queryOne insertComment
    [.int d.postId.toInt, .int d.userId.toInt, .text d.content] commentRow

def getComment (id : Int64) : Exchange Comment :=
  .limited <| .queryOne (selectComment ++ " WHERE c.id = $1") [.int id.toInt] commentRow

/-- The comments on a post, newest first. -/
def listComments (postId : Int64) : Exchange (List Comment) :=
  .limited <| .queryAll (selectComment ++ " WHERE c.post_id = $1 ORDER BY c.created_at DESC")
    [.int postId.toInt] commentRow

/-- Sets the content of a stored comment. -/
def updateComment (c : Comment) : Exchange Comment := .limited do
  let affected ← .execute "UPDATE comments SET content = $1 WHERE id = $2"
    [.text c.content, .int c.id.toInt]
  if affected = 0 then .fail .noRow
  return c

def deleteComment (id : Int64) : Exchange Unit := .limited do
  let _ ← .execute "DELETE FROM comments WHERE id = $1" [.int id.toInt]

def follow (follower followed : Int64) : Exchange Unit := .limited do
  let _ ← .execute "INSERT INTO followers (user_id, follower_id) VALUES ($1, $2)"
    [.int followed.toInt, .int follower.toInt]

def unfollow (follower followed : Int64) : Exchange Unit := .limited do
  let _ ← .execute "DELETE FROM followers WHERE user_id = $1 AND follower_id = $2"
    [.int followed.toInt, .int follower.toInt]

end Microblog.Sql
