import Microblog.Json.Shaped

/-!
# Comments

A comment belongs to a post and shows the name that its author had.
-/

namespace Microblog.Content

structure Comment where
  id : Int64
  postId : Int64
  userId : Int64
  content : String
  createdAt : Timestamp
  username : String
  deriving DecidableEq, Repr

/-- A comment to be created. -/
structure NewComment where
  postId : Int64
  userId : Int64
  content : String
  deriving DecidableEq, Repr

open Json in
instance : Shaped Comment where
  shape := .record "Comment" <|
    .cons "id" .required .int64 <|
    .cons "post_id" .required .int64 <|
    .cons "user_id" .required .int64 <|
    .cons "content" .required .string <|
    .cons "created_at" .required .time <|
    .cons "username" .required .string .nil
  toVal c := (c.id, c.postId, c.userId, c.content, c.createdAt, c.username, ())
  ofVal
    | (id, postId, userId, content, createdAt, username, ()) =>
      ⟨id, postId, userId, content, createdAt, username⟩

end Microblog.Content
