import Microblog.Json.Shaped

/-!
# Posts

A post carries a version, which starts at 1 and grows by one with each change.
-/

namespace Microblog.Content

structure Post where
  id : Int64
  userId : Int64
  title : String
  content : String
  tags : List String
  createdAt : Timestamp
  updatedAt : Timestamp
  version : Int32
  deriving DecidableEq, Repr

/-- A post to be created. -/
structure NewPost where
  userId : Int64
  title : String
  content : String
  tags : List String
  deriving DecidableEq, Repr

open Json in
instance : Shaped Post where
  shape := .record "Post" <|
    .cons "id" .required .int64 <|
    .cons "user_id" .required .int64 <|
    .cons "title" .required .string <|
    .cons "content" .required .string <|
    .cons "tags" .required (.list .string) <|
    .cons "created_at" .required .time <|
    .cons "updated_at" .required .time <|
    .cons "version" .required .int32 .nil
  toVal p := (p.id, p.userId, p.title, p.content, p.tags, p.createdAt, p.updatedAt, p.version, ())
  ofVal
    | (id, userId, title, content, tags, createdAt, updatedAt, version, ()) =>
      ⟨id, userId, title, content, tags, createdAt, updatedAt, version⟩

end Microblog.Content
