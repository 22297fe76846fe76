import Microblog.Store.Basic

/-!
# Comments in the store

A comment is created on a stored post only, under the name that its author has
at that time.
-/

namespace Microblog.Store

open Account Content

def createComment (d : NewComment) : Op Comment := fun s =>
  if s.posts.contains d.postId then
    match s.fresh with
    | none => (.error .overflow, s)
    | some (id, now, s) =>
      let username := ((s.users.get? d.userId).map (·.username)).getD ""
      let comment : Comment := ⟨id, d.postId, d.userId, d.content, now, username⟩
      (.ok comment, { s with comments := s.comments.insert id comment })
  else (.error (.failed .notFound), s)

def getComment (id : Int64) (s : Store) : Except Failure Comment :=
  match s.comments.get? id with
  | some c => .ok c
  | none => .error .notFound

/-- The comments on a post. -/
def commentsOn (postId : Int64) (s : Store) : List Comment :=
  s.comments.values.filter fun c => c.postId == postId

/-- The comments on a post, newest first. -/
def listComments (postId : Int64) (s : Store) : List Comment :=
  (s.commentsOn postId).mergeSort fun a b => b.createdAt.notAfter a.createdAt

/-- Sets the content of a stored comment. -/
def updateComment (c : Comment) (s : Store) : Except Failure Comment × Store :=
  match s.comments.get? c.id with
  | none => (.error .notFound, s)
  | some d =>
    let d := { d with content := c.content }
    (.ok d, { s with comments := s.comments.insert c.id d })

def deleteComment (id : Int64) (s : Store) : Store :=
  { s with comments := s.comments.erase id }

end Microblog.Store
