import Microblog.Store.Basic

/-!
# Posts in the store

A change is made only to the version of a post that the client has seen, and
makes the next version. With a post go its comments.
-/

namespace Microblog.Store

open Account Content

def createPost (d : NewPost) : Op Post := fun s =>
  match s.fresh with
  | none => (.error .overflow, s)
  | some (id, now, s) =>
    let post : Post := ⟨id, d.userId, d.title, d.content, d.tags, now, now, 1⟩
    (.ok post, { s with posts := s.posts.insert id post })

def getPost (id : Int64) (s : Store) : Except Failure Post :=
  match s.posts.get? id with
  | some p => .ok p
  | none => .error .notFound

/-- Sets title, content and tags if the stored version is the one given. Behind the greatest version
there is no next one. What is set by then stays in the locked store, where nobody sees it, and is left
out. -/
def updatePost (p : Post) : Op Post := fun s =>
  match s.tick with
  | none => (.error .overflow, s)
  | some (now, s) =>
    match (s.posts.get? p.id).filter fun q => q.version == p.version with
    | none => (.error (.failed .versionConflict), s)
    | some q =>
      if q.version = Int32.maxValue then (.error .overflow, s)
      else
        let q := { q with
          title := p.title
          content := p.content
          tags := p.tags
          updatedAt := now
          version := q.version + 1 }
        (.ok q, { s with posts := s.posts.insert p.id q })

/-- Removes a post and its comments. -/
def deletePost (id : Int64) (s : Store) : Store :=
  { s with
    posts := s.posts.erase id
    comments := s.comments.filter fun _ c => c.postId != id }

end Microblog.Store
