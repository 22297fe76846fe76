import Microblog.Feed.Query
import Microblog.Store.Comments
import Microblog.Store.Follows
import Microblog.Text.Lower

/-!
# The feed of a user

The feed holds the user's own posts and those of everyone the user follows, as
far as they pass the filters of a query. Posts are in order of creation, and
posts created at one time in order of their ids.
-/

namespace Microblog.Feed

open Account Content

/-- A post with the number of its comments and its author's name. -/
structure Item where
  post : Post
  commentsCount : Int64
  username : String
  deriving DecidableEq, Repr

/-- The post's own members and two more. -/
def Item.encode (i : Item) : Json.Value :=
  (Json.encode i.post).append [
    ("comments_count", .int i.commentsCount.toInt),
    ("username", .string i.username)]

/-- Whether a text stands somewhere in another one. -/
def occurs (w : List Char) : List Char → Bool
  | [] => w.isEmpty
  | c :: cs => w.isPrefixOf (c :: cs) || occurs w cs

/-- Whether a text stands somewhere in another one, letter case aside. -/
def found (search text : String) : Bool :=
  occurs (Text.lower search.toList) (Text.lower text.toList)

/-- Whether a post passes the filters of a query. -/
def Query.admits (q : Query) (p : Post) : Bool :=
  (found q.search p.title || found q.search p.content) &&
    (q.tags.isEmpty || p.tags.any fun t => q.tags.contains t) &&
    q.earliest.all (fun t => t.notAfter p.createdAt) &&
    q.latest.all (fun t => p.createdAt.notAfter t)

/-- Whether a post comes before another one, or is it. -/
def inOrder (a b : Post) : Bool :=
  a.createdAt.nanos < b.createdAt.nanos ||
    (a.createdAt.nanos == b.createdAt.nanos && a.id ≤ b.id)

/-- A count of posts; a negative one is read as a huge one. -/
def count (n : Int64) : Nat := n.toUInt64.toNat

end Microblog.Feed

namespace Microblog.Store

open Account Content Feed

/-- Whether a user sees the posts of another one. -/
def follows? (viewer author : Int64) (s : Store) : Bool :=
  author == viewer || s.isFollowing viewer author

/-- What is shown of a post in a feed. -/
def feedItem (s : Store) (p : Post) : Item :=
  ⟨p, .ofNat (s.commentsOn p.id).length, ((s.users.get? p.userId).map (·.username)).getD ""⟩

/-- All posts of a feed, oldest first. -/
def feedPosts (viewer : Int64) (q : Query) (s : Store) : List Post :=
  (s.posts.values.filter fun p => s.follows? viewer p.userId && q.admits p).mergeSort inOrder

/-- The part of a feed that a query asks for. -/
def feed (viewer : Int64) (q : Query) (s : Store) : List Item :=
  let posts := s.feedPosts viewer q
  let ordered := match q.sort with
    | .asc => posts
    | .desc => posts.reverse
  ((ordered.drop (count q.offset)).take (count q.limit)).map s.feedItem

end Microblog.Store
