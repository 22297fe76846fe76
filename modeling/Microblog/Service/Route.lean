import Microblog.Text.Split

/-!
# Routes

A path names a page. Some pages are open to everyone, some to members, and some
stand on a post or a comment. Each page serves some methods; GET stands for HEAD
too. Parts of paths are kept as they were sent; one at the end of a path is not empty.
-/

namespace Microblog.Service

/-- A method that some page serves. -/
inductive Verb where
  | get
  | post
  | put
  | patch
  | delete
  deriving DecidableEq, Repr

namespace Verb

def ofMethod? : String → Option Verb
  | "GET" => some get
  | "HEAD" => some get
  | "POST" => some post
  | "PUT" => some put
  | "PATCH" => some patch
  | "DELETE" => some delete
  | _ => none

/-- The methods that stand for the verb. -/
def methods : Verb → List String
  | get => ["GET", "HEAD"]
  | post => ["POST"]
  | put => ["PUT"]
  | patch => ["PATCH"]
  | delete => ["DELETE"]

end Verb

/-- A page for everyone. -/
inductive FrontPage where
  | health
  | debugVars
  | registration
  | token
  | activation (token : String)
  deriving DecidableEq, Repr

/-- A page for members. -/
inductive MemberPage where
  | posts
  | feed
  | user (id : String)
  | follow (id : String)
  | unfollow (id : String)
  deriving DecidableEq, Repr

/-- A page on a post. -/
inductive PostPage where
  | itself
  | comments
  deriving DecidableEq, Repr

inductive Route where
  | front (page : FrontPage)
  | member (page : MemberPage)
  | post (id : String) (page : PostPage)
  | comment (id : String)
  deriving DecidableEq, Repr

namespace Route

/-- The route of the segments behind the version. Where two routes fit, the one with fewer
variable parts counts. -/
def ofSegments? : List String → Option Route
  | ["health"] => some (.front .health)
  | ["debug", "vars"] => some (.front .debugVars)
  | ["authentication", "user"] => some (.front .registration)
  | ["authentication", "token"] => some (.front .token)
  | ["posts"] => some (.member .posts)
  | ["posts", id] => if id = "" then none else some (.post id .itself)
  | ["posts", id, "comments"] => some (.post id .comments)
  | ["comments", id] => if id = "" then none else some (.comment id)
  | ["users", "feed"] => some (.member .feed)
  | ["users", id] => if id = "" then none else some (.member (.user id))
  | ["users", id, last] =>
    if id = "activate" ∧ last ≠ "" then some (.front (.activation last))
    else if last = "follow" then some (.member (.follow id))
    else if last = "unfollow" then some (.member (.unfollow id))
    else none
  | _ => none

/-- The route of a path. -/
def ofPath? (path : String) : Option Route :=
  match (Text.splitOn (· == '/') path.toList).map String.ofList with
  | "" :: "v1" :: segments => ofSegments? segments
  | _ => none

/-- The verbs that a route serves. -/
def verbs : Route → List Verb
  | front .health => [.get]
  | front .debugVars => [.get]
  | front .registration => [.post]
  | front .token => [.post]
  | front (.activation _) => [.put]
  | member .posts => [.post]
  | member .feed => [.get]
  | member (.user _) => [.get]
  | member (.follow _) => [.put]
  | member (.unfollow _) => [.put]
  | post _ .itself => [.get, .patch, .delete]
  | post _ .comments => [.get, .post]
  | comment _ => [.patch, .delete]

/-- Whether a route serves a method. -/
def serves (r : Route) (method : String) : Bool :=
  (Verb.ofMethod? method).any r.verbs.contains

/-- The methods that a route serves, as a header names them. -/
def allow (r : Route) : String := ",".intercalate (r.verbs.flatMap Verb.methods)

end Route

end Microblog.Service
