import Microblog.Account.Credentials
import Microblog.Content.Draft
import Microblog.Service.Access
import Microblog.Service.Authentication
import Microblog.Service.Body
import Microblog.Service.Route

/-!
# Tasks

A request is first understood: its parameters and body are read, and what is
stored is looked up, without a change to any of it. What is then left to do is a
`Task`, which may be to change one thing. A post or comment in a task is the one
that was found when the request was understood, with the changes made to it.
-/

namespace Microblog.Service

open Account Content Http

inductive Task where
  /-- There is nothing left but to reply. -/
  | answer (r : Reply)
  /-- A number has left its type, and there is no reply. -/
  | overflow
  | register (u : NewUser)
  | issueToken (userId : Int64)
  | activate (token : String)
  | showUser (id : Int64)
  | createPost (d : NewPost)
  | updatePost (p : Post)
  | deletePost (id : Int64)
  | createComment (d : NewComment)
  | updateComment (c : Comment)
  | deleteComment (id : Int64)
  | follow (follower followed : Int64)
  | unfollow (follower followed : Int64)

/-- The version of the service. -/
def version : String := "0.1.0"

/-- The reply to a method that a page does not serve. -/
def notServed : Except Reply Task := .error (.bare 405)

namespace App

/-- Whether the service is up. -/
def health (app : App) : Json.Value := .object [
  ("status", .string "ok"),
  ("env", .string app.config.env),
  ("version", .string version)]

/-- What an operator sees of the application. -/
def debugVars (app : App) (o : Occasion) : Json.Value := .object [
  ("version", .string version),
  ("env", .string app.config.env),
  ("uptime_secs", .int ((o.instant - app.startedAt).toNat / 1000000000 : Nat)),
  ("cache_enabled", .bool app.cache.isSome),
  ("rate_limiter_enabled", .bool app.config.limits.enabled)]

/-- The task of a request to register. -/
def planRegistration (req : Request) (o : Occasion) : Except Refusal Task := do
  let r ← readBody Registration req
  r.check
  return .register ⟨r.username, r.email, .make o.salt r.password⟩

/-- The task of a request for a token: an active user with the address and the password gets
one. -/
def planToken (app : App) (req : Request) : Except Refusal Task := do
  let login ← readBody Login req
  login.check
  match app.store.getUserByEmail login.email with
  | .error .notFound => throw .unauthorized
  | .error f => throw (.ofFailure f)
  | .ok user =>
    match user.password.verify? login.password with
    | none => return .overflow
    | some true => return .issueToken user.id
    | some false => throw .unauthorized

def planFront (app : App) (page : FrontPage) (verb : Option Verb) (req : Request) (o : Occasion) :
    Except Reply Task :=
  match page, verb with
  | .health, some .get => .ok (.answer (.json 200 app.health))
  | .debugVars, some .get => do
    orReply (app.demandOperator req.headers)
    return .answer (.json 200 (app.debugVars o))
  | .registration, some .post => orReply (planRegistration req o)
  | .token, some .post => orReply (app.planToken req)
  | .activation raw, some .put => (pathText "token" raw).map .activate
  | _, _ => notServed

/-- The task of a request for a feed. -/
def planFeed (app : App) (caller : User) (req : Request) : Except Refusal Task :=
  match Feed.Query.parse ((req.query.map Percent.params).getD []) with
  | .error f => .error f.refusal
  | .ok q => .ok (.answer (.json 200 (.array ((app.store.feed caller.id q).map (·.encode)))))

def planMember (app : App) (caller : User) (page : MemberPage) (verb : Option Verb)
    (req : Request) : Except Reply Task :=
  match page, verb with
  | .posts, some .post => orReply do
    let d ← readBody PostDraft req
    d.check
    return .createPost (d.toNewPost caller.id)
  | .feed, some .get => orReply (app.planFeed caller req)
  | .user raw, some .get => (pathParam "user" raw).map .showUser
  | .follow raw, some .put => (pathParam "user" raw).map (.follow caller.id)
  | .unfollow raw, some .put => (pathParam "user" raw).map (.unfollow caller.id)
  | _, _ => notServed

/-- A post with its comments. -/
def showPost (app : App) (post : Post) : Json.Value :=
  (Json.encode post).append [
    ("comments", .array ((app.store.listComments post.id).map Json.encode))]

def planPost (app : App) (caller : User) (post : Post) (page : PostPage) (verb : Option Verb)
    (req : Request) : Except Reply Task :=
  match page, verb with
  | .itself, some .get => .ok (.answer (.json 200 (app.showPost post)))
  | .itself, some .patch => orReply do
    Access.demand app.store caller post.userId "moderator"
    let patch ← readBody PostPatch req
    patch.check
    return .updatePost (patch.apply post)
  | .itself, some .delete => orReply do
    Access.demand app.store caller post.userId "admin"
    return .deletePost post.id
  | .comments, some .get =>
    .ok (.answer (.json 200 (.array ((app.store.listComments post.id).map Json.encode))))
  | .comments, some .post => orReply do
    let d ← readBody CommentDraft req
    d.check
    return .createComment ⟨post.id, caller.id, d.content⟩
  | _, _ => notServed

def planComment (app : App) (caller : User) (comment : Comment) (verb : Option Verb)
    (req : Request) : Except Reply Task :=
  match verb with
  | some .patch => orReply do
    Access.demand app.store caller comment.userId "moderator"
    let d ← readBody CommentDraft req
    d.check
    return .updateComment { comment with content := d.content }
  | some .delete => orReply do
    Access.demand app.store caller comment.userId "admin"
    return .deleteComment comment.id
  | _ => notServed

/-- The stored post that a part of the path names. -/
def findPost (app : App) (raw : String) : Except Reply Post := do
  let id ← pathParam "post" raw
  orReply ((app.store.getPost id).mapError .ofFailure)

/-- The stored comment that a part of the path names. -/
def findComment (app : App) (raw : String) : Except Reply Comment := do
  let id ← pathParam "comment" raw
  orReply ((app.store.getComment id).mapError .ofFailure)

/-- The task of a member's request. -/
def planFor (app : App) (caller : User) (route : Route) (verb : Option Verb) (req : Request)
    (o : Occasion) : Except Reply Task :=
  match route with
  | .front page => app.planFront page verb req o
  | .member page => app.planMember caller page verb req
  | .post raw page => do
    let post ← app.findPost raw
    app.planPost caller post page verb req
  | .comment raw => do
    let comment ← app.findComment raw
    app.planComment caller comment verb req

/-- The task of a request, or the reply that ends it. Authentication, which comes first on every
page but the open ones, may fill the cache. -/
def plan (route : Route) (req : Request) (o : Occasion) (app : App) :
    Except Reply Task × App :=
  let verb := Verb.ofMethod? req.method
  match route with
  | .front page => (app.planFront page verb req o, app)
  | _ =>
    match app.authenticate req.headers o with
    | (.error r, app) => (.error r.reply, app)
    | (.ok caller, app) => (app.planFor caller route verb req o, app)

end App

end Microblog.Service
