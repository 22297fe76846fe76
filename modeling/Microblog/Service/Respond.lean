import Microblog.Service.Task

/-!
# Replies to requests

`App.perform` does a task, and `App.respond` answers a request: it counts the
request, finds the route, plans the task and does it. A request whose numbers
leave their types has no reply; what it had done up to then stays done.

The lock of the store is left out. A request that overflows while it holds the
store never gives the lock back, and whatever looks at the store from then on
has no reply either. Here the application goes on with the store as it was left.
-/

namespace Microblog.Service

open Account Content Http

namespace App

/-- The application with what an operation on the store leaves, and the reply to its outcome. After
an overflow, for which there is none, the store would stay locked. -/
def settle {α : Type} (app : App) (r : Except Stop α × Store) (reply : α → Reply) :
    Option Reply × App :=
  let app := { app with store := r.2 }
  match r.1 with
  | .ok a => (some (reply a), app)
  | .error (.failed f) => (some (Refusal.ofFailure f).reply, app)
  | .error .overflow => (none, app)

/-- The same for an operation that has no number to overflow. -/
def conclude {α : Type} (app : App) (r : Except Failure α × Store) (reply : α → Reply) :
    Option Reply × App :=
  app.settle (r.1.mapError .failed, r.2) reply

/-! ## Registration -/

/-- Stores a new user with an invitation. A lifetime that has no seconds overflows before the store
is locked, an end that has no date while it is. -/
def invite (u : NewUser) (o : Occasion) (app : App) : Except Stop User × App :=
  match app.config.invitationSecs? with
  | none => (.error .overflow, app)
  | some secs =>
    match app.store.createAndInvite u o.token (secs * Timestamp.second) o.now with
    | (outcome, store) => (outcome, { app with store })

/-- The mail to a new user. -/
def welcomeMail (app : App) (u : User) (token : String) : Mail.Message where
  template := .userWelcome
  email := u.email
  vars := ⟨u.username, app.config.frontendUrl ++ "/confirm/" ++ token⟩
  sandbox := !app.config.isProduction

/-- Sends the mail to a new user. -/
def welcome (u : User) (token : String) (app : App) : Except Mail.Fault Unit × App :=
  match app.mailer.send (app.welcomeMail u token) with
  | (outcome, mailer) => (outcome, { app with mailer })

/-- Removes a user whose mail could not be sent. -/
def withdraw (u : User) (app : App) : App := { app with store := app.store.deleteUser u.id }

/-- A user with the activation token. -/
def userWithToken (u : User) (token : String) : Json.Value :=
  (Json.encode u).append [("token", .string token)]

/-- Stores a new user and sends the mail; without the mail the user is removed again. -/
def register (u : NewUser) (o : Occasion) (app : App) : Option Reply × App :=
  match app.invite u o with
  | (.error .overflow, app) => (none, app)
  | (.error (.failed f), app) => (some (Refusal.ofFailure f).reply, app)
  | (.ok user, app) =>
    match app.welcome user o.token with
    | (.ok (), app) => (some (.json 201 (userWithToken user o.token)), app)
    | (.error _, app) => (some Refusal.internal.reply, app.withdraw user)

/-- A token for a user; `none` if its end has no 64-bit number. -/
def issueToken (userId : Int64) (o : Occasion) (app : App) : Option Reply :=
  (app.authority.claimsFor? o.unix userId).map fun claims =>
    match app.authority.sign claims with
    | .ok token => .json 201 (.string token)
    | .error f => (Refusal.ofTokenFault f).reply

/-! ## All tasks -/

/-- Does a task. -/
def perform (t : Task) (o : Occasion) (app : App) : Option Reply × App :=
  match t with
  | .answer r => (some r, app)
  | .overflow => (none, app)
  | .register u => app.register u o
  | .issueToken id => (app.issueToken id o, app)
  | .activate token => app.conclude (app.store.activate token o.now) fun _ => .bare 204
  | .showUser id =>
    match app.resolve id o.instant with
    | (.ok u, app) => (some (.json 200 (Json.encode u)), app)
    | (.error f, app) => (some f.refusal.reply, app)
  | .createPost d => app.settle (app.store.createPost d) fun p => .json 201 (Json.encode p)
  | .updatePost p => app.settle (app.store.updatePost p) fun p => .json 200 (Json.encode p)
  | .deletePost id => (some (.bare 204), { app with store := app.store.deletePost id })
  | .createComment d => app.settle (app.store.createComment d) fun c => .json 201 (Json.encode c)
  | .updateComment c => app.conclude (app.store.updateComment c) fun c => .json 200 (Json.encode c)
  | .deleteComment id => (some (.bare 204), { app with store := app.store.deleteComment id })
  | .follow a b => app.conclude (app.store.follow a b) fun _ => .bare 204
  | .unfollow a b => (some (.bare 204), { app with store := app.store.unfollow a b })

/-- Answers a request on a route. -/
def serve (route : Route) (req : Request) (o : Occasion) (app : App) : Option Reply × App :=
  match app.plan route req o with
  | (.error r, app) => (some r, app)
  | (.ok task, app) => app.perform task o

/-! ## The way in and out -/

/-- Answers a request that counts against the limit of its client. -/
def admitted (route : Option Route) (req : Request) (o : Occasion) (app : App) :
    Option Reply × App :=
  match app.meter req o.instant with
  | (.error left, app) => ((retryAfter? left).map fun secs => (Refusal.rateLimited secs).reply, app)
  | (.ok (), app) =>
    match route with
    | none => (some (.bare 404), app)
    | some route => app.serve route req o

/-- What a route adds to a reply: a method that it does not serve is told the ones it does, and
HEAD gets no body. -/
def finish (route : Option Route) (method : String) (r : Reply) : Reply :=
  match route with
  | none => r
  | some route =>
    if route.serves method then (if method = "HEAD" then r.withoutBody else r)
    else r.withHeader "allow" route.allow

/-- Answers a request. -/
def respond (req : Request) (o : Occasion) (app : App) : Option Reply × App :=
  let route := Route.ofPath? req.path
  if req.method = "OPTIONS" then
    (some (finish route req.method (.preflight app.origins)), app)
  else
    match app.admitted route req o with
    | (r, app) => (r.map fun r => finish route req.method (r.withOrigins app.origins), app)

end App

end Microblog.Service
