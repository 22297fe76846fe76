import Microblog.Account.Token
import Microblog.Cache.Memory
import Microblog.Config
import Microblog.Http.Client
import Microblog.Http.Cors
import Microblog.Http.Request
import Microblog.Limiter
import Microblog.Mail.Mailer
import Microblog.Store.Feed
import Microblog.Store.Posts

/-!
# The application

All that the service keeps between requests, and what a request meets by
chance: the time, and the values that are drawn at random for it.
-/

namespace Microblog.Service

open Account Http

structure App where
  config : Config
  authority : Authority
  store : Store
  /-- Absent where no cache is used. -/
  cache : Option Cache.Memory
  mailer : Mail.Mailer
  limiter : Limiter
  /-- The instant of the start. -/
  startedAt : Int

/-- What a request meets. -/
structure Occasion where
  now : Timestamp
  /-- The instant of the request, in nanoseconds. -/
  instant : Int
  /-- An activation token that has not been used before. -/
  token : String
  /-- The salt for a new password. -/
  salt : List UInt8

namespace Occasion

/-- The time in seconds since 1970. -/
def unix (o : Occasion) : Int64 := .ofInt o.now.unix

end Occasion

namespace App

/-- The application that starts at some instant; `none` if tokens would hold too long. -/
def start? (config : Config) (store : Store) (cache : Option Cache.Memory) (mailer : Mail.Mailer)
    (instant : Int) : Option App :=
  let t := config.tokens
  (Authority.of? t.secret t.issuer t.audience t.ttlHours).map fun authority =>
    let limits := config.limits
    { config, authority, store, cache, mailer
      limiter := .new limits.requestsPerWindow (limits.windowSecs * 1000000000) instant
      startedAt := instant }

/-- Who may read replies. -/
def origins (app : App) : Origins := .of app.config.corsAllowedOrigin

/-- Reads a user. -/
def resolve (id : Int64) (instant : Int) (app : App) : Except Cache.ResolveFault User × App :=
  match Cache.resolve id instant app.cache app.store with
  | (outcome, cache, store) => (outcome, { app with cache, store })

/-- Counts a request, or refuses it with the time that is left of the client's window. -/
def meter (req : Request) (instant : Int) (app : App) : Except Nat Unit × App :=
  if app.config.limits.enabled then
    match app.limiter.allow (clientKey req.peer req.headers) instant with
    | (outcome, limiter) => (outcome, { app with limiter })
  else (.ok (), app)

end App

end Microblog.Service
