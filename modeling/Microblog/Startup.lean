import Microblog.Account.Token
import Microblog.Cache.Location
import Microblog.Config
import Microblog.Http.Address
import Microblog.Http.Url
import Microblog.Mail.Provider

/-!
# Starting the service

The configuration is read, the database and, if it is to be used, the server of
the cache are reached, and a mailer is chosen: with a key for the provider mails
are posted to it, without one they are dropped. The first step that fails ends
the start.
-/

namespace Microblog.Startup

open Account

/-- What can be reached from where the service is started. -/
structure Surroundings where
  database : Bool
  cacheServer : Bool
  deriving DecidableEq, Repr

inductive Fault where
  | config (f : ConfigFault)
  | database
  | cacheUrl
  | cacheServer
  deriving DecidableEq, Repr

def Fault.message : Fault → String
  | config f => f.message
  | database => "connect to database"
  | cacheUrl => "parse redis url"
  | cacheServer => "connect to redis"

/-- How mails leave the service. -/
inductive Post where
  | dropped
  | provider
  deriving DecidableEq, Repr

structure Started where
  config : Config
  authority : Authority
  post : Post
  deriving DecidableEq, Repr

/-- Reaches the server of the cache. -/
def connectCache (url : String) (s : Surroundings) : Except Fault Unit :=
  match Cache.Location.parse? url with
  | none => .error .cacheUrl
  | some _ => if s.cacheServer then .ok () else .error .cacheServer

/-- Reaches the database, which takes some time. -/
def connectDatabase (c : Config) (s : Surroundings) : Except Fault Unit :=
  if s.database ∧ c.queryTimeoutSecs ≠ 0 then .ok () else .error .database

/-- Whether there is a place for a connection, and an instant at which waiting for one ends: the
clock counts seconds below 2 ^ 63, and shows one at least. -/
def hasPool (c : Config) : Bool := c.dbMaxConnections != 0 && c.queryTimeoutSecs + 1 < 0x8000000000000000

/-- Starts the service; `none` if a number of the configuration is out of range: for connections
to the database, or because tokens would hold too long. -/
def start (env : Config.Env) (s : Surroundings) : Except Fault (Option Started) := do
  let c ← (Config.ofEnv env).mapError .config
  if (Http.Url.parse? c.databaseUrl).isNone then throw .database
  if !hasPool c then return none
  connectDatabase c s
  if c.cacheServer.enabled then connectCache c.cacheServer.url s
  let post := if c.mail.apiKey = "" then .dropped else .provider
  let t := c.tokens
  return (Authority.of? t.secret t.issuer t.audience t.ttlHours).map fun a => ⟨c, a, post⟩

/-- Whether a mail leaves the service, given how attempts to post one end. -/
def Post.sends (ends : Nat → Except Mail.Fault Unit) : Post → Bool
  | dropped => true
  | provider => (Mail.Provider.deliver ends).outcome.isOk

/-! ## Listening -/

/-- Why the service does not listen. -/
inductive ListenFault where
  | malformed
  /-- The address is not one of this machine. -/
  | elsewhere
  deriving DecidableEq, Repr

def ListenFault.message : ListenFault → String
  | malformed => "invalid socket address syntax"
  | elsewhere => "Cannot assign requested address (os error 99)"

/-- Whether an address is one that every machine has: it is unspecified, or its own name for
itself. -/
def isOwn : Http.Ip → Bool
  | .v4 parts => parts == [0, 0, 0, 0] || parts.head? == some 127
  | .v6 groups => groups.take 7 == List.replicate 7 0 && groups.getLast?.any (· ≤ 1)

/-- The address at which the service listens. -/
def listen (env : Config.Env) : Except ListenFault Http.SocketAddress :=
  let text := env.text "APP_HOST" "0.0.0.0" ++ ":" ++ env.text "APP_PORT" "8080"
  match Http.SocketAddress.parse? text with
  | none => .error .malformed
  | some address => if isOwn address.ip then .ok address else .error .elsewhere

end Microblog.Startup
