import Microblog.Text.Integer
import Microblog.Time.Timestamp

/-!
# Configuration

The settings of the service, read from named texts. Only the address of the
database must be given. A number or switch that cannot be read keeps its
default.
-/

namespace Microblog

namespace Config

/-- How tokens are signed. -/
structure Tokens where
  secret : String
  issuer : String
  audience : String
  ttlHours : Int64
  deriving DecidableEq, Repr

/-- The server of the cache. -/
structure CacheServer where
  url : String
  enabled : Bool
  deriving DecidableEq, Repr

structure Mail where
  fromEmail : String
  apiKey : String
  invitationTtlHours : Int64
  deriving DecidableEq, Repr

/-- The credentials for the operators' pages. -/
structure BasicAuth where
  user : String
  password : String
  deriving DecidableEq, Repr

structure Limits where
  enabled : Bool
  requestsPerWindow : Nat
  windowSecs : Nat
  deriving DecidableEq, Repr

end Config

structure Config where
  env : String
  frontendUrl : String
  corsAllowedOrigin : String
  databaseUrl : String
  dbMaxConnections : Nat
  queryTimeoutSecs : Nat
  cacheServer : Config.CacheServer
  tokens : Config.Tokens
  mail : Config.Mail
  basicAuth : Config.BasicAuth
  limits : Config.Limits
  deriving DecidableEq, Repr

/-- Why there is no configuration. -/
inductive ConfigFault where
  | noDatabase
  deriving DecidableEq, Repr

def ConfigFault.message : ConfigFault → String
  | noDatabase => "environment variable not found"

namespace Config

/-- Named texts. -/
abbrev Env := List (String × String)

def bool? : String → Option Bool
  | "true" => some true
  | "false" => some false
  | _ => none

/-- Whether a program can be given the texts: a name ends at an equals sign, and names and texts
at a zero. -/
def Env.isPossible (env : Env) : Bool :=
  env.all fun (name, text) =>
    name != "" && !name.toList.any (fun c => c == '=' || c == '\x00') &&
      !text.toList.contains '\x00'

/-- A text, or its default. -/
def Env.text (env : Env) (name default : String) : String := (env.lookup name).getD default

/-- What a text is read as, or the default. -/
def Env.read {α : Type} (env : Env) (read : String → Option α) (name : String) (default : α) : α :=
  ((env.lookup name).bind read).getD default

/-- The configuration of some named texts. -/
def ofEnv (env : Env) : Except ConfigFault Config :=
  match env.lookup "DATABASE_URL" with
  | none => .error .noDatabase
  | some databaseUrl => .ok {
      env := env.text "ENV" "development"
      frontendUrl := env.text "FRONTEND_URL" "http://localhost:5173"
      corsAllowedOrigin := env.text "CORS_ALLOWED_ORIGIN" "*"
      databaseUrl := databaseUrl
      dbMaxConnections := env.read (Text.unsigned? 32) "DB_MAX_CONNECTIONS" 30
      queryTimeoutSecs := env.read (Text.unsigned? 64) "QUERY_TIMEOUT_SECS" 5
      cacheServer := {
        url := env.text "REDIS_URL" "redis://127.0.0.1:6379"
        enabled := env.read bool? "REDIS_ENABLED" false }
      tokens := {
        secret := env.text "JWT_SECRET" ""
        issuer := env.text "JWT_ISSUER" "social"
        audience := env.text "JWT_AUDIENCE" "social"
        ttlHours := env.read Text.int64? "JWT_TTL_HOURS" 72 }
      mail := {
        fromEmail := env.text "FROM_EMAIL" ""
        apiKey := env.text "SENDGRID_API_KEY" ""
        invitationTtlHours := env.read Text.int64? "INVITATION_TTL_HOURS" 72 }
      basicAuth := {
        user := env.text "BASIC_AUTH_USER" ""
        password := env.text "BASIC_AUTH_PASSWORD" "" }
      limits := {
        enabled := env.read bool? "RATE_LIMITER_ENABLED" true
        requestsPerWindow := env.read (Text.unsigned? 32) "RATE_LIMITER_REQUESTS" 20
        windowSecs := env.read (Text.unsigned? 64) "RATE_LIMITER_WINDOW_SECS" 5 } }

def isProduction (c : Config) : Bool := c.env == "production"

/-- How long an invitation holds, in seconds; `none` if they have no 64-bit number. -/
def invitationSecs? (c : Config) : Option Int :=
  let secs := c.mail.invitationTtlHours.toInt * 3600
  if -0x8000000000000000 ≤ secs ∧ secs < 0x8000000000000000 then some secs else none

/-- How long a statement to the database may take, as a word of milliseconds. -/
def queryTimeoutMillis (c : Config) : UInt64 := .ofNat (c.queryTimeoutSecs * 1000)

end Config

end Microblog
