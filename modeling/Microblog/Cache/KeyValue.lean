import Microblog.Cache.Basic

/-!
# A cache on a key-value server

Users are kept as JSON texts on a server that knows the commands GET and SET.
The passing of time is the server's business; an empty text counts as no entry.
-/

namespace Microblog.Cache

open Account Store

inductive Command where
  | get (key : String)
  /-- Sets a text that is to be dropped after some seconds. -/
  | set (key value : String) (seconds : Nat)
  deriving DecidableEq, Repr

namespace Command

/-- The words that are sent. -/
def words : Command → List String
  | get key => ["GET", key]
  | set key value seconds => ["SET", key, value, "EX", toString seconds]

/-- The first word. -/
def verb : Command → String
  | get _ => "GET"
  | set .. => "SET"

end Command

/-- A server with its texts, the command that it refuses, if there is one, and what it has been
sent, newest first. -/
structure Server where
  texts : Table String String
  refused : Option String
  log : List Command
  deriving DecidableEq

namespace Server

def empty : Server := ⟨.empty, none, []⟩

/-- The key of a user. -/
def key (id : Int64) : String := "user-" ++ String.ofList (Json.writeInt id.toInt)

/-- What the server answers to a command: a text, if there is one, or a refusal. -/
def execute (c : Command) (s : Server) : Except Fault (Option String) × Server :=
  let s := { s with log := c :: s.log }
  if s.refused = some c.verb then (.error .server, s)
  else
    match c with
    | .get key => (.ok (s.texts.get? key), s)
    | .set key value _ => (.ok none, { s with texts := s.texts.insert key value })

/-- The user that a text holds. -/
def readUser (text : String) : Except Fault (Option User) :=
  if text = "" then .ok none
  else
    let bytes := Text.Utf8.encode text
    match Json.read bytes with
    | .ok u => .ok (some u)
    | .error f => .error (.unreadable (f.message bytes))

instance : UserCache Server where
  get id _ s :=
    match s.execute (.get (key id)) with
    | (.error f, s) => (.error f, s)
    | (.ok none, s) => (.ok none, s)
    | (.ok (some text), s) => (readUser text, s)
  set u _ s :=
    match s.execute (.set (key u.id) (Json.encode u).render ttlSecs) with
    | (.error f, s) => (.error f, s)
    | (.ok _, s) => (.ok (), s)

end Server

end Microblog.Cache
