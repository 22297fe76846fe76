import Microblog.Http.MediaType
import Microblog.Http.Percent
import Microblog.Http.Request
import Microblog.Json.Shaped
import Microblog.Refusal

/-!
# What a request says

The body of a request is JSON of a limited length, and says so in its headers.
A part of the path that stands for a value is percent-encoded UTF-8.
-/

namespace Microblog.Service

open Http

/-- The greatest length of a body. -/
def maxBodyBytes : Nat := 2097152

/-- Why a body is not read. -/
inductive BodyFault where
  | notJson
  | tooLong
  | badText (message : String)
  | badData (message : String)
  deriving DecidableEq, Repr

namespace BodyFault

def message : BodyFault → String
  | notJson => "Expected request with `Content-Type: application/json`"
  | tooLong => "Failed to buffer the request body: length limit exceeded"
  | badText message => "Failed to parse the request body as JSON: " ++ message
  | badData message =>
    "Failed to deserialize the JSON body into the target type: " ++ message

/-- The fault of a text that is not read. -/
def ofFault (text : List UInt8) (f : Json.Fault) : BodyFault :=
  if f.cause.isData then badData (f.messageWithPath text) else badText (f.messageWithPath text)

end BodyFault

/-- The value in the body of a request. -/
def bodyValue (α : Type) [Json.Shaped α] (req : Request) : Except BodyFault α :=
  if ¬ (Headers.text? req.headers "content-type").any isJsonType then .error .notJson
  else if maxBodyBytes < req.body.length then .error .tooLong
  else
    match Json.readFront req.body with
    | .ok a => .ok a
    | .error f => .error (.ofFault req.body f)

/-- The value in the body of a request, or a refusal. -/
def readBody (α : Type) [Json.Shaped α] (req : Request) : Except Refusal α :=
  (bodyValue α req).mapError fun f => .validation f.message

/-- The text of a part of the path with a name. -/
def pathText (name raw : String) : Except Reply String :=
  match Percent.segment? raw with
  | some s => .ok s
  | none => .error (.text 400 ("Invalid URL: Invalid UTF-8 in `" ++ name ++ "`"))

/-- Replies with a refusal. -/
def orReply {α : Type} (e : Except Refusal α) : Except Reply α := e.mapError Refusal.reply

/-- The id of an entity in the path. -/
def pathParam (entity raw : String) : Except Reply Int64 := do
  let s ← pathText "id" raw
  orReply (pathId s entity)

end Microblog.Service
