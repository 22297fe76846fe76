import Microblog.Json.Value

/-!
# Replies

A reply has a status, headers with lower-case names in the order in which they
were set, and a body.
-/

namespace Microblog.Http

inductive Body where
  | empty
  | json (v : Json.Value)
  | text (s : String)
  deriving BEq, Repr

structure Reply where
  status : Nat
  headers : List (String × String)
  body : Body
  deriving BEq, Repr

namespace Reply

/-- A reply without headers and body. -/
def bare (status : Nat) : Reply := ⟨status, [], .empty⟩

def json (status : Nat) (v : Json.Value) : Reply :=
  ⟨status, [("content-type", "application/json")], .json v⟩

def text (status : Nat) (s : String) : Reply :=
  ⟨status, [("content-type", "text/plain; charset=utf-8")], .text s⟩

/-- The reply with one more header. -/
def withHeader (r : Reply) (name value : String) : Reply :=
  { r with headers := r.headers ++ [(name, value)] }

/-- The value of a header. -/
def header? (r : Reply) (name : String) : Option String := r.headers.lookup name

/-- The reply to a request that asks for the headers only. -/
def withoutBody (r : Reply) : Reply := { r with body := .empty }

/-- The characters of the body. -/
def bodyText (r : Reply) : String :=
  match r.body with
  | .empty => ""
  | .json v => v.render
  | .text s => s

end Reply

end Microblog.Http
