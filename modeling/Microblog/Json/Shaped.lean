import Microblog.Json.Reader
import Microblog.Json.Decode

/-!
# Types with a JSON shape

A type with a shape is written to JSON text and read from it; `decode` reads it
from a JSON value that is at hand as a whole.
-/

namespace Microblog.Json

class Shaped (α : Type) where
  shape : Shape
  toVal : α → shape.Val
  ofVal : shape.Val → α

variable {α : Type} [Shaped α]

/-- The JSON value of `a`. -/
def encode (a : α) : Value := (Shaped.shape α).encode (Shaped.toVal a)

/-- Reads a text that holds a value and nothing else but blanks. -/
def read (text : Bytes) : Except Fault α := ((Shaped.shape α).read text).map Shaped.ofVal

/-- Reads the value at the front of a text. -/
def readFront (text : Bytes) : Except Fault α :=
  ((Shaped.shape α).readFront text).map Shaped.ofVal

/-- Reads a JSON value. -/
def decode (v : Value) : Except Cause α := ((Shaped.shape α).decode v).map Shaped.ofVal

end Microblog.Json
