import Microblog.Json.Shaped
import Microblog.Refusal
import Microblog.Text.Blank
import Microblog.Text.Pattern

/-!
# Credentials

What a client sends to register or to get a token, and the bounds that it must
keep. The length of a name counts characters; the lengths of an address and a
password count the bytes of their text.
-/

namespace Microblog.Account

/-- The characters of the parts of an address. -/
def isAddressChar (c : Char) : Bool := c != '@' && !Text.isBlank c

/-- A name, an at sign, and a domain with a point inside. -/
def emailPattern : List Text.Piece :=
  [.some isAddressChar, .char '@', .some isAddressChar, .char '.', .some isAddressChar]

/-- Whether a text is an e-mail address. -/
def isEmail (s : String) : Bool := Text.fits emailPattern s.toList

/-- Whether an address and a password keep their bounds. -/
def checkCredentials (email password : String) : Except Refusal Unit :=
  if email = "" ∨ 255 < email.utf8ByteSize ∨ ¬ isEmail email then
    .error (.validation "email must be a valid address of at most 255 characters")
  else if password.utf8ByteSize < 3 ∨ 72 < password.utf8ByteSize then
    .error (.validation "password must be between 3 and 72 characters")
  else .ok ()

/-- What is sent to register. -/
structure Registration where
  username : String
  email : String
  password : String
  deriving DecidableEq, Repr

namespace Registration

open Json in
instance : Shaped Registration where
  shape := .record "RegisterRequest" <|
    .cons "username" .required .string <|
    .cons "email" .required .string <|
    .cons "password" .required .string .nil
  toVal r := (r.username, r.email, r.password, ())
  ofVal | (username, email, password, ()) => ⟨username, email, password⟩

/-- Whether the request keeps its bounds. -/
def check (r : Registration) : Except Refusal Unit :=
  if Text.allBlank r.username ∨ 100 < r.username.length then
    .error (.validation "username is required and at most 100 characters")
  else checkCredentials r.email r.password

end Registration

/-- What is sent to get a token. -/
structure Login where
  email : String
  password : String
  deriving DecidableEq, Repr

namespace Login

open Json in
instance : Shaped Login where
  shape := .record "TokenRequest" <|
    .cons "email" .required .string <|
    .cons "password" .required .string .nil
  toVal r := (r.email, r.password, ())
  ofVal | (email, password, ()) => ⟨email, password⟩

/-- Whether the request keeps its bounds. -/
def check (r : Login) : Except Refusal Unit := checkCredentials r.email r.password

end Login

end Microblog.Account
