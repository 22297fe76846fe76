import Microblog.Text.Blank
import Microblog.Text.Split

/-!
# Request headers

The name of a header is a token, read in lower case; its value holds no control
character but the tab. A value can be read as text only if it is ASCII.
-/

namespace Microblog.Http

/-- The characters of tokens, which are the names of methods, headers and media types. -/
def isTokenChar (c : Char) : Bool :=
  c.isAlphanum || "!#$%&'*+-.^_`|~".toList.contains c

/-- Headers with lower-case names. -/
abbrev Headers := List (String × String)

/-- What is wrong with a header. -/
inductive HeaderFault where
  | name
  | value
  deriving DecidableEq, Repr

def HeaderFault.message : HeaderFault → String
  | name => "invalid HTTP header name"
  | value => "failed to parse header value"

namespace Headers

def validName (s : String) : Bool :=
  s != "" && s.utf8ByteSize < 65536 && s.toList.all isTokenChar

def validValue (s : String) : Bool :=
  s.toList.all fun c => c == '\t' || (0x20 ≤ c.toNat && c.toNat != 0x7f)

/-- Whether a value can be read as text. -/
def isText (s : String) : Bool :=
  s.toList.all fun c => c == '\t' || (0x20 ≤ c.toNat && c.toNat < 0x7f)

/-- The headers with the names and values given. -/
def of (hs : List (String × String)) : Except HeaderFault Headers :=
  hs.mapM fun (name, value) =>
    if !validName name then .error .name
    else if !validValue value then .error .value
    else .ok (name.map Char.toLower, value)

/-- The text of the first header of a name. -/
def text? (hs : Headers) (name : String) : Option String :=
  (hs.lookup name).filter isText

end Headers

/-- Why no credentials are found in the headers. -/
inductive CredentialsFault where
  | missing
  | invalid
  deriving DecidableEq, Repr

def CredentialsFault.message : CredentialsFault → String
  | missing => "missing auth token"
  | invalid => "invalid auth header"

/-- What follows a scheme and one space in the authorization header. -/
def authorization (hs : Headers) (scheme : String) : Except CredentialsFault String :=
  match (Headers.text? hs "authorization").filter (· != "") with
  | none => .error .missing
  | some s =>
    match Text.splitOn (· == ' ') s.toList with
    | [name, value] =>
      if String.ofList name = scheme then .ok (String.ofList value) else .error .invalid
    | _ => .error .invalid

end Microblog.Http
