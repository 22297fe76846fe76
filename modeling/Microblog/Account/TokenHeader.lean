import Microblog.Bytes.Base64
import Microblog.Json.Shape
import Microblog.Json.Value.Reader

/-!
# Headers of bearer tokens

A header is a record in JSON that names the algorithm of its token. Nothing else
of it counts, but with a field of the wrong kind it is no header. A name from a
fixed list is a string, or an object with the name as its only key and null as
its value. A key in a header must have the parts of one kind of keys.
-/

namespace Microblog.Account

/-- The algorithms that a header can name. -/
inductive Algorithm where
  | hs256
  /-- Any other one that is known; it is not accepted. -/
  | foreign
  deriving DecidableEq, Repr

/-- The text in base64 of some bytes. -/
def armor (bs : List UInt8) : List Char := Bytes.Base64.encode .urlSafe bs

/-- The bytes of a text in base64. -/
def unarmor? (cs : List Char) : Option (List UInt8) := Bytes.Base64.decode? .urlSafe cs

namespace TokenHeader

open Json

/-- The names of algorithms that sign tokens. -/
def algorithms : List String :=
  ["HS256", "HS384", "HS512", "ES256", "ES384", "RS256", "RS384", "RS512", "PS256", "PS384",
    "PS512", "EdDSA"]

/-! ## Keys -/

namespace Key

/-- The names of algorithms that a key can be for. -/
def algorithms : List String :=
  TokenHeader.algorithms ++ ["RSA1_5", "RSA-OAEP", "RSA-OAEP-256"]

/-- The curves that a key can be on. -/
def curves : List String := ["P-256", "P-384", "P-521", "Ed25519"]

def isText : Value → Bool
  | .string _ => true
  | _ => false

def isTexts : Value → Bool
  | .array items => items.all isText
  | _ => false

/-- Whether a value is one of some names. -/
def isOf (names : List String) : Value → Bool
  | .string s => names.contains s
  | .object [(s, .null)] => names.contains s
  | _ => false

/-- Whether a value is the name of an algorithm; an empty object stands for null here. -/
def isAlgorithm : Value → Bool
  | .object [(s, .object [])] => algorithms.contains s
  | v => isOf algorithms v

/-- The members that a key of any kind can have. -/
def common : List (String × (Value → Bool)) :=
  [("use", isText), ("key_ops", isTexts), ("alg", isAlgorithm), ("kid", isText), ("x5u", isText),
    ("x5c", isTexts), ("x5t", isText), ("x5t#S256", isText)]

/-- The members that make a key of each kind. -/
def kinds : List (List (String × (Value → Bool))) :=
  [[("kty", isOf ["EC"]), ("crv", isOf curves), ("x", isText), ("y", isText)],
    [("kty", isOf ["RSA"]), ("n", isText), ("e", isText)],
    [("kty", isOf ["oct"]), ("k", isText)],
    [("kty", isOf ["OKP"]), ("crv", isOf curves), ("x", isText)]]

/-- The values of the members with a key. -/
def valuesOf (key : String) (members : List (String × Value)) : List Value :=
  (members.filter fun m => m.1 == key).map (·.2)

/-- Whether a member that may be missing is null or as it should be. -/
def allows (members : List (String × Value)) : String × (Value → Bool) → Bool
  | (key, holds) =>
    match valuesOf key members with
    | [] => true
    | [v] => v == .null || holds v
    | _ => false

/-- Whether a member is there and as it should be. -/
def has (members : List (String × Value)) : String × (Value → Bool) → Bool
  | (key, holds) =>
    match valuesOf key members with
    | [v] => holds v
    | _ => false

/-- Whether members make a key. -/
def isWhole (members : List (String × Value)) : Bool :=
  common.all (allows members) && kinds.any fun kind => kind.all (has members)

/-- How deep arrays and objects may lie in a key. -/
def maxDepth : Nat := Value.maxDepth - 1

/-- A key, of which nothing is kept. -/
def reader : Reader Unit := fun bs => do
  let ⟨v, rest, h⟩ ← Value.reader maxDepth bs
  match v with
  | .object members =>
    if isWhole members then return ⟨(), rest, h⟩
    else throw ⟨[], .kind .object "a key", rest.length⟩
  | v => throw ⟨[], .kind v.found "a key", rest.length⟩

end Key

/-! ## Whole headers -/

/-- A name that has been read, if it is on a list. -/
def listed {n : Nat} (names : List String) (r : Read String n) : Except Fault (Read String n) :=
  if names.contains r.value then .ok r
  else .error ⟨[], .range (.string r.value) "a known name", r.rest.length⟩

/-- The value that means nothing. -/
def readNull : Reader Unit := afterSpace fun b rest =>
  if b = 0x6e then literalNull rest else .error (mismatch "null" (b :: rest))

/-- A name from a list. -/
def readName (names : List String) : Reader String := afterSpace fun b rest =>
  if b = 0x22 then stringBody rest >>= listed names
  else if b = 0x7b then do
    let ⟨name, rest₁, h₁⟩ ← readString "a name" rest >>= listed names
    let ⟨_, rest₂, h₂⟩ ← colon rest₁
    let ⟨_, rest₃, h₃⟩ ← readNull rest₂
    (conclude (.ok name) (closeObject rest₃)).map (Read.mono (by omega))
  else .error (mismatch "a name" (b :: rest))

/-- The fields of a header. -/
def fields : Fields :=
  .cons "typ" .optional (.maybe .string) <|
  .cons "alg" .required .string <|
  .cons "cty" .optional (.maybe .string) <|
  .cons "jku" .optional (.maybe .string) <|
  .cons "jwk" .optional (.maybe (.record "Jwk" .nil)) <|
  .cons "kid" .optional (.maybe .string) <|
  .cons "x5u" .optional (.maybe .string) <|
  .cons "x5c" .optional (.maybe (.list .string)) <|
  .cons "x5t" .optional (.maybe .string) <|
  .cons "x5t#S256" .optional (.maybe .string) .nil

/-- The readers of the fields: those of their shapes, but for the algorithm and the key. -/
def readers : fields.Readers :=
  match fields.readers with
  | (typ, _, cty, jku, _, rest) =>
    (typ, readName algorithms, cty, jku, readMaybe Key.reader, rest)

/-- The header of every token that is signed here. -/
def own : List Char := armor (Text.Utf8.encode "\x7b\"typ\":\"JWT\",\"alg\":\"HS256\"\x7d")

/-- The algorithm that a header names. -/
def algorithm? (header : List Char) : Option Algorithm :=
  match unarmor? header with
  | none => none
  | some bs =>
    match (fields.readRecord "Header" readers).whole bs with
    | .ok (_, name, _) => some (if name = "HS256" then .hs256 else .foreign)
    | .error _ => none

end TokenHeader

end Microblog.Account
