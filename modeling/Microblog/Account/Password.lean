import Microblog.Account.HashText
import Microblog.Digest.Argon2

/-!
# Passwords

Of a password only a salted Argon2 digest is kept, as the text of a hash.
`Password.make` hashes a plain password under a salt, and `Password.verify?`
tells whether a candidate has the digest of the stored text; a text that cannot
be read verifies nothing, and one with too many lanes to count their memory has
no verdict.
-/

namespace Microblog.Account

open Digest

/-- The text of the hash of a password; it is empty where the hash is not known. -/
structure Password where
  text : String
  deriving DecidableEq, Repr

/-- What is needed to hash a candidate as a stored password was hashed. -/
structure Recipe where
  variant : Argon2.Variant
  version : Argon2.Version
  cost : Argon2.Cost
  salt : List UInt8
  data : List UInt8

/-- The parameters of a hash; each has a default. -/
structure Params where
  memory : Nat
  passes : Nat
  lanes : Nat
  data : List UInt8

namespace Params

/-- The parameters of new hashes, and what a stored hash is read as where it names none. -/
def standard : Params := ⟨19456, 2, 1, []⟩

/-- The bytes of a value, if they are no more than `limit`. -/
def bytes? (limit : Nat) (v : String) : Option (List UInt8) :=
  (Bytes.Base64.decode? .standard v.toList).bind fun bs =>
    if bs.length ≤ limit then some bs else none

/-- One more parameter. -/
def set? (p : Params) (name value : String) : Option Params :=
  match name with
  | "m" => (HashText.number value).toOption.map fun n => { p with memory := n }
  | "t" => (HashText.number value).toOption.map fun n => { p with passes := n }
  | "p" => (HashText.number value).toOption.map fun n => { p with lanes := n }
  | "keyid" => (bytes? 8 value).map fun _ => p
  | "data" => (bytes? 32 value).map fun bs => { p with data := bs }
  | _ => none

/-- The parameters of a list, the last of one name counting. -/
def ofList? (ps : List (String × String)) : Option Params :=
  ps.foldlM (fun p (name, value) => p.set? name value) standard

/-- Whether Argon2 can be run at this cost. -/
def Admissible (p : Params) : Prop :=
  8 ≤ p.memory ∧ 1 ≤ p.passes ∧ 1 ≤ p.lanes ∧ p.lanes < 0x1000000 ∧ 8 * p.lanes ≤ p.memory

instance (p : Params) : Decidable p.Admissible := inferInstanceAs (Decidable (_ ∧ _))

/-- Whether the memory that the lanes need has no 32-bit number. It is not counted where there is
too little memory for one lane. -/
def Overflows (p : Params) : Prop := 8 ≤ p.memory ∧ 0x100000000 ≤ 8 * p.lanes

instance (p : Params) : Decidable p.Overflows := inferInstanceAs (Decidable (_ ∧ _))

end Params

namespace Recipe

def variant? : String → Option Argon2.Variant
  | "argon2d" => some .d
  | "argon2i" => some .i
  | "argon2id" => some .id
  | _ => none

def version? : Nat → Option Argon2.Version
  | 16 => some .v10
  | 19 => some .v13
  | _ => none

/-- The recipe and the digest that a stored hash holds. -/
def of? (h : HashText) : Option (Recipe × List UInt8) := do
  let output ← h.output
  let variant ← variant? h.algorithm
  let version ← version? (h.version.getD 19)
  let salt ← Bytes.Base64.decode? .standard (← h.salt).toList
  let params ← Params.ofList? h.params
  if params.Admissible ∧ 8 ≤ salt.length then
    let cost : Argon2.Cost := ⟨params.memory, params.passes, params.lanes, output.length⟩
    return (⟨variant, version, cost, salt, params.data⟩, output)
  else none

/-- The digest of a candidate. -/
def run (r : Recipe) (candidate : String) : List UInt8 :=
  Argon2.digest r.variant r.version r.cost (Text.Utf8.encode candidate) r.salt r.data

end Recipe

namespace HashText

/-- Whether the parameters are looked at and overflow; without salt and output they are not. -/
def overflows (h : HashText) : Bool :=
  h.salt.isSome && h.output.isSome && (Params.ofList? h.params).any fun p => decide p.Overflows

/-- Whether a candidate has the digest of a hash that can be read. -/
def verify? (h : HashText) (candidate : String) : Option Bool :=
  if h.overflows then none
  else
    match Recipe.of? h with
    | some (recipe, output) => some (recipe.run candidate == output)
    | none => some false

end HashText

namespace Password

/-- No hash. -/
def unknown : Password := ⟨""⟩

instance : Inhabited Password := ⟨unknown⟩

/-- Whether a candidate is the password. -/
def verify? (p : Password) (candidate : String) : Option Bool :=
  match HashText.parse p.text with
  | .ok h => h.verify? candidate
  | .error _ => some false

/-- The fields of the text in front of the salt. -/
def front (params : Params) : String :=
  "$argon2id$v=19$m=" ++ String.ofList (Text.decimal params.memory) ++
    ",t=" ++ String.ofList (Text.decimal params.passes) ++
    ",p=" ++ String.ofList (Text.decimal params.lanes)

/-- Hashes a plain password under a salt at some cost. -/
def hash (params : Params) (salt : List UInt8) (plain : String) : Password :=
  let cost : Argon2.Cost := ⟨params.memory, params.passes, params.lanes, 32⟩
  let output := Argon2.digest .id .v13 cost (Text.Utf8.encode plain) salt params.data
  let field (bs : List UInt8) : String := String.ofList (Bytes.Base64.encode .standard bs)
  ⟨front params ++ "$" ++ field salt ++ "$" ++ field output⟩

/-- Hashes a plain password under a salt at the cost of new hashes. -/
def make (salt : List UInt8) (plain : String) : Password := hash .standard salt plain

/-- What is shown of a password where a record is printed for inspection. -/
def redacted : String := "Password(<redacted>)"

end Password

end Microblog.Account
