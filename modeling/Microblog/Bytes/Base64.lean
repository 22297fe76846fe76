/-!
# Base64

Three bytes are four symbols; a last group of one or two bytes is two or three
symbols, with padding to four where the variant asks for it. Reading is exact:
`decode?` accepts no text but the one that `encode` writes, so the bits that a
short last group leaves over must be zero.
-/

namespace Microblog.Bytes

/-- The two symbols beyond letters and digits are `+/` or `-_`. -/
inductive Alphabet where
  | standard
  | urlSafe
  deriving DecidableEq, Repr

namespace Alphabet

/-- The symbols for 62 and 63. -/
def last : Alphabet → Char × Char
  | standard => ('+', '/')
  | urlSafe => ('-', '_')

/-- The symbol of a number below 64. -/
def symbol (a : Alphabet) (n : Nat) : Char :=
  if n < 26 then Char.ofNat ('A'.toNat + n)
  else if n < 52 then Char.ofNat ('a'.toNat + (n - 26))
  else if n < 62 then Char.ofNat ('0'.toNat + (n - 52))
  else if n = 62 then a.last.1
  else a.last.2

/-- The number of a symbol. -/
def value? (a : Alphabet) (c : Char) : Option Nat :=
  if 'A' ≤ c ∧ c ≤ 'Z' then some (c.toNat - 'A'.toNat)
  else if 'a' ≤ c ∧ c ≤ 'z' then some (c.toNat - 'a'.toNat + 26)
  else if '0' ≤ c ∧ c ≤ '9' then some (c.toNat - '0'.toNat + 52)
  else if c = a.last.1 then some 62
  else if c = a.last.2 then some 63
  else none

end Alphabet

namespace Base64

/-- The symbols of some bytes, without padding. -/
def encode (a : Alphabet) : List UInt8 → List Char
  | [] => []
  | [x] =>
    let v := x.toNat * 16
    [a.symbol (v / 64), a.symbol (v % 64)]
  | [x, y] =>
    let v := (x.toNat * 256 + y.toNat) * 4
    [a.symbol (v / 4096), a.symbol (v / 64 % 64), a.symbol (v % 64)]
  | x :: y :: z :: bs =>
    let v := (x.toNat * 256 + y.toNat) * 256 + z.toNat
    a.symbol (v / 262144) :: a.symbol (v / 4096 % 64) :: a.symbol (v / 64 % 64) ::
      a.symbol (v % 64) :: encode a bs

/-- The bytes of unpadded symbols. -/
def decode? (a : Alphabet) : List Char → Option (List UInt8)
  | [] => some []
  | [_] => none
  | [p, q] => do
    let v := (← a.value? p) * 64 + (← a.value? q)
    if v % 16 = 0 then some [UInt8.ofNat (v / 16)] else none
  | [p, q, r] => do
    let v := ((← a.value? p) * 64 + (← a.value? q)) * 64 + (← a.value? r)
    if v % 4 = 0 then some [UInt8.ofNat (v / 1024), UInt8.ofNat (v / 4 % 256)] else none
  | p :: q :: r :: s :: cs => do
    let v := (((← a.value? p) * 64 + (← a.value? q)) * 64 + (← a.value? r)) * 64 + (← a.value? s)
    let bs ← decode? a cs
    return UInt8.ofNat (v / 65536) :: UInt8.ofNat (v / 256 % 256) :: UInt8.ofNat (v % 256) :: bs

/-- The padding that fills the last group of four. -/
def padding (symbols : Nat) : List Char := List.replicate ((4 - symbols % 4) % 4) '='

/-- The symbols of some bytes, padded. -/
def encodePadded (a : Alphabet) (bs : List UInt8) : List Char :=
  let cs := encode a bs
  cs ++ padding cs.length

/-- The bytes of padded symbols. -/
def decodePadded? (a : Alphabet) (cs : List Char) : Option (List UInt8) :=
  let symbols := cs.takeWhile (· != '=')
  if cs = symbols ++ padding symbols.length then decode? a symbols else none

theorem mem_encode {a : Alphabet} {bs : List UInt8} {c : Char} (h : c ∈ encode a bs) :
    ∃ n, c = a.symbol n := by
  fun_induction encode a bs with
  | case1 => cases h
  | case2 x v =>
    rcases List.mem_cons.1 h with h | h
    · exact ⟨_, h⟩
    · exact ⟨_, List.mem_singleton.1 h⟩
  | case3 x y v =>
    rcases List.mem_cons.1 h with h | h
    · exact ⟨_, h⟩
    rcases List.mem_cons.1 h with h | h
    · exact ⟨_, h⟩
    · exact ⟨_, List.mem_singleton.1 h⟩
  | case4 x y z bs v ih =>
    rcases List.mem_cons.1 h with h | h
    · exact ⟨_, h⟩
    rcases List.mem_cons.1 h with h | h
    · exact ⟨_, h⟩
    rcases List.mem_cons.1 h with h | h
    · exact ⟨_, h⟩
    rcases List.mem_cons.1 h with h | h
    · exact ⟨_, h⟩
    · exact ih h

theorem isSome_value?_of_mem {a : Alphabet} {cs : List Char} {bs : List UInt8} {c : Char}
    (h : decode? a cs = some bs) (hc : c ∈ cs) : (a.value? c).isSome := by
  fun_induction decode? a cs generalizing bs with
  | case1 => cases hc
  | case2 => cases h
  | case3 p q =>
    simp only [bind, Option.bind_eq_some_iff] at h
    obtain ⟨i, hp, j, hq, -⟩ := h
    simp only [List.mem_cons, List.not_mem_nil, or_false] at hc
    rcases hc with rfl | rfl
    · simp [hp]
    · simp [hq]
  | case4 p q r =>
    simp only [bind, Option.bind_eq_some_iff] at h
    obtain ⟨i, hp, j, hq, k, hr, -⟩ := h
    simp only [List.mem_cons, List.not_mem_nil, or_false] at hc
    rcases hc with rfl | rfl | rfl
    · simp [hp]
    · simp [hq]
    · simp [hr]
  | case5 p q r s cs ih =>
    simp only [bind, Option.bind_eq_some_iff] at h
    obtain ⟨i, hp, j, hq, k, hr, l, hs, ds, hds, -⟩ := h
    simp only [List.mem_cons] at hc
    rcases hc with rfl | rfl | rfl | rfl | hc
    · simp [hp]
    · simp [hq]
    · simp [hr]
    · simp [hs]
    · exact ih hds hc

end Base64

end Microblog.Bytes
