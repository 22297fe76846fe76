/-!
# UTF-8

`encode` gives the bytes of a text and `decode?` the text of valid bytes.
`decodeLossy` reads any bytes: each longest stretch that begins a character
but does not finish it, and each byte that begins none, is read as U+FFFD.
`wholeLength` says how far bytes are valid.
-/

namespace Microblog.Text.Utf8

/-- The bytes of a text. -/
def encode (s : String) : List UInt8 := s.toList.flatMap String.utf8EncodeChar

/-- The text of some bytes, if they are valid. -/
def decode? (bs : List UInt8) : Option String := String.fromUTF8? ⟨bs.toArray⟩

/-- A character under way: how many bytes are to follow, the bits read so far, and the
range of the next byte. -/
structure Pending where
  follow : Nat
  bits : Nat
  lo : UInt8
  hi : UInt8

/-- The character that a first byte begins; `none` if no character begins with it. -/
def lead? (b : UInt8) : Option Pending :=
  if b < 0x80 then some ⟨0, b.toNat, 0x80, 0xbf⟩
  else if b < 0xc2 then none
  else if b < 0xe0 then some ⟨1, b.toNat - 0xc0, 0x80, 0xbf⟩
  else if b = 0xe0 then some ⟨2, 0, 0xa0, 0xbf⟩
  else if b = 0xed then some ⟨2, 0xd, 0x80, 0x9f⟩
  else if b < 0xf0 then some ⟨2, b.toNat - 0xe0, 0x80, 0xbf⟩
  else if b = 0xf0 then some ⟨3, 0, 0x90, 0xbf⟩
  else if b < 0xf4 then some ⟨3, b.toNat - 0xf0, 0x80, 0xbf⟩
  else if b = 0xf4 then some ⟨3, 4, 0x80, 0x8f⟩
  else none

/-- The replacement character. -/
def replacement : Char := '\uFFFD'

/-- Reads on from a position between characters (`none`) or inside one. The characters
read so far come last first. -/
def decodeFrom : Option Pending → List Char → List UInt8 → List Char
  | none, acc, [] => acc.reverse
  | some _, acc, [] => (replacement :: acc).reverse
  | none, acc, b :: bs =>
    match lead? b with
    | none => decodeFrom none (replacement :: acc) bs
    | some ⟨0, bits, _, _⟩ => decodeFrom none (Char.ofNat bits :: acc) bs
    | some ⟨n + 1, bits, lo, hi⟩ => decodeFrom (some ⟨n + 1, bits, lo, hi⟩) acc bs
  | some p, acc, b :: bs =>
    if p.lo ≤ b ∧ b ≤ p.hi then
      let bits := p.bits * 64 + (b.toNat - 0x80)
      if p.follow ≤ 1 then decodeFrom none (Char.ofNat bits :: acc) bs
      else decodeFrom (some ⟨p.follow - 1, bits, 0x80, 0xbf⟩) acc bs
    else
      match lead? b with
      | none => decodeFrom none (replacement :: replacement :: acc) bs
      | some ⟨0, bits, _, _⟩ => decodeFrom none (Char.ofNat bits :: replacement :: acc) bs
      | some ⟨n + 1, bits, lo, hi⟩ =>
        decodeFrom (some ⟨n + 1, bits, lo, hi⟩) (replacement :: acc) bs

/-- The text of any bytes, with U+FFFD for what is no character. -/
def decodeLossy (bs : List UInt8) : String := String.ofList (decodeFrom none [] bs)

/-- The length of the whole characters at the front, of which `whole` bytes are known; `read`
bytes have been read. -/
def wholeFrom : Option Pending → (whole read : Nat) → List UInt8 → Nat
  | _, whole, _, [] => whole
  | none, whole, read, b :: bs =>
    match lead? b with
    | none => whole
    | some ⟨0, _, _, _⟩ => wholeFrom none (read + 1) (read + 1) bs
    | some p => wholeFrom (some p) whole (read + 1) bs
  | some p, whole, read, b :: bs =>
    if p.lo ≤ b ∧ b ≤ p.hi then
      if p.follow ≤ 1 then wholeFrom none (read + 1) (read + 1) bs
      else wholeFrom (some ⟨p.follow - 1, p.bits, 0x80, 0xbf⟩) whole (read + 1) bs
    else whole

/-- How many bytes at the front are whole characters. -/
def wholeLength (bs : List UInt8) : Nat := wholeFrom none 0 0 bs

end Microblog.Text.Utf8
