import Microblog.Digest.Blake2b

/-!
# Argon2

A digest that takes memory and time to compute. The memory is a number of
blocks of a kibibyte in `lanes` lanes. Each pass over it makes every block anew
from the one before it in its lane and from another one, which is chosen by
the content of the memory or, where the variant asks for it, by the position
alone. The digest is taken from the last blocks of the lanes.
-/

namespace Microblog.Digest.Argon2

open Microblog.Bytes

/-- How the second block is chosen: by content, by position, or by position in the first
half of the first pass and by content later. -/
inductive Variant where
  | d
  | i
  | id
  deriving DecidableEq, Repr

/-- The number of a variant. -/
def Variant.code : Variant → Nat
  | d => 0
  | i => 1
  | id => 2

/-- In the first version later passes overwrite a block, in the second they combine the new
block with the old one. -/
inductive Version where
  | v10
  | v13
  deriving DecidableEq, Repr

def Version.code : Version → Nat
  | v10 => 16
  | v13 => 19

/-- Memory in kibibytes, passes, lanes, and the length of the digest. -/
structure Cost where
  memory : Nat
  passes : Nat
  lanes : Nat
  size : Nat
  deriving DecidableEq, Repr

/-- A kibibyte: eight rows of sixteen words. -/
structure Block where
  r0 : Row
  r1 : Row
  r2 : Row
  r3 : Row
  r4 : Row
  r5 : Row
  r6 : Row
  r7 : Row
  deriving Inhabited

namespace Block

def zero : Block := ⟨.zero, .zero, .zero, .zero, .zero, .zero, .zero, .zero⟩

def xor (x y : Block) : Block :=
  ⟨x.r0.xor y.r0, x.r1.xor y.r1, x.r2.xor y.r2, x.r3.xor y.r3, x.r4.xor y.r4, x.r5.xor y.r5,
   x.r6.xor y.r6, x.r7.xor y.r7⟩

/-- The block in which pairs of words change their row for their column. -/
def transpose (x : Block) : Block := ⟨
    ⟨x.r0.w0, x.r0.w1, x.r1.w0, x.r1.w1, x.r2.w0, x.r2.w1, x.r3.w0, x.r3.w1, x.r4.w0, x.r4.w1,
     x.r5.w0, x.r5.w1, x.r6.w0, x.r6.w1, x.r7.w0, x.r7.w1⟩,
    ⟨x.r0.w2, x.r0.w3, x.r1.w2, x.r1.w3, x.r2.w2, x.r2.w3, x.r3.w2, x.r3.w3, x.r4.w2, x.r4.w3,
     x.r5.w2, x.r5.w3, x.r6.w2, x.r6.w3, x.r7.w2, x.r7.w3⟩,
    ⟨x.r0.w4, x.r0.w5, x.r1.w4, x.r1.w5, x.r2.w4, x.r2.w5, x.r3.w4, x.r3.w5, x.r4.w4, x.r4.w5,
     x.r5.w4, x.r5.w5, x.r6.w4, x.r6.w5, x.r7.w4, x.r7.w5⟩,
    ⟨x.r0.w6, x.r0.w7, x.r1.w6, x.r1.w7, x.r2.w6, x.r2.w7, x.r3.w6, x.r3.w7, x.r4.w6, x.r4.w7,
     x.r5.w6, x.r5.w7, x.r6.w6, x.r6.w7, x.r7.w6, x.r7.w7⟩,
    ⟨x.r0.w8, x.r0.w9, x.r1.w8, x.r1.w9, x.r2.w8, x.r2.w9, x.r3.w8, x.r3.w9, x.r4.w8, x.r4.w9,
     x.r5.w8, x.r5.w9, x.r6.w8, x.r6.w9, x.r7.w8, x.r7.w9⟩,
    ⟨x.r0.w10, x.r0.w11, x.r1.w10, x.r1.w11, x.r2.w10, x.r2.w11, x.r3.w10, x.r3.w11, x.r4.w10,
     x.r4.w11, x.r5.w10, x.r5.w11, x.r6.w10, x.r6.w11, x.r7.w10, x.r7.w11⟩,
    ⟨x.r0.w12, x.r0.w13, x.r1.w12, x.r1.w13, x.r2.w12, x.r2.w13, x.r3.w12, x.r3.w13, x.r4.w12,
     x.r4.w13, x.r5.w12, x.r5.w13, x.r6.w12, x.r6.w13, x.r7.w12, x.r7.w13⟩,
    ⟨x.r0.w14, x.r0.w15, x.r1.w14, x.r1.w15, x.r2.w14, x.r2.w15, x.r3.w14, x.r3.w15, x.r4.w14,
     x.r4.w15, x.r5.w14, x.r5.w15, x.r6.w14, x.r6.w15, x.r7.w14, x.r7.w15⟩⟩

def toList (x : Block) : List UInt64 :=
  [x.r0, x.r1, x.r2, x.r3, x.r4, x.r5, x.r6, x.r7].flatMap Row.toList

def ofList (ws : List UInt64) : Block :=
  match (blocks 16 ws).map Row.ofList with
  | [r0, r1, r2, r3, r4, r5, r6, r7] => ⟨r0, r1, r2, r3, r4, r5, r6, r7⟩
  | _ => zero

def ofBytes (bs : List UInt8) : Block :=
  ofList ((blocks 8 bs).map fun b => UInt64.ofNat (ofLittleEndian b))

def toBytes (x : Block) : List UInt8 := x.toList.flatMap fun w => littleEndian 8 w.toNat

/-- The word at an index below 128. -/
def get (x : Block) (i : Nat) : UInt64 :=
  let row : Row :=
    match i / 16 with
    | 0 => x.r0
    | 1 => x.r1
    | 2 => x.r2
    | 3 => x.r3
    | 4 => x.r4
    | 5 => x.r5
    | 6 => x.r6
    | _ => x.r7
  row.get (i % 16)

end Block

/-- The sum of two words and twice the product of their lower halves. -/
@[inline] def addMul (a b : UInt64) : UInt64 :=
  a + b + 2 * ((a &&& 0xffffffff) * (b &&& 0xffffffff))

/-- One step on four words. -/
@[inline] def mix (a b c d : UInt64) : Quad :=
  let a := addMul a b
  let d := rotr64 (d ^^^ a) 32
  let c := addMul c d
  let b := rotr64 (b ^^^ c) 24
  let a := addMul a b
  let d := rotr64 (d ^^^ a) 16
  let c := addMul c d
  let b := rotr64 (b ^^^ c) 63
  ⟨a, b, c, d⟩

/-- The mixing of sixteen words. -/
def permute (v : Row) : Row :=
  let p := mix v.w0 v.w4 v.w8 v.w12
  let q := mix v.w1 v.w5 v.w9 v.w13
  let s := mix v.w2 v.w6 v.w10 v.w14
  let t := mix v.w3 v.w7 v.w11 v.w15
  let e := mix p.a q.b s.c t.d
  let f := mix q.a s.b t.c p.d
  let g := mix s.a t.b p.c q.d
  let h := mix t.a p.b q.c s.d
  ⟨e.a, f.a, g.a, h.a, h.b, e.b, f.b, g.b, g.c, h.c, e.c, f.c, f.d, g.d, h.d, e.d⟩

def permuteRows (x : Block) : Block :=
  ⟨permute x.r0, permute x.r1, permute x.r2, permute x.r3, permute x.r4, permute x.r5,
   permute x.r6, permute x.r7⟩

/-- The block made of two others: their sum is mixed along the rows, then along the columns,
and added to itself. -/
def compress (x y : Block) : Block :=
  let r := x.xor y
  r.xor (permuteRows (permuteRows r).transpose).transpose

/-! ## Variable-length digests -/

/-- The bytes after a full digest `v`: half of each further digest but the last. -/
def longTail : Nat → Nat → List UInt8 → List UInt8
  | 0, _, _ => []
  | fuel + 1, size, v =>
    if size ≤ 64 then Blake2b.digest size v
    else
      let next := Blake2b.digest 64 v
      next.take 32 ++ longTail fuel (size - 32) next

/-- A digest of any length. -/
def longDigest (size : Nat) (message : List UInt8) : List UInt8 :=
  let input := littleEndian 4 size ++ message
  if size ≤ 64 then Blake2b.digest size input
  else
    let v := Blake2b.digest 64 input
    v.take 32 ++ longTail size (size - 32) v

/-! ## Filling the memory -/

/-- A text with its length in front. -/
def sized (bs : List UInt8) : List UInt8 := littleEndian 4 bs.length ++ bs

/-- The digest of all the parameters. -/
def seed (variant : Variant) (version : Version) (cost : Cost) (password salt data : List UInt8) :
    List UInt8 :=
  let numbers := [cost.lanes, cost.size, cost.memory, cost.passes, version.code, variant.code]
  Blake2b.digest 64
    (numbers.flatMap (littleEndian 4) ++ sized password ++ sized salt ++ sized [] ++ sized data)

/-- The division of the memory: a lane has four segments. -/
structure Layout where
  variant : Variant
  version : Version
  passes : Nat
  lanes : Nat
  segment : Nat

namespace Layout

def lane (l : Layout) : Nat := 4 * l.segment

def total (l : Layout) : Nat := l.lanes * l.lane

def of (variant : Variant) (version : Version) (cost : Cost) : Layout :=
  ⟨variant, version, cost.passes, cost.lanes, cost.memory / (4 * cost.lanes)⟩

end Layout

/-- A segment: its pass, its slice of the lanes and its lane. -/
structure Place where
  pass : Nat
  slice : Nat
  lane : Nat

/-- Whether the blocks of a segment are chosen by position. -/
def Layout.byPosition (l : Layout) (p : Place) : Bool :=
  match l.variant with
  | .d => false
  | .i => true
  | .id => p.pass == 0 && p.slice < 2

/-- The `count`-th block of positions of a segment. -/
def positions (l : Layout) (p : Place) (count : Nat) : Block :=
  let head : List UInt64 :=
    [p.pass, p.lane, p.slice, l.total, l.passes, l.variant.code, count].map UInt64.ofNat
  let input := Block.ofList (head ++ List.replicate (128 - head.length) 0)
  compress .zero (compress .zero input)

/-- The index of the second block for the block at `index` of a segment, from a random
word. -/
def reference (l : Layout) (p : Place) (index : Nat) (random : UInt64) : Nat :=
  let lane := if p.pass = 0 ∧ p.slice = 0 then p.lane else (random >>> 32).toNat % l.lanes
  let before := if p.pass = 0 then p.slice * l.segment else l.lane - l.segment
  let area :=
    if lane = p.lane then before + index - 1
    else before - (if index = 0 then 1 else 0)
  let x := (random &&& 0xffffffff).toNat
  let back := area * (x * x / 0x100000000) / 0x100000000
  let start := if p.pass = 0 ∨ p.slice = 3 then 0 else (p.slice + 1) * l.segment
  lane * l.lane + (start + (area - 1 - back)) % l.lane

/-- Fills `n` more blocks of a segment, from `index` on. `addresses` is the current block of
positions and `count` its number. -/
def fillFrom (l : Layout) (p : Place) :
    Nat → Nat → Block → Nat → Array Block → Array Block
  | 0, _, _, _, memory => memory
  | n + 1, index, addresses, count, memory =>
    let current := p.lane * l.lane + p.slice * l.segment + index
    let previous :=
      if p.slice = 0 ∧ index = 0 then current + l.lane - 1 else current - 1
    let byPosition := l.byPosition p
    let renew := byPosition && index % 128 == 0
    let count := if renew then count + 1 else count
    let addresses := if renew then positions l p count else addresses
    let last := memory.getD previous .zero
    let random := if byPosition then addresses.get (index % 128) else last.r0.w0
    let made := compress last (memory.getD (reference l p index random) .zero)
    let made :=
      if p.pass = 0 ∨ l.version = .v10 then made else made.xor (memory.getD current .zero)
    fillFrom l p n (index + 1) addresses count (memory.setIfInBounds current made)

/-- Fills one segment; the first two blocks of a lane are given. -/
def fillSegment (l : Layout) (memory : Array Block) (p : Place) : Array Block :=
  if p.pass = 0 ∧ p.slice = 0 then
    let addresses := if l.byPosition p then positions l p 1 else .zero
    fillFrom l p (l.segment - 2) 2 addresses 1 memory
  else fillFrom l p l.segment 0 .zero 0 memory

/-- All segments in the order in which they are filled. -/
def Layout.places (l : Layout) : List Place :=
  (List.range l.passes).flatMap fun pass =>
    (List.range 4).flatMap fun slice =>
      (List.range l.lanes).map fun lane => ⟨pass, slice, lane⟩

/-- The memory before the first pass. -/
def firstBlocks (l : Layout) (seed : List UInt8) : Array Block :=
  (List.range l.lanes).foldl (fun memory lane =>
    [0, 1].foldl (fun memory (i : Nat) =>
      let bytes := longDigest 1024 (seed ++ littleEndian 4 i ++ littleEndian 4 lane)
      memory.setIfInBounds (lane * l.lane + i) (.ofBytes bytes)) memory)
    (Array.replicate l.total .zero)

/-- The digest of a password under a salt and associated data. -/
def digest (variant : Variant) (version : Version) (cost : Cost)
    (password salt data : List UInt8) : List UInt8 :=
  let l := Layout.of variant version cost
  let start := firstBlocks l (seed variant version cost password salt data)
  let memory := l.places.foldl (fillSegment l) start
  let last := (List.range l.lanes).foldl
    (fun x lane => x.xor (memory.getD (lane * l.lane + l.lane - 1) .zero)) Block.zero
  longDigest cost.size last.toBytes

end Microblog.Digest.Argon2
