import Microblog.Digest.Row
import Microblog.Bytes.Words

/-!
# BLAKE2b

The unkeyed digest of a message, of any length up to 64 bytes: the message is
taken in blocks of 128 bytes, the last one filled up with zeros, and twelve
rounds mix each block into eight chaining words.
-/

namespace Microblog.Digest.Blake2b

open Microblog.Bytes

/-- The initial words. -/
def iv : List UInt64 := [
  0x6a09e667f3bcc908, 0xbb67ae8584caa73b, 0x3c6ef372fe94f82b, 0xa54ff53a5f1d36f1,
  0x510e527fade682d1, 0x9b05688c2b3e6c1f, 0x1f83d9abfb41bd6b, 0x5be0cd19137e2179]

/-- The order of the message words in each round. -/
def orders : List (List Nat) := [
  [0, 1, 2, 3, 4, 5, 6, 7, 8, 9, 10, 11, 12, 13, 14, 15],
  [14, 10, 4, 8, 9, 15, 13, 6, 1, 12, 0, 2, 11, 7, 5, 3],
  [11, 8, 12, 0, 5, 2, 15, 13, 10, 14, 3, 6, 7, 1, 9, 4],
  [7, 9, 3, 1, 13, 12, 11, 14, 2, 6, 5, 10, 4, 0, 15, 8],
  [9, 0, 5, 7, 2, 4, 10, 15, 14, 1, 11, 12, 6, 8, 3, 13],
  [2, 12, 6, 10, 0, 11, 8, 3, 4, 13, 7, 5, 15, 14, 1, 9],
  [12, 5, 1, 15, 14, 13, 4, 10, 0, 7, 6, 3, 9, 2, 8, 11],
  [13, 11, 7, 14, 12, 1, 3, 9, 5, 0, 15, 4, 8, 6, 2, 10],
  [6, 15, 14, 9, 11, 3, 0, 8, 12, 2, 13, 7, 1, 4, 10, 5],
  [10, 2, 8, 4, 7, 6, 1, 5, 15, 11, 9, 14, 3, 12, 13, 0],
  [0, 1, 2, 3, 4, 5, 6, 7, 8, 9, 10, 11, 12, 13, 14, 15],
  [14, 10, 4, 8, 9, 15, 13, 6, 1, 12, 0, 2, 11, 7, 5, 3]]

/-- One step on four words, with two words of the message. -/
def mix (a b c d x y : UInt64) : Quad :=
  let a := a + b + x
  let d := rotr64 (d ^^^ a) 32
  let c := c + d
  let b := rotr64 (b ^^^ c) 24
  let a := a + b + y
  let d := rotr64 (d ^^^ a) 16
  let c := c + d
  let b := rotr64 (b ^^^ c) 63
  ⟨a, b, c, d⟩

/-- One round: four steps down the columns of the row and four along its diagonals. -/
def round (message : Row) (v : Row) (order : List Nat) : Row :=
  let m (i : Nat) : UInt64 := message.get (order.getD i 0)
  let p := mix v.w0 v.w4 v.w8 v.w12 (m 0) (m 1)
  let q := mix v.w1 v.w5 v.w9 v.w13 (m 2) (m 3)
  let s := mix v.w2 v.w6 v.w10 v.w14 (m 4) (m 5)
  let t := mix v.w3 v.w7 v.w11 v.w15 (m 6) (m 7)
  let e := mix p.a q.b s.c t.d (m 8) (m 9)
  let f := mix q.a s.b t.c p.d (m 10) (m 11)
  let g := mix s.a t.b p.c q.d (m 12) (m 13)
  let h := mix t.a p.b q.c s.d (m 14) (m 15)
  ⟨e.a, f.a, g.a, h.a, h.b, e.b, f.b, g.b, g.c, h.c, e.c, f.c, f.d, g.d, h.d, e.d⟩

/-- The chaining words after a block; `count` bytes are behind it, and `last` says whether
it is the last one. -/
def compress (h : List UInt64) (block : List UInt8) (count : Nat) (last : Bool) : List UInt64 :=
  let full := block ++ List.replicate (128 - block.length) 0
  let words := (blocks 8 full).map fun bs => UInt64.ofNat (ofLittleEndian bs)
  let flags : List UInt64 :=
    [UInt64.ofNat count, UInt64.ofNat (count / 0x10000000000000000), if last then 0xffffffffffffffff else 0, 0]
  let tail := List.zipWith (· ^^^ ·) iv ([0, 0, 0, 0] ++ flags)
  let v := (orders.foldl (round (Row.ofList words)) (Row.ofList (h ++ tail))).toList
  List.zipWith (· ^^^ ·) h (List.zipWith (· ^^^ ·) (v.take 8) (v.drop 8))

/-- Takes in the remaining blocks after `count` bytes. -/
def absorb (h : List UInt64) (count : Nat) : List (List UInt8) → List UInt64
  | [] => h
  | [b] => compress h b (count + b.length) true
  | b :: bs => absorb (compress h b (count + 128) false) (count + 128) bs

/-- The first `size` bytes of the digest of that size. -/
def digest (size : Nat) (message : List UInt8) : List UInt8 :=
  let start := (iv.head?.map (· ^^^ (0x01010000 ^^^ UInt64.ofNat size))).toList ++ iv.tail
  let bs := if message.isEmpty then [[]] else blocks 128 message
  ((absorb start 0 bs).flatMap fun w => littleEndian 8 w.toNat).take size

end Microblog.Digest.Blake2b
