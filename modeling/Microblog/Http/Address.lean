import Microblog.Bytes.Hex
import Microblog.Text.Integer

/-!
# Network addresses

A socket address is an IPv4 address in four decimal parts without leading
zeros, or an IPv6 address in brackets, with a port behind it. An IPv6 address is
shown with its first longest row of two or more zero groups left out.
-/

namespace Microblog.Http

inductive Ip where
  /-- Four numbers below 256. -/
  | v4 (parts : List Nat)
  /-- Eight numbers below 65536. -/
  | v6 (groups : List Nat)
  deriving DecidableEq, Repr

structure SocketAddress where
  ip : Ip
  port : Nat
  deriving DecidableEq, Repr

namespace Address

/-- Reads something at the front of a text. -/
abbrev Scan (α : Type) := List Char → Option (α × List Char)

/-- A row of decimal digits with a value of at most `limit`. -/
def decimalNumber (limit : Nat) : Scan Nat := fun cs =>
  let ds := cs.takeWhile Char.isDigit
  match Text.natural? ds with
  | some n => if n ≤ limit then some (n, cs.drop ds.length) else none
  | none => none

/-- A part of an IPv4 address. -/
def part : Scan Nat := fun cs =>
  let ds := cs.takeWhile Char.isDigit
  if 3 < ds.length ∨ (ds.head? = some '0' ∧ 1 < ds.length) then none else decimalNumber 255 cs

/-- A given character. -/
def char (c : Char) : Scan Unit
  | [] => none
  | d :: cs => if d = c then some ((), cs) else none

/-- Four parts with points between them. -/
def ipv4 : Scan (List Nat) := fun cs => do
  let (a, cs) ← part cs
  let ((), cs) ← char '.' cs
  let (b, cs) ← part cs
  let ((), cs) ← char '.' cs
  let (c, cs) ← part cs
  let ((), cs) ← char '.' cs
  let (d, cs) ← part cs
  return ([a, b, c, d], cs)

/-- A group of an IPv6 address: one to four hexadecimal digits. -/
def group : Scan Nat := fun cs =>
  let ds := cs.takeWhile fun c => (Bytes.hexValue? c).isSome
  if ds = [] ∨ 4 < ds.length then none
  else some (ds.foldl (fun n c => n * 16 + (Bytes.hexValue? c).getD 0) 0, cs.drop ds.length)

/-- Passes over the colon in front of every group but the first one. -/
def separated {α : Type} (first : Bool) (scan : Scan α) : Scan α := fun cs =>
  if first then scan cs else (char ':' cs).bind fun ((), cs) => scan cs

/-- Up to `room` groups, an IPv4 address at the end taking the place of two; and whether there
was one. -/
def groups : Nat → Bool → List Char → List Nat × Bool × List Char
  | 0, _, cs => ([], false, cs)
  | room + 1, first, cs =>
    let embedded := if room = 0 then none else separated first ipv4 cs
    match embedded with
    | some ([a, b, c, d], cs) => ([a * 256 + b, c * 256 + d], true, cs)
    | _ =>
      match separated first group cs with
      | none => ([], false, cs)
      | some (g, cs) =>
        let (gs, embedded, cs) := groups room false cs
        (g :: gs, embedded, cs)

/-- Eight groups, two colons standing for one or more zero groups. -/
def ipv6 : Scan (List Nat) := fun cs =>
  let (head, embedded, cs) := groups 8 true cs
  if head.length = 8 then some (head, cs)
  else if embedded then none
  else do
    let ((), cs) ← char ':' cs
    let ((), cs) ← char ':' cs
    let (tail, _, cs) := groups (7 - head.length) true cs
    return (head ++ List.replicate (8 - head.length - tail.length) 0 ++ tail, cs)

/-- A colon and a port. -/
def port : Scan Nat := fun cs => (char ':' cs).bind fun ((), cs) => decimalNumber 65535 cs

/-- An IPv6 address in brackets, with or without the number of its zone. -/
def bracketed : Scan (List Nat) := fun cs => do
  let ((), cs) ← char '[' cs
  let (gs, cs) ← ipv6 cs
  let cs ← match char '%' cs with
    | none => some cs
    | some ((), cs) => (decimalNumber 0xffffffff cs).map (·.2)
  let ((), cs) ← char ']' cs
  return (gs, cs)

end Address

namespace SocketAddress

open Address

/-- The address that a whole text writes. -/
def parse? (s : String) : Option SocketAddress :=
  let cs := s.toList
  let whole (ip : Ip) (cs : List Char) : Option SocketAddress :=
    match Address.port cs with
    | some (p, []) => some ⟨ip, p⟩
    | _ => none
  match ipv4 cs with
  | some (parts, cs) => whole (.v4 parts) cs
  | none => (bracketed cs).bind fun (gs, cs) => whole (.v6 gs) cs

end SocketAddress

namespace Ip

/-- Texts with a separator between them. -/
def join (separator : Char) : List (List Char) → List Char
  | [] => []
  | [w] => w
  | w :: ws => w ++ separator :: join separator ws

def decimals (parts : List Nat) : List Char := join '.' (parts.map Text.decimal)

/-- The number of zeros in front. -/
def zerosAhead (gs : List Nat) : Nat := (gs.takeWhile (· == 0)).length

/-- The place and the length of the first longest row of zeros. -/
def longestZeros : Nat → List Nat → Nat × Nat
  | _, [] => (0, 0)
  | i, g :: gs =>
    let here := zerosAhead (g :: gs)
    let later := longestZeros (i + 1) gs
    if later.2 ≤ here then (i, here) else later

def hexGroups (gs : List Nat) : List Char := join ':' (gs.map Bytes.hexOfNat)

/-- The usual text of an address. -/
def text : Ip → String
  | v4 parts => String.ofList (decimals parts)
  | v6 [0, 0, 0, 0, 0, 0xffff, a, b] =>
    "::ffff:" ++ String.ofList (decimals [a / 256, a % 256, b / 256, b % 256])
  | v6 gs =>
    let (start, count) := longestZeros 0 gs
    String.ofList <|
      if 1 < count then
        hexGroups (gs.take start) ++ ':' :: ':' :: hexGroups (gs.drop (start + count))
      else hexGroups gs

end Ip

end Microblog.Http
