/-!
# Words and blocks

Numbers as bytes in either order, and the division of a message into blocks of
one length.
-/

namespace Microblog.Bytes

/-- The last `k` bytes of a number, least significant first. -/
def littleEndian : Nat → Nat → List UInt8
  | 0, _ => []
  | k + 1, n => UInt8.ofNat n :: littleEndian k (n / 256)

/-- The last `k` bytes of a number, most significant first. -/
def bigEndian (k n : Nat) : List UInt8 := (littleEndian k n).reverse

/-- The number whose bytes come least significant first. -/
def ofLittleEndian : List UInt8 → Nat
  | [] => 0
  | b :: bs => b.toNat + 256 * ofLittleEndian bs

/-- The number whose bytes come most significant first. -/
def ofBigEndian (bs : List UInt8) : Nat := ofLittleEndian bs.reverse

@[simp] theorem length_littleEndian (k n : Nat) : (littleEndian k n).length = k := by
  induction k generalizing n with
  | zero => rfl
  | succ k ih => simp [littleEndian, ih]

@[simp] theorem length_bigEndian (k n : Nat) : (bigEndian k n).length = k := by
  simp [bigEndian]

/-- At most `fuel` blocks of `k` elements each; the last one may be shorter. -/
def blocksUpTo {α : Type} (k : Nat) : Nat → List α → List (List α)
  | 0, _ => []
  | _ + 1, [] => []
  | fuel + 1, a :: l => (a :: l).take k :: blocksUpTo k fuel ((a :: l).drop k)

/-- The list cut into blocks of `k` elements. -/
def blocks {α : Type} (k : Nat) (l : List α) : List (List α) := blocksUpTo k l.length l

/-- Two lists combined by exclusive or, as far as the shorter one goes. -/
def xorBytes : List UInt8 → List UInt8 → List UInt8
  | a :: as, b :: bs => (a ^^^ b) :: xorBytes as bs
  | _, _ => []

end Microblog.Bytes
