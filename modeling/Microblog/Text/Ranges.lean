/-!
# Ranges of code points

A property of characters is given as the list of the code point ranges that
have it, ends included, in increasing order.
-/

namespace Microblog.Text

/-- Whether a code point lies in one of the ranges. -/
def inRanges (n : Nat) : List (Nat × Nat) → Bool
  | [] => false
  | (lo, hi) :: rs => (lo ≤ n && n ≤ hi) || inRanges n rs

theorem inRanges_iff {n : Nat} {rs : List (Nat × Nat)} :
    inRanges n rs = true ↔ ∃ r ∈ rs, r.1 ≤ n ∧ n ≤ r.2 := by
  induction rs with
  | nil => simp [inRanges]
  | cons r rs ih => obtain ⟨lo, hi⟩ := r; simp [inRanges, ih]

end Microblog.Text
