/-!
# Patterns

A pattern is a row of pieces, each a fixed character or one or more characters
of a class. A text matches if it can be cut into stretches that fit the pieces
one after the other.
-/

namespace Microblog.Text

inductive Piece where
  | char (c : Char)
  | some (p : Char → Bool)

/-- Whether a whole text matches. -/
def fits : List Piece → List Char → Bool
  | [], cs => cs.isEmpty
  | _ :: _, [] => false
  | .char d :: ps, c :: cs => c == d && fits ps cs
  | .some p :: ps, c :: cs => p c && (fits ps cs || fits (.some p :: ps) cs)

/-- The stretches that pieces allow. -/
inductive Fits : List Piece → List Char → Prop where
  | nil : Fits [] []
  | char {ps : List Piece} {cs : List Char} (c : Char) : Fits ps cs → Fits (.char c :: ps) (c :: cs)
  | some {ps : List Piece} {cs w : List Char} {p : Char → Bool} :
    w ≠ [] → (∀ c ∈ w, p c = true) → Fits ps cs → Fits (.some p :: ps) (w ++ cs)

theorem fits_of_Fits {ps : List Piece} {cs : List Char} (h : Fits ps cs) : fits ps cs = true := by
  induction h with
  | nil => rfl
  | char c _ ih => simp [fits, ih]
  | @some ps cs w p hw hp _ ih =>
    induction w with
    | nil => exact absurd rfl hw
    | cons c w ihw =>
      have hc : p c = true := hp c (by simp)
      rcases w with _ | ⟨d, w⟩
      · simp [fits, hc, ih]
      · have := ihw (by simp) (fun x hx => hp x (List.mem_cons_of_mem _ hx))
        simp only [List.cons_append] at this ⊢
        rw [fits, this]
        simp [hc]

theorem Fits_of_fits {ps : List Piece} {cs : List Char} (h : fits ps cs = true) : Fits ps cs := by
  fun_induction fits ps cs with
  | case1 cs => rw [List.isEmpty_iff] at h; subst h; exact .nil
  | case2 => simp at h
  | case3 d ps c cs ih =>
    simp only [Bool.and_eq_true, beq_iff_eq] at h
    obtain ⟨rfl, h⟩ := h
    exact .char c (ih h)
  | case4 p ps c cs ih₁ ih₂ =>
    simp only [Bool.and_eq_true, Bool.or_eq_true] at h
    obtain ⟨hc, h⟩ := h
    rcases h with h | h
    · have := Fits.some (w := [c]) (p := p) (by simp) (by simpa using hc) (ih₁ h)
      simpa using this
    · cases ih₂ h with
      | @some _ cs' w _ hw hp hr =>
        have := Fits.some (w := c :: w) (p := p) (by simp) (by simpa [hc] using hp) hr
        simpa using this

/-- The matcher decides the relation. -/
theorem fits_iff {ps : List Piece} {cs : List Char} : fits ps cs = true ↔ Fits ps cs :=
  ⟨Fits_of_fits, fits_of_Fits⟩

end Microblog.Text
