/-!
# Splitting

`splitOn p` cuts a list at every element that satisfies `p`; `cutAt p` cuts it
at the first such element only. Joining the parts with the separators between
them gives the list back.
-/

namespace Microblog.Text

/-- The stretches between the elements that satisfy `p`; there is always at
least one. -/
def splitOn {α : Type} (p : α → Bool) : List α → List (List α)
  | [] => [[]]
  | a :: l =>
    if p a then [] :: splitOn p l
    else
      match splitOn p l with
      | [] => [[a]]
      | w :: ws => (a :: w) :: ws

/-- What stands before and after the first element that satisfies `p`. -/
def cutAt {α : Type} (p : α → Bool) : List α → Option (List α × List α)
  | [] => none
  | a :: l => if p a then some ([], l) else (cutAt p l).map fun (w, r) => (a :: w, r)

/-- What stands before and after the last element that satisfies `p`. -/
def cutAtLast {α : Type} (p : α → Bool) (l : List α) : Option (List α × List α) :=
  (cutAt p l.reverse).map fun (w, r) => (r.reverse, w.reverse)

theorem splitOn_ne_nil {α : Type} (p : α → Bool) (l : List α) : splitOn p l ≠ [] := by
  cases l with
  | nil => simp [splitOn]
  | cons a l =>
    simp only [splitOn]
    split
    · simp
    · split <;> simp

/-- A separator ends up in no part. -/
theorem not_of_mem_splitOn {α : Type} {p : α → Bool} {l w : List α} (hw : w ∈ splitOn p l)
    {a : α} (ha : a ∈ w) : p a = false := by
  induction l generalizing w with
  | nil => simp [splitOn] at hw; subst hw; cases ha
  | cons b l ih =>
    simp only [splitOn] at hw
    split at hw
    · rcases List.mem_cons.1 hw with rfl | hw
      · cases ha
      · exact ih hw ha
    · rename_i hb
      split at hw
      · rename_i h; exact absurd h (splitOn_ne_nil p l)
      · rename_i v vs h
        rcases List.mem_cons.1 hw with rfl | hw
        · rcases List.mem_cons.1 ha with rfl | ha
          · simpa using hb
          · exact ih (h ▸ List.mem_cons_self) ha
        · exact ih (h ▸ List.mem_cons_of_mem _ hw) ha

theorem eq_of_cutAt {α : Type} {p : α → Bool} {l w r : List α} (h : cutAt p l = some (w, r)) :
    ∃ a, p a = true ∧ l = w ++ a :: r ∧ ∀ b ∈ w, p b = false := by
  induction l generalizing w with
  | nil => simp [cutAt] at h
  | cons a l ih =>
    simp only [cutAt] at h
    split at h
    · rename_i ha
      cases h
      exact ⟨a, ha, rfl, by simp⟩
    · rename_i ha
      obtain ⟨⟨v, s⟩, hv, heq⟩ := Option.map_eq_some_iff.1 h
      cases heq
      obtain ⟨b, hb, rfl, hw⟩ := ih hv
      refine ⟨b, hb, rfl, ?_⟩
      intro c hc
      rcases List.mem_cons.1 hc with rfl | hc
      · simpa using ha
      · exact hw c hc

theorem cutAt_append {α : Type} {p : α → Bool} {w r : List α} {a : α} (ha : p a = true)
    (hw : ∀ b ∈ w, p b = false) : cutAt p (w ++ a :: r) = some (w, r) := by
  induction w with
  | nil => simp [cutAt, ha]
  | cons b w ih =>
    have hb := hw b (by simp)
    simp [cutAt, hb, ih (fun c hc => hw c (List.mem_cons_of_mem _ hc))]

theorem splitOn_eq_splitOnP {α : Type} (p : α → Bool) (l : List α) :
    splitOn p l = l.splitOnP p := by
  induction l with
  | nil => rfl
  | cons a l ih =>
    rw [List.splitOnP_cons_eq_if_modifyHead, splitOn, ← ih]
    split
    · rfl
    · split
      · rename_i h
        exact absurd h (splitOn_ne_nil p l)
      · rename_i w ws h
        rw [h, List.modifyHead_cons]

/-- A list is cut into some parts exactly if it is those parts, which do not hold the separator,
with the separator between them. -/
theorem splitOn_eq_iff {α : Type} [BEq α] [LawfulBEq α] {c : α} {l : List α} {ws : List (List α)} :
    splitOn (· == c) l = ws ↔ ws ≠ [] ∧ (∀ w ∈ ws, c ∉ w) ∧ [c].intercalate ws = l := by
  constructor
  · rintro rfl
    refine ⟨splitOn_ne_nil _ l, fun w hw hc => ?_, ?_⟩
    · exact absurd (not_of_mem_splitOn hw hc) (by simp)
    · rw [splitOn_eq_splitOnP]
      exact List.intercalate_splitOn c
  · rintro ⟨hne, hnot, rfl⟩
    rw [splitOn_eq_splitOnP]
    exact List.splitOn_intercalate c hnot hne

theorem eq_of_cutAtLast {α : Type} {p : α → Bool} {l w r : List α}
    (h : cutAtLast p l = some (w, r)) :
    ∃ a, p a = true ∧ l = w ++ a :: r ∧ ∀ b ∈ r, p b = false := by
  obtain ⟨⟨u, v⟩, hcut, heq⟩ := Option.map_eq_some_iff.1 h
  cases heq
  obtain ⟨a, ha, hl, hu⟩ := eq_of_cutAt hcut
  refine ⟨a, ha, ?_, fun b hb => hu b (List.mem_reverse.1 hb)⟩
  rw [← List.reverse_reverse l, hl]
  simp

theorem cutAtLast_append {α : Type} {p : α → Bool} {w r : List α} {a : α} (ha : p a = true)
    (hr : ∀ b ∈ r, p b = false) : cutAtLast p (w ++ a :: r) = some (w, r) := by
  have hcut : cutAt p (r.reverse ++ a :: w.reverse) = some (r.reverse, w.reverse) :=
    cutAt_append ha fun b hb => hr b (List.mem_reverse.1 hb)
  simp [cutAtLast, hcut]

end Microblog.Text
