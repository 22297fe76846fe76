import Mathlib.Data.List.Infix
import Microblog.Text.Lower

/-!
# Parts of a text in lower case

All characters have a lower-case form of their own but the capital sigma, which
has two: which one is meant depends on the nearest characters on both sides that
are not ignored. A part of a text in lower case is therefore not always a part of
the text in lower case. It is in every text exactly if the part is `Steady`, that
is, if what stands in it already decides about each of its sigmas
(`lower_infix_iff_steady`).
-/

namespace Microblog.Text

variable {before behind w text u v : List Char} {s : Char}

/-! ## What decides about a sigma -/

/-- The first character that is not ignored. -/
def nearest (cs : List Char) : Option Char := cs.find? fun c => !isCaseIgnorable c

theorem meetsCased_eq (cs : List Char) : meetsCased cs = (nearest cs).any isCased := by
  induction cs with
  | nil => rfl
  | cons c cs ih =>
    by_cases hc : isCaseIgnorable c = true
    · simpa [meetsCased, nearest, List.dropWhile_cons, hc] using ih
    · simp [meetsCased, nearest, hc]

theorem nearest_append (cs ds : List Char) : nearest (cs ++ ds) = (nearest cs).or (nearest ds) :=
  List.find?_append

/-- Whether it is decided between two texts which sigma is meant, whatever stands around them: by
both sides together, or by one that has the word go on, or not begin. -/
def settles (before behind : List Char) : Bool :=
  match nearest before, nearest behind with
  | some _, some _ => true
  | some c, none => !isCased c
  | none, some d => isCased d
  | none, none => false

theorem lowerSigma_append_of_settles (h : settles before behind = true) (us vs : List Char) :
    lowerSigma (before ++ us) (behind ++ vs) = lowerSigma before behind := by
  unfold lowerSigma
  rw [meetsCased_eq, meetsCased_eq, meetsCased_eq, meetsCased_eq, nearest_append, nearest_append]
  unfold settles at h
  cases hbefore : nearest before <;> cases hbehind : nearest behind <;>
    simp_all

/-- Each sigma of the text is decided about within the text. -/
def Steady (w : List Char) : Prop := ∀ u v, w = u ++ 'Σ' :: v → settles u.reverse v = true

/-! ## A text between others -/

/-- The lower-case form of some characters between `before`, which is given nearest first, and
`behind`. -/
def lowerBetween (before behind : List Char) : List Char → List Char
  | [] => []
  | c :: cs =>
    (if c = 'Σ' then [lowerSigma before (cs ++ behind)] else lowerChar c) ++
      lowerBetween (c :: before) behind cs

theorem lowerBetween_nil (before cs : List Char) :
    lowerBetween before [] cs = lowerAfter before cs := by
  induction cs generalizing before with
  | nil => rfl
  | cons c cs ih => rw [lowerBetween, lowerAfter, ih, List.append_nil]

theorem lowerBetween_append (before behind us vs : List Char) :
    lowerBetween before behind (us ++ vs) =
      lowerBetween before (vs ++ behind) us ++ lowerBetween (us.reverse ++ before) behind vs := by
  induction us generalizing before with
  | nil => rfl
  | cons c us ih => simp [lowerBetween, ih]

theorem lower_append (us vs : List Char) :
    lower (us ++ vs) = lowerBetween [] vs us ++ lowerBetween us.reverse [] vs := by
  rw [lower, ← lowerBetween_nil, lowerBetween_append, List.append_nil, List.append_nil]

/-- A text that is decided about has one lower-case form wherever it stands. -/
theorem lowerBetween_of_settles
    (h : ∀ u v, w = u ++ 'Σ' :: v → settles (u.reverse ++ before) v = true) (us : List Char) :
    lowerBetween (before ++ us) behind w = lowerBetween before [] w := by
  induction w generalizing before with
  | nil => rfl
  | cons c cs ih =>
    have hrest : lowerBetween (c :: before ++ us) behind cs = lowerBetween (c :: before) [] cs := by
      refine ih fun u v hcs => ?_
      have hsettles := h (c :: u) v (by rw [hcs]; rfl)
      simpa using hsettles
    rw [lowerBetween, lowerBetween, ← List.cons_append, hrest]
    congr 1
    split
    · rename_i hsigma
      have hsettles : settles before cs = true := h [] cs (by rw [hsigma]; rfl)
      rw [lowerSigma_append_of_settles hsettles, List.append_nil]
    · rfl

theorem lower_infix_of_steady (h : Steady w) (hw : w <:+: text) : lower w <:+: lower text := by
  obtain ⟨us, vs, rfl⟩ := hw
  have hfixed : lowerBetween us.reverse vs w = lower w := by
    have hsettles : ∀ u v, w = u ++ 'Σ' :: v → settles (u.reverse ++ []) v = true :=
      fun u v hw => by simpa using h u v hw
    rw [lower, ← lowerBetween_nil]
    exact lowerBetween_of_settles hsettles us.reverse
  refine ⟨lowerBetween [] (w ++ vs) us, lowerBetween (w.reverse ++ us.reverse) [] vs, ?_⟩
  rw [List.append_assoc us, lower_append, lowerBetween_append us.reverse, List.append_nil vs, hfixed,
    List.append_assoc]

/-! ## A text that is not decided about -/

/-- Where others around a text turn no sigma into `s`, it has no more of them there. -/
theorem count_lowerBetween_le {before' behind' : List Char}
    (h : ∀ u v, lowerSigma (u ++ before') (v ++ behind') = s →
      lowerSigma (u ++ before) (v ++ behind) = s) (u w : List Char) :
    (lowerBetween (u ++ before') behind' w).count s ≤
      (lowerBetween (u ++ before) behind w).count s := by
  induction w generalizing u with
  | nil => exact Nat.le_refl 0
  | cons c cs ih =>
    rw [lowerBetween, lowerBetween, List.count_append, List.count_append]
    refine Nat.add_le_add ?_ (ih (c :: u))
    split
    · have hsigma := h u cs
      simp only [List.count_singleton, beq_iff_eq]
      split <;> simp_all
    · exact Nat.le_refl _

/-- If they turn one of its sigmas from `s` into the other one, it has fewer of them there. -/
theorem count_lowerBetween_lt {before' behind' : List Char}
    (h : ∀ u v, lowerSigma (u ++ before') (v ++ behind') = s →
      lowerSigma (u ++ before) (v ++ behind) = s)
    (hs : lowerSigma (u.reverse ++ before) (v ++ behind) = s)
    (hs' : lowerSigma (u.reverse ++ before') (v ++ behind') ≠ s) :
    (lowerBetween before' behind' (u ++ 'Σ' :: v)).count s <
      (lowerBetween before behind (u ++ 'Σ' :: v)).count s := by
  have hfront : (lowerBetween ([] ++ before') ('Σ' :: v ++ behind') u).count s ≤
      (lowerBetween ([] ++ before) ('Σ' :: v ++ behind) u).count s :=
    count_lowerBetween_le (fun u' v' => by simpa using h u' (v' ++ 'Σ' :: v)) [] u
  have hback := count_lowerBetween_le h ('Σ' :: u.reverse) v
  rw [lowerBetween_append, lowerBetween_append, List.count_append, List.count_append, lowerBetween,
    lowerBetween, if_pos rfl, if_pos rfl, hs, List.count_append, List.count_append,
    List.count_singleton_self, List.count_singleton, if_neg (by simpa using hs')]
  simp only [List.nil_append, List.cons_append] at hfront hback ⊢
  omega

theorem lowerSigma_eq_final_iff :
    lowerSigma before behind = 'ς' ↔ meetsCased before = true ∧ meetsCased behind = false := by
  unfold lowerSigma
  cases meetsCased before <;> cases meetsCased behind <;> decide

theorem lowerSigma_eq_medial_iff :
    lowerSigma before behind = 'σ' ↔ meetsCased before = false ∨ meetsCased behind = true := by
  unfold lowerSigma
  cases meetsCased before <;> cases meetsCased behind <;> decide

set_option maxRecDepth 4000 in
theorem isCaseIgnorable_letter : isCaseIgnorable 'a' = false := by decide

/-- A letter at the far end has the word go on there if nothing else decides about that. -/
theorem meetsCased_append_letter (cs : List Char) :
    meetsCased (cs ++ ['a']) = (nearest cs).all isCased := by
  have hletter : nearest ['a'] = some 'a' := by simp [nearest, isCaseIgnorable_letter]
  have hcased : isCased 'a' = true :=
    inRanges_iff.2 ⟨(0x61, 0x7a), List.mem_cons_of_mem _ List.mem_cons_self, by decide, by decide⟩
  rw [meetsCased_eq, nearest_append, hletter]
  cases nearest cs with
  | none => exact hcased
  | some c => rfl

theorem meetsCased_of_append_letter {cs : List Char} (h : meetsCased (cs ++ ['a']) = false) :
    meetsCased cs = false := by
  rw [meetsCased_append_letter] at h
  rw [meetsCased_eq]
  cases hnearest : nearest cs with
  | none => rfl
  | some c => simpa [hnearest] using h

theorem lowerBetween_letter (before behind : List Char) :
    lowerBetween before behind ['a'] = ['a'] := by
  rw [lowerBetween, if_neg (by decide)]
  rfl

/-- A last sigma is another one where a letter follows. -/
theorem count_lower_append_letter {c : Char} (hu : nearest u.reverse = some c)
    (hc : isCased c = true) (hv : nearest v = none) :
    (lower (u ++ 'Σ' :: v ++ ['a'])).count 'ς' < (lower (u ++ 'Σ' :: v)).count 'ς' := by
  have hbefore : meetsCased u.reverse = true := by rw [meetsCased_eq, hu]; exact hc
  have hlt : (lowerBetween [] ['a'] (u ++ 'Σ' :: v)).count 'ς' <
      (lowerBetween [] [] (u ++ 'Σ' :: v)).count 'ς' := count_lowerBetween_lt ?_ ?_ ?_
  · rw [lower_append, List.count_append, lowerBetween_letter, lower, ← lowerBetween_nil]
    exact hlt
  · intro u' v' hnew
    rw [lowerSigma_eq_final_iff] at hnew ⊢
    rw [List.append_nil v']
    exact ⟨hnew.1, meetsCased_of_append_letter hnew.2⟩
  · rw [List.append_nil, List.append_nil, lowerSigma_eq_final_iff, meetsCased_eq v, hv]
    exact ⟨hbefore, rfl⟩
  · rw [ne_eq, lowerSigma_eq_final_iff, meetsCased_append_letter, hv]
    simp

/-- A first sigma is another one where a letter goes before, if the word does not go on. -/
theorem count_lower_cons_letter (hu : nearest u.reverse = none)
    (hv : (nearest v).any isCased = false) :
    (lower ('a' :: (u ++ 'Σ' :: v))).count 'σ' < (lower (u ++ 'Σ' :: v)).count 'σ' := by
  have hlt : (lowerBetween ['a'] [] (u ++ 'Σ' :: v)).count 'σ' <
      (lowerBetween [] [] (u ++ 'Σ' :: v)).count 'σ' := count_lowerBetween_lt ?_ ?_ ?_
  · have hcount : ['a'].count 'σ' = 0 := rfl
    rw [← List.singleton_append, lower_append, List.count_append, lowerBetween_letter, hcount,
      Nat.zero_add, lower, ← lowerBetween_nil]
    exact hlt
  · intro u' v' hnew
    rw [lowerSigma_eq_medial_iff] at hnew ⊢
    rw [List.append_nil u']
    exact hnew.imp_left meetsCased_of_append_letter
  · rw [List.append_nil, lowerSigma_eq_medial_iff, meetsCased_eq, hu]
    exact .inl rfl
  · rw [ne_eq, lowerSigma_eq_medial_iff, meetsCased_append_letter, hu, List.append_nil,
      meetsCased_eq v, hv]
    simp

theorem not_infix_of_count_lt {cs ds : List Char} (h : ds.count s < cs.count s) : ¬ cs <:+: ds :=
  fun hpart => absurd (hpart.sublist.count_le s) (Nat.not_le.2 h)

/-- A letter in front or behind is enough for the text not to be found. -/
theorem exists_not_infix_of_not_steady (h : ¬ Steady w) :
    ∃ text, w <:+: text ∧ ¬ lower w <:+: lower text := by
  simp only [Steady, not_forall, Bool.not_eq_true] at h
  obtain ⟨u, v, rfl, h⟩ := h
  unfold settles at h
  cases hu : nearest u.reverse with
  | some c =>
    cases hv : nearest v with
    | some d => simp [hu, hv] at h
    | none =>
      have hc : isCased c = true := by simpa [hu, hv] using h
      exact ⟨_, (List.prefix_append _ ['a']).isInfix,
        not_infix_of_count_lt (count_lower_append_letter hu hc hv)⟩
  | none =>
    have hv : (nearest v).any isCased = false := by
      cases hv : nearest v with
      | none => rfl
      | some d => simpa [hu, hv] using h
    exact ⟨_, (List.suffix_cons 'a' _).isInfix, not_infix_of_count_lt (count_lower_cons_letter hu hv)⟩

/-- **Parts.** A text in lower case stands in every text around it, in lower case, exactly if it is
steady. -/
theorem lower_infix_iff_steady :
    (∀ text, w <:+: text → lower w <:+: lower text) ↔ Steady w := by
  constructor
  · intro hparts
    by_contra h
    obtain ⟨text, hw, hnot⟩ := exists_not_infix_of_not_steady h
    exact hnot (hparts text hw)
  · exact fun h text => lower_infix_of_steady h

end Microblog.Text
