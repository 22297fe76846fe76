import Microblog.Store.Table

/-!
# Tables

The entries of a table are what its look-ups tell, in some order
(`get?_eq_some_iff`, `get?_of_perm`); which keys are in it after a change; and
tables whose values differ in some respect (`Distinct`).
-/

namespace Microblog.Store.Table

variable {K V W : Type} {t t' : Table K V} {k j : K} {v : V} {f : V → V} {g : V → W}

/-! ## Entries -/

theorem ext_entries (h : t.entries = t'.entries) : t = t' := by
  cases t
  cases t'
  cases h
  rfl

variable [DecidableEq K]

theorem lookup_eq_some_iff {l : List (K × V)} (hl : (l.map Prod.fst).Nodup) :
    l.lookup k = some v ↔ (k, v) ∈ l := by
  induction l with
  | nil => simp
  | cons e l ih =>
    obtain ⟨i, w⟩ := e
    simp only [List.map_cons, List.nodup_cons] at hl
    by_cases hk : k = i
    · subst hk
      have hnot : (k, v) ∉ l := fun hm => hl.1 (List.mem_map.2 ⟨(k, v), hm, rfl⟩)
      simp [hnot, eq_comm]
    · rw [List.lookup_cons, beq_eq_false_iff_ne.2 hk, List.mem_cons, ← ih hl.2]
      simp [hk]

theorem get?_eq_some_iff : t.get? k = some v ↔ (k, v) ∈ t.entries := lookup_eq_some_iff t.nodup

theorem mem_values_iff : v ∈ t.values ↔ ∃ k, t.get? k = some v := by
  simp only [values, List.mem_map, get?_eq_some_iff, Prod.exists, exists_eq_right]

/-- The order of the entries has no part in what is found. -/
theorem get?_of_perm (h : t'.entries.Perm t.entries) (k : K) : t'.get? k = t.get? k := by
  ext v
  rw [get?_eq_some_iff, get?_eq_some_iff]
  exact h.mem_iff

theorem eq_or_get?_of_insert {w : V} (h : (t.insert k v).get? j = some w) :
    w = v ∨ t.get? j = some w := by
  rw [get?_insert] at h
  split at h
  · exact .inl (Option.some.inj h).symm
  · exact .inr h

theorem entries_insert (h : t.get? k = none) : (t.insert k v).entries = (k, v) :: t.entries := by
  have hnot : ¬ t.contains k = true := by simp [contains, h]
  rw [insert, dif_neg hnot]

/-- What is inserted under a new key can be filtered out again. -/
theorem filter_insert {p : K → V → Bool} (h : t.get? k = none) (hv : p k v = false)
    (hp : ∀ j w, t.get? j = some w → p j w = true) : (t.insert k v).filter p = t := by
  apply ext_entries
  have hall : ∀ e ∈ t.entries, p e.1 e.2 = true := fun e he =>
    hp e.1 e.2 (get?_eq_some_iff.2 he)
  simp only [filter, entries_insert h, List.filter_cons, hv]
  exact List.filter_eq_self.2 hall

theorem erase_insert (h : t.get? k = none) : (t.insert k v).erase k = t := by
  refine filter_insert h (by simp) fun j w hw => bne_iff_ne.2 ?_
  rintro rfl
  rw [h] at hw
  cases hw

/-! ## Keys -/

theorem contains_iff : t.contains k ↔ ∃ v, t.get? k = some v := Option.isSome_iff_exists

theorem contains_of_get? (h : t.get? k = some v) : t.contains k := contains_iff.2 ⟨v, h⟩

theorem contains_insert_iff : (t.insert k v).contains j ↔ j = k ∨ t.contains j := by
  rw [contains, get?_insert]
  by_cases h : j = k
  · simp [h]
  · simp [h, contains]

theorem contains_modify (j : K) : (t.modify k f).contains j = t.contains j := by
  rw [contains, contains, get?_modify]
  split
  · exact Option.isSome_map
  · rfl

theorem contains_erase_iff : (t.erase k).contains j ↔ j ≠ k ∧ t.contains j := by
  rw [contains, get?_erase]
  by_cases h : j = k
  · simp [h]
  · simp [h, contains]

/-! ## Values that are left alone -/

/-- To look for values with a property, it does not matter what is set where there is none. -/
theorem values_filter_insert {p : V → Bool} (h : ∀ w, t.get? k = some w → p w = false)
    (hv : p v = false) : (t.insert k v).values.filter p = t.values.filter p := by
  unfold values
  by_cases hk : t.contains k = true
  · rw [insert, dif_pos hk]
    unfold modify
    rw [List.map_map, List.filter_map, List.filter_map]
    have hentry : ∀ e ∈ t.entries, e.1 = k → p e.2 = false := by
      intro e he hek
      exact h e.2 (get?_eq_some_iff.2 (hek ▸ he))
    have hfilter : t.entries.filter (p ∘ Prod.snd ∘ fun e => if e.1 = k then (e.1, v) else e) =
        t.entries.filter (p ∘ Prod.snd) := by
      apply List.filter_congr
      intro e he
      by_cases hek : e.1 = k
      · simp [hek, hv, hentry e he hek]
      · simp [hek]
    rw [hfilter]
    apply List.map_congr_left
    intro e he
    obtain ⟨hmem, hp⟩ := List.mem_filter.1 he
    have hek : e.1 ≠ k := by
      intro hek
      rw [Function.comp_apply, hentry e hmem hek] at hp
      cases hp
    simp [hek]
  · rw [insert, dif_neg hk]
    exact List.filter_cons_of_neg (by simp [hv])

theorem values_filter_filter {p : V → Bool} {q : K → V → Bool}
    (h : ∀ k v, t.get? k = some v → p v = true → q k v = true) :
    (t.filter q).values.filter p = t.values.filter p := by
  unfold values filter
  rw [List.filter_map, List.filter_map, List.filter_filter]
  apply congrArg
  apply List.filter_congr
  intro e he
  cases hp : p e.2 with
  | false => simp [hp]
  | true => simp [hp, h e.1 e.2 (get?_eq_some_iff.2 he) hp]

/-! ## Values with a property -/

/-- Every value has a property. -/
def All (P : V → Prop) (t : Table K V) : Prop := ∀ k v, t.get? k = some v → P v

section All

variable {P : V → Prop}

theorem All.insert (h : All P t) (hv : P v) : All P (t.insert k v) := by
  intro j w hw
  rw [get?_insert] at hw
  split at hw
  · cases hw
    exact hv
  · exact h j w hw

theorem All.modify (h : All P t) (hf : ∀ v, P v → P (f v)) : All P (t.modify k f) := by
  intro j w hw
  rw [get?_modify] at hw
  split at hw
  · obtain ⟨v, hv, rfl⟩ := Option.map_eq_some_iff.1 hw
    exact hf v (h j v hv)
  · exact h j w hw

theorem All.filter (h : All P t) (p : K → V → Bool) : All P (t.filter p) := by
  intro j w hw
  rw [get?_filter] at hw
  exact h j w (Option.filter_eq_some_iff.1 hw).1

end All

/-! ## Values that differ -/

/-- No two entries agree in `g`. -/
def Distinct (g : V → W) (t : Table K V) : Prop :=
  ∀ j k v w, t.get? j = some v → t.get? k = some w → g v = g w → j = k

theorem Distinct.empty : Distinct g (empty : Table K V) := by
  intro j k v w hj
  cases hj

theorem Distinct.insert (h : Distinct g t) (hnew : ∀ j w, t.get? j = some w → g w ≠ g v) :
    Distinct g (t.insert k v) := by
  intro i j u w hi hj heq
  rw [get?_insert] at hi hj
  split at hi <;> split at hj
  · rename_i hik hjk
    rw [hik, hjk]
  · cases hi
    exact absurd heq.symm (hnew j w hj)
  · cases hj
    exact absurd heq (hnew i u hi)
  · exact h i j u w hi hj heq

theorem Distinct.modify (h : Distinct g t) (hf : ∀ v, g (f v) = g v) :
    Distinct g (t.modify k f) := by
  have hold : ∀ j w, (t.modify k f).get? j = some w → ∃ v, t.get? j = some v ∧ g v = g w := by
    intro j w hw
    rw [get?_modify] at hw
    split at hw
    · obtain ⟨v, hv, rfl⟩ := Option.map_eq_some_iff.1 hw
      exact ⟨v, hv, (hf v).symm⟩
    · exact ⟨w, hw, rfl⟩
  intro i j u w hi hj heq
  obtain ⟨u', hu', hu⟩ := hold i u hi
  obtain ⟨w', hw', hw⟩ := hold j w hj
  exact h i j u' w' hu' hw' (hu.trans (heq.trans hw.symm))

theorem Distinct.filter (h : Distinct g t) (p : K → V → Bool) : Distinct g (t.filter p) := by
  intro i j u w hi hj heq
  rw [get?_filter] at hi hj
  exact h i j u w (Option.filter_eq_some_iff.1 hi).1 (Option.filter_eq_some_iff.1 hj).1 heq

end Microblog.Store.Table
