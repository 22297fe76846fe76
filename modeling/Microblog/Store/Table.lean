/-!
# Tables

A table holds at most one value for a key. The order of its entries is that of
their first insertion, newest first; `get?` is all that a reader of one key
sees of a table.
-/

namespace Microblog.Store

structure Table (K V : Type) where
  entries : List (K × V)
  nodup : (entries.map Prod.fst).Nodup := by simp
  deriving Repr

namespace Table

variable {K V : Type} [DecidableEq K]

instance [DecidableEq V] : DecidableEq (Table K V) := fun a b =>
  decidable_of_iff (a.entries = b.entries) (by cases a; cases b; simp)

def empty : Table K V := ⟨[], by simp⟩

/-- The value for a key. -/
def get? (t : Table K V) (k : K) : Option V := t.entries.lookup k

def contains (t : Table K V) (k : K) : Bool := (t.get? k).isSome

/-- All values. -/
def values (t : Table K V) : List V := t.entries.map Prod.snd

/-- The entries that satisfy a condition. -/
def filter (t : Table K V) (p : K → V → Bool) : Table K V where
  entries := t.entries.filter fun e => p e.1 e.2
  nodup := (t.nodup.sublist ((List.filter_sublist).map _))

/-- The table without a key. -/
def erase (t : Table K V) (k : K) : Table K V := t.filter fun k' _ => k' != k

/-- Changes the value for a key. -/
def modify (t : Table K V) (k : K) (f : V → V) : Table K V where
  entries := t.entries.map fun e => if e.1 = k then (e.1, f e.2) else e
  nodup := by
    have : (t.entries.map fun e => if e.1 = k then (e.1, f e.2) else e).map Prod.fst =
        t.entries.map Prod.fst := by
      rw [List.map_map]
      apply List.map_congr_left
      intro e _
      simp only [Function.comp_apply]
      split <;> rfl
    rw [this]
    exact t.nodup

/-! ## Reading what was written -/

theorem lookup_eq_none_iff {l : List (K × V)} {k : K} :
    l.lookup k = none ↔ k ∉ l.map Prod.fst := by
  induction l with
  | nil => simp
  | cons e l ih =>
    obtain ⟨k', v⟩ := e
    by_cases h : k = k'
    · subst h; simp
    · simp [List.lookup_cons, h, ih, beq_eq_false_iff_ne.2 h]

theorem lookup_filter (p : K → V → Bool) (l : List (K × V)) (hl : (l.map Prod.fst).Nodup) (k : K) :
    (l.filter fun e => p e.1 e.2).lookup k = (l.lookup k).filter (p k) := by
  induction l with
  | nil => rfl
  | cons e l ih =>
    obtain ⟨k', v⟩ := e
    simp only [List.map_cons, List.nodup_cons] at hl
    have ih := ih hl.2
    by_cases h : k = k'
    · subst h
      have hk : l.lookup k = none := lookup_eq_none_iff.2 hl.1
      by_cases hp : p k v
      · simp [hp, Option.filter]
      · rw [List.filter_cons]
        simp only [hp]
        rw [hk] at ih
        simpa [hp, Option.filter] using ih
    · have hb := beq_eq_false_iff_ne.2 h
      rw [List.filter_cons]
      split
      · simp [List.lookup_cons, hb, ih]
      · simp [List.lookup_cons, hb, ih]

@[simp] theorem get?_empty (k : K) : (empty : Table K V).get? k = none := rfl

theorem get?_filter (t : Table K V) (p : K → V → Bool) (k : K) :
    (t.filter p).get? k = (t.get? k).filter (p k) :=
  lookup_filter p t.entries t.nodup k

theorem get?_erase (t : Table K V) (k j : K) :
    (t.erase k).get? j = if j = k then none else t.get? j := by
  rw [erase, get?_filter]
  by_cases h : j = k
  · subst h; cases t.get? j <;> simp [Option.filter]
  · cases t.get? j <;> simp [Option.filter, h]

theorem get?_modify (t : Table K V) (k : K) (f : V → V) (j : K) :
    (t.modify k f).get? j = if j = k then (t.get? j).map f else t.get? j := by
  obtain ⟨l, hl⟩ := t
  simp only [get?, modify]
  clear hl
  induction l with
  | nil => simp
  | cons e l ih =>
    obtain ⟨k', v⟩ := e
    by_cases h : j = k'
    · subst h
      by_cases hk : j = k <;> simp [hk]
    · have hb := beq_eq_false_iff_ne.2 h
      by_cases hk : k' = k
      · subst hk
        simp only [List.map_cons, ↓reduceIte, List.lookup_cons, hb, h]
        simpa [h] using ih
      · simp [List.lookup_cons, hb, hk, ih]

theorem contains_eq_false_iff {t : Table K V} {k : K} :
    t.contains k = false ↔ k ∉ t.entries.map Prod.fst := by
  rw [contains, Option.isSome_eq_false_iff, Option.isNone_iff_eq_none, get?, lookup_eq_none_iff]

/-- Sets the value for a key. -/
def insert (t : Table K V) (k : K) (v : V) : Table K V :=
  if h : t.contains k then t.modify k fun _ => v
  else ⟨(k, v) :: t.entries, by
    rw [List.map_cons, List.nodup_cons]
    exact ⟨contains_eq_false_iff.1 (by simpa using h), t.nodup⟩⟩

theorem get?_insert (t : Table K V) (k : K) (v : V) (j : K) :
    (t.insert k v).get? j = if j = k then some v else t.get? j := by
  rw [insert]
  split
  · rename_i h
    rw [get?_modify]
    by_cases hj : j = k
    · subst hj
      rw [contains] at h
      obtain ⟨w, hw⟩ := Option.isSome_iff_exists.1 h
      simp [hw]
    · simp [hj]
  · by_cases hj : j = k
    · subst hj; simp [get?]
    · simp [get?, List.lookup_cons, beq_eq_false_iff_ne.2 hj, hj]

end Table

end Microblog.Store
