import Microblog.Proofs.Json.Shapes

/-!
# Arrays that are read back

An array is read item by item up to its bracket, so a list reads back if each of
its items does (`readsBack_list`).
-/

namespace Microblog.Json

open Text

variable {α : Type} {n : Nat}

/-! ## The places between items -/

/-- Some text begins with neither a blank nor the end of an array. -/
def Begins (cs : List Char) : Prop :=
  ∀ rest, ∃ b bs, utf8 cs ++ rest = b :: bs ∧ isSpace b = false ∧ b ≠ 0x5d

theorem begins_writeString (s : String) : Begins (writeString s) := fun rest =>
  ⟨0x22, utf8 (s.toList.flatMap escape ++ ['"']) ++ rest, by
    rw [writeString, List.cons_append, utf8_cons_of_lt (by decide), List.cons_append]
    rfl, by decide, by decide⟩

/-- Where no blank stands before it, the first byte decides. -/
theorem nextItem_cons {b : UInt8} (hspace : isSpace b = false) (first : Bool) (bs : Bytes) :
    nextItem first (b :: bs) =
      if b = 0x5d then .ok ⟨false, b :: bs, Nat.lt_succ_self _⟩
      else if first then .ok ⟨true, b :: bs, Nat.lt_succ_self _⟩
      else if b = 0x2c then
        match skipSpace bs with
        | [] => .error (flawAhead .endInValue [])
        | c :: more =>
          if c = 0x5d then .error (flawAhead .trailingComma (c :: more))
          else .ok ⟨true, bs, Nat.lt_succ_of_lt (Nat.lt_succ_self _)⟩
      else .error (flawAhead .expectedArrayEnd (b :: bs)) := by
  unfold nextItem
  split
  · rename_i hnil
    rw [skipSpace_cons hspace] at hnil
    cases hnil
  · rename_i c more hcons
    rw [skipSpace_cons hspace] at hcons
    cases hcons
    rfl

/-- Before its bracket an array has no further item. -/
theorem nextItem_bracket (first : Bool) (rest : Bytes) :
    Reads (nextItem first (0x5d :: rest)) false (0x5d :: rest) :=
  ⟨_, nextItem_cons (by decide) first rest⟩

/-- The first item of an array stands behind its bracket, a later one behind a comma. -/
theorem nextItem_of_begins {cs : List Char} (h : Begins cs) (rest : Bytes) :
    Reads (nextItem true (utf8 cs ++ rest)) true (utf8 cs ++ rest) ∧
      Reads (nextItem false (0x2c :: (utf8 cs ++ rest))) true (utf8 cs ++ rest) := by
  obtain ⟨b, bs, hbs, hspace, hbracket⟩ := h rest
  rw [hbs]
  constructor
  · rw [nextItem_cons hspace, if_neg hbracket]
    exact ⟨_, rfl⟩
  · rw [nextItem_cons (by decide), skipSpace_cons hspace]
    simp only [hbracket, if_false]
    exact ⟨_, rfl⟩

theorem conclude_closeArray (a : α) (rest : Bytes) :
    Reads (conclude (.ok a) (closeArray (0x5d :: rest))) a rest := by
  unfold closeArray
  split
  · rename_i hnil
    rw [skipSpace_cons (by decide)] at hnil
    cases hnil
  · rename_i c more hcons
    rw [skipSpace_cons (by decide)] at hcons
    cases hcons
    exact ⟨_, rfl⟩

/-! ## Items -/

theorem stops_writeItems (vs : List Value) (rest : Bytes) :
    Stops (utf8 (Value.writeItems vs) ++ rest) := by
  cases vs with
  | nil =>
    rw [Value.writeItems, utf8_cons_of_lt (by decide)]
    rintro b ⟨⟩
    decide
  | cons v vs =>
    rw [Value.writeItems, List.cons_append, utf8_cons_of_lt (by decide)]
    rintro b ⟨⟩
    decide

theorem itemsFrom_end (read : Reader α) (first : Bool) (i : Nat) (acc : List α) (rest : Bytes)
    (hn : (0x5d :: rest : Bytes).length < n) :
    Reads (itemsFrom read first i acc (0x5d :: rest) hn) acc.reverse (0x5d :: rest) := by
  obtain ⟨hlt, he⟩ := nextItem_bracket first rest
  rw [itemsFrom]
  refine ⟨by omega, ?_⟩
  simp only [he]

/-- One item. -/
theorem itemsFrom_step {read : Reader α} {first : Bool} {i : Nat} {acc as : List α} {a : α}
    {bs rest rest' more : Bytes} (hitem : Reads (nextItem first bs) true rest)
    (hread : Reads (read rest) a rest')
    (hmore : ∀ hn, Reads (itemsFrom read false (i + 1) (a :: acc) rest' (n := n) hn) as more)
    (hn : bs.length < n) : Reads (itemsFrom read first i acc bs hn) as more := by
  obtain ⟨hitemlt, hitem⟩ := hitem
  obtain ⟨hreadlt, hread⟩ := hread
  rw [itemsFrom]
  simp only [hitem, hread]
  exact hmore _

variable {s : Shape} {vs : List s.Val}

/-- Items are read up to the bracket behind them. -/
theorem itemsFrom_writeItems (hvs : ∀ v ∈ vs, ReadsBack s v ∧ Begins (s.encode v).write) (i : Nat)
    (acc : List s.Val) (rest : Bytes)
    (hn : (utf8 (Value.writeItems (vs.map s.encode)) ++ rest).length < n) :
    Reads (itemsFrom s.reader false i acc (utf8 (Value.writeItems (vs.map s.encode)) ++ rest) hn)
      (acc.reverse ++ vs) (0x5d :: rest) := by
  induction vs generalizing i acc with
  | nil =>
    rw [List.append_nil]
    exact itemsFrom_end s.reader false i acc rest hn
  | cons v vs ih =>
    obtain ⟨hread, hbegins⟩ := hvs v List.mem_cons_self
    have htext : utf8 (Value.writeItems ((v :: vs).map s.encode)) ++ rest =
        0x2c :: (utf8 (s.encode v).write ++
          (utf8 (Value.writeItems (vs.map s.encode)) ++ rest)) := by
      rw [List.map_cons, Value.writeItems, List.cons_append, utf8_cons_of_lt (by decide),
        utf8_append, List.cons_append, List.append_assoc]
      rfl
    revert hn
    rw [htext]
    intro hn
    refine itemsFrom_step (nextItem_of_begins hbegins _).2 (hread _ (stops_writeItems _ rest))
      (fun hlt => ?_) hn
    have hmore := ih (fun w hw => hvs w (List.mem_cons_of_mem v hw)) (i + 1) (v :: acc) hlt
    rwa [List.reverse_cons, List.append_assoc] at hmore

/-- An array is read from its first bracket to its last. -/
theorem itemsFrom_array (hvs : ∀ v ∈ vs, ReadsBack s v ∧ Begins (s.encode v).write) (rest : Bytes) :
    ∃ bs, utf8 (Value.array (vs.map s.encode)).write ++ rest = 0x5b :: bs ∧
      ∀ {n : Nat} (hn : bs.length < n),
        Reads (itemsFrom s.reader true 0 [] bs hn) vs (0x5d :: rest) := by
  cases vs with
  | nil => exact ⟨0x5d :: rest, rfl, fun hn => itemsFrom_end s.reader true 0 [] rest hn⟩
  | cons v vs =>
    obtain ⟨hread, hbegins⟩ := hvs v List.mem_cons_self
    refine ⟨utf8 (s.encode v).write ++ (utf8 (Value.writeItems (vs.map s.encode)) ++ rest), ?_,
      fun hn => ?_⟩
    · rw [List.map_cons, Value.write, List.cons_append, utf8_cons_of_lt (by decide), utf8_append,
        List.cons_append, List.append_assoc]
      rfl
    · exact itemsFrom_step (nextItem_of_begins hbegins _).1 (hread _ (stops_writeItems _ rest))
        (fun hlt => itemsFrom_writeItems (fun w hw => hvs w (List.mem_cons_of_mem v hw)) 1 [v]
          rest hlt) hn

/-- **Lists.** -/
theorem readsBack_list (hvs : ∀ v ∈ vs, ReadsBack s v ∧ Begins (s.encode v).write) :
    ReadsBack (.list s) vs := fun rest _ => by
  obtain ⟨bs, hbs, hitems⟩ := itemsFrom_array hvs rest
  rw [Shape.encode, hbs, Shape.reader, readList]
  refine Reads.afterSpace ?_ (by decide)
  rw [if_pos rfl]
  exact (hitems (length_lt_succ bs)).bind fun hlt => (conclude_closeArray vs rest).mono _

end Microblog.Json
