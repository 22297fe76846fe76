import Mathlib.Data.List.Induction
import Microblog.Proofs.Cache.Gateways

/-!
# How old an answer can be

Nobody tells a cache in memory of a change, so a user who is resolved may be out
of date; but never by as much as the time that entries are used (`prompt_of_run`).
Every entry is a user as stored at the very instant that the entry carries
(`storedOnce_of_entry`), and an entry gives way to later ones only (`renewed_step`).
-/

namespace Microblog.Cache

open Account Store

variable {start g : Gateway Memory} {ms ns : List Move} {id : Int64} {u : User} {e : Entry}
  {instant : Int}

/-! ## Entries -/

/-- An entry was there before, or has just been made of a stored user. -/
theorem entry_step (hs : Numbered g.store) (m : Move)
    (h : (g.step m).cache.entries.get? id = some e) :
    g.cache.entries.get? id = some e ∨
      g.store.users.get? id = some e.user ∧ e.storedAt = g.now := by
  cases m with
  | resolve j =>
    obtain ⟨outcome, g', he, hends⟩ := resolves g j
    rw [Gateway.step, he] at h
    cases hends with
    | hit => exact .inl h
    | absent => exact .inl h
    | unwritten => exact .inl h
    | @cached v miss stored writes =>
      rw [Table.get?_insert] at h
      split at h
      · rename_i hid
        cases h
        exact .inr ⟨by rwa [hid, (hs.users j v stored).1], rfl⟩
      · exact .inl h
  | _ => exact .inl h

/-- At some moment of a run, at that instant, the user was stored under the id. -/
def StoredOnce (start : Gateway Memory) (ms : List Move) (id : Int64) (u : User)
    (instant : Int) : Prop :=
  ∃ earlier later, ms = earlier ++ later ∧ (start.after earlier).store.users.get? id = some u ∧
    (start.after earlier).now = instant

theorem StoredOnce.append (h : StoredOnce start ms id u instant) (ns : List Move) :
    StoredOnce start (ms ++ ns) id u instant := by
  obtain ⟨earlier, later, rfl, hu, hnow⟩ := h
  exact ⟨earlier, later ++ ns, List.append_assoc .., hu, hnow⟩

/-- **Entries.** Each shows what was stored when it was made. -/
theorem storedOnce_of_entry (hs : Store.Reachable start.store) (hempty : start.cache = .empty)
    (ms : List Move) (h : (start.after ms).cache.entries.get? id = some e) :
    StoredOnce start ms id e.user e.storedAt := by
  induction ms using List.reverseRecOn with
  | nil =>
    rw [Gateway.after_nil, hempty] at h
    cases h
  | append_singleton ms m ih =>
    rw [Gateway.after_append] at h
    have hnumbered := (Gateway.reachable_after hs ms).numbered
    rcases entry_step hnumbered m h with hold | ⟨hu, hnow⟩
    · exact (ih hold).append [m]
    · exact ⟨ms, [m], rfl, hu, hnow.symm⟩

/-! ## Entries are renewed -/

/-- The id has an entry that was made at an instant in the past or later. -/
def Renewed (id : Int64) (instant : Int) (g : Gateway Memory) : Prop :=
  instant ≤ g.now ∧ ∃ e, g.cache.entries.get? id = some e ∧ instant ≤ e.storedAt

theorem renewed_step (h : Renewed id instant g) (m : Move) : Renewed id instant (g.step m) := by
  obtain ⟨hpast, e, he, hlate⟩ := h
  refine ⟨Int.le_trans hpast (Gateway.now_step g m), ?_⟩
  cases m with
  | resolve j =>
    obtain ⟨outcome, g', hg', hends⟩ := resolves g j
    rw [Gateway.step, hg']
    cases hends with
    | hit => exact ⟨e, he, hlate⟩
    | absent => exact ⟨e, he, hlate⟩
    | unwritten => exact ⟨e, he, hlate⟩
    | @cached v miss stored writes =>
      by_cases hid : id = v.id
      · refine ⟨⟨v, g.now⟩, ?_, hpast⟩
        rw [Table.get?_insert, if_pos hid]
      · refine ⟨e, ?_, hlate⟩
        rw [Table.get?_insert, if_neg hid]
        exact he
  | _ => exact ⟨e, he, hlate⟩

/-- An entry that is not used has had its time. -/
theorem Renewed.over (h : Renewed id instant g) (hmiss : g.cache.get? id g.now = none) :
    instant + ttl ≤ g.now := by
  obtain ⟨hpast, e, he, hlate⟩ := h
  have hold : ¬ (g.now - e.storedAt).toNat < ttl := by
    simpa [Memory.get?, he, Option.filter, Memory.fresh] using hmiss
  omega

/-! ## Answers -/

/-- A resolve counts as a read where the cache does not have the user, and only there. -/
theorem reads_resolve (g : Gateway Memory) (id : Int64) :
    (g.resolve id).2.store.reads =
      if g.cache.get? id g.now = none then g.store.reads + 1 else g.store.reads := by
  obtain ⟨outcome, g', he, hends⟩ := resolves g id
  rw [he]
  cases hends with
  | hit hit => rw [if_neg (by rw [hit]; exact Option.some_ne_none _)]
  | absent miss => exact (if_pos miss).symm
  | unwritten miss => exact (if_pos miss).symm
  | cached miss => exact (if_pos miss).symm

theorem users_resolve (g : Gateway Memory) (id : Int64) :
    (g.resolve id).2.store.users = g.store.users := by
  rcases g.store_resolve id with he | he <;> rw [he]
  rfl

theorem cache_resolve_of_error {f : ResolveFault} (h : (g.resolve id).1 = .error f) :
    (g.resolve id).2.cache = g.cache := by
  obtain ⟨outcome, g', he, hends⟩ := resolves g id
  rw [he] at h ⊢
  cases hends with
  | hit => cases h
  | absent => rfl
  | unwritten => rfl
  | cached => cases h

/-- An answer is what is stored, or what an entry that is still used shows. -/
theorem answer_of_resolve (h : (g.resolve id).1 = .ok u) :
    g.store.users.get? id = some u ∨
      ∃ e, g.cache.entries.get? id = some e ∧ e.user = u ∧ (g.now - e.storedAt).toNat < ttl := by
  obtain ⟨outcome, g', he, hends⟩ := resolves g id
  rw [he] at h
  cases hends with
  | absent => cases h
  | unwritten => cases h
  | cached miss stored =>
    cases h
    exact .inl stored
  | hit hit =>
    cases h
    obtain ⟨e, he, huser⟩ := Option.map_eq_some_iff.1 hit
    obtain ⟨he, hfresh⟩ := Option.filter_eq_some_iff.1 he
    exact .inr ⟨e, he, huser, of_decide_eq_true hfresh⟩

/-- A read that gives a user leaves an entry. -/
theorem renewed_of_read (hs : Numbered g.store) (hok : (g.resolve id).1 = .ok u)
    (hmiss : g.cache.get? id g.now = none) : Renewed id g.now (g.resolve id).2 := by
  obtain ⟨outcome, g', he, hends⟩ := resolves g id
  rw [he] at hok ⊢
  cases hends with
  | absent => cases hok
  | unwritten => cases hok
  | hit hit =>
    rw [hmiss] at hit
    cases hit
  | @cached v miss stored writes =>
    refine ⟨Int.le_refl _, ⟨v, g.now⟩, ?_, Int.le_refl _⟩
    rw [Table.get?_insert, if_pos (hs.users id v stored).1.symm]

/-- A resolve makes a durable read. -/
def ReadsStore (g : Gateway Memory) (id : Int64) : Prop :=
  (g.resolve id).2.store.reads ≠ g.store.reads

theorem readsStore_iff : ReadsStore g id ↔ g.cache.get? id g.now = none := by
  rw [ReadsStore, reads_resolve]
  split
  · rename_i hmiss
    exact iff_of_true (Nat.succ_ne_self _) hmiss
  · rename_i hhit
    exact iff_of_false (fun h => h rfl) hhit

/-- What is promised of resolving a user after some moves: the answer was stored less than the
lifetime of an entry ago; only a user that the cache does not have costs a read, and just one;
after a read that has been cached the next one is a lifetime away; and a resolve that fails
leaves the cache, and any resolve the users, as they were. -/
structure Prompt (start : Gateway Memory) (ms : List Move) (id : Int64) : Prop where
  recent : ∀ u, ((start.after ms).resolve id).1 = .ok u → u.id = id ∧
    ∃ earlier later, ms = earlier ++ later ∧ (start.after earlier).store.users.get? id = some u ∧
      (start.after ms).now - (start.after earlier).now < ttl
  hit : ∀ u, (start.after ms).cache.get? id (start.after ms).now = some u →
    ((start.after ms).resolve id).2.store.reads = (start.after ms).store.reads
  miss : (start.after ms).cache.get? id (start.after ms).now = none →
    ((start.after ms).resolve id).2.store.reads = (start.after ms).store.reads + 1
  apart : ∀ earlier later u, ms = earlier ++ .resolve id :: later →
    ((start.after earlier).resolve id).1 = .ok u → ReadsStore (start.after earlier) id →
      ReadsStore (start.after ms) id → (start.after earlier).now + ttl ≤ (start.after ms).now
  failed : ∀ f, ((start.after ms).resolve id).1 = .error f →
    ((start.after ms).resolve id).2.cache = (start.after ms).cache
  users : ((start.after ms).resolve id).2.store.users = (start.after ms).store.users

/-- **Staleness.** Whatever the moves and whatever their order. -/
theorem prompt_of_run (hs : Store.Reachable start.store) (hempty : start.cache = .empty)
    (ms : List Move) (id : Int64) : Prompt start ms id where
  recent u hu := by
    rcases answer_of_resolve hu with hstored | ⟨e, he, rfl, hfresh⟩
    · refine ⟨((Gateway.reachable_after hs ms).numbered.users id u hstored).1, ms, [],
        (List.append_nil ms).symm, hstored, ?_⟩
      rw [Int.sub_self]
      decide
    · obtain ⟨earlier, later, hms, hstored, hnow⟩ := storedOnce_of_entry hs hempty ms he
      refine ⟨((Gateway.reachable_after hs earlier).numbered.users id _ hstored).1, earlier, later,
        hms, hstored, ?_⟩
      rw [hnow]
      omega
  hit u hu := by
    rw [reads_resolve, if_neg (by rw [hu]; exact Option.some_ne_none u)]
  miss hmiss := by rw [reads_resolve, if_pos hmiss]
  apart := by
    rintro earlier later u rfl hok hfirst hsecond
    have hentry := renewed_of_read (Gateway.reachable_after hs earlier).numbered hok
      (readsStore_iff.1 hfirst)
    have hlater := Gateway.after_keeps (P := Renewed id (start.after earlier).now)
      (fun g m h => renewed_step h m) hentry later
    rw [Gateway.after_append] at hsecond ⊢
    exact hlater.over (readsStore_iff.1 hsecond)
  failed f hf := cache_resolve_of_error hf
  users := users_resolve _ id

/-- A user is read, renamed, and looked for again just before the entry is no longer used. -/
def renamingMoves : List Move :=
  [.call (.insertUser ⟨"alice", "alice@example.com", .unknown⟩ "user" true), .resolve 101,
    .call (.renameUser 101 "alicia"), .wait (ttl - 1)]

/-- The old name is shown up to the last nanosecond. -/
theorem prompt_renamingMoves :
    (Store.Reachable initial ∧ Prompt ⟨initial, .empty, 0⟩ renamingMoves 101) ∧
      let late := Gateway.after (C := Memory) ⟨initial, .empty, 0⟩ renamingMoves
      (late.resolve 101).1.toOption.map (·.username) = some "alice" ∧
        ((late.step (.wait 1)).resolve 101).1.toOption.map (·.username) = some "alicia" :=
  have hs : Store.Reachable initial := ⟨[], rfl⟩
  ⟨⟨hs, prompt_of_run hs rfl renamingMoves 101⟩, by decide⟩

end Microblog.Cache
