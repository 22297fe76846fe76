import Microblog.Content.Draft
import Microblog.Proofs.Store.Records

/-!
# Posts under concurrent edits

A client's change of a post is two steps: the post is loaded, and later the
loaded post, with the changes made to it, is handed to the store. `Editing` is
a store with the edits that are between their steps; moves of any number of
clients, and calls of anyone else, come in any order.

`Sound` is what every sequence of moves keeps. It ties the version of each
stored post to the updates that were made of it, and to the posts that were
loaded and not yet written.
-/

namespace Microblog.Store

open Account Content

/-- A change of a post that has been loaded. -/
structure Edit where
  loaded : Post
  patch : PostPatch
  deriving DecidableEq

/-- What the store is given in the second step. -/
def Edit.given (e : Edit) : Post := e.patch.apply e.loaded

structure Editing where
  store : Store
  underway : List Edit
  /-- What was given in the updates that were made, newest first. -/
  updates : List Post

inductive Move where
  | load (id : Int64) (patch : PostPatch)
  /-- The second step of the edit at a place in the list. -/
  | write (n : Nat)
  | call (c : Call)

namespace Editing

/-- A store on which nothing has happened. -/
def start : Editing := ⟨initial, [], []⟩

/-- The updates that a call makes. -/
def made (s : Store) : Call → List Post
  | .updatePost p => if (s.updatePost p).1.isOk then [p] else []
  | _ => []

def call (x : Editing) (c : Call) : Editing :=
  { x with store := c.run x.store, updates := made x.store c ++ x.updates }

def step (x : Editing) : Move → Editing
  | .load id patch =>
    match x.store.getPost id with
    | .ok p => { x with underway := ⟨p, patch⟩ :: x.underway }
    | .error _ => x
  | .write n =>
    match x.underway[n]? with
    | some e => { x.call (.updatePost e.given) with underway := x.underway.eraseIdx n }
    | none => x
  | .call c => x.call c

def run (ms : List Move) (x : Editing) : Editing := ms.foldl step x

/-- How many updates of a post have been made. -/
def updatesOf (x : Editing) (id : Int64) : Nat := x.updates.countP (·.id == id)

/-- How many of them were of one version. -/
def updatesFrom (x : Editing) (id : Int64) (v : Int32) : Nat :=
  x.updates.countP fun g => g.id == id && g.version == v

/-! ## What every sequence of moves keeps -/

structure Sound (x : Editing) : Prop where
  numbered : Numbered x.store
  known : ∀ g ∈ x.updates, g.id.toInt ≤ x.store.lastId.toInt
  version : ∀ id p, x.store.posts.get? id = some p → p.version.toInt = 1 + x.updatesOf id
  /-- The versions that updates were made of lie behind. -/
  behind : ∀ id p, x.store.posts.get? id = some p → ∀ g ∈ x.updates, g.id = id →
    g.version.toInt < p.version.toInt
  once : ∀ id v, x.updatesFrom id v ≤ 1
  loaded : ∀ e ∈ x.underway, e.loaded.id.toInt ≤ x.store.lastId.toInt
  /-- A loaded post is the stored one as long as their versions agree. -/
  snapshot : ∀ e ∈ x.underway, ∀ q, x.store.posts.get? e.loaded.id = some q →
    e.loaded.version.toInt ≤ q.version.toInt ∧ (q.version = e.loaded.version → q = e.loaded)

theorem Sound.start : Sound start where
  numbered := Numbered.initial
  known _ hg := by cases hg
  version _ _ hp := by cases hp
  behind _ _ hp := by cases hp
  once _ _ := Nat.zero_le 1
  loaded _ he := by cases he
  snapshot _ he := by cases he

variable {x : Editing}

/-- An id that has not been given has no updates. -/
theorem Sound.updatesOf_next {id : Int64} (h : x.Sound) (hid : x.store.lastId.toInt < id.toInt) :
    x.updatesOf id = 0 := by
  rw [updatesOf, List.countP_eq_zero]
  intro g hg hgid
  have := h.known g hg
  rw [beq_iff_eq] at hgid
  subst hgid
  omega

/-- A call that updates no post. -/
theorem Sound.call_other {c : Call} (h : x.Sound) (hc : made x.store c = [])
    (hup : ∀ p, c = .updatePost p → (c.run x.store).posts = x.store.posts) :
    (x.call c).Sound := by
  have hle := lastId_call c x.store
  -- A post that is stored after the call was there before it, or is new and at version 1.
  have hposts : ∀ id q, (c.run x.store).posts.get? id = some q →
      x.store.posts.get? id = some q ∨ (x.store.lastId.toInt < id.toInt ∧ q.version = 1) := by
    intro id q hq
    rcases post_of_call hq with hold | ⟨d, now, -, hid, rfl⟩ | ⟨p, q', now, hcp, -⟩
    · exact .inl hold
    · exact .inr ⟨by omega, rfl⟩
    · exact .inl (hup p hcp ▸ hq)
  have hupdates : (x.call c).updates = x.updates := by simp [call, hc]
  have hof : ∀ id, (x.call c).updatesOf id = x.updatesOf id := fun id => by
    rw [updatesOf, updatesOf, hupdates]
  exact {
    numbered := h.numbered.call c
    known := fun g hg => Int.le_trans (h.known g (hupdates ▸ hg)) hle
    version := fun id q hq => by
      rw [hof]
      rcases hposts id q hq with hq | ⟨hnew, hv⟩
      · exact h.version id q hq
      · rw [hv, h.updatesOf_next hnew]
        rfl
    behind := fun id q hq g hg hgid => by
      have hg := hupdates ▸ hg
      rcases hposts id q hq with hq | ⟨hnew, -⟩
      · exact h.behind id q hq g hg hgid
      · have := h.known g hg
        subst hgid
        omega
    once := fun id v => by
      rw [updatesFrom, hupdates]
      exact h.once id v
    loaded := fun e he => Int.le_trans (h.loaded e he) hle
    snapshot := fun e he q hq => by
      rcases hposts _ q hq with hq | ⟨hnew, -⟩
      · exact h.snapshot e he q hq
      · have := h.loaded e he
        omega }

/-- An update that is made. -/
theorem Sound.call_update {p q : Post} {now : Timestamp} (h : x.Sound)
    (hq : x.store.posts.get? p.id = some q) (hv : q.version = p.version)
    (hmax : q.version ≠ Int32.maxValue)
    (hdone : x.store.updatePost p = (.ok (revised q p now), { x.store with
      clock := now
      posts := x.store.posts.insert p.id (revised q p now) })) :
    (x.call (.updatePost p)).Sound := by
  have hupdates : (x.call (.updatePost p)).updates = p :: x.updates := by
    simp [call, made, hdone, Except.isOk, Except.toBool]
  have hrun : Call.run x.store (.updatePost p) = { x.store with
      clock := now
      posts := x.store.posts.insert p.id (revised q p now) } := by
    simp only [Call.run, hdone]
  have hposts : ∀ id, (x.call (.updatePost p)).store.posts.get? id =
      if id = p.id then some (revised q p now) else x.store.posts.get? id := fun id => by
    simp only [call, hrun, Table.get?_insert]
  have hlast : (x.call (.updatePost p)).store.lastId = x.store.lastId := by
    simp only [call, hrun]
  have hnext : (revised q p now).version.toInt = q.version.toInt + 1 := toInt_add_one_of_ne hmax
  exact {
    numbered := h.numbered.call (.updatePost p)
    known := fun g hg => by
      rw [hlast]
      rw [hupdates] at hg
      rcases List.mem_cons.1 hg with rfl | hg
      · exact (h.numbered.posts _ q hq).2
      · exact h.known g hg
    version := fun id r hr => by
      rw [hposts] at hr
      rw [updatesOf, hupdates, List.countP_cons]
      split at hr
      · rename_i hid
        cases hr
        have := h.version p.id q hq
        rw [updatesOf] at this
        simp only [hid, beq_self_eq_true, if_true]
        push_cast
        omega
      · rename_i hid
        have hne : (p.id == id) = false := beq_false_of_ne (Ne.symm hid)
        simpa [hne, updatesOf] using h.version id r hr
    behind := fun id r hr g hg hgid => by
      rw [hposts] at hr
      rw [hupdates] at hg
      split at hr
      · rename_i hid
        cases hr
        rcases List.mem_cons.1 hg with rfl | hg
        · rw [hnext, hv]
          omega
        · have := h.behind p.id q hq g hg (hgid.trans hid)
          omega
      · rename_i hid
        rcases List.mem_cons.1 hg with rfl | hg
        · exact absurd hgid.symm hid
        · exact h.behind id r hr g hg hgid
    once := fun id v => by
      rw [updatesFrom, hupdates, List.countP_cons]
      by_cases hg : (p.id == id && p.version == v) = true
      · -- The updates that were made before are of earlier versions.
        have hzero : x.updates.countP (fun g => g.id == id && g.version == v) = 0 := by
          rw [List.countP_eq_zero]
          intro g hmem hgv
          simp only [Bool.and_eq_true, beq_iff_eq] at hg hgv
          have := h.behind p.id q hq g hmem (hgv.1.trans hg.1.symm)
          rw [hv, hg.2, hgv.2] at this
          omega
        rw [if_pos hg]
        omega
      · rw [if_neg hg]
        exact h.once id v
    loaded := fun e he => hlast ▸ h.loaded e he
    snapshot := fun e he r hr => by
      rw [hposts] at hr
      split at hr
      · rename_i hid
        cases hr
        have hle := (h.snapshot e he q (hid ▸ hq)).1
        refine ⟨by omega, fun heq => ?_⟩
        rw [← heq] at hle
        omega
      · exact h.snapshot e he r hr }

theorem Sound.call (h : x.Sound) (c : Call) : (x.call c).Sound := by
  cases c with
  | updatePost p =>
    rcases updatePost_cases p x.store with
      ⟨-, he⟩ | ⟨now, -, ⟨-, he⟩ | ⟨q, hq, hv, ⟨-, he⟩ | ⟨hmax, he⟩⟩⟩
    · exact h.call_other (by simp [made, he, Except.isOk, Except.toBool]) fun _ _ => by
        simp [Call.run, he]
    · exact h.call_other (by simp [made, he, Except.isOk, Except.toBool]) fun _ _ => by
        simp [Call.run, he]
    · exact h.call_other (by simp [made, he, Except.isOk, Except.toBool]) fun _ _ => by
        simp [Call.run, he]
    · exact h.call_update hq hv hmax he
  | _ => exact h.call_other rfl fun _ hc => by cases hc

/-- Edits that are no longer underway need not be known. -/
theorem Sound.underway {es : List Edit} (h : x.Sound) (hes : ∀ e ∈ es, e ∈ x.underway) :
    Sound { x with underway := es } where
  numbered := h.numbered
  known := h.known
  version := h.version
  behind := h.behind
  once := h.once
  loaded e he := h.loaded e (hes e he)
  snapshot e he := h.snapshot e (hes e he)

theorem Sound.step (h : x.Sound) (m : Move) : (x.step m).Sound := by
  cases m with
  | load id patch =>
    simp only [Editing.step, getPost]
    cases hp : x.store.posts.get? id with
    | none => exact h
    | some p =>
      obtain ⟨hid, hle⟩ := h.numbered.posts id p hp
      exact { h with
        loaded := fun e he => by
          rcases List.mem_cons.1 he with rfl | he
          · exact hid ▸ hle
          · exact h.loaded e he
        snapshot := fun e he q hq => by
          rcases List.mem_cons.1 he with rfl | he
          · rw [hid, hp] at hq
            cases hq
            exact ⟨Int.le_refl _, fun _ => rfl⟩
          · exact h.snapshot e he q hq }
  | write n =>
    simp only [Editing.step]
    split
    · exact (h.call _).underway fun e he => List.mem_of_mem_eraseIdx he
    · exact h
  | call c => exact h.call c

theorem Sound.run (h : x.Sound) (ms : List Move) : (x.run ms).Sound := by
  induction ms generalizing x with
  | nil => exact h
  | cons m ms ih => exact ih (h.step m)

/-! ## The clock during the moves -/

/-- The last second of the year 9999. -/
def lastSecond : Int := 253402300799

theorem ticks_of_nanos {s : Store} (hoff : s.clock.offset = 0) (hlo : 0 ≤ s.clock.nanos)
    (hhi : s.clock.nanos < lastSecond * Timestamp.second) : s.Ticks := by
  have hrange : Timestamp.InRange ⟨s.clock.nanos + Timestamp.second, s.clock.offset⟩ := by
    have hfirst : Time.yearStart (-9999) = -3652059 := by decide
    have hlast : Time.yearStart 10000 = 3652425 := by decide
    have hepoch : Time.epochDay = 719528 := by decide
    simp only [Timestamp.InRange, Timestamp.localDay, Timestamp.localNanos, Timestamp.day,
      Timestamp.second, lastSecond, hoff, hfirst, hlast, hepoch] at hhi ⊢
    omega
  simp [Ticks, Timestamp.add?, hrange]

theorem clock_step (x : Editing) (m : Move) :
    (x.step m).store.clock = x.store.clock ∨
      x.store.clock.add? Timestamp.second = some (x.step m).store.clock := by
  cases m with
  | load id patch =>
    simp only [Editing.step]
    split <;> exact .inl rfl
  | write n =>
    simp only [Editing.step]
    split
    · exact clock_call _ x.store
    · exact .inl rfl
  | call c => exact clock_call c x.store

theorem nanos_run (ms : List Move) (x : Editing) (hoff : x.store.clock.offset = 0) :
    (x.run ms).store.clock.offset = 0 ∧ x.store.clock.nanos ≤ (x.run ms).store.clock.nanos ∧
      (x.run ms).store.clock.nanos ≤ x.store.clock.nanos + ms.length * Timestamp.second := by
  induction ms generalizing x with
  | nil => simp [Editing.run, hoff]
  | cons m ms ih =>
    have hstep : (x.step m).store.clock.offset = 0 ∧
        x.store.clock.nanos ≤ (x.step m).store.clock.nanos ∧
        (x.step m).store.clock.nanos ≤ x.store.clock.nanos + Timestamp.second := by
      rcases clock_step x m with h | h
      · rw [h]
        exact ⟨hoff, Int.le_refl _, by simp only [Timestamp.second]; omega⟩
      · obtain ⟨-, h⟩ := Option.ite_none_right_eq_some.1 h
        rw [← Option.some.inj h]
        exact ⟨hoff, by simp only [Timestamp.second]; omega, Int.le_refl _⟩
    obtain ⟨hoff', hlo, hhi⟩ := ih (x.step m) hstep.1
    have hrun : x.run (m :: ms) = (x.step m).run ms := rfl
    rw [hrun]
    refine ⟨hoff', by omega, ?_⟩
    simp only [List.length_cons, Timestamp.second] at *
    push_cast
    omega

/-- The clock goes on for more than two hundred billion moves. -/
theorem ticks_run {ms : List Move} (h : ms.length < 251825500799) : (run ms start).store.Ticks := by
  obtain ⟨hoff, hlo, hhi⟩ := nanos_run ms start rfl
  have hstart : start.store.clock.nanos = 1576800000 * Timestamp.second := rfl
  rw [hstart] at hlo hhi
  refine ticks_of_nanos hoff ?_ ?_
  · simp only [Timestamp.second] at hlo
    omega
  · simp only [Timestamp.second, lastSecond] at hhi ⊢
    omega

/-! ## Deletion ends all edits -/

theorem run_append (ms ms' : List Move) (x : Editing) : x.run (ms ++ ms') = (x.run ms).run ms' :=
  List.foldl_append

theorem get?_posts_step_eq_none {id : Int64} (m : Move) (hid : id.toInt ≤ x.store.lastId.toInt)
    (h : x.store.posts.get? id = none) :
    id.toInt ≤ (x.step m).store.lastId.toInt ∧ (x.step m).store.posts.get? id = none := by
  have hcall : ∀ c, id.toInt ≤ (x.call c).store.lastId.toInt ∧
      (x.call c).store.posts.get? id = none := fun c =>
    ⟨Int.le_trans hid (lastId_call c x.store), get?_posts_run_eq_none [c] hid h⟩
  cases m with
  | load i patch =>
    simp only [Editing.step]
    split <;> exact ⟨hid, h⟩
  | write n =>
    simp only [Editing.step]
    split
    · exact hcall _
    · exact ⟨hid, h⟩
  | call c => exact hcall c

theorem get?_posts_moves_eq_none {id : Int64} (ms : List Move)
    (hid : id.toInt ≤ x.store.lastId.toInt) (h : x.store.posts.get? id = none) :
    (x.run ms).store.posts.get? id = none := by
  induction ms generalizing x with
  | nil => exact h
  | cons m ms ih =>
    obtain ⟨hid', h'⟩ := get?_posts_step_eq_none m hid h
    exact ih hid' h'

/-- A post that is deleted after it was loaded is never current again. -/
theorem Sound.not_isCurrent_of_deleted (h : x.Sound) {e : Edit} (he : e ∈ x.underway)
    (ms : List Move) : ¬ ((x.call (.deletePost e.loaded.id)).run ms).store.IsCurrent e.given := by
  rintro ⟨q, hq, -⟩
  have hid : e.given.id = e.loaded.id := rfl
  have hgone : (x.call (.deletePost e.loaded.id)).store.posts.get? e.loaded.id = none := by
    simp [Editing.call, Call.run, deletePost, Table.get?_erase]
  have hle : e.loaded.id.toInt ≤ (x.call (.deletePost e.loaded.id)).store.lastId.toInt :=
    Int.le_trans (h.loaded e he) (lastId_call (.deletePost e.loaded.id) x.store)
  rw [hid, get?_posts_moves_eq_none ms hle hgone] at hq
  cases hq

/-- **Optimistic versions.** However loads, writes and other calls follow one another: the version
of a stored post is one more than the number of its updates, at most one update is ever made of a
version, an update is made exactly if the post is stored with the version given (and no number is
at its end, which the clock is not for a long time), a write of a post that has been deleted since
it was loaded is a conflict, and an update that is not made changes no record. -/
theorem versions_count_updates (ms : List Move) :
    let x := run ms start
    (∀ id p, x.store.posts.get? id = some p → p.version.toInt = 1 + x.updatesOf id) ∧
      (∀ id v, x.updatesFrom id v ≤ 1) ∧
      (∀ p, (∃ q, (x.store.updatePost p).1 = .ok q) ↔
        x.store.Ticks ∧ x.store.IsCurrent p ∧ p.version ≠ Int32.maxValue) ∧
      (ms.length < 251825500799 → x.store.Ticks) ∧
      (∀ e ∈ x.underway, ∀ ms',
        let y := run (ms ++ .call (.deletePost e.loaded.id) :: ms') start
        y.store.Ticks →
          (y.store.updatePost e.given).1 = .error (.failed .versionConflict)) ∧
      ∀ p e, (x.store.updatePost p).1 = .error e →
        SameRecords x.store (x.store.updatePost p).2 := by
  intro x
  have hx : x.Sound := Sound.start.run ms
  refine ⟨hx.version, hx.once, fun p => updatePost_eq_ok_iff p x.store, ticks_run, ?_, ?_⟩
  · intro e he ms' y hticks
    have hy : y = (x.call (.deletePost e.loaded.id)).run ms' := run_append ms _ start
    have hgone := hx.not_isCurrent_of_deleted he ms'
    rw [← hy] at hgone
    exact (updatePost_eq_conflict_iff e.given y.store).2 ⟨hticks, hgone⟩
  · intro p e he
    exact {
      users := by simp
      invitations := by simp
      posts := posts_updatePost_of_error he
      comments := by simp
      follows := by simp }

/-! ## What a write leaves of other edits -/

/-- A stored post with what a patch names set, one version on. -/
def patched (q : Post) (patch : PostPatch) (now : Timestamp) : Post :=
  { q with
    title := patch.title.getD q.title
    content := patch.content.getD q.content
    tags := patch.tags.getD q.tags
    updatedAt := now
    version := q.version + 1 }

/-- The loaded post has what the patch does not name in common with another one. -/
def Agrees (e : Edit) (q : Post) : Prop :=
  (e.patch.title = none → e.loaded.title = q.title) ∧
    (e.patch.content = none → e.loaded.content = q.content) ∧
    (e.patch.tags = none → e.loaded.tags = q.tags)

theorem getD_eq_getD_iff {α : Type} (o : Option α) (a b : α) :
    o.getD a = o.getD b ↔ (o = none → a = b) := by
  cases o <;> simp

theorem revised_eq_patched_iff (e : Edit) (q : Post) (now : Timestamp) :
    revised q e.given now = patched q e.patch now ↔ Agrees e q := by
  simp only [revised, patched, Edit.given, PostPatch.apply, Agrees, Post.mk.injEq, true_and,
    and_true, getD_eq_getD_iff]

/-- As long as the patch names no later version than the loaded one, a write that is made finds the
post as it was loaded. -/
theorem Sound.eq_loaded_of_isCurrent {e : Edit} (h : x.Sound) (he : e ∈ x.underway) {q : Post}
    (hq : x.store.posts.get? e.loaded.id = some q) (hv : q.version = e.given.version)
    (hpatch : ∀ v, e.patch.version = some v → v ≤ e.loaded.version) : q = e.loaded := by
  obtain ⟨hle, heq⟩ := h.snapshot e he q hq
  refine heq ?_
  rw [hv] at hle ⊢
  cases hp : e.patch.version with
  | none => simp [Edit.given, PostPatch.apply, hp]
  | some v =>
    have hgiven : e.given.version = v := by simp [Edit.given, PostPatch.apply, hp]
    have hvle := Int32.le_iff_toInt_le.1 (hpatch v hp)
    rw [hgiven] at hle ⊢
    exact Int32.toInt_inj.1 (Int.le_antisymm hvle hle)

/-- **When a write keeps what others wrote.** A write that is made leaves the stored post with
nothing but what its patch names replaced exactly if the loaded post agrees with the stored one in
all else. That is so whenever the patch names no version, or none later than the loaded one. -/
theorem write_keeps_unnamed_iff (ms : List Move) (e : Edit) (r : Post)
    (he : e ∈ (run ms start).underway)
    (hr : ((run ms start).store.updatePost e.given).1 = .ok r) :
    let s := (run ms start).store
    let t := (s.updatePost e.given).2
    ∃ q, s.posts.get? e.loaded.id = some q ∧ t.posts.get? e.loaded.id = some r ∧
      (∀ id, id ≠ e.loaded.id → t.posts.get? id = s.posts.get? id) ∧
      (r = patched q e.patch t.clock ↔ Agrees e q) ∧
      ((∀ v, e.patch.version = some v → v ≤ e.loaded.version) →
        r = patched q e.patch t.clock) := by
  intro s t
  have hx : (run ms start).Sound := Sound.start.run ms
  rcases updatePost_cases e.given s with
    ⟨-, hu⟩ | ⟨now, -, ⟨-, hu⟩ | ⟨q, hq, hv, ⟨-, hu⟩ | ⟨-, hu⟩⟩⟩
  · rw [hu] at hr
    cases hr
  · rw [hu] at hr
    cases hr
  · rw [hu] at hr
    cases hr
  · rw [hu] at hr
    cases hr
    have ht : t = { s with
        clock := now
        posts := s.posts.insert e.given.id (revised q e.given now) } := congrArg Prod.snd hu
    have hid : e.given.id = e.loaded.id := rfl
    refine ⟨q, hq, ?_, ?_, ?_, ?_⟩
    · rw [ht, hid, Table.get?_insert, if_pos rfl]
    · intro id hne
      rw [ht, hid, Table.get?_insert, if_neg hne]
    · rw [ht]
      exact revised_eq_patched_iff e q now
    · intro hpatch
      have hloaded := hx.eq_loaded_of_isCurrent he hq hv hpatch
      rw [ht]
      exact (revised_eq_patched_iff e q now).2
        (hloaded ▸ ⟨fun _ => rfl, fun _ => rfl, fun _ => rfl⟩)

/-- Two clients load a new post. The first one changes its title, which makes version 2, and the
second one, whose post is of version 1, names version 2 for a change of the content. -/
def race : List Move := [
  .call (.createPost ⟨1, "first", "draft", []⟩),
  .load 101 ⟨none, some "final", none, some 2⟩,
  .load 101 ⟨some "second", none, none, none⟩,
  .write 0]

/-- The post as both clients load it. -/
def raced : Post := ⟨101, 1, "first", "draft", [], .ofUnix 1576800001, .ofUnix 1576800001, 1⟩

/-- The edit that is left after the race. -/
def lateEdit : Edit := ⟨raced, ⟨none, some "final", none, some 2⟩⟩

/-- The title that the first client has written is lost in the write of the second one, which
names no title. -/
theorem race_loses_title :
    ∃ ms e q r, e ∈ (run ms start).underway ∧ e.patch.title = none ∧
      (run ms start).store.posts.get? e.loaded.id = some q ∧
      ((run ms start).store.updatePost e.given).1 = .ok r ∧
      r.title ≠ q.title ∧ ∀ now, r ≠ patched q e.patch now := by
  refine ⟨race, lateEdit,
    { raced with title := "second", updatedAt := .ofUnix 1576800002, version := 2 },
    { raced with content := "final", updatedAt := .ofUnix 1576800003, version := 3 },
    by decide, rfl, by decide, by rfl, by decide, ?_⟩
  intro now h
  have htitle : "first" = "second" := congrArg Post.title h
  revert htitle
  decide

theorem write_keeps_unnamed_iff_race :
    lateEdit ∈ (run race start).underway ∧
      ∃ q, (run race start).store.posts.get? 101 = some q ∧
        ({ raced with content := "final", updatedAt := .ofUnix 1576800003, version := 3 } =
            patched q lateEdit.patch (.ofUnix 1576800003) ↔ Agrees lateEdit q) := by
  have he : lateEdit ∈ (run race start).underway := by decide
  obtain ⟨q, hq, -, -, hiff, -⟩ := write_keeps_unnamed_iff race lateEdit
    { raced with content := "final", updatedAt := .ofUnix 1576800003, version := 3 } he (by rfl)
  exact ⟨he, q, hq, hiff⟩

end Editing

end Microblog.Store
