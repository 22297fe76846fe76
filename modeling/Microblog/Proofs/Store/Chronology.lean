import Microblog.Proofs.Store.Records
import Microblog.Proofs.Store.Tables

/-!
# Ids and times

Users, posts and comments share one counter and one clock. A call creates one of
them at most, and gives it the next id and the next second (`holds_call`). So of
two records, at one time or at different times, the one with the greater id was
created later, and no id is given twice (`chronology_of_run`).
-/

namespace Microblog.Store

open Account Content

variable {s t : Store} {c : Call} {cs ds : List Call} {id : Int64}

/-! ## What is created -/

inductive Kind where
  | user
  | post
  | comment
  deriving DecidableEq

/-- What stays of a record as long as it is stored. -/
structure Entity where
  kind : Kind
  id : Int64
  createdAt : Timestamp

/-- When the record of a kind was created that stands under an id. -/
def createdAt? (s : Store) (id : Int64) : Kind → Option Timestamp
  | .user => (s.users.get? id).map (·.createdAt)
  | .post => (s.posts.get? id).map (·.createdAt)
  | .comment => (s.comments.get? id).map (·.createdAt)

/-- The record is stored. -/
def Holds (s : Store) (e : Entity) : Prop := s.createdAt? e.id e.kind = some e.createdAt

/-- The first has the lesser id and the earlier time. -/
def Entity.Before (e e' : Entity) : Prop :=
  e.id < e'.id ∧ e.createdAt.nanos < e'.createdAt.nanos

/-- Of two entities that are not the same, one comes before the other. -/
def Entity.Apart (e e' : Entity) : Prop := e = e' ∨ e.Before e' ∨ e'.Before e

section Apart

variable {e e' : Entity}

theorem Entity.Apart.symm (h : e.Apart e') : e'.Apart e := by
  rcases h with rfl | h | h
  · exact .inl rfl
  · exact .inr (.inr h)
  · exact .inr (.inl h)

theorem Entity.Apart.eq_of_id (h : e.Apart e') (hid : e.id = e'.id) : e = e' := by
  rcases h with h | ⟨h, -⟩ | ⟨h, -⟩
  · exact h
  · exact absurd (hid ▸ h) (Int64.lt_irrefl)
  · exact absurd (hid ▸ h) (Int64.lt_irrefl)

theorem Entity.Apart.eq_of_time (h : e.Apart e')
    (htime : e.createdAt.nanos = e'.createdAt.nanos) : e = e' := by
  rcases h with h | ⟨-, h⟩ | ⟨-, h⟩
  · exact h
  · omega
  · omega

theorem Entity.Apart.lt_iff (h : e.Apart e') :
    e.id < e'.id ↔ e.createdAt.nanos < e'.createdAt.nanos := by
  rcases h with rfl | h | ⟨hid, htime⟩
  · exact iff_of_false Int64.lt_irrefl (Int.lt_irrefl _)
  · exact iff_of_true h.1 h.2
  · exact iff_of_false (Int64.lt_asymm hid) (by omega)

end Apart

/-! ## One table -/

section Within

variable {V W : Type} {f : V → W} {P : Int64 → W → Prop} {u u' : Table Int64 V} {v v' : V}

/-- What one table shows of its values is new, or shown by the other one under the same id. -/
def Within (f : V → W) (P : Int64 → W → Prop) (u u' : Table Int64 V) : Prop :=
  ∀ id w, (u.get? id).map f = some w → P id w ∨ (u'.get? id).map f = some w

theorem Within.refl (u : Table Int64 V) : Within f P u u := fun _ _ h => .inr h

theorem within_filter (p : Int64 → V → Bool) : Within f P (u.filter p) u := by
  intro id w h
  obtain ⟨v, hv, rfl⟩ := Option.map_eq_some_iff.1 h
  rw [Table.get?_filter] at hv
  rw [(Option.filter_eq_some_iff.1 hv).1]
  exact .inr rfl

theorem within_modify {g : V → V} (hg : ∀ v, f (g v) = f v) (id : Int64) :
    Within f P (u.modify id g) u := by
  intro j w h
  rw [Table.get?_modify] at h
  split at h
  · obtain ⟨v', hv', rfl⟩ := Option.map_eq_some_iff.1 h
    obtain ⟨v, hv, rfl⟩ := Option.map_eq_some_iff.1 hv'
    rw [hv, hg]
    exact .inr rfl
  · exact .inr h

/-- A value that is changed shows what it did before. -/
theorem within_revise (hv : u.get? id = some v) (hf : f v' = f v) :
    Within f P (u.insert id v') u := by
  intro j w h
  rw [Table.get?_insert] at h
  split at h
  · rename_i hj
    rw [hj, hv, ← h]
    exact .inr (congrArg some hf.symm)
  · exact .inr h

theorem within_insert (hP : P id (f v)) : Within f P (u.insert id v) u := by
  intro j w h
  rw [Table.get?_insert] at h
  split at h
  · rename_i hj
    cases h
    exact .inl (hj ▸ hP)
  · exact .inr h

end Within

/-! ## One call -/

theorem holds_of_within {P : Entity → Prop}
    (husers : Within User.createdAt (fun id time => P ⟨.user, id, time⟩) t.users s.users)
    (hposts : Within Post.createdAt (fun id time => P ⟨.post, id, time⟩) t.posts s.posts)
    (hcomments : Within Comment.createdAt (fun id time => P ⟨.comment, id, time⟩)
      t.comments s.comments) (e : Entity) (h : t.Holds e) : P e ∨ s.Holds e := by
  obtain ⟨kind, id, time⟩ := e
  cases kind with
  | user => exact husers id time h
  | post => exact hposts id time h
  | comment => exact hcomments id time h

/-- The entity has been given the next id and the next second, and nothing else is new. -/
structure Adds (s t : Store) (e : Entity) : Prop where
  id : e.id.toInt = s.lastId.toInt + 1
  time : s.clock.add? Timestamp.second = some e.createdAt
  lastId : t.lastId = e.id
  clock : t.clock = e.createdAt
  alone : ∀ e', t.Holds e' → e' = e ∨ s.Holds e'

/-- Nothing is new. -/
def AddsNothing (s t : Store) : Prop := ∀ e, t.Holds e → s.Holds e

theorem addsNothing_of_within
    (husers : Within User.createdAt (fun _ _ => False) t.users s.users)
    (hposts : Within Post.createdAt (fun _ _ => False) t.posts s.posts)
    (hcomments : Within Comment.createdAt (fun _ _ => False) t.comments s.comments) :
    AddsNothing s t := fun e h =>
  (holds_of_within (P := fun _ => False) husers hposts hcomments e h).resolve_left not_false

/-- **Calls.** A call creates one record at most. -/
theorem holds_call (c : Call) (s : Store) :
    AddsNothing s (c.run s) ∨ ∃ e, Adds s (c.run s) e := by
  cases c with
  | insertUser u roleName active =>
    rw [Call.run]
    rcases insertUser_cases u roleName active s with he | ⟨id, now, hid, hnow, he⟩ <;> rw [he]
    · exact .inl fun _ h => h
    · exact .inr ⟨⟨.user, id, now⟩, hid, hnow, rfl, rfl,
        holds_of_within (within_insert rfl) (.refl _) (.refl _)⟩
  | createAndInvite u token ttl now =>
    rw [Call.run]
    rcases createAndInvite_cases u token ttl now s with
      ⟨e, he⟩ | ⟨id, at', hid, hat, ⟨-, he⟩ | ⟨expiry, -, he⟩⟩ <;> rw [he]
    · exact .inl fun _ h => h
    · exact .inr ⟨⟨.user, id, at'⟩, hid, hat, rfl, rfl,
        holds_of_within (within_insert rfl) (.refl _) (.refl _)⟩
    · exact .inr ⟨⟨.user, id, at'⟩, hid, hat, rfl, rfl,
        holds_of_within (within_insert rfl) (.refl _) (.refl _)⟩
  | createPost d =>
    rw [Call.run]
    rcases createPost_cases d s with he | ⟨id, now, hid, hnow, he⟩ <;> rw [he]
    · exact .inl fun _ h => h
    · exact .inr ⟨⟨.post, id, now⟩, hid, hnow, rfl, rfl,
        holds_of_within (.refl _) (within_insert rfl) (.refl _)⟩
  | createComment d =>
    rw [Call.run]
    rcases createComment_cases d s with ⟨e, he⟩ | ⟨id, now, -, hid, hnow, name, he⟩ <;> rw [he]
    · exact .inl fun _ h => h
    · exact .inr ⟨⟨.comment, id, now⟩, hid, hnow, rfl, rfl,
        holds_of_within (.refl _) (.refl _) (within_insert rfl)⟩
  | updatePost p =>
    rw [Call.run]
    rcases updatePost_cases p s with
      ⟨-, he⟩ | ⟨now, -, ⟨-, he⟩ | ⟨q, hq, -, ⟨-, he⟩ | ⟨-, he⟩⟩⟩ <;> rw [he]
    · exact .inl fun _ h => h
    · exact .inl fun _ h => h
    · exact .inl fun _ h => h
    · exact .inl (addsNothing_of_within (.refl _) (within_revise hq rfl) (.refl _))
  | updateComment d =>
    rw [Call.run]
    rcases updateComment_cases d s with ⟨-, he⟩ | ⟨d', hd', he⟩ <;> rw [he]
    · exact .inl fun _ h => h
    · exact .inl (addsNothing_of_within (.refl _) (.refl _) (within_revise hd' rfl))
  | renameUser id name =>
    refine .inl (addsNothing_of_within (within_modify ?_ id) (.refl _) (.refl _))
    exact fun _ => rfl
  | activate token now =>
    rw [Call.run]
    rcases activate_cases token now s with he | ⟨inv, -, -, he⟩ <;> rw [he]
    · exact .inl fun _ h => h
    · refine .inl (addsNothing_of_within (within_modify ?_ inv.userId) (.refl _) (.refl _))
      exact fun _ => rfl
  | follow a b =>
    rw [Call.run]
    rcases follow_cases a b s with ⟨f, he⟩ | ⟨-, -, he⟩ <;> rw [he]
    · exact .inl fun _ h => h
    · exact .inl fun _ h => h
  | deleteUser id => exact .inl (addsNothing_of_within (within_filter _) (.refl _) (.refl _))
  | deletePost id =>
    exact .inl (addsNothing_of_within (.refl _) (within_filter _) (within_filter _))
  | deleteComment id => exact .inl (addsNothing_of_within (.refl _) (.refl _) (within_filter _))
  | getUser id => exact .inl fun _ h => h
  | unfollow a b => exact .inl fun _ h => h
  | setRolesDown down => exact .inl fun _ h => h

theorem nanos_of_add? {time time' : Timestamp} {nanos : Int} (h : time.add? nanos = some time') :
    time'.nanos = time.nanos + nanos := by
  obtain ⟨-, h⟩ := Option.ite_none_right_eq_some.1 h
  cases h
  rfl

/-- The clock never goes back. -/
theorem nanos_call (c : Call) (s : Store) : s.clock.nanos ≤ (c.run s).clock.nanos := by
  rcases clock_call c s with he | he
  · exact Int.le_of_eq (congrArg Timestamp.nanos he.symm)
  · rw [nanos_of_add? he]
    exact Int.le_add_of_nonneg_right (by decide)

/-! ## The records of one store -/

/-- All records come one after the other, in the order of their ids, and none is later than the
clock. -/
structure Chronological (s : Store) : Prop where
  counted : ∀ e, s.Holds e → e.id ≤ s.lastId ∧ e.createdAt.nanos ≤ s.clock.nanos
  apart : ∀ e e', s.Holds e → s.Holds e' → e.Apart e'
  posts : s.posts.All fun p =>
    p.createdAt.nanos ≤ p.updatedAt.nanos ∧ p.updatedAt.nanos ≤ s.clock.nanos

theorem Chronological.initial : Chronological initial where
  counted := by
    rintro ⟨_ | _ | _, id, time⟩ h <;> cases h
  apart := by
    rintro ⟨_ | _ | _, id, time⟩ e' h <;> cases h
  posts id p h := by cases h

/-- What is created comes after all that is stored. -/
theorem Chronological.before_of_adds (h : Chronological s) {e e' : Entity} (hadds : Adds s t e')
    (he : s.Holds e) : e.Before e' := by
  obtain ⟨hid, htime⟩ := h.counted e he
  have hnanos := nanos_of_add? hadds.time
  rw [Int64.le_iff_toInt_le] at hid
  refine ⟨Int64.lt_iff_toInt_lt.2 ?_, ?_⟩
  · rw [hadds.id]
    omega
  · rw [hnanos, Timestamp.second]
    omega

theorem Chronological.posts_call (h : Chronological s) (c : Call) :
    (c.run s).posts.All fun p =>
      p.createdAt.nanos ≤ p.updatedAt.nanos ∧ p.updatedAt.nanos ≤ (c.run s).clock.nanos := by
  have hlater : ∀ {time : Timestamp}, s.clock.nanos ≤ time.nanos → s.posts.All fun p =>
      p.createdAt.nanos ≤ p.updatedAt.nanos ∧ p.updatedAt.nanos ≤ time.nanos :=
    fun hle id p hp => ⟨(h.posts id p hp).1, Int.le_trans (h.posts id p hp).2 hle⟩
  have hclock := nanos_call c s
  -- a new post and a revised one carry the time of the clock, which only their own outcomes tell
  rcases Store.posts_call c s with he | ⟨d, -, -, rfl, -, -, -⟩ | ⟨p, -, -, rfl, -, -, -, -⟩ |
    ⟨id, -, he⟩
  · rw [he]
    exact hlater hclock
  · rw [Call.run] at hclock ⊢
    rcases createPost_cases d s with he | ⟨id, now, -, -, he⟩ <;> rw [he] at hclock ⊢
    · exact h.posts
    · exact (hlater hclock).insert ⟨Int.le_refl _, Int.le_refl _⟩
  · rw [Call.run] at hclock ⊢
    rcases updatePost_cases p s with
      ⟨-, he⟩ | ⟨now, -, ⟨-, he⟩ | ⟨q, hq, -, ⟨-, he⟩ | ⟨-, he⟩⟩⟩ <;> rw [he] at hclock ⊢
    · exact h.posts
    · exact hlater hclock
    · exact hlater hclock
    · obtain ⟨hcreated, hupdated⟩ := hlater hclock p.id q hq
      exact (hlater hclock).insert ⟨Int.le_trans hcreated hupdated, Int.le_refl _⟩
  · rw [he]
    exact (hlater hclock).filter _

theorem Chronological.call (h : Chronological s) (c : Call) : Chronological (c.run s) where
  counted e he := by
    have hold : s.Holds e →
        e.id ≤ (c.run s).lastId ∧ e.createdAt.nanos ≤ (c.run s).clock.nanos := fun hs =>
      ⟨Int64.le_trans (h.counted e hs).1 (Int64.le_iff_toInt_le.2 (lastId_call c s)),
        Int.le_trans (h.counted e hs).2 (nanos_call c s)⟩
    rcases holds_call c s with hnothing | ⟨new, hadds⟩
    · exact hold (hnothing e he)
    · rcases hadds.alone e he with rfl | hs
      · rw [hadds.lastId, hadds.clock]
        exact ⟨Int64.le_refl _, Int.le_refl _⟩
      · exact hold hs
  apart e e' he he' := by
    rcases holds_call c s with hnothing | ⟨new, hadds⟩
    · exact h.apart e e' (hnothing e he) (hnothing e' he')
    · rcases hadds.alone e he with rfl | hs <;> rcases hadds.alone e' he' with rfl | hs'
      · exact .inl rfl
      · exact .inr (.inr (h.before_of_adds hadds hs'))
      · exact .inr (.inl (h.before_of_adds hadds hs))
      · exact h.apart e e' hs hs'
  posts := h.posts_call c

theorem Reachable.chronological (h : Reachable s) : Chronological s :=
  h.keeps .initial fun _ c hs => hs.call c

/-! ## Stores at two times -/

/-- What is stored after a run was stored before it, or has a greater id and a later time than all
that was. -/
theorem holds_run (cs : List Call) (s : Store) (e : Entity) (h : (run cs s).Holds e) :
    s.Holds e ∨ (s.lastId < e.id ∧ s.clock.nanos < e.createdAt.nanos) := by
  induction cs generalizing s with
  | nil => exact .inl h
  | cons c cs ih =>
    -- the entity is there after the first call, or it is created by the rest of the run
    rcases ih (c.run s) h with hnow | ⟨hid, htime⟩
    · rcases holds_call c s with hnothing | ⟨new, hadds⟩
      · exact .inl (hnothing e hnow)
      · rcases hadds.alone e hnow with rfl | hs
        · refine .inr ⟨Int64.lt_iff_toInt_lt.2 ?_, ?_⟩
          · rw [hadds.id]
            omega
          · rw [nanos_of_add? hadds.time]
            exact Int.lt_add_of_pos_right _ (by decide)
        · exact .inl hs
    · refine .inr ⟨?_, Int.lt_of_le_of_lt (nanos_call c s) htime⟩
      rw [Int64.lt_iff_toInt_lt] at hid ⊢
      exact Int.lt_of_le_of_lt (lastId_call c s) hid

theorem Chronological.apart_run (h : Chronological s) {e e' : Entity} (he : s.Holds e)
    (he' : (run cs s).Holds e') : e.Apart e' := by
  rcases holds_run cs s e' he' with hs | ⟨hid, htime⟩
  · exact h.apart e e' he hs
  · obtain ⟨hlast, hclock⟩ := h.counted e he
    exact .inr (.inl ⟨Int64.lt_of_le_of_lt hlast hid, Int.lt_of_le_of_lt hclock htime⟩)

/-- The author of a post and the time of its creation stay as long as the post. -/
theorem post_run {p q : Post} (hs : Numbered s) (hp : s.posts.get? id = some p)
    (hq : (run cs s).posts.get? id = some q) :
    q.userId = p.userId ∧ q.createdAt = p.createdAt := by
  induction cs generalizing s p with
  | nil =>
    cases hp.symm.trans hq
    exact ⟨rfl, rfl⟩
  | cons c cs ih =>
    have hid := (hs.posts id p hp).2
    rcases get?_posts_call hid c with he | ⟨-, he⟩ | ⟨g, p', now, -, -, hp', -, -, he⟩
    · exact ih (hs.call c) (he.trans hp) hq
    · have hnone := get?_posts_run_eq_none cs (Int.le_trans hid (lastId_call c s)) he
      cases hnone.symm.trans hq
    · cases hp.symm.trans hp'
      obtain ⟨huser, hcreated⟩ := ih (hs.call c) he hq
      exact ⟨huser, hcreated⟩

/-- Of a comment all but the content stays as long as the comment. -/
theorem comment_run {d d' : Comment} (hs : Numbered s) (hd : s.comments.get? id = some d)
    (hd' : (run cs s).comments.get? id = some d') : d' = { d with content := d'.content } := by
  induction cs generalizing s d with
  | nil =>
    cases hd.symm.trans hd'
    rfl
  | cons c cs ih =>
    have hid := (hs.comments id d hd).2
    have hgone : (c.run s).comments.get? id ≠ none := fun h => by
      have hnone := get?_comments_run_eq_none cs (Int.le_trans hid (lastId_call c s)) h
      cases hnone.symm.trans hd'
    rcases get?_comments_call hid c with he | ⟨-, he⟩ | ⟨-, -, -, he⟩ | ⟨e, d₁, -, -, hd₁, he⟩
    · exact ih (hs.call c) (he.trans hd) hd'
    · exact absurd he hgone
    · exact absurd he hgone
    · cases hd.symm.trans hd₁
      exact (ih (hs.call c) he hd').trans rfl

/-- What a store and a later one tell of each other. -/
structure Chronology (s t : Store) : Prop where
  /-- Every record stands under its own id. -/
  numbered : Numbered s
  /-- No id is given twice, also after the deletion of what had it. -/
  unique : ∀ e e', s.Holds e → t.Holds e' → e.id = e'.id → e = e'
  distinct : ∀ e e', s.Holds e → t.Holds e' → e.createdAt.nanos = e'.createdAt.nanos → e = e'
  /-- The order of creation is that of the ids. -/
  ordered : ∀ e e', s.Holds e → t.Holds e' →
    (e.id < e'.id ↔ e.createdAt.nanos < e'.createdAt.nanos) ∧
      (e'.id < e.id ↔ e'.createdAt.nanos < e.createdAt.nanos)
  /-- What comes later comes with a new id and a later time, so that nothing comes back. -/
  later : ∀ e, t.Holds e → s.Holds e ∨ (s.lastId < e.id ∧ s.clock.nanos < e.createdAt.nanos)
  posts : ∀ id p q, s.posts.get? id = some p → t.posts.get? id = some q →
    q.userId = p.userId ∧ q.createdAt = p.createdAt
  comments : ∀ id d d', s.comments.get? id = some d → t.comments.get? id = some d' →
    d'.postId = d.postId ∧ d'.userId = d.userId ∧ d'.username = d.username ∧
      d'.createdAt = d.createdAt
  updated : ∀ id p, s.posts.get? id = some p →
    p.createdAt.nanos ≤ p.updatedAt.nanos ∧ p.updatedAt.nanos ≤ s.clock.nanos

/-- **Ids and times.** At any two times of a run, the records are numbered and dated in one
order. -/
theorem chronology_of_run (cs ds : List Call) :
    Chronology (run cs initial) (run ds (run cs initial)) := by
  have hreach : Reachable (run cs initial) := ⟨cs, rfl⟩
  have h := hreach.chronological
  refine ⟨hreach.numbered, fun e e' he he' => (h.apart_run he he').eq_of_id,
    fun e e' he he' => (h.apart_run he he').eq_of_time,
    fun e e' he he' => ⟨(h.apart_run he he').lt_iff, (h.apart_run he he').symm.lt_iff⟩,
    holds_run ds _, fun id p q hp hq => post_run hreach.numbered hp hq, fun id d d' hd hd' => ?_,
    h.posts⟩
  rw [comment_run hreach.numbered hd hd']
  exact ⟨rfl, rfl, rfl, rfl⟩

end Microblog.Store
