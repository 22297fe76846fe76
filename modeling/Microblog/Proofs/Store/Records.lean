import Microblog.Proofs.Store.Calls

/-!
# What becomes of a record

A run of calls seen from one id that has been given already. A post under it is
revised by updates and goes by its deletion; a comment is changed by updates of
it, and goes by its own deletion or by that of its post. What is gone never
comes back.
-/

namespace Microblog.Store

open Account Content

variable {s : Store} {id : Int64}

/-! ## One call -/

theorem get?_posts_call (hid : id.toInt ≤ s.lastId.toInt) (c : Call) :
    (c.run s).posts.get? id = s.posts.get? id ∨
      (c = .deletePost id ∧ (c.run s).posts.get? id = none) ∨
      ∃ p q now, c = .updatePost p ∧ p.id = id ∧ s.posts.get? id = some q ∧
        q.version = p.version ∧ q.version ≠ Int32.maxValue ∧
        (c.run s).posts.get? id = some (revised q p now) := by
  rcases posts_call c s with he | ⟨d, i, now, -, hi, -, he⟩ | ⟨p, q, now, hc, hq, hv, hmax, he⟩ |
    ⟨i, hc, he⟩ <;> rw [he]
  · exact .inl rfl
  · rw [Table.get?_insert, if_neg (by rintro rfl; omega)]
    exact .inl rfl
  · rw [Table.get?_insert]
    split
    · rename_i h
      subst h
      exact .inr (.inr ⟨p, q, now, hc, rfl, hq, hv, hmax, rfl⟩)
    · exact .inl rfl
  · rw [Table.get?_erase]
    split
    · rename_i h
      subst h
      exact .inr (.inl ⟨hc, rfl⟩)
    · exact .inl rfl

theorem get?_comments_call (hid : id.toInt ≤ s.lastId.toInt) (c : Call) :
    (c.run s).comments.get? id = s.comments.get? id ∨
      (c = .deleteComment id ∧ (c.run s).comments.get? id = none) ∨
      (∃ d, s.comments.get? id = some d ∧ c = .deletePost d.postId ∧
        (c.run s).comments.get? id = none) ∨
      ∃ e d, c = .updateComment e ∧ e.id = id ∧ s.comments.get? id = some d ∧
        (c.run s).comments.get? id = some { d with content := e.content } := by
  rcases comments_call c s with he | ⟨d, i, now, name, -, -, hi, -, he⟩ | ⟨e, d, hc, hd, he⟩ |
    ⟨i, hc, he⟩ | ⟨i, hc, he⟩ <;> rw [he]
  · exact .inl rfl
  · rw [Table.get?_insert, if_neg (by rintro rfl; omega)]
    exact .inl rfl
  · rw [Table.get?_insert]
    split
    · rename_i h
      subst h
      exact .inr (.inr (.inr ⟨e, d, hc, rfl, hd, rfl⟩))
    · exact .inl rfl
  · rw [Table.get?_erase]
    split
    · rename_i h
      subst h
      exact .inr (.inl ⟨hc, rfl⟩)
    · exact .inl rfl
  · rw [Table.get?_filter]
    cases hd : s.comments.get? id with
    | none => exact .inl rfl
    | some d =>
      by_cases h : d.postId = i
      · subst h
        exact .inr (.inr (.inl ⟨d, rfl, hc, by simp [Option.filter]⟩))
      · exact .inl (by simp [Option.filter, h])

/-- A post that is stored after a call was so before, is new, or has been revised. -/
theorem post_of_call {c : Call} {p : Post} (hp : (c.run s).posts.get? id = some p) :
    s.posts.get? id = some p ∨
      (∃ d now, c = .createPost d ∧ id.toInt = s.lastId.toInt + 1 ∧
        p = ⟨id, d.userId, d.title, d.content, d.tags, now, now, 1⟩) ∨
      ∃ g q now, c = .updatePost g ∧ g.id = id ∧ s.posts.get? id = some q ∧ p = revised q g now := by
  rcases posts_call c s with he | ⟨d, i, now, hc, hi, -, he⟩ | ⟨g, q, now, hc, hq, -, -, he⟩ |
    ⟨i, -, he⟩ <;> rw [he] at hp
  · exact .inl hp
  · rw [Table.get?_insert] at hp
    split at hp
    · rename_i hid
      cases hp
      exact .inr (.inl ⟨d, now, hc, hid ▸ hi, hid ▸ rfl⟩)
    · exact .inl hp
  · rw [Table.get?_insert] at hp
    split at hp
    · rename_i hid
      cases hp
      exact .inr (.inr ⟨g, q, now, hc, hid.symm, hid ▸ hq, rfl⟩)
    · exact .inl hp
  · rw [Table.get?_erase] at hp
    split at hp
    · cases hp
    · exact .inl hp

/-- A comment that is stored after a call was so before, is new and on a stored post, or has been
changed in its content; the call has not deleted its post. -/
theorem comment_of_call {c : Call} {d : Comment} (hd : (c.run s).comments.get? id = some d) :
    c ≠ .deletePost d.postId ∧
      (s.comments.get? id = some d ∨
        (∃ e now name, c = .createComment e ∧ s.posts.contains e.postId ∧
          d = ⟨id, e.postId, e.userId, e.content, now, name⟩) ∨
        ∃ e d', c = .updateComment e ∧ e.id = id ∧ s.comments.get? id = some d' ∧
          d = { d' with content := e.content }) := by
  constructor
  · rintro rfl
    change (s.comments.filter fun _ d' => d'.postId != d.postId).get? id = some d at hd
    rw [Table.get?_filter, Option.filter_eq_some_iff] at hd
    simp at hd
  rcases comments_call c s with he | ⟨e, i, now, name, hc, hpost, -, -, he⟩ | ⟨e, d', hc, hd', he⟩ |
    ⟨i, -, he⟩ | ⟨i, -, he⟩ <;> rw [he] at hd
  · exact .inl hd
  · rw [Table.get?_insert] at hd
    split at hd
    · rename_i hid
      cases hd
      exact .inr (.inl ⟨e, now, name, hc, hpost, hid ▸ rfl⟩)
    · exact .inl hd
  · rw [Table.get?_insert] at hd
    split at hd
    · rename_i hid
      cases hd
      exact .inr (.inr ⟨e, d', hc, hid.symm, hid ▸ hd', rfl⟩)
    · exact .inl hd
  · rw [Table.get?_erase] at hd
    split at hd
    · cases hd
    · exact .inl hd
  · rw [Table.get?_filter, Option.filter_eq_some_iff] at hd
    exact .inl hd.1

/-! ## A run of calls -/

theorem get?_posts_run_eq_none (cs : List Call) (hid : id.toInt ≤ s.lastId.toInt)
    (h : s.posts.get? id = none) : (run cs s).posts.get? id = none := by
  induction cs generalizing s with
  | nil => exact h
  | cons c cs ih =>
    refine ih (Int.le_trans hid (lastId_call c s)) ?_
    rcases get?_posts_call hid c with he | ⟨-, he⟩ | ⟨p, q, now, -, -, hq, -, -, -⟩
    · rw [he, h]
    · exact he
    · rw [h] at hq
      cases hq

theorem get?_comments_run_eq_none (cs : List Call) (hid : id.toInt ≤ s.lastId.toInt)
    (h : s.comments.get? id = none) : (run cs s).comments.get? id = none := by
  induction cs generalizing s with
  | nil => exact h
  | cons c cs ih =>
    refine ih (Int.le_trans hid (lastId_call c s)) ?_
    rcases get?_comments_call hid c with he | ⟨-, he⟩ | ⟨d, -, -, he⟩ | ⟨e, d, -, -, hd, -⟩
    · rw [he, h]
    · exact he
    · exact he
    · rw [h] at hd
      cases hd

theorem deletePost_mem_of_run {cs : List Call} {p : Post} (hs : Numbered s)
    (hp : s.posts.get? id = some p) (h : (run cs s).posts.get? id = none) :
    .deletePost id ∈ cs := by
  induction cs generalizing s p with
  | nil =>
    rw [run_nil, hp] at h
    cases h
  | cons c cs ih =>
    rcases get?_posts_call (hs.posts id p hp).2 c with he | ⟨hc, -⟩ | ⟨g, q, now, -, -, -, -, -, he⟩
    · exact List.mem_cons_of_mem c (ih (hs.call c) (he.trans hp) h)
    · exact hc ▸ List.mem_cons_self
    · exact List.mem_cons_of_mem c (ih (hs.call c) he h)

theorem get?_posts_run_of_mem {cs : List Call} (hid : id.toInt ≤ s.lastId.toInt)
    (h : .deletePost id ∈ cs) : (run cs s).posts.get? id = none := by
  induction cs generalizing s with
  | nil => cases h
  | cons c cs ih =>
    have hle := Int.le_trans hid (lastId_call c s)
    rcases List.mem_cons.1 h with rfl | h
    · refine get?_posts_run_eq_none cs hle ?_
      simp [Call.run, deletePost, Table.get?_erase]
    · exact ih hle h

theorem updatePost_mem_of_run {cs : List Call} {p q : Post} (hs : Numbered s)
    (hp : s.posts.get? id = some p) (hq : (run cs s).posts.get? id = some q) (hne : q ≠ p) :
    ∃ g, .updatePost g ∈ cs ∧ g.id = id := by
  induction cs generalizing s with
  | nil =>
    rw [run_nil, hp] at hq
    exact absurd (Option.some.inj hq).symm hne
  | cons c cs ih =>
    have hid := (hs.posts id p hp).2
    rcases get?_posts_call hid c with he | ⟨-, he⟩ | ⟨g, -, now, hc, hg, -, -, -, -⟩
    · obtain ⟨g, hmem, hg⟩ := ih (hs.call c) (he.trans hp) hq
      exact ⟨g, List.mem_cons_of_mem c hmem, hg⟩
    · have hnone := get?_posts_run_eq_none cs (Int.le_trans hid (lastId_call c s)) he
      rw [run_cons, hnone] at hq
      cases hq
    · exact ⟨g, hc ▸ List.mem_cons_self, hg⟩

theorem delete_mem_of_run {cs : List Call} {d : Comment} (hs : Numbered s)
    (hd : s.comments.get? id = some d) (h : (run cs s).comments.get? id = none) :
    .deleteComment id ∈ cs ∨ .deletePost d.postId ∈ cs := by
  induction cs generalizing s d with
  | nil =>
    rw [run_nil, hd] at h
    cases h
  | cons c cs ih =>
    rcases get?_comments_call (hs.comments id d hd).2 c with
      he | ⟨hc, -⟩ | ⟨d', hd', hc, -⟩ | ⟨e, d', -, -, hd', he⟩
    · exact (ih (hs.call c) (he.trans hd) h).imp (List.mem_cons_of_mem c) (List.mem_cons_of_mem c)
    · exact .inl (hc ▸ List.mem_cons_self)
    · rw [hd] at hd'
      cases hd'
      exact .inr (hc ▸ List.mem_cons_self)
    · rw [hd] at hd'
      cases hd'
      exact (ih (hs.call c) he h).imp (List.mem_cons_of_mem c) (List.mem_cons_of_mem c)

theorem updateComment_mem_of_run {cs : List Call} {d e : Comment} (hs : Numbered s)
    (hd : s.comments.get? id = some d) (he : (run cs s).comments.get? id = some e) (hne : e ≠ d) :
    ∃ g, .updateComment g ∈ cs ∧ g.id = id := by
  induction cs generalizing s with
  | nil =>
    rw [run_nil, hd] at he
    exact absurd (Option.some.inj he).symm hne
  | cons c cs ih =>
    have hid := (hs.comments id d hd).2
    have hgone : ∀ h : (c.run s).comments.get? id = none, False := fun h => by
      rw [run_cons, get?_comments_run_eq_none cs (Int.le_trans hid (lastId_call c s)) h] at he
      cases he
    rcases get?_comments_call hid c with h | ⟨-, h⟩ | ⟨-, -, -, h⟩ | ⟨g, -, hc, hg, -, -⟩
    · obtain ⟨g, hmem, hg⟩ := ih (hs.call c) (h.trans hd) he
      exact ⟨g, List.mem_cons_of_mem c hmem, hg⟩
    · exact (hgone h).elim
    · exact (hgone h).elim
    · exact ⟨g, hc ▸ List.mem_cons_self, hg⟩

end Microblog.Store
