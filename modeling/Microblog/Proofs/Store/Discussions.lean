import Microblog.Proofs.Store.Chronology
import Microblog.Proofs.Store.Feeds
import Microblog.Proofs.Store.Integrity

/-!
# The comments on a post

The comments on a post are those that have been created on it, less those that
were deleted, alone or with the post (`mem_listComments_run_iff`). They are dated
apart, so the order newest first leaves no choice, whatever the order of the table
(`Reordered.listComments`). A feed counts as many of them as are listed, and of a
deleted post there are none, nor does one come back (`discussions_of_run`).
-/

namespace Microblog.Store

open Account Content Feed

variable {s t : Store} {cs : List Call} {id post : Int64} {c d : Comment}

/-! ## What becomes of a comment -/

/-- The comment with the content that a call sets. -/
def Call.edit (d : Comment) : Call → Comment
  | updateComment e => if e.id = d.id then { d with content := e.content } else d
  | _ => d

/-- No call has deleted the comment or its post, and its content has been set by each update. -/
structure Survives (cs : List Call) (d c : Comment) : Prop where
  kept : .deleteComment d.id ∉ cs
  attached : .deletePost d.postId ∉ cs
  edited : c = cs.foldl Call.edit d

theorem edit_keeps (d : Comment) (a : Call) :
    (a.edit d).id = d.id ∧ (a.edit d).postId = d.postId := by
  cases a with
  | updateComment e =>
    rw [Call.edit]
    split <;> exact ⟨rfl, rfl⟩
  | _ => exact ⟨rfl, rfl⟩

theorem Survives.cons_iff {a : Call} : Survives (a :: cs) d c ↔
    a ≠ .deleteComment d.id ∧ a ≠ .deletePost d.postId ∧ Survives cs (a.edit d) c := by
  obtain ⟨hid, hpost⟩ := edit_keeps d a
  constructor
  · rintro ⟨hkept, hattached, hedited⟩
    rw [List.mem_cons, not_or] at hkept hattached
    refine ⟨Ne.symm hkept.1, Ne.symm hattached.1, ?_, ?_, hedited⟩
    · rw [hid]
      exact hkept.2
    · rw [hpost]
      exact hattached.2
  · rintro ⟨hself, hwhole, hkept, hattached, hedited⟩
    rw [hid] at hkept
    rw [hpost] at hattached
    exact ⟨List.not_mem_cons_of_ne_of_not_mem hself.symm hkept,
      List.not_mem_cons_of_ne_of_not_mem hwhole.symm hattached, hedited⟩

/-- A call deletes a stored comment, alone or with its post, or edits it. -/
theorem comment_after_call (hs : Numbered s) (hd : s.comments.get? d.id = some d) (a : Call) :
    ((a = .deleteComment d.id ∨ a = .deletePost d.postId) ∧
        (a.run s).comments.get? d.id = none) ∨
      (a ≠ .deleteComment d.id ∧ a ≠ .deletePost d.postId ∧
        (a.run s).comments.get? d.id = some (a.edit d)) := by
  cases a with
  | deleteComment i =>
    change _ ∨ (_ ∧ _ ∧ (s.comments.erase i).get? d.id = some d)
    by_cases hi : i = d.id
    · subst hi
      exact .inl ⟨.inl rfl, (Table.get?_erase _ _ _).trans (if_pos rfl)⟩
    · refine .inr ⟨fun h => hi (Call.deleteComment.inj h), by simp, ?_⟩
      rw [Table.get?_erase, if_neg (Ne.symm hi), hd]
  | deletePost i =>
    have hget : ((Call.deletePost i).run s).comments.get? d.id =
        (some d).filter fun c => c.postId != i := by
      rw [← hd]
      exact Table.get?_filter _ _ _
    rw [hget]
    by_cases hi : i = d.postId
    · subst hi
      exact .inl ⟨.inr rfl, by simp⟩
    · refine .inr ⟨by simp, fun h => hi (Call.deletePost.inj h), ?_⟩
      simp [Call.edit, Ne.symm hi]
  | updateComment e =>
    refine .inr ⟨by simp, by simp, ?_⟩
    rw [Call.run, Call.edit]
    rcases updateComment_cases e s with ⟨hnone, he⟩ | ⟨d', hd', he⟩ <;> rw [he]
    · have hne : e.id ≠ d.id := by
        intro h
        rw [h, hd] at hnone
        cases hnone
      rw [if_neg hne, hd]
    · change (s.comments.insert e.id _).get? d.id = _
      rw [Table.get?_insert]
      by_cases h : d.id = e.id
      · rw [if_pos h, if_pos h.symm]
        rw [← h, hd] at hd'
        cases hd'
        rfl
      · rw [if_neg h, if_neg (Ne.symm h), hd]
  | _ =>
    refine .inr ⟨by simp, by simp, ?_⟩
    rcases get?_comments_call (hs.comments d.id d hd).2 _ with he | ⟨hc, -⟩ | ⟨_, -, hc, -⟩ |
      ⟨_, _, hc, -⟩
    · exact he.trans hd
    all_goals cases hc

/-- **Comments.** What a run leaves of a stored comment. -/
theorem get?_comments_run_iff (hs : Numbered s) (hd : s.comments.get? d.id = some d) :
    (run cs s).comments.get? d.id = some c ↔ Survives cs d c := by
  induction cs generalizing s d with
  | nil =>
    rw [run_nil, hd, Option.some_inj]
    exact ⟨fun h => ⟨List.not_mem_nil, List.not_mem_nil, h.symm⟩, fun h => h.edited.symm⟩
  | cons a cs ih =>
    rw [run_cons, Survives.cons_iff]
    rcases comment_after_call hs hd a with ⟨hdeleted, hnone⟩ | ⟨hkept, hattached, hsome⟩
    · have hid := Int.le_trans (hs.comments d.id d hd).2 (lastId_call a s)
      rw [get?_comments_run_eq_none cs hid hnone]
      refine iff_of_false nofun ?_
      rintro ⟨hkept, hattached, -⟩
      exact hdeleted.elim hkept hattached
    · rw [← (edit_keeps d a).1] at hsome ⊢
      rw [ih (hs.call a) hsome, (edit_keeps d a).1]
      exact ⟨fun h => ⟨hkept, hattached, h⟩, fun h => h.2.2⟩

/-! ## Where comments come from -/

/-- What is created is stored under its id, and is on the post that it was made for. -/
theorem stored_of_createComment {draft : NewComment} (h : (s.createComment draft).1 = .ok d) :
    ((Call.createComment draft).run s).comments.get? d.id = some d ∧ d.postId = draft.postId := by
  rw [Call.run]
  rcases createComment_cases draft s with ⟨e, he⟩ | ⟨i, now, -, -, -, name, he⟩ <;> rw [he] at h ⊢
  · cases h
  · cases h
    exact ⟨(Table.get?_insert _ _ _ _).trans (if_pos rfl), rfl⟩

theorem origin_of_call {a : Call} (h : (a.run s).comments.get? id = some c) :
    (∃ d, s.comments.get? id = some d) ∨
      ∃ draft d, a = .createComment draft ∧ (s.createComment draft).1 = .ok d ∧ d.id = id := by
  rcases (comment_of_call h).2 with hold | ⟨draft, now, name, rfl, -, -⟩ | ⟨e, d, -, -, hd, -⟩
  · exact .inl ⟨c, hold⟩
  · rw [Call.run] at h
    rcases createComment_cases draft s with ⟨e, he⟩ | ⟨i, now, -, -, -, name, he⟩ <;> rw [he] at h
    · exact .inl ⟨c, h⟩
    · by_cases hi : id = i
      · exact .inr ⟨draft, _, rfl, congrArg Prod.fst he, hi.symm⟩
      · change (s.comments.insert i _).get? id = some c at h
        rw [Table.get?_insert, if_neg hi] at h
        exact .inl ⟨c, h⟩
  · exact .inl ⟨d, hd⟩

/-- Under the id of a comment one was stored before a run, or has been created by it. -/
theorem origin_of_run (h : (run cs s).comments.get? id = some c) :
    (∃ d, s.comments.get? id = some d) ∨
      ∃ earlier draft later d, cs = earlier ++ .createComment draft :: later ∧
        ((run earlier s).createComment draft).1 = .ok d ∧ d.id = id := by
  induction cs generalizing s with
  | nil => exact .inl ⟨c, h⟩
  | cons a cs ih =>
    rcases ih h with ⟨d, hd⟩ | ⟨earlier, draft, later, d, rfl, hcreated, hid⟩
    · rcases origin_of_call hd with hold | ⟨draft, d, rfl, hcreated, hid⟩
      · exact .inl hold
      · exact .inr ⟨[], draft, cs, d, rfl, hcreated, hid⟩
    · exact .inr ⟨a :: earlier, draft, later, d, rfl, hcreated, hid⟩

/-- The comment has been created on the post by one of the calls, and survives those after it. -/
def Remains (cs : List Call) (post : Int64) (c : Comment) : Prop :=
  ∃ earlier draft later created, cs = earlier ++ .createComment draft :: later ∧
    draft.postId = post ∧ ((run earlier initial).createComment draft).1 = .ok created ∧
    Survives later created c

theorem listComments_perm (s : Store) (post : Int64) :
    (s.listComments post).Perm (s.commentsOn post) := List.mergeSort_perm _ _

theorem mem_listComments_iff :
    c ∈ s.listComments post ↔ (∃ id, s.comments.get? id = some c) ∧ c.postId = post := by
  rw [(listComments_perm s post).mem_iff, commentsOn, List.mem_filter, Table.mem_values_iff,
    beq_iff_eq]

theorem foldl_edit_keeps (cs : List Call) (d : Comment) :
    (cs.foldl Call.edit d).id = d.id ∧ (cs.foldl Call.edit d).postId = d.postId := by
  induction cs generalizing d with
  | nil => exact ⟨rfl, rfl⟩
  | cons a cs ih =>
    obtain ⟨hid, hpost⟩ := edit_keeps d a
    exact ⟨(ih _).1.trans hid, (ih _).2.trans hpost⟩

/-- **Lists.** Listed are the comments that have been created and not deleted. -/
theorem mem_listComments_run_iff :
    c ∈ (run cs initial).listComments post ↔ Remains cs post c := by
  rw [mem_listComments_iff]
  have hnumbered (earlier : List Call) : Numbered (run earlier initial) := Numbered.initial.run _
  constructor
  · rintro ⟨⟨id, hc⟩, rfl⟩
    rcases origin_of_run hc with ⟨d, hd⟩ | ⟨earlier, draft, later, d, rfl, hcreated, rfl⟩
    · cases hd
    obtain ⟨hstored, hpost⟩ := stored_of_createComment hcreated
    rw [run_append, run_cons, get?_comments_run_iff ((hnumbered earlier).call _) hstored] at hc
    refine ⟨earlier, draft, later, d, rfl, ?_, hcreated, hc⟩
    rw [hc.edited, (foldl_edit_keeps later d).2, hpost]
  · rintro ⟨earlier, draft, later, d, rfl, rfl, hcreated, hc⟩
    obtain ⟨hstored, hpost⟩ := stored_of_createComment hcreated
    refine ⟨⟨d.id, ?_⟩, by rw [hc.edited, (foldl_edit_keeps later d).2, hpost]⟩
    rw [run_append, run_cons]
    exact (get?_comments_run_iff ((hnumbered earlier).call _) hstored).2 hc

/-! ## The order of a list -/

/-- Created later, and so with a greater id. -/
def Newer (a b : Comment) : Prop := b.id < a.id ∧ b.createdAt.nanos < a.createdAt.nanos

instance (a b : Comment) : Decidable (Newer a b) := inferInstanceAs (Decidable (_ ∧ _))

/-- What comments are sorted by. -/
def notOlder (a b : Comment) : Bool := b.createdAt.notAfter a.createdAt

theorem notOlder_iff {a b : Comment} :
    notOlder a b = true ↔ b.createdAt.nanos ≤ a.createdAt.nanos := decide_eq_true_iff

theorem notOlder_trans (a b c : Comment) (hab : notOlder a b = true) (hbc : notOlder b c = true) :
    notOlder a c = true := by
  rw [notOlder_iff] at *
  exact Int.le_trans hbc hab

theorem notOlder_total (a b : Comment) : (notOlder a b || notOlder b a) = true := by
  rw [Bool.or_eq_true, notOlder_iff, notOlder_iff]
  exact Int.le_total _ _

/-- Of two stored comments one is newer. -/
theorem newer_of_notOlder {a b : Comment} (hs : Chronological s)
    (ha : s.comments.get? a.id = some a) (hb : s.comments.get? b.id = some b)
    (hle : notOlder a b = true) (hne : a ≠ b) : Newer a b := by
  have hholds : ∀ {c}, s.comments.get? c.id = some c → s.Holds ⟨.comment, c.id, c.createdAt⟩ :=
    fun hc => congrArg (Option.map Comment.createdAt) hc
  rcases hs.apart _ _ (hholds ha) (hholds hb) with heq | ⟨-, hlt⟩ | hnewer
  · have hid : a.id = b.id := congrArg Entity.id heq
    rw [hid, hb] at ha
    exact absurd (Option.some.inj ha).symm hne
  · exact absurd hlt (Int.not_lt.2 (notOlder_iff.1 hle))
  · exact hnewer

/-- The comments on a post can be sorted in one way only, however they are given. -/
theorem pairwise_newer (hs : Reachable s) {l : List Comment} (hl : l.Perm (s.commentsOn post)) :
    (l.mergeSort notOlder).Pairwise Newer := by
  have hperm : (l.mergeSort notOlder).Perm (s.commentsOn post) := (List.mergeSort_perm _ _).trans hl
  have hsorted : (l.mergeSort notOlder).Pairwise fun a b => notOlder a b = true :=
    List.pairwise_mergeSort notOlder_trans notOlder_total _
  have hdistinct : (l.mergeSort notOlder).Nodup :=
    hperm.nodup_iff.2 ((List.Nodup.of_map _ hs.numbered.comments.nodup_values).filter _)
  have hstored : ∀ a ∈ l.mergeSort notOlder, s.comments.get? a.id = some a := by
    intro a ha
    obtain ⟨i, hi⟩ := Table.mem_values_iff.1 (List.mem_of_mem_filter (hperm.mem_iff.1 ha))
    rw [(hs.numbered.comments i a hi).1, hi]
  refine (hsorted.and hdistinct).imp_of_mem fun {a b} ha hb ⟨hle, hne⟩ => ?_
  exact newer_of_notOlder hs.chronological (hstored a ha) (hstored b hb) hle hne

theorem eq_of_pairwise_newer {l l' : List Comment} (hperm : l.Perm l') (hl : l.Pairwise Newer)
    (hl' : l'.Pairwise Newer) : l = l' := by
  refine hperm.eq_of_pairwise (fun a b _ _ hab hba => ?_) hl hl'
  exact absurd (Int.lt_trans hab.2 hba.2) (Int.lt_irrefl _)

theorem Reordered.commentsOn (h : Reordered s t) (post : Int64) :
    (t.commentsOn post).Perm (s.commentsOn post) := (h.comments.map Prod.snd).filter _

/-- The order of the table has no part in a list. -/
theorem Reordered.listComments (h : Reordered s t) (hs : Reachable s) (post : Int64) :
    t.listComments post = s.listComments post := by
  have hperm := (listComments_perm t post).trans (h.commentsOn post)
  exact eq_of_pairwise_newer (hperm.trans (listComments_perm s post).symm)
    (pairwise_newer hs (h.commentsOn post)) (pairwise_newer hs .rfl)

/-! ## Counts -/

/-- All ids that are given are positive. -/
theorem Reachable.id_pos (hs : Reachable s) {e : Entity} (he : s.Holds e) : 0 < e.id.toInt := by
  obtain ⟨cs, rfl⟩ := hs
  rcases holds_run cs initial e he with hinitial | ⟨hlast, -⟩
  · obtain ⟨_ | _ | _, id, time⟩ := e <;> cases hinitial
  · rw [Int64.lt_iff_toInt_lt] at hlast
    exact Int.lt_trans (by decide) hlast

/-- Ids of comments make no count too great. -/
theorem Reachable.length_commentsOn_lt (hs : Reachable s) (post : Int64) :
    (s.commentsOn post).length < 0x8000000000000000 := by
  refine Nat.lt_of_le_of_lt (List.length_filter_le _ _) (hs.numbered.comments.length_lt ?_)
  intro id c hc
  exact hs.id_pos (e := ⟨.comment, id, c.createdAt⟩) (congrArg (Option.map Comment.createdAt) hc)

theorem exists_of_mem_feed {viewer : Int64} {q : Query} {i : Item} (h : i ∈ s.feed viewer q) :
    ∃ p ∈ s.feedPosts viewer q, i = s.feedItem p := by
  unfold feed at h
  obtain ⟨p, hp, rfl⟩ := List.mem_map.1 h
  have hp := List.mem_of_mem_drop (List.mem_of_mem_take hp)
  refine ⟨p, ?_, rfl⟩
  cases hsort : q.sort with
  | asc =>
    rw [hsort] at hp
    exact hp
  | desc =>
    rw [hsort] at hp
    exact List.mem_reverse.1 hp

/-- What a feed counts is what is listed. -/
theorem commentsCount_of_mem_feed {viewer : Int64} {q : Query} {i : Item} (hs : Reachable s)
    (h : Reordered s t) (hi : i ∈ t.feed viewer q) :
    i.commentsCount.toInt = (t.listComments i.post.id).length := by
  obtain ⟨p, -, rfl⟩ := exists_of_mem_feed hi
  have hlt := hs.length_commentsOn_lt p.id
  rw [← (h.commentsOn p.id).length_eq] at hlt
  change (Int64.ofNat (t.commentsOn p.id).length).toInt = (t.listComments p.id).length
  rw [Int64.toInt_ofNat_of_lt hlt, listComments, List.length_mergeSort]

/-! ## Posts that are deleted -/

/-- Nothing is left of the comments on a post. -/
structure Gone (cs : List Call) (s : Store) (post : Int64) : Prop where
  unlisted : s.listComments post = []
  uncounted : ∀ viewer q, ∀ i ∈ s.feed viewer q, i.post.id ≠ post
  /-- Whatever comment has been on the post, it is not there to be fetched or edited. -/
  lost : ∀ earlier, earlier <+: cs → ∀ id d, (run earlier initial).comments.get? id = some d →
    d.postId = post → s.getComment id = .error .notFound ∧
      ∀ e, e.id = id → s.updateComment e = (.error .notFound, s)
  closed : ∀ draft, draft.postId = post →
    s.createComment draft = (.error (.failed .notFound), s)

/-- A comment that has been on a missing post is missing too. -/
theorem get?_comments_eq_none {earlier : List Call} (hearlier : earlier <+: cs)
    (hd : (run earlier initial).comments.get? id = some d)
    (hnone : (run cs initial).posts.get? d.postId = none) :
    (run cs initial).comments.get? id = none := by
  obtain ⟨later, rfl⟩ := hearlier
  refine Option.eq_none_iff_forall_ne_some.2 fun c hc => ?_
  have hs : Reachable (run (earlier ++ later) initial) := ⟨_, rfl⟩
  have hattached := hs.attached id c hc
  rw [run_append] at hc
  have hpost : c.postId = d.postId := by
    rw [comment_run (Numbered.initial.run earlier) hd hc]
  rw [hpost, Table.contains, hnone] at hattached
  cases hattached

theorem gone_of_get?_eq_none (h : Reordered (run cs initial) t)
    (hnone : (run cs initial).posts.get? post = none) : Gone cs t post := by
  have hs : Reachable (run cs initial) := ⟨cs, rfl⟩
  have hcomments := Table.get?_of_perm h.comments
  have hposts := Table.get?_of_perm h.posts
  refine ⟨?_, fun viewer q i hi heq => ?_, fun earlier hearlier id d hd hpost => ?_,
    fun draft hdraft => ?_⟩
  · refine List.eq_nil_iff_forall_not_mem.2 fun c hc => ?_
    obtain ⟨⟨id, hid⟩, rfl⟩ := mem_listComments_iff.1 hc
    rw [hcomments] at hid
    have hattached := hs.attached id c hid
    rw [Table.contains, hnone] at hattached
    cases hattached
  · obtain ⟨p, hp, rfl⟩ := exists_of_mem_feed hi
    obtain ⟨id, hid⟩ := (mem_feedPosts.1 hp).stored
    rw [hposts] at hid
    have hown : p.id = id := (hs.numbered.posts id p hid).1
    have hpost : p.id = post := heq
    rw [← hown, hpost, hnone] at hid
    cases hid
  · have hget := get?_comments_eq_none hearlier hd (hpost ▸ hnone)
    rw [← hcomments] at hget
    refine ⟨by rw [getComment, hget], ?_⟩
    rintro e rfl
    rw [updateComment, hget]
  · have hmissing : t.posts.contains draft.postId = false := by
      rw [Table.contains, hposts, hdraft, hnone]
      rfl
    rw [createComment, hmissing]
    rfl

/-! ## Discussions -/

/-- How a store shows the comments that a history of calls has left. -/
structure Discussions (cs : List Call) (s : Store) : Prop where
  /-- Every row of every feed counts the comments that are listed. -/
  counted : ∀ viewer q, ∀ i ∈ s.feed viewer q,
    i.commentsCount.toInt = (s.listComments i.post.id).length
  /-- Listed are the comments that have been created on the post and not deleted since. -/
  listed : ∀ post c, c ∈ s.listComments post ↔ Remains cs post c
  once : ∀ post, ((s.listComments post).map Comment.id).Nodup
  newestFirst : ∀ post, (s.listComments post).Pairwise Newer
  /-- The order of the table makes no difference. -/
  same : ∀ post, s.listComments post = (run cs initial).listComments post
  /-- A post that was stored is deleted with all of this for good. -/
  gone : ∀ before after post, cs = before ++ .deletePost post :: after →
    (run before initial).posts.contains post → Gone cs s post

/-- **Discussions.** Whatever has happened to the store, and in whatever order its tables are. -/
theorem discussions_of_run (h : Reordered (run cs initial) t) : Discussions cs t := by
  have hs : Reachable (run cs initial) := ⟨cs, rfl⟩
  have hsame := h.listComments hs
  have hnewest : ∀ post, (t.listComments post).Pairwise Newer := fun post =>
    pairwise_newer hs (h.commentsOn post)
  refine ⟨fun viewer q i hi => commentsCount_of_mem_feed hs h hi, fun post c => ?_,
    fun post => ?_, hnewest, hsame, ?_⟩
  · rw [hsame]
    exact mem_listComments_run_iff
  · refine List.pairwise_map.2 ((hnewest post).imp fun hnewer heq => ?_)
    exact Int64.lt_irrefl (heq ▸ hnewer.1)
  · rintro before after post rfl hpost
    obtain ⟨p, hp⟩ := Table.contains_iff.1 hpost
    apply gone_of_get?_eq_none h
    rw [run_append]
    exact get?_posts_run_of_mem ((Numbered.initial.run before).posts post p hp).2
      List.mem_cons_self

end Microblog.Store
