import Microblog.Proofs.Store.Outcomes

/-!
# Runs of calls

A `Call` is one call of an operation that may change the store, whoever makes
it; a run is any number of them, one after another. However requests are
interleaved, what they do to the store is such a run.

Every record is stored under its own id, and no id is above the counter
(`Numbered`), so a record that is gone stays gone. A stored post changes only
by an update of it and goes only by its deletion (`posts_call`), and a comment
goes with its post besides (`comments_call`).
-/

namespace Microblog.Store

open Account Content

inductive Call where
  | insertUser (u : NewUser) (roleName : String) (active : Bool)
  | renameUser (id : Int64) (username : String)
  | getUser (id : Int64)
  | createAndInvite (u : NewUser) (token : String) (ttl : Int) (now : Timestamp)
  | activate (token : String) (now : Timestamp)
  | deleteUser (id : Int64)
  | createPost (d : NewPost)
  | updatePost (p : Post)
  | deletePost (id : Int64)
  | createComment (d : NewComment)
  | updateComment (c : Comment)
  | deleteComment (id : Int64)
  | follow (follower followed : Int64)
  | unfollow (follower followed : Int64)
  | setRolesDown (down : Bool)

/-- The store after a call. -/
def Call.run (s : Store) : Call → Store
  | insertUser u roleName active => (s.insertUser u roleName active).2
  | renameUser id username => s.renameUser id username
  | getUser id => (s.getUser id).2
  | createAndInvite u token ttl now => (s.createAndInvite u token ttl now).2
  | activate token now => (s.activate token now).2
  | deleteUser id => s.deleteUser id
  | createPost d => (s.createPost d).2
  | updatePost p => (s.updatePost p).2
  | deletePost id => s.deletePost id
  | createComment d => (s.createComment d).2
  | updateComment c => (s.updateComment c).2
  | deleteComment id => s.deleteComment id
  | follow follower followed => (s.follow follower followed).2
  | unfollow follower followed => s.unfollow follower followed
  | setRolesDown down => { s with rolesDown := down }

/-- The store after a run of calls. Behind a call that overflows the lock of the store stays taken, so
what is said of a run is meant up to there. -/
def run (cs : List Call) (s : Store) : Store := cs.foldl Call.run s

@[simp] theorem run_nil (s : Store) : run [] s = s := rfl

@[simp] theorem run_cons (c : Call) (cs : List Call) (s : Store) :
    run (c :: cs) s = run cs (c.run s) := rfl

theorem run_append (cs ds : List Call) (s : Store) : run (cs ++ ds) s = run ds (run cs s) :=
  List.foldl_append

/-- What each of its calls keeps is kept by a run. -/
theorem run_keeps {P : Store → Prop} {cs : List Call}
    (hcall : ∀ s, ∀ c ∈ cs, P s → P (Call.run s c)) {s : Store} (h : P s) : P (run cs s) := by
  induction cs generalizing s with
  | nil => exact h
  | cons c cs ih =>
    have hrest : ∀ s, ∀ d ∈ cs, P s → P (Call.run s d) := fun s d hd =>
      hcall s d (List.mem_cons_of_mem c hd)
    exact ih hrest (hcall s c List.mem_cons_self h)

/-- The same users, invitations, posts, comments and follow edges. -/
structure SameRecords (s t : Store) : Prop where
  users : t.users = s.users
  invitations : t.invitations = s.invitations
  posts : t.posts = s.posts
  comments : t.comments = s.comments
  follows : t.follows = s.follows

/-- The stores that calls lead to from the first one. -/
def Reachable (s : Store) : Prop := ∃ cs, s = run cs initial

theorem Reachable.run {s : Store} (h : Reachable s) (cs : List Call) : Reachable (run cs s) := by
  obtain ⟨ds, rfl⟩ := h
  exact ⟨ds ++ cs, (run_append ds cs initial).symm⟩

theorem Reachable.call {s : Store} (h : Reachable s) (c : Call) : Reachable (c.run s) := h.run [c]

/-- What holds at first and is kept by every call holds of all of them. -/
theorem Reachable.keeps {P : Store → Prop} {s : Store} (h : Reachable s) (hinitial : P initial)
    (hcall : ∀ s c, P s → P (Call.run s c)) : P s := by
  obtain ⟨cs, rfl⟩ := h
  exact run_keeps (fun s c _ => hcall s c) hinitial

/-! ## Tables of numbered records -/

section Keyed

variable {V : Type} {key : V → Int64} {t : Table Int64 V} {last last' : Int64}

/-- Every record stands under its own id, which is not above `last`. -/
def Keyed (last : Int64) (key : V → Int64) (t : Table Int64 V) : Prop :=
  ∀ id v, t.get? id = some v → key v = id ∧ id.toInt ≤ last.toInt

theorem Keyed.empty : Keyed last key .empty := by
  intro id v h
  cases h

theorem Keyed.mono (h : Keyed last key t) (hle : last.toInt ≤ last'.toInt) : Keyed last' key t :=
  fun id v hv => ⟨(h id v hv).1, Int.le_trans (h id v hv).2 hle⟩

theorem Keyed.insert {id : Int64} {v : V} (h : Keyed last key t) (hk : key v = id)
    (hle : id.toInt ≤ last.toInt) : Keyed last key (t.insert id v) := by
  intro j w hw
  rw [Table.get?_insert] at hw
  split at hw
  · rename_i hj
    cases hw
    exact ⟨hk.trans hj.symm, hj ▸ hle⟩
  · exact h j w hw

theorem Keyed.insert_next {id : Int64} {v : V} (h : Keyed last key t) (hk : key v = id)
    (hid : id.toInt = last.toInt + 1) : Keyed id key (t.insert id v) :=
  (h.mono (by omega)).insert hk (Int.le_refl _)

/-- The next id is not in use. -/
theorem Keyed.get?_next (h : Keyed last key t) {id : Int64} (hid : id.toInt = last.toInt + 1) :
    t.get? id = none := by
  cases hget : t.get? id with
  | none => rfl
  | some v =>
    have hle := (h id v hget).2
    omega

theorem Keyed.filter (p : Int64 → V → Bool) (h : Keyed last key t) :
    Keyed last key (t.filter p) := by
  intro j w hw
  rw [Table.get?_filter] at hw
  exact h j w (Option.filter_eq_some_iff.1 hw).1

theorem Keyed.modify (id : Int64) {f : V → V} (h : Keyed last key t) (hf : ∀ v, key (f v) = key v) :
    Keyed last key (t.modify id f) := by
  intro j w hw
  rw [Table.get?_modify] at hw
  split at hw
  · obtain ⟨v, hv, rfl⟩ := Option.map_eq_some_iff.1 hw
    rw [hf]
    exact h j v hv
  · exact h j w hw

end Keyed

/-! ## What one call can do -/

theorem roles_call (c : Call) (s : Store) : (c.run s).roles = s.roles := by
  cases c <;>
    simp [Call.run, renameUser, getUser, deleteUser, deletePost, deleteComment, unfollow]

/-- The roles are those of the start. -/
theorem Reachable.roles {s : Store} (h : Reachable s) : s.roles = initial.roles :=
  h.keeps (P := fun s => s.roles = initial.roles) rfl fun s c hs => (roles_call c s).trans hs

/-- No call takes an id back. -/
theorem lastId_call (c : Call) (s : Store) : s.lastId.toInt ≤ (c.run s).lastId.toInt := by
  have hgiven : ∀ {id : Int64}, id.toInt = s.lastId.toInt + 1 → s.lastId.toInt ≤ id.toInt :=
    fun h => by omega
  cases c with
  | insertUser u roleName active =>
    simp only [Call.run]
    rcases insertUser_cases u roleName active s with he | ⟨id, now, hid, -, he⟩
    · simp only [he, Int.le_refl]
    · simp only [he]
      exact hgiven hid
  | createAndInvite u token ttl now =>
    simp only [Call.run]
    rcases createAndInvite_cases u token ttl now s with
      ⟨e, he⟩ | ⟨id, at', hid, -, ⟨-, he⟩ | ⟨expiry, -, he⟩⟩
    · simp only [he, Int.le_refl]
    · simp only [he]
      exact hgiven hid
    · simp only [he]
      exact hgiven hid
  | createPost d =>
    simp only [Call.run]
    rcases createPost_cases d s with he | ⟨id, now, hid, -, he⟩
    · simp only [he, Int.le_refl]
    · simp only [he]
      exact hgiven hid
  | createComment d =>
    simp only [Call.run]
    rcases createComment_cases d s with ⟨e, he⟩ | ⟨id, now, -, hid, -, name, he⟩
    · simp only [he, Int.le_refl]
    · simp only [he]
      exact hgiven hid
  | _ => simp [Call.run, renameUser, getUser, deleteUser, deletePost, deleteComment, unfollow]

theorem lastId_run (cs : List Call) (s : Store) : s.lastId.toInt ≤ (run cs s).lastId.toInt :=
  run_keeps (P := fun t => s.lastId.toInt ≤ t.lastId.toInt)
    (fun t c _ ht => Int.le_trans ht (lastId_call c t)) (Int.le_refl _)

/-- A call moves the clock by a second if at all. -/
theorem clock_call (c : Call) (s : Store) :
    (c.run s).clock = s.clock ∨ s.clock.add? Timestamp.second = some (c.run s).clock := by
  cases c with
  | insertUser u roleName active =>
    simp only [Call.run]
    rcases insertUser_cases u roleName active s with he | ⟨id, now, -, hnow, he⟩ <;> rw [he]
    · exact .inl rfl
    · exact .inr hnow
  | createAndInvite u token ttl now =>
    simp only [Call.run]
    rcases createAndInvite_cases u token ttl now s with
      ⟨e, he⟩ | ⟨id, at', -, hat, ⟨-, he⟩ | ⟨expiry, -, he⟩⟩ <;> rw [he]
    · exact .inl rfl
    · exact .inr hat
    · exact .inr hat
  | createPost d =>
    simp only [Call.run]
    rcases createPost_cases d s with he | ⟨id, now, -, hnow, he⟩ <;> rw [he]
    · exact .inl rfl
    · exact .inr hnow
  | updatePost p =>
    simp only [Call.run]
    rcases updatePost_cases p s with
      ⟨-, he⟩ | ⟨now, hnow, ⟨-, he⟩ | ⟨q, -, -, ⟨-, he⟩ | ⟨-, he⟩⟩⟩ <;> rw [he]
    · exact .inl rfl
    · exact .inr hnow
    · exact .inr hnow
    · exact .inr hnow
  | createComment d =>
    simp only [Call.run]
    rcases createComment_cases d s with ⟨e, he⟩ | ⟨id, now, -, -, hnow, name, he⟩ <;> rw [he]
    · exact .inl rfl
    · exact .inr hnow
  | _ =>
    exact .inl (by
      simp [Call.run, renameUser, getUser, deleteUser, deletePost, deleteComment, unfollow])

/-- Users come with a new id, are changed in their name or activated, or go. -/
theorem users_call (c : Call) (s : Store) :
    (c.run s).users = s.users ∨
      (∃ u roleName active id now, id.toInt = s.lastId.toInt + 1 ∧ (c.run s).lastId = id ∧
        (c.run s).users = s.users.insert id (s.newUser u roleName active id now)) ∨
      (∃ id name, c = .renameUser id name ∧
        (c.run s).users = s.users.modify id fun u => { u with username := name }) ∨
      (∃ token now id, c = .activate token now ∧
        (c.run s).users = s.users.modify id fun u => { u with isActive := true }) ∨
      ∃ id, c = .deleteUser id ∧ (c.run s).users = s.users.erase id := by
  cases c with
  | insertUser u roleName active =>
    simp only [Call.run]
    rcases insertUser_cases u roleName active s with he | ⟨id, now, hid, -, he⟩ <;> rw [he]
    · exact .inl rfl
    · exact .inr (.inl ⟨u, roleName, active, id, now, hid, rfl, rfl⟩)
  | createAndInvite u token ttl now =>
    simp only [Call.run]
    rcases createAndInvite_cases u token ttl now s with
      ⟨e, he⟩ | ⟨id, at', hid, -, ⟨-, he⟩ | ⟨expiry, -, he⟩⟩ <;> rw [he]
    · exact .inl rfl
    · exact .inr (.inl ⟨u, "user", false, id, at', hid, rfl, rfl⟩)
    · exact .inr (.inl ⟨u, "user", false, id, at', hid, rfl, rfl⟩)
  | renameUser id username => exact .inr (.inr (.inl ⟨id, username, rfl, rfl⟩))
  | activate token now =>
    simp only [Call.run]
    rcases activate_cases token now s with he | ⟨inv, -, -, he⟩ <;> rw [he]
    · exact .inl rfl
    · exact .inr (.inr (.inr (.inl ⟨token, now, inv.userId, rfl, rfl⟩)))
  | deleteUser id => exact .inr (.inr (.inr (.inr ⟨id, rfl, rfl⟩)))
  | _ => exact .inl (by simp [Call.run, getUser, deletePost, deleteComment, unfollow])

/-- Posts come with a new id, are revised by an update of the stored version, or are deleted. -/
theorem posts_call (c : Call) (s : Store) :
    (c.run s).posts = s.posts ∨
      (∃ d id now, c = .createPost d ∧ id.toInt = s.lastId.toInt + 1 ∧ (c.run s).lastId = id ∧
        (c.run s).posts =
          s.posts.insert id ⟨id, d.userId, d.title, d.content, d.tags, now, now, 1⟩) ∨
      (∃ p q now, c = .updatePost p ∧ s.posts.get? p.id = some q ∧ q.version = p.version ∧
        q.version ≠ Int32.maxValue ∧ (c.run s).posts = s.posts.insert p.id (revised q p now)) ∨
      ∃ id, c = .deletePost id ∧ (c.run s).posts = s.posts.erase id := by
  cases c with
  | createPost d =>
    simp only [Call.run]
    rcases createPost_cases d s with he | ⟨id, now, hid, -, he⟩ <;> rw [he]
    · exact .inl rfl
    · exact .inr (.inl ⟨d, id, now, rfl, hid, rfl, rfl⟩)
  | updatePost p =>
    simp only [Call.run]
    rcases updatePost_cases p s with
      ⟨-, he⟩ | ⟨now, -, ⟨-, he⟩ | ⟨q, hq, hv, ⟨-, he⟩ | ⟨hmax, he⟩⟩⟩ <;> rw [he]
    · exact .inl rfl
    · exact .inl rfl
    · exact .inl rfl
    · exact .inr (.inr (.inl ⟨p, q, now, rfl, hq, hv, hmax, rfl⟩))
  | deletePost id => exact .inr (.inr (.inr ⟨id, rfl, rfl⟩))
  | _ => exact .inl (by simp [Call.run, renameUser, getUser, deleteUser, deleteComment, unfollow])

/-- Comments come with a new id, are changed in their content, or go alone or with their post. -/
theorem comments_call (c : Call) (s : Store) :
    (c.run s).comments = s.comments ∨
      (∃ d id now name, c = .createComment d ∧ s.posts.contains d.postId ∧
        id.toInt = s.lastId.toInt + 1 ∧ (c.run s).lastId = id ∧
        (c.run s).comments =
          s.comments.insert id ⟨id, d.postId, d.userId, d.content, now, name⟩) ∨
      (∃ e d, c = .updateComment e ∧ s.comments.get? e.id = some d ∧
        (c.run s).comments = s.comments.insert e.id { d with content := e.content }) ∨
      (∃ id, c = .deleteComment id ∧ (c.run s).comments = s.comments.erase id) ∨
      ∃ id, c = .deletePost id ∧
        (c.run s).comments = s.comments.filter fun _ d => d.postId != id := by
  cases c with
  | createComment d =>
    simp only [Call.run]
    rcases createComment_cases d s with ⟨e, he⟩ | ⟨id, now, hpost, hid, -, name, he⟩ <;> rw [he]
    · exact .inl rfl
    · exact .inr (.inl ⟨d, id, now, name, rfl, hpost, hid, rfl, rfl⟩)
  | updateComment e =>
    simp only [Call.run]
    rcases updateComment_cases e s with ⟨-, he⟩ | ⟨d, hd, he⟩ <;> rw [he]
    · exact .inl rfl
    · exact .inr (.inr (.inl ⟨e, d, rfl, hd, rfl⟩))
  | deleteComment id => exact .inr (.inr (.inr (.inl ⟨id, rfl, rfl⟩)))
  | deletePost id => exact .inr (.inr (.inr (.inr ⟨id, rfl, rfl⟩)))
  | _ => exact .inl (by simp [Call.run, renameUser, getUser, deleteUser, unfollow])

/-- Follow edges come to a stored user whom the follower does not follow yet, and go. -/
theorem follows_call (c : Call) (s : Store) :
    (c.run s).follows = s.follows ∨
      (∃ a b, c = .follow a b ∧ s.users.contains b ∧ s.isFollowing a b = false ∧
        (c.run s).follows = (a, b) :: s.follows) ∨
      ∃ a b, c = .unfollow a b ∧ (c.run s).follows = s.follows.filter (· != (a, b)) := by
  cases c with
  | follow a b =>
    simp only [Call.run]
    rcases follow_cases a b s with ⟨f, he⟩ | ⟨hb, hnew, he⟩ <;> rw [he]
    · exact .inl rfl
    · exact .inr (.inl ⟨a, b, rfl, hb, hnew, rfl⟩)
  | unfollow a b => exact .inr (.inr ⟨a, b, rfl, rfl⟩)
  | _ => exact .inl (by simp [Call.run, renameUser, getUser, deleteUser, deletePost, deleteComment])

/-! ## Records are numbered by the counter -/

structure Numbered (s : Store) : Prop where
  users : Keyed s.lastId User.id s.users
  posts : Keyed s.lastId Post.id s.posts
  comments : Keyed s.lastId Comment.id s.comments

theorem Numbered.initial : Numbered initial := ⟨Keyed.empty, Keyed.empty, Keyed.empty⟩

theorem Numbered.call {s : Store} (h : Numbered s) (c : Call) : Numbered (c.run s) where
  users := by
    have hle := lastId_call c s
    rcases users_call c s with he | ⟨u, roleName, active, id, now, hid, hlast, he⟩ |
      ⟨id, name, -, he⟩ | ⟨token, now, id, -, he⟩ | ⟨id, -, he⟩ <;> rw [he]
    · exact h.users.mono hle
    · rw [hlast]
      exact h.users.insert_next rfl hid
    · exact (h.users.mono hle).modify id fun _ => rfl
    · exact (h.users.mono hle).modify id fun _ => rfl
    · exact (h.users.mono hle).filter _
  posts := by
    have hle := lastId_call c s
    rcases posts_call c s with he | ⟨d, id, now, -, hid, hlast, he⟩ |
      ⟨p, q, now, -, hq, -, -, he⟩ | ⟨id, -, he⟩ <;> rw [he]
    · exact h.posts.mono hle
    · rw [hlast]
      exact h.posts.insert_next rfl hid
    · have hid := h.posts p.id q hq
      exact (h.posts.mono hle).insert hid.1 (Int.le_trans hid.2 hle)
    · exact (h.posts.mono hle).filter _
  comments := by
    have hle := lastId_call c s
    rcases comments_call c s with he | ⟨d, id, now, name, -, -, hid, hlast, he⟩ |
      ⟨e, d, -, hd, he⟩ | ⟨id, -, he⟩ | ⟨id, -, he⟩ <;> rw [he]
    · exact h.comments.mono hle
    · rw [hlast]
      exact h.comments.insert_next rfl hid
    · have hid := h.comments e.id d hd
      exact (h.comments.mono hle).insert hid.1 (Int.le_trans hid.2 hle)
    · exact (h.comments.mono hle).filter _
    · exact (h.comments.mono hle).filter _

theorem Numbered.run {s : Store} (h : Numbered s) (cs : List Call) : Numbered (run cs s) :=
  run_keeps (fun _ c _ hs => hs.call c) h

theorem Reachable.numbered {s : Store} (h : Reachable s) : Numbered s :=
  h.keeps .initial fun _ c hs => hs.call c

end Microblog.Store
