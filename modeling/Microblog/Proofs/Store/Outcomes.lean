import Microblog.Store.Comments
import Microblog.Store.Follows
import Microblog.Store.Posts
import Microblog.Store.Users

/-!
# Outcomes of the operations of the store

Each operation that can end in more than one way has a lemma here that lists
its outcomes together with the store that it leaves. Everything else that is
proved of an operation is read off this list.
-/

namespace Microblog.Store

open Account Content

/-! ## The counter and the clock -/

theorem tick_eq_some {s s' : Store} {now : Timestamp} (h : s.tick = some (now, s')) :
    s.clock.add? Timestamp.second = some now ∧ s' = { s with clock := now } := by
  obtain ⟨t, ht, heq⟩ := Option.map_eq_some_iff.1 h
  cases heq
  exact ⟨ht, rfl⟩

theorem tick_eq_none {s : Store} : s.tick = none ↔ s.clock.add? Timestamp.second = none :=
  Option.map_eq_none_iff

theorem toInt_add_one {n : Int64} (h : n ≠ Int64.maxValue) : (n + 1).toInt = n.toInt + 1 := by
  have hlt := n.toInt_lt
  have hle := n.le_toInt
  have hne : n.toInt ≠ 2 ^ 63 - 1 := fun e =>
    h (Int64.toInt_inj.1 (e.trans Int64.toInt_maxValue.symm))
  rw [Int64.toInt_add, Int64.toInt_one]
  exact Int.bmod_eq_of_le (by omega) (by omega)

/-- A new id is the next number, and takes a second of the clock. -/
theorem fresh_eq_some {s s' : Store} {id : Int64} {now : Timestamp}
    (h : s.fresh = some (id, now, s')) :
    id.toInt = s.lastId.toInt + 1 ∧ s.clock.add? Timestamp.second = some now ∧
      s' = { s with lastId := id, clock := now } := by
  unfold fresh at h
  split at h
  · cases h
  · rename_i hmax
    obtain ⟨⟨t, s₁⟩, ht, heq⟩ := Option.map_eq_some_iff.1 h
    cases heq
    obtain ⟨hclock, rfl⟩ := tick_eq_some ht
    exact ⟨toInt_add_one hmax, hclock, rfl⟩

/-- The clock can be moved on, which it can until the end of the year 9999. -/
def Ticks (s : Store) : Prop := (s.clock.add? Timestamp.second).isSome

theorem not_ticks {s : Store} (h : s.clock.add? Timestamp.second = none) : ¬ s.Ticks := by
  simp [Ticks, h]

theorem ticks_of_add? {s : Store} {now : Timestamp}
    (h : s.clock.add? Timestamp.second = some now) : s.Ticks := by
  simp [Ticks, h]

/-! ## Users and invitations -/

/-- A user as it is stored first. -/
def newUser (s : Store) (u : NewUser) (roleName : String) (active : Bool) (id : Int64)
    (now : Timestamp) : User :=
  let role := (s.role? roleName).getD .blank
  ⟨id, u.username, u.email, u.password, now, active, role.id, role⟩

theorem insertUser_cases (u : NewUser) (roleName : String) (active : Bool) (s : Store) :
    s.insertUser u roleName active = (.error .overflow, s) ∨
      ∃ id now, id.toInt = s.lastId.toInt + 1 ∧ s.clock.add? Timestamp.second = some now ∧
        s.insertUser u roleName active = (.ok id, { s with
          lastId := id
          clock := now
          users := s.users.insert id (s.newUser u roleName active id now) }) := by
  unfold insertUser
  split
  · exact .inl rfl
  · rename_i id now s' h
    obtain ⟨hid, hnow, rfl⟩ := fresh_eq_some h
    exact .inr ⟨id, now, hid, hnow, rfl⟩

@[simp] theorem insertUser_frame (u : NewUser) (roleName : String) (active : Bool) (s : Store) :
    (s.insertUser u roleName active).2.roles = s.roles ∧
      (s.insertUser u roleName active).2.invitations = s.invitations ∧
      (s.insertUser u roleName active).2.posts = s.posts ∧
      (s.insertUser u roleName active).2.comments = s.comments ∧
      (s.insertUser u roleName active).2.follows = s.follows := by
  rcases insertUser_cases u roleName active s with he | ⟨_, _, -, -, he⟩ <;> simp [he]

/-- A refused invitation leaves the store as it was; one whose end has no date leaves the user
without one. -/
theorem createAndInvite_cases (u : NewUser) (token : String) (ttl : Int) (now : Timestamp)
    (s : Store) :
    (∃ e, s.createAndInvite u token ttl now = (.error e, s)) ∨
      ∃ id at', id.toInt = s.lastId.toInt + 1 ∧ s.clock.add? Timestamp.second = some at' ∧
        ((now.add? ttl = none ∧ s.createAndInvite u token ttl now = (.error .overflow, { s with
            lastId := id
            clock := at'
            users := s.users.insert id (s.newUser u "user" false id at') })) ∨
          ∃ expiry, now.add? ttl = some expiry ∧
            s.createAndInvite u token ttl now = (.ok (s.newUser u "user" false id at'), { s with
              lastId := id
              clock := at'
              users := s.users.insert id (s.newUser u "user" false id at')
              invitations := s.invitations.insert (tokenKey token) ⟨id, expiry⟩ })) := by
  unfold createAndInvite
  split
  · exact .inl ⟨_, rfl⟩
  split
  · exact .inl ⟨_, rfl⟩
  split
  · exact .inl ⟨_, rfl⟩
  · rename_i id at' s' h
    obtain ⟨hid, hat, rfl⟩ := fresh_eq_some h
    refine .inr ⟨id, at', hid, hat, ?_⟩
    dsimp only
    split
    · rename_i hnone
      exact .inl ⟨hnone, rfl⟩
    · rename_i expiry hsome
      exact .inr ⟨expiry, hsome, rfl⟩

@[simp] theorem createAndInvite_frame (u : NewUser) (token : String) (ttl : Int) (now : Timestamp)
    (s : Store) :
    (s.createAndInvite u token ttl now).2.roles = s.roles ∧
      (s.createAndInvite u token ttl now).2.posts = s.posts ∧
      (s.createAndInvite u token ttl now).2.comments = s.comments ∧
      (s.createAndInvite u token ttl now).2.follows = s.follows := by
  rcases createAndInvite_cases u token ttl now s with
    ⟨_, he⟩ | ⟨_, _, -, -, ⟨-, he⟩ | ⟨_, -, he⟩⟩ <;> simp [he]

theorem activate_cases (token : String) (now : Timestamp) (s : Store) :
    s.activate token now = (.error .notFound, s) ∨
      ∃ inv, s.invitations.get? (tokenKey token) = some inv ∧ inv.expiry.notAfter now = false ∧
        s.activate token now = (.ok (), { s with
          users := s.users.modify inv.userId fun u => { u with isActive := true }
          invitations := s.invitations.filter fun _ i => i.userId != inv.userId }) := by
  unfold activate
  split
  · exact .inl rfl
  · rename_i inv h
    split
    · exact .inl rfl
    · rename_i hlate
      exact .inr ⟨inv, h, by simpa using hlate, rfl⟩

@[simp] theorem activate_frame (token : String) (now : Timestamp) (s : Store) :
    (s.activate token now).2.lastId = s.lastId ∧
      (s.activate token now).2.clock = s.clock ∧
      (s.activate token now).2.roles = s.roles ∧
      (s.activate token now).2.posts = s.posts ∧
      (s.activate token now).2.comments = s.comments ∧
      (s.activate token now).2.follows = s.follows := by
  rcases activate_cases token now s with he | ⟨_, -, -, he⟩ <;> simp [he]

/-! ## Posts -/

theorem createPost_cases (d : NewPost) (s : Store) :
    s.createPost d = (.error .overflow, s) ∨
      ∃ id now, id.toInt = s.lastId.toInt + 1 ∧ s.clock.add? Timestamp.second = some now ∧
        s.createPost d = (.ok ⟨id, d.userId, d.title, d.content, d.tags, now, now, 1⟩, { s with
          lastId := id
          clock := now
          posts :=
            s.posts.insert id ⟨id, d.userId, d.title, d.content, d.tags, now, now, 1⟩ }) := by
  unfold createPost
  split
  · exact .inl rfl
  · rename_i id now s' h
    obtain ⟨hid, hnow, rfl⟩ := fresh_eq_some h
    exact .inr ⟨id, now, hid, hnow, rfl⟩

@[simp] theorem createPost_frame (d : NewPost) (s : Store) :
    (s.createPost d).2.roles = s.roles ∧
      (s.createPost d).2.users = s.users ∧
      (s.createPost d).2.invitations = s.invitations ∧
      (s.createPost d).2.comments = s.comments ∧
      (s.createPost d).2.follows = s.follows := by
  rcases createPost_cases d s with he | ⟨_, _, -, -, he⟩ <;> simp [he]

/-- The stored post has the version of the one given. -/
def IsCurrent (s : Store) (p : Post) : Prop :=
  ∃ q, s.posts.get? p.id = some q ∧ q.version = p.version

/-- A stored post with the title, content and tags of another one, one version on. -/
def revised (q p : Post) (now : Timestamp) : Post :=
  { q with
    title := p.title
    content := p.content
    tags := p.tags
    updatedAt := now
    version := q.version + 1 }

/-- The next version is the next number, if there is one. -/
theorem toInt_add_one_of_ne {v : Int32} (h : v ≠ Int32.maxValue) :
    (v + 1).toInt = v.toInt + 1 := by
  have hlt := v.toInt_lt
  have hle := v.le_toInt
  have hne : v.toInt ≠ 2 ^ 31 - 1 := fun e =>
    h (Int32.toInt_inj.1 (e.trans Int32.toInt_maxValue.symm))
  rw [Int32.toInt_add, show (1 : Int32).toInt = 1 from rfl]
  exact Int.bmod_eq_of_le (by omega) (by omega)

/-- An update that is not made may move the clock, and nothing else. -/
theorem updatePost_cases (p : Post) (s : Store) :
    (s.clock.add? Timestamp.second = none ∧ s.updatePost p = (.error .overflow, s)) ∨
      ∃ now, s.clock.add? Timestamp.second = some now ∧
        ((¬ s.IsCurrent p ∧
            s.updatePost p = (.error (.failed .versionConflict), { s with clock := now })) ∨
          ∃ q, s.posts.get? p.id = some q ∧ q.version = p.version ∧
            ((q.version = Int32.maxValue ∧
                s.updatePost p = (.error .overflow, { s with clock := now })) ∨
              (q.version ≠ Int32.maxValue ∧ s.updatePost p = (.ok (revised q p now), { s with
                clock := now
                posts := s.posts.insert p.id (revised q p now) })))) := by
  unfold updatePost
  split
  · rename_i h
    exact .inl ⟨tick_eq_none.1 h, rfl⟩
  · rename_i now s' h
    obtain ⟨hnow, rfl⟩ := tick_eq_some h
    refine .inr ⟨now, hnow, ?_⟩
    dsimp only
    split
    · rename_i hnone
      refine .inl ⟨?_, rfl⟩
      rintro ⟨q, hq, hv⟩
      rw [hq] at hnone
      simp [Option.filter, hv] at hnone
    · rename_i q hsome
      obtain ⟨hq, hv⟩ := Option.filter_eq_some_iff.1 hsome
      refine .inr ⟨q, hq, by simpa using hv, ?_⟩
      split
      · rename_i hmax
        exact .inl ⟨hmax, rfl⟩
      · rename_i hmax
        exact .inr ⟨hmax, rfl⟩

@[simp] theorem updatePost_frame (p : Post) (s : Store) :
    (s.updatePost p).2.lastId = s.lastId ∧
      (s.updatePost p).2.roles = s.roles ∧
      (s.updatePost p).2.users = s.users ∧
      (s.updatePost p).2.invitations = s.invitations ∧
      (s.updatePost p).2.comments = s.comments ∧
      (s.updatePost p).2.follows = s.follows := by
  rcases updatePost_cases p s with ⟨-, he⟩ | ⟨_, -, ⟨-, he⟩ | ⟨_, -, -, ⟨-, he⟩ | ⟨-, he⟩⟩⟩ <;>
    simp [he]

/-- An update is made exactly if the stored version is the one given, unless a number is at its
end. -/
theorem updatePost_eq_ok_iff (p : Post) (s : Store) :
    (∃ q, (s.updatePost p).1 = .ok q) ↔
      s.Ticks ∧ s.IsCurrent p ∧ p.version ≠ Int32.maxValue := by
  rcases updatePost_cases p s with
    ⟨hnow, he⟩ | ⟨now, hnow, ⟨hc, he⟩ | ⟨q, hq, hv, ⟨hmax, he⟩ | ⟨hmax, he⟩⟩⟩
  · simp [he, not_ticks hnow]
  · simp [he, hc]
  · simp [he, ← hv, hmax]
  · rw [he]
    exact ⟨fun _ => ⟨ticks_of_add? hnow, ⟨q, hq, hv⟩, hv ▸ hmax⟩, fun _ => ⟨_, rfl⟩⟩

theorem updatePost_eq_conflict_iff (p : Post) (s : Store) :
    (s.updatePost p).1 = .error (.failed .versionConflict) ↔ s.Ticks ∧ ¬ s.IsCurrent p := by
  rcases updatePost_cases p s with
    ⟨hnow, he⟩ | ⟨now, hnow, ⟨hc, he⟩ | ⟨q, hq, hv, ⟨-, he⟩ | ⟨-, he⟩⟩⟩
  · simp [he, not_ticks hnow]
  · simp [he, hc, ticks_of_add? hnow]
  · have hc : s.IsCurrent p := ⟨q, hq, hv⟩
    simp [he, hc]
  · have hc : s.IsCurrent p := ⟨q, hq, hv⟩
    simp [he, hc]

theorem posts_updatePost_of_error {p : Post} {s : Store} {e : Stop}
    (h : (s.updatePost p).1 = .error e) : (s.updatePost p).2.posts = s.posts := by
  rcases updatePost_cases p s with
    ⟨-, he⟩ | ⟨now, -, ⟨-, he⟩ | ⟨q, -, -, ⟨-, he⟩ | ⟨-, he⟩⟩⟩ <;> rw [he] at h ⊢
  cases h

/-! ## Comments and follow edges -/

theorem createComment_cases (d : NewComment) (s : Store) :
    (∃ e, s.createComment d = (.error e, s)) ∨
      ∃ id now, s.posts.contains d.postId ∧ id.toInt = s.lastId.toInt + 1 ∧
        s.clock.add? Timestamp.second = some now ∧
        ∃ name, s.createComment d =
          (.ok ⟨id, d.postId, d.userId, d.content, now, name⟩, { s with
            lastId := id
            clock := now
            comments :=
              s.comments.insert id ⟨id, d.postId, d.userId, d.content, now, name⟩ }) := by
  unfold createComment
  split
  · rename_i hpost
    split
    · exact .inl ⟨_, rfl⟩
    · rename_i id now s' h
      obtain ⟨hid, hnow, rfl⟩ := fresh_eq_some h
      exact .inr ⟨id, now, hpost, hid, hnow, _, rfl⟩
  · exact .inl ⟨_, rfl⟩

@[simp] theorem createComment_frame (d : NewComment) (s : Store) :
    (s.createComment d).2.roles = s.roles ∧
      (s.createComment d).2.users = s.users ∧
      (s.createComment d).2.invitations = s.invitations ∧
      (s.createComment d).2.posts = s.posts ∧
      (s.createComment d).2.follows = s.follows := by
  rcases createComment_cases d s with ⟨_, he⟩ | ⟨_, _, -, -, -, _, he⟩ <;> simp [he]

theorem updateComment_cases (c : Comment) (s : Store) :
    (s.comments.get? c.id = none ∧ s.updateComment c = (.error .notFound, s)) ∨
      ∃ d, s.comments.get? c.id = some d ∧
        s.updateComment c = (.ok { d with content := c.content }, { s with
          comments := s.comments.insert c.id { d with content := c.content } }) := by
  unfold updateComment
  split
  · rename_i h
    exact .inl ⟨h, rfl⟩
  · rename_i d h
    exact .inr ⟨d, h, rfl⟩

@[simp] theorem updateComment_frame (c : Comment) (s : Store) :
    (s.updateComment c).2.lastId = s.lastId ∧
      (s.updateComment c).2.clock = s.clock ∧
      (s.updateComment c).2.roles = s.roles ∧
      (s.updateComment c).2.users = s.users ∧
      (s.updateComment c).2.invitations = s.invitations ∧
      (s.updateComment c).2.posts = s.posts ∧
      (s.updateComment c).2.follows = s.follows := by
  rcases updateComment_cases c s with ⟨-, he⟩ | ⟨_, -, he⟩ <;> simp [he]

theorem follow_cases (follower followed : Int64) (s : Store) :
    (∃ f, s.follow follower followed = (.error f, s)) ∨
      s.users.contains followed ∧ s.isFollowing follower followed = false ∧
        s.follow follower followed =
          (.ok (), { s with follows := (follower, followed) :: s.follows }) := by
  unfold follow
  split
  · exact .inl ⟨_, rfl⟩
  · rename_i hu
    split
    · exact .inl ⟨_, rfl⟩
    · rename_i hf
      exact .inr ⟨by simpa using hu, by simpa using hf, rfl⟩

@[simp] theorem follow_frame (follower followed : Int64) (s : Store) :
    (s.follow follower followed).2.lastId = s.lastId ∧
      (s.follow follower followed).2.clock = s.clock ∧
      (s.follow follower followed).2.roles = s.roles ∧
      (s.follow follower followed).2.users = s.users ∧
      (s.follow follower followed).2.invitations = s.invitations ∧
      (s.follow follower followed).2.posts = s.posts ∧
      (s.follow follower followed).2.comments = s.comments := by
  rcases follow_cases follower followed s with ⟨_, he⟩ | ⟨-, -, he⟩ <;> simp [he]

end Microblog.Store
