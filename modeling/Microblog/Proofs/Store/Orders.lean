import Microblog.Proofs.Store.Discussions

/-!
# Stores with their tables in another order

Two stores that hold the same records, each in an order of its own
(`Rearranged`), are read and changed alike: whatever is looked up, listed or
shown in a feed is the same, and an operation has the same outcome in both and
leaves them rearranged. Only a search by address may find one user here and
another one there, if two users with one address are active. So it is required
that users who are active, or can become so, have addresses of their own
(`OwnAddresses`).
-/

namespace Microblog.Store

/-! ## Tables in another order -/

namespace Table

variable {K V : Type} {t t' : Table K V}

theorem values_perm (h : t'.entries.Perm t.entries) : t'.values.Perm t.values := h.map Prod.snd

theorem filter_perm (h : t'.entries.Perm t.entries) (p : K → V → Bool) :
    (t'.filter p).entries.Perm (t.filter p).entries := h.filter _

theorem nodup_reverse (t : Table K V) : (t.entries.reverse.map Prod.fst).Nodup := by
  rw [List.map_reverse, List.nodup_reverse]
  exact t.nodup

/-- The same entries, oldest first. -/
def reverse (t : Table K V) : Table K V := ⟨t.entries.reverse, t.nodup_reverse⟩

variable [DecidableEq K]

theorem contains_of_perm (h : t'.entries.Perm t.entries) (k : K) : t'.contains k = t.contains k := by
  rw [contains, contains, get?_of_perm h]

theorem modify_perm (h : t'.entries.Perm t.entries) (k : K) (f : V → V) :
    (t'.modify k f).entries.Perm (t.modify k f).entries := h.map _

theorem insert_perm (h : t'.entries.Perm t.entries) (k : K) (v : V) :
    (t'.insert k v).entries.Perm (t.insert k v).entries := by
  cases hk : t.get? k with
  | none =>
    rw [entries_insert hk, entries_insert ((get?_of_perm h k).trans hk)]
    exact h.cons _
  | some w =>
    have ht : t.contains k = true := contains_of_get? hk
    rw [insert, insert, dif_pos ht, dif_pos ((contains_of_perm h k).trans ht)]
    exact modify_perm h k _

end Table

/-- Where at most one element passes, a search finds it in any order. -/
theorem find?_of_perm {α : Type} {p : α → Bool} {l l' : List α} (h : l'.Perm l)
    (hone : ∀ a ∈ l, ∀ b ∈ l, p a = true → p b = true → a = b) : l'.find? p = l.find? p := by
  cases hl : l.find? p with
  | none =>
    refine List.find?_eq_none.2 fun a ha => ?_
    exact List.find?_eq_none.1 hl a (h.mem_iff.1 ha)
  | some a =>
    have hmem := List.mem_of_find?_eq_some hl
    have hpass := List.find?_some hl
    cases hl' : l'.find? p with
    | none => exact absurd hpass (List.find?_eq_none.1 hl' a (h.mem_iff.2 hmem))
    | some b =>
      have hb := h.mem_iff.1 (List.mem_of_find?_eq_some hl')
      rw [hone b hb a hmem (List.find?_some hl') hpass]

open Account Content Feed

variable {s t r : Store}

/-! ## Stores -/

/-- The same counters, and the same records in any order. How often users have been read does not
matter. -/
structure Rearranged (s t : Store) : Prop extends Reordered s t where
  invitations : t.invitations.entries.Perm s.invitations.entries
  lastId : t.lastId = s.lastId
  clock : t.clock = s.clock
  roles : t.roles = s.roles
  rolesDown : t.rolesDown = s.rolesDown

theorem Rearranged.refl (s : Store) : Rearranged s s := ⟨.refl s, .rfl, rfl, rfl, rfl, rfl⟩

theorem Rearranged.symm (h : Rearranged s t) : Rearranged t s where
  users := h.users.symm
  posts := h.posts.symm
  comments := h.comments.symm
  follows := h.follows.symm
  invitations := h.invitations.symm
  lastId := h.lastId.symm
  clock := h.clock.symm
  roles := h.roles.symm
  rolesDown := h.rolesDown.symm

theorem Rearranged.trans (h : Rearranged s t) (h' : Rearranged t r) : Rearranged s r where
  users := h'.users.trans h.users
  posts := h'.posts.trans h.posts
  comments := h'.comments.trans h.comments
  follows := h'.follows.trans h.follows
  invitations := h'.invitations.trans h.invitations
  lastId := h'.lastId.trans h.lastId
  clock := h'.clock.trans h.clock
  roles := h'.roles.trans h.roles
  rolesDown := h'.rolesDown.trans h.rolesDown

/-- The store with its users oldest first. -/
def turned (s : Store) : Store := { s with users := s.users.reverse }

theorem rearranged_turned (s : Store) : Rearranged s s.turned :=
  { Rearranged.refl s with users := List.reverse_perm _ }

/-! ## Addresses -/

/-- The user is active, or has been invited and may become so. -/
def Entitled (s : Store) (id : Int64) (u : User) : Prop :=
  s.users.get? id = some u ∧
    (u.isActive = true ∨ ∃ k inv, s.invitations.get? k = some inv ∧ inv.userId = id)

/-- No two users who are active or invited have one address. -/
def OwnAddresses (s : Store) : Prop :=
  ∀ i j u v, s.Entitled i u → s.Entitled j v → u.email = v.email → i = j

theorem ownAddresses_of_values (hs : Numbered s)
    (h : ∀ u ∈ s.users.values, ∀ v ∈ s.users.values, u.email = v.email → u.id = v.id) :
    OwnAddresses s := by
  intro i j u v hi hj heq
  rw [← (hs.users i u hi.1).1, ← (hs.users j v hj.1).1]
  exact h u (Table.mem_values_iff.2 ⟨i, hi.1⟩) v (Table.mem_values_iff.2 ⟨j, hj.1⟩) heq

/-! ## What is read -/

theorem Rearranged.getUserByEmail (h : Rearranged s t) (hown : OwnAddresses s) (email : String) :
    t.getUserByEmail email = s.getUserByEmail email := by
  have hone : ∀ u ∈ s.users.values, ∀ v ∈ s.users.values,
      (u.email == email && u.isActive) = true → (v.email == email && v.isActive) = true → u = v := by
    intro u hu v hv hpass hpass'
    obtain ⟨i, hi⟩ := Table.mem_values_iff.1 hu
    obtain ⟨j, hj⟩ := Table.mem_values_iff.1 hv
    simp only [Bool.and_eq_true, beq_iff_eq] at hpass hpass'
    have hid := hown i j u v ⟨hi, .inl hpass.2⟩ ⟨hj, .inl hpass'.2⟩ (hpass.1.trans hpass'.1.symm)
    rw [hid, hj] at hi
    exact (Option.some.inj hi).symm
  unfold Store.getUserByEmail
  rw [find?_of_perm (Table.values_perm h.users) hone]

theorem Rearranged.getPost (h : Rearranged s t) (id : Int64) : t.getPost id = s.getPost id := by
  rw [Store.getPost, Store.getPost, Table.get?_of_perm h.posts]

theorem Rearranged.getComment (h : Rearranged s t) (id : Int64) :
    t.getComment id = s.getComment id := by
  rw [Store.getComment, Store.getComment, Table.get?_of_perm h.comments]

theorem Rearranged.role? (h : Rearranged s t) (name : String) : t.role? name = s.role? name := by
  rw [Store.role?, Store.role?, h.roles]

theorem Rearranged.getRole (h : Rearranged s t) (name : String) : t.getRole name = s.getRole name := by
  rw [Store.getRole, Store.getRole, h.rolesDown, h.role?]

theorem Rearranged.feed (h : Rearranged s t) (hs : Numbered s) (viewer : Int64) (q : Query) :
    t.feed viewer q = s.feed viewer q := by
  have hitem : t.feedItem = s.feedItem := funext h.feedItem
  unfold Store.feed
  rw [h.feedPosts hs, hitem]

/-! ## What is done -/

/-- The same outcome, and the stores that are left are rearranged. -/
def Coincide {α : Type} (x y : α × Store) : Prop := y.1 = x.1 ∧ Rearranged x.2 y.2

theorem Rearranged.fresh (h : Rearranged s t) :
    (s.fresh = none ∧ t.fresh = none) ∨
      ∃ id now, s.fresh = some (id, now, { s with lastId := id, clock := now }) ∧
        t.fresh = some (id, now, { t with lastId := id, clock := now }) := by
  unfold Store.fresh tick
  rw [h.lastId]
  dsimp only
  rw [h.clock]
  split
  · exact .inl ⟨rfl, rfl⟩
  · cases s.clock.add? Timestamp.second with
    | none => exact .inl ⟨rfl, rfl⟩
    | some now => exact .inr ⟨_, now, rfl, rfl⟩

theorem Rearranged.getUser (h : Rearranged s t) (id : Int64) :
    Coincide (s.getUser id) (t.getUser id) := by
  refine ⟨?_, { h with }⟩
  rw [Store.getUser, Store.getUser, Table.get?_of_perm h.users]

theorem Rearranged.createAndInvite (h : Rearranged s t) (u : NewUser) (token : String) (ttl : Int)
    (now : Timestamp) :
    Coincide (s.createAndInvite u token ttl now) (t.createAndInvite u token ttl now) := by
  have hany : ∀ p : User → Bool, t.users.values.any p = s.users.values.any p := fun p =>
    (Table.values_perm h.users).any_eq
  unfold Store.createAndInvite
  rw [hany, hany]
  split
  · exact ⟨rfl, h⟩
  split
  · exact ⟨rfl, h⟩
  rcases h.fresh with ⟨hs, ht⟩ | ⟨id, at', hs, ht⟩ <;> rw [hs, ht]
  · exact ⟨rfl, h⟩
  have hrole : ({ t with lastId := id, clock := at' } : Store).role? "user" =
      ({ s with lastId := id, clock := at' } : Store).role? "user" := h.role? "user"
  dsimp only
  rw [hrole]
  have husers := Table.insert_perm h.users id
  cases now.add? ttl with
  | none => exact ⟨rfl, { h with users := husers _, lastId := rfl, clock := rfl }⟩
  | some expiry =>
    exact ⟨rfl, { h with
      users := husers _
      invitations := Table.insert_perm h.invitations _ _
      lastId := rfl
      clock := rfl }⟩

theorem Rearranged.activate (h : Rearranged s t) (token : String) (now : Timestamp) :
    Coincide (s.activate token now) (t.activate token now) := by
  unfold Store.activate
  rw [Table.get?_of_perm h.invitations]
  cases s.invitations.get? (tokenKey token) with
  | none => exact ⟨rfl, h⟩
  | some inv =>
    dsimp only
    split
    · exact ⟨rfl, h⟩
    · exact ⟨rfl, { h with
        users := Table.modify_perm h.users _ _
        invitations := Table.filter_perm h.invitations _ }⟩

theorem Rearranged.deleteUser (h : Rearranged s t) (id : Int64) :
    Rearranged (s.deleteUser id) (t.deleteUser id) :=
  { h with
    users := Table.filter_perm h.users _
    invitations := Table.filter_perm h.invitations _ }

theorem Rearranged.createPost (h : Rearranged s t) (d : NewPost) :
    Coincide (s.createPost d) (t.createPost d) := by
  unfold Store.createPost
  rcases h.fresh with ⟨hs, ht⟩ | ⟨id, now, hs, ht⟩ <;> rw [hs, ht]
  · exact ⟨rfl, h⟩
  · exact ⟨rfl, { h with posts := Table.insert_perm h.posts _ _, lastId := rfl, clock := rfl }⟩

theorem Rearranged.updatePost (h : Rearranged s t) (p : Post) :
    Coincide (s.updatePost p) (t.updatePost p) := by
  unfold Store.updatePost tick
  rw [h.clock]
  cases s.clock.add? Timestamp.second with
  | none => exact ⟨rfl, h⟩
  | some now =>
    have hticked : Rearranged { s with clock := now } { t with clock := now } :=
      { h with clock := rfl }
    dsimp only [Option.map_some]
    rw [Table.get?_of_perm h.posts]
    cases (s.posts.get? p.id).filter fun q => q.version == p.version with
    | none => exact ⟨rfl, hticked⟩
    | some q =>
      dsimp only
      split
      · exact ⟨rfl, hticked⟩
      · exact ⟨rfl, { hticked with posts := Table.insert_perm h.posts _ _ }⟩

theorem Rearranged.deletePost (h : Rearranged s t) (id : Int64) :
    Rearranged (s.deletePost id) (t.deletePost id) :=
  { h with
    posts := Table.filter_perm h.posts _
    comments := Table.filter_perm h.comments _ }

theorem Rearranged.createComment (h : Rearranged s t) (d : NewComment) :
    Coincide (s.createComment d) (t.createComment d) := by
  unfold Store.createComment
  rw [Table.contains_of_perm h.posts]
  split
  · rcases h.fresh with ⟨hs, ht⟩ | ⟨id, now, hs, ht⟩ <;> rw [hs, ht]
    · exact ⟨rfl, h⟩
    · dsimp only
      rw [Table.get?_of_perm h.users]
      exact ⟨rfl, { h with
        comments := Table.insert_perm h.comments _ _
        lastId := rfl
        clock := rfl }⟩
  · exact ⟨rfl, h⟩

theorem Rearranged.updateComment (h : Rearranged s t) (c : Comment) :
    Coincide (s.updateComment c) (t.updateComment c) := by
  unfold Store.updateComment
  rw [Table.get?_of_perm h.comments]
  cases s.comments.get? c.id with
  | none => exact ⟨rfl, h⟩
  | some d => exact ⟨rfl, { h with comments := Table.insert_perm h.comments _ _ }⟩

theorem Rearranged.deleteComment (h : Rearranged s t) (id : Int64) :
    Rearranged (s.deleteComment id) (t.deleteComment id) :=
  { h with comments := Table.filter_perm h.comments _ }

theorem Rearranged.follow (h : Rearranged s t) (a b : Int64) :
    Coincide (s.follow a b) (t.follow a b) := by
  have hfollowing : t.isFollowing a b = s.isFollowing a b := h.follows.contains_eq
  unfold Store.follow
  rw [Table.contains_of_perm h.users, hfollowing]
  split
  · exact ⟨rfl, h⟩
  split
  · exact ⟨rfl, h⟩
  · exact ⟨rfl, { h with follows := h.follows.cons _ }⟩

theorem Rearranged.unfollow (h : Rearranged s t) (a b : Int64) :
    Rearranged (s.unfollow a b) (t.unfollow a b) :=
  { h with follows := h.follows.filter _ }

end Microblog.Store
