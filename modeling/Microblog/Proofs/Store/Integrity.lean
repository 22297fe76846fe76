import Microblog.Proofs.Store.Invitations
import Microblog.Proofs.Store.Records

/-!
# References between records

In a consistent store no two users share an address or a name, and whatever a
record refers to is stored (`Consistent`). Two of its parts need nobody's care:
that comments are on stored posts and invitations for stored users is kept by
every call, so it holds however requests are interleaved (`Reachable.attached`).
That users differ is kept by all calls but those that check no names. That posts,
comments and follow edges are of stored users is a matter of who makes the calls:
it is kept by the calls of a stored user (`Attributed.call`).
-/

namespace Microblog.Store

open Account Content

variable {s t : Store} {c : Call}

/-! ## Consistent stores -/

/-- No two users share an address or a name. -/
structure DistinctUsers (s : Store) : Prop where
  emails : s.users.Distinct User.email
  usernames : s.users.Distinct User.username

/-- Posts, comments and follow edges are of stored users. -/
structure Attributed (s : Store) : Prop where
  posts : ∀ id p, s.posts.get? id = some p → s.users.contains p.userId
  comments : ∀ id d, s.comments.get? id = some d → s.users.contains d.userId
  follows : ∀ follower followed, (follower, followed) ∈ s.follows →
    s.users.contains follower ∧ s.users.contains followed

/-- Every comment is on a stored post. -/
def Attached (s : Store) : Prop :=
  ∀ id d, s.comments.get? id = some d → s.posts.contains d.postId

/-- Every invitation is for a stored user. -/
def InvitesStored (s : Store) : Prop :=
  ∀ key inv, s.invitations.get? key = some inv → s.users.contains inv.userId

structure Consistent (s : Store) : Prop where
  distinct : DistinctUsers s
  attributed : Attributed s
  attached : Attached s
  invited : InvitesStored s

/-! ## What every call keeps -/

/-- Only the deletion of a user takes the user away. -/
theorem contains_users_call {id : Int64} (hc : c ≠ .deleteUser id) (h : s.users.contains id) :
    (c.run s).users.contains id := by
  rcases users_call c s with he | ⟨u, roleName, active, i, now, -, -, he⟩ | ⟨i, name, -, he⟩ |
    ⟨token, now, i, -, he⟩ | ⟨i, rfl, he⟩ <;> rw [he]
  · exact h
  · exact Table.contains_insert_iff.2 (.inr h)
  · rwa [Table.contains_modify]
  · rwa [Table.contains_modify]
  · refine Table.contains_erase_iff.2 ⟨?_, h⟩
    rintro rfl
    exact hc rfl

/-- Only the deletion of a post takes the post away. -/
theorem contains_posts_call {id : Int64} (hc : c ≠ .deletePost id) (h : s.posts.contains id) :
    (c.run s).posts.contains id := by
  rcases posts_call c s with he | ⟨d, i, now, -, -, -, he⟩ | ⟨p, q, now, -, -, -, -, he⟩ |
    ⟨i, rfl, he⟩ <;> rw [he]
  · exact h
  · exact Table.contains_insert_iff.2 (.inr h)
  · exact Table.contains_insert_iff.2 (.inr h)
  · refine Table.contains_erase_iff.2 ⟨?_, h⟩
    rintro rfl
    exact hc rfl

theorem Attached.call (h : Attached s) (c : Call) : Attached (c.run s) := by
  intro id d hd
  obtain ⟨hkept, hcases⟩ := comment_of_call hd
  apply contains_posts_call hkept
  rcases hcases with hold | ⟨e, now, name, -, hpost, rfl⟩ | ⟨e, d', -, -, hd', rfl⟩
  · exact h id d hold
  · exact hpost
  · exact h id d' hd'

/-- **Comments.** Whatever calls are made, by whom and in whatever order, every comment is on a
stored post. -/
theorem Reachable.attached (h : Reachable s) : Attached s := by
  refine h.keeps (fun id d hd => ?_) fun s c hs => hs.call c
  cases hd

theorem InvitesStored.call (h : InvitesStored s) (c : Call) : InvitesStored (c.run s) := by
  intro key inv hinv
  obtain ⟨hkept, hold | ⟨-, hnew⟩⟩ := invitation_of_call hinv
  · exact contains_users_call hkept (h key inv hold)
  · exact hnew

theorem Reachable.invitesStored (h : Reachable s) : InvitesStored s := by
  refine h.keeps (fun key inv hinv => ?_) fun s c hs => hs.call c
  cases hinv

/-! ## Users differ -/

theorem DistinctUsers.of_users (h : DistinctUsers s) (ht : t.users = s.users) :
    DistinctUsers t := by
  obtain ⟨hemails, husernames⟩ := h
  rw [← ht] at hemails husernames
  exact ⟨hemails, husernames⟩

/-- A user may be added whose address and name nobody has. -/
theorem DistinctUsers.insert {id : Int64} {u : User} (h : DistinctUsers s)
    (hnew : ∀ j v, s.users.get? j = some v → v.email ≠ u.email ∧ v.username ≠ u.username)
    (ht : t.users = s.users.insert id u) : DistinctUsers t := by
  constructor <;> rw [ht]
  · exact h.emails.insert fun j v hv => (hnew j v hv).1
  · exact h.usernames.insert fun j v hv => (hnew j v hv).2

/-- The call gives no user a name without looking at those that are taken. -/
def Call.ChecksNames : Call → Prop
  | insertUser .. => False
  | renameUser .. => False
  | _ => True

theorem DistinctUsers.call (h : DistinctUsers s) (hc : c.ChecksNames) :
    DistinctUsers (c.run s) := by
  cases c with
  | insertUser u roleName active => exact hc.elim
  | renameUser id username => exact hc.elim
  | createAndInvite u token ttl now =>
    have hnew : (∀ f, (s.createAndInvite u token ttl now).1 ≠ .error (.failed f)) → ∀ j v,
        s.users.get? j = some v → v.email ≠ u.email ∧ v.username ≠ u.username :=
      fun hf j v hv => ne_of_createAndInvite hf hv
    simp only [Call.run]
    rcases createAndInvite_cases u token ttl now s with
      ⟨e, he⟩ | ⟨id, at', -, -, ⟨-, he⟩ | ⟨expiry, -, he⟩⟩ <;> rw [he] at hnew ⊢
    · exact h
    · exact h.insert (hnew (by simp)) rfl
    · exact h.insert (hnew (by simp)) rfl
  | activate token now =>
    simp only [Call.run]
    rcases activate_cases token now s with he | ⟨inv, -, -, he⟩ <;> rw [he]
    · exact h
    · exact ⟨h.emails.modify fun _ => rfl, h.usernames.modify fun _ => rfl⟩
  | deleteUser id => exact ⟨h.emails.filter _, h.usernames.filter _⟩
  | _ =>
    exact h.of_users (by simp [Call.run, getUser, deletePost, deleteComment, unfollow])

/-! ## Posts, comments and follow edges are of stored users -/

/-- More users do no harm. -/
theorem Attributed.mono (h : Attributed s)
    (husers : ∀ id, s.users.contains id → t.users.contains id) (hposts : t.posts = s.posts)
    (hcomments : t.comments = s.comments) (hfollows : t.follows = s.follows) : Attributed t where
  posts id p hp := husers _ (h.posts id p (hposts ▸ hp))
  comments id d hd := husers _ (h.comments id d (hcomments ▸ hd))
  follows a b hab := (h.follows a b (hfollows ▸ hab)).imp (husers a) (husers b)

theorem Consistent.of_sameRecords (h : Consistent s) (ht : SameRecords s t) : Consistent t where
  distinct := h.distinct.of_users ht.users
  attributed := by
    refine h.attributed.mono (fun id hid => ?_) ht.posts ht.comments ht.follows
    rwa [ht.users]
  attached id d hd := by
    rw [ht.comments] at hd
    rw [ht.posts]
    exact h.attached id d hd
  invited key inv hinv := by
    rw [ht.invitations] at hinv
    rw [ht.users]
    exact h.invited key inv hinv

/-- The call leaves users and invitations alone, and what it adds is the author's. -/
def Call.IsBy (author : Int64) : Call → Prop
  | createPost d => d.userId = author
  | createComment d => d.userId = author
  | follow follower _ => follower = author
  | insertUser .. => False
  | renameUser .. => False
  | createAndInvite .. => False
  | activate .. => False
  | deleteUser _ => False
  | _ => True

theorem users_of_isBy {author : Int64} (hc : c.IsBy author) : (c.run s).users = s.users := by
  cases c with
  | insertUser | renameUser | createAndInvite | activate | deleteUser => exact hc.elim
  | _ => simp [Call.run, getUser, deletePost, deleteComment, unfollow]

section Author

variable {author : Int64} {id : Int64}

/-- Whose a post is never changes, and a new one is the author's. -/
theorem author_posts_call {p : Post} (hc : c.IsBy author)
    (hp : (c.run s).posts.get? id = some p) :
    p.userId = author ∨ ∃ q, s.posts.get? id = some q ∧ q.userId = p.userId := by
  rcases post_of_call hp with hold | ⟨d, now, rfl, -, rfl⟩ | ⟨g, q, now, -, -, hq, rfl⟩
  · exact .inr ⟨p, hold, rfl⟩
  · exact .inl hc
  · exact .inr ⟨q, hq, rfl⟩

/-- The same of comments. -/
theorem author_comments_call {d : Comment} (hc : c.IsBy author)
    (hd : (c.run s).comments.get? id = some d) :
    d.userId = author ∨ ∃ e, s.comments.get? id = some e ∧ e.userId = d.userId := by
  rcases (comment_of_call hd).2 with hold | ⟨e, now, name, rfl, -, rfl⟩ | ⟨e, d', -, -, hd', rfl⟩
  · exact .inr ⟨d, hold, rfl⟩
  · exact .inl hc
  · exact .inr ⟨d', hd', rfl⟩

/-- A new edge comes from the author and goes to a stored user. -/
theorem author_follows_call {a b : Int64} (hc : c.IsBy author) (hab : (a, b) ∈ (c.run s).follows) :
    (a = author ∧ s.users.contains b) ∨ (a, b) ∈ s.follows := by
  rcases follows_call c s with he | ⟨i, j, rfl, hj, -, he⟩ | ⟨i, j, -, he⟩ <;> rw [he] at hab
  · exact .inr hab
  · rcases List.mem_cons.1 hab with hnew | hold
    · cases hnew
      exact .inl ⟨hc, hj⟩
    · exact .inr hold
  · exact .inr (List.mem_filter.1 hab).1

theorem Attributed.call (h : Attributed s) (hc : c.IsBy author)
    (hauthor : s.users.contains author) : Attributed (c.run s) := by
  constructor <;> rw [users_of_isBy hc]
  · intro id p hp
    rcases author_posts_call hc hp with hnew | ⟨q, hq, hsame⟩
    · exact hnew ▸ hauthor
    · exact hsame ▸ h.posts id q hq
  · intro id d hd
    rcases author_comments_call hc hd with hnew | ⟨e, he, hsame⟩
    · exact hnew ▸ hauthor
    · exact hsame ▸ h.comments id e he
  · intro a b hab
    rcases author_follows_call hc hab with ⟨rfl, hb⟩ | hold
    · exact ⟨hauthor, hb⟩
    · exact h.follows a b hold

end Author

/-! ## Stores to start from -/

/-- A store with some users, each with the name of a role and whether the user is active, and
nothing else. -/
def populated (accounts : List (NewUser × String × Bool)) : Store :=
  run (accounts.map fun (u, roleName, active) => .insertUser u roleName active) initial

theorem reachable_populated (accounts : List (NewUser × String × Bool)) :
    Reachable (populated accounts) := ⟨_, rfl⟩

theorem reachable_run_populated (accounts : List (NewUser × String × Bool)) (cs : List Call) :
    Reachable (run cs (populated accounts)) := (reachable_populated accounts).run cs

theorem attributed_populated (accounts : List (NewUser × String × Bool)) :
    Attributed (populated accounts) := by
  refine run_keeps (fun s c hc hs => ?_) ⟨?_, ?_, ?_⟩
  · obtain ⟨⟨u, roleName, active⟩, -, rfl⟩ := List.mem_map.1 hc
    obtain ⟨-, -, hposts, hcomments, hfollows⟩ := insertUser_frame u roleName active s
    exact hs.mono (fun _ => contains_users_call (by simp)) hposts hcomments hfollows
  · intro id p hp
    cases hp
  · intro id d hd
    cases hd
  · intro a b hab
    cases hab

/-- Users who differ among themselves and from those who are stored can be inserted one after
another. -/
theorem DistinctUsers.insertUsers {accounts : List (NewUser × String × Bool)}
    (h : DistinctUsers s) (hemails : (accounts.map (·.1.email)).Nodup)
    (husernames : (accounts.map (·.1.username)).Nodup)
    (hnew : ∀ a ∈ accounts, ∀ id v, s.users.get? id = some v →
      v.email ≠ a.1.email ∧ v.username ≠ a.1.username) :
    DistinctUsers
      (run (accounts.map fun (u, roleName, active) => .insertUser u roleName active) s) := by
  induction accounts generalizing s with
  | nil => exact h
  | cons a accounts ih =>
    obtain ⟨u, roleName, active⟩ := a
    simp only [List.map_cons, List.nodup_cons] at hemails husernames
    have hhead := hnew (u, roleName, active) List.mem_cons_self
    have htail := fun b hb => hnew b (List.mem_cons_of_mem _ hb)
    simp only [List.map_cons, run_cons, Call.run]
    rcases insertUser_cases u roleName active s with he | ⟨id, now, -, -, he⟩ <;> rw [he]
    · exact ih h hemails.2 husernames.2 htail
    · refine ih (h.insert hhead rfl) hemails.2 husernames.2 fun b hb j v hv => ?_
      change (s.users.insert id _).get? j = some v at hv
      rw [Table.get?_insert] at hv
      split at hv
      · cases hv
        constructor
        · intro heq
          exact hemails.1 (List.mem_map.2 ⟨b, hb, heq.symm⟩)
        · intro heq
          exact husernames.1 (List.mem_map.2 ⟨b, hb, heq.symm⟩)
      · exact htail b hb j v hv

theorem consistent_populated {accounts : List (NewUser × String × Bool)}
    (hemails : (accounts.map (·.1.email)).Nodup)
    (husernames : (accounts.map (·.1.username)).Nodup) : Consistent (populated accounts) where
  distinct := by
    refine DistinctUsers.insertUsers ⟨.empty, .empty⟩ hemails husernames fun a _ id v hv => ?_
    cases hv
  attributed := attributed_populated accounts
  attached := (reachable_populated accounts).attached
  invited := (reachable_populated accounts).invitesStored

end Microblog.Store
