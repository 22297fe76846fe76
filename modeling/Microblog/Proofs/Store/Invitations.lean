import Microblog.Proofs.Store.Calls
import Microblog.Proofs.Store.Tables

/-!
# What becomes of invitations

An invitation comes with its user and goes when it is taken up or with its user
(`invitations_call`). None is for an id that is still to be given
(`Reachable.invitesKnown`), so to delete a user who has just been invited leaves
the very records that there were before (`sameRecords_withdrawn`). A new user is
stored before the end of the invitation is counted, so it is only with a user
whose invitation has a date that both are there (`invitesUntil_iff`).
-/

namespace Microblog.Store

open Account Content

/-! ## The same records -/

theorem SameRecords.refl (s : Store) : SameRecords s s := ⟨rfl, rfl, rfl, rfl, rfl⟩

theorem SameRecords.trans {s t u : Store} (h : SameRecords s t) (h' : SameRecords t u) :
    SameRecords s u :=
  ⟨h'.users.trans h.users, h'.invitations.trans h.invitations, h'.posts.trans h.posts,
    h'.comments.trans h.comments, h'.follows.trans h.follows⟩

/-! ## One call -/

/-- Invitations come with a new user, and go when one of them is taken up or with their user. -/
theorem invitations_call (c : Call) (s : Store) :
    (c.run s).invitations = s.invitations ∨
      (∃ u token ttl now id at' expiry, c = .createAndInvite u token ttl now ∧
        id.toInt = s.lastId.toInt + 1 ∧ now.add? ttl = some expiry ∧ (c.run s).lastId = id ∧
        (c.run s).users = s.users.insert id (s.newUser u "user" false id at') ∧
        (c.run s).invitations = s.invitations.insert (tokenKey token) ⟨id, expiry⟩) ∨
      (∃ token now inv, c = .activate token now ∧
        s.invitations.get? (tokenKey token) = some inv ∧ inv.expiry.notAfter now = false ∧
        (c.run s).users = s.users.modify inv.userId (fun u => { u with isActive := true }) ∧
        (c.run s).invitations = s.invitations.filter fun _ i => i.userId != inv.userId) ∨
      ∃ id, c = .deleteUser id ∧
        (c.run s).invitations = s.invitations.filter fun _ i => i.userId != id := by
  cases c with
  | insertUser u roleName active => exact .inl (by simp [Call.run])
  | createAndInvite u token ttl now =>
    simp only [Call.run]
    rcases createAndInvite_cases u token ttl now s with
      ⟨e, he⟩ | ⟨id, at', hid, -, ⟨-, he⟩ | ⟨expiry, hexpiry, he⟩⟩ <;> rw [he]
    · exact .inl rfl
    · exact .inl rfl
    · exact .inr (.inl ⟨u, token, ttl, now, id, at', expiry, rfl, hid, hexpiry, rfl, rfl, rfl⟩)
  | activate token now =>
    simp only [Call.run]
    rcases activate_cases token now s with he | ⟨inv, hinv, hlive, he⟩ <;> rw [he]
    · exact .inl rfl
    · exact .inr (.inr (.inl ⟨token, now, inv, rfl, hinv, hlive, rfl, rfl⟩))
  | deleteUser id => exact .inr (.inr (.inr ⟨id, rfl, rfl⟩))
  | _ =>
    exact .inl (by simp [Call.run, renameUser, getUser, deletePost, deleteComment, unfollow])

/-- An invitation that is there after a call was so before, or came with a new user; the call has
not deleted its user. -/
theorem invitation_of_call {c : Call} {s : Store} {key : String} {inv : Invitation}
    (hinv : (c.run s).invitations.get? key = some inv) :
    c ≠ .deleteUser inv.userId ∧
      (s.invitations.get? key = some inv ∨
        (c.run s).lastId = inv.userId ∧ (c.run s).users.contains inv.userId) := by
  constructor
  · rintro rfl
    change (s.invitations.filter fun _ i => i.userId != inv.userId).get? key = some inv at hinv
    rw [Table.get?_filter, Option.filter_eq_some_iff] at hinv
    simp at hinv
  rcases invitations_call c s with he | ⟨_, token, _, _, id, _, expiry, -, -, -, hlast, hu, he⟩ |
    ⟨token, now, taken, -, -, -, -, he⟩ | ⟨id, -, he⟩ <;> rw [he] at hinv
  · exact .inl hinv
  · rw [Table.get?_insert] at hinv
    split at hinv
    · cases hinv
      exact .inr ⟨hlast, hu ▸ Table.contains_insert_iff.2 (.inl rfl)⟩
    · exact .inl hinv
  · rw [Table.get?_filter, Option.filter_eq_some_iff] at hinv
    exact .inl hinv.1
  · rw [Table.get?_filter, Option.filter_eq_some_iff] at hinv
    exact .inl hinv.1

/-! ## Invitations are for ids that have been given -/

def InvitesKnown (s : Store) : Prop :=
  ∀ key inv, s.invitations.get? key = some inv → inv.userId.toInt ≤ s.lastId.toInt

theorem InvitesKnown.call {s : Store} (h : InvitesKnown s) (c : Call) : InvitesKnown (c.run s) := by
  intro key inv hinv
  rcases (invitation_of_call hinv).2 with hold | ⟨hlast, -⟩
  · exact Int.le_trans (h key inv hold) (lastId_call c s)
  · exact hlast ▸ Int.le_refl _

theorem Reachable.invitesKnown {s : Store} (h : Reachable s) : InvitesKnown s := by
  refine h.keeps (fun key inv hinv => ?_) fun s c hs => hs.call c
  cases hinv

/-! ## Registrations -/

/-- A registration that is not refused is for an address and a name that nobody has. -/
theorem ne_of_createAndInvite {s : Store} {u : NewUser} {token : String} {ttl : Int}
    {now : Timestamp} (h : ∀ f, (s.createAndInvite u token ttl now).1 ≠ .error (.failed f))
    {id : Int64} {v : User} (hv : s.users.get? id = some v) :
    v.email ≠ u.email ∧ v.username ≠ u.username := by
  have hmem : v ∈ s.users.values := Table.mem_values_iff.2 ⟨id, hv⟩
  unfold createAndInvite at h
  split at h
  · exact absurd rfl (h .duplicateEmail)
  split at h
  · exact absurd rfl (h .duplicateUsername)
  · rename_i hemail husername
    constructor
    · intro heq
      exact hemail (List.any_eq_true.2 ⟨v, hmem, beq_iff_eq.2 heq⟩)
    · intro heq
      exact husername (List.any_eq_true.2 ⟨v, hmem, beq_iff_eq.2 heq⟩)

/-- To delete the user whom a registration has just created leaves the records as they were. -/
theorem sameRecords_withdrawn {s : Store} (hs : Numbered s) (hi : InvitesKnown s) {u : NewUser}
    {token : String} {ttl : Int} {now : Timestamp} {user : User}
    (htoken : s.invitations.get? (tokenKey token) = none)
    (h : (s.createAndInvite u token ttl now).1 = .ok user) :
    SameRecords s ((s.createAndInvite u token ttl now).2.deleteUser user.id) := by
  rcases createAndInvite_cases u token ttl now s with
    ⟨e, he⟩ | ⟨id, at', hid, -, ⟨-, he⟩ | ⟨expiry, -, he⟩⟩ <;> rw [he] at h ⊢
  · cases h
  · cases h
  · cases h
    have hnew : s.users.get? id = none := hs.users.get?_next hid
    have husers : (s.users.insert id (s.newUser u "user" false id at')).erase id = s.users :=
      Table.erase_insert hnew
    have hinvitations : (s.invitations.insert (tokenKey token) ⟨id, expiry⟩).filter
        (fun _ i => i.userId != id) = s.invitations := by
      refine Table.filter_insert htoken (by simp) fun key inv hinv => bne_iff_ne.2 ?_
      have hle := hi key inv hinv
      intro heq
      rw [heq] at hle
      omega
    exact ⟨husers, hinvitations, rfl, rfl, rfl⟩

/-! ## The end of an invitation -/

/-- There is an id for a new user, and nobody has the user's address or name. -/
structure Admits (s : Store) (u : NewUser) : Prop where
  id : s.fresh ≠ none
  email : ∀ v ∈ s.users.values, v.email ≠ u.email
  username : ∀ v ∈ s.users.values, v.username ≠ u.username

/-- A user who is admitted is stored in any case, the invitation only if its end has a date. -/
theorem createAndInvite_of_admits {s : Store} {u : NewUser} (h : s.Admits u) (token : String)
    (ttl : Int) (now : Timestamp) :
    ∃ id at', s.createAndInvite u token ttl now =
      let user := s.newUser u "user" false id at'
      let s := { s with lastId := id, clock := at', users := s.users.insert id user }
      match now.add? ttl with
      | none => (.error .overflow, s)
      | some expiry =>
        (.ok user, { s with invitations := s.invitations.insert (tokenKey token) ⟨id, expiry⟩ }) := by
  obtain ⟨⟨id, at', s'⟩, hfresh⟩ := Option.ne_none_iff_exists'.1 h.id
  obtain ⟨-, -, rfl⟩ := fresh_eq_some hfresh
  refine ⟨id, at', ?_⟩
  unfold createAndInvite
  rw [if_neg (by simpa using h.email), if_neg (by simpa using h.username), hfresh]
  rfl

theorem createAndInvite_of_not_admits {s : Store} {u : NewUser} (h : ¬ s.Admits u)
    (token : String) (ttl : Int) (now : Timestamp) :
    ∃ e, s.createAndInvite u token ttl now = (.error e, s) ∧ (e = .overflow → s.fresh = none) := by
  unfold createAndInvite
  split
  · exact ⟨_, rfl, nofun⟩
  rename_i hemail
  split
  · exact ⟨_, rfl, nofun⟩
  rename_i husername
  cases hfresh : s.fresh with
  | none => exact ⟨_, rfl, fun _ => rfl⟩
  | some n => exact absurd ⟨by simp [hfresh], by simpa using hemail, by simpa using husername⟩ h

/-- As long as there is an id, a registration is refused and changes nothing, or stores the user
together with an invitation until some time. -/
def InvitesUntil (ttl : Int) (now expiry : Timestamp) : Prop :=
  ∀ (u : NewUser) (token : String) (s : Store), s.fresh ≠ none →
    let r := s.createAndInvite u token ttl now
    (∃ f, r = (.error (.failed f), s)) ∨
      ∃ user, r.1 = .ok user ∧ r.2.users.get? user.id = some user ∧
        r.2.invitations.get? (tokenKey token) = some ⟨user.id, expiry⟩

theorem invitesUntil_iff {ttl : Int} {now expiry : Timestamp} :
    InvitesUntil ttl now expiry ↔ now.add? ttl = some expiry := by
  constructor
  · intro h
    have hadmits : initial.Admits ⟨"al", "al@example.com", ⟨""⟩⟩ := ⟨nofun, nofun, nofun⟩
    obtain ⟨id, at', he⟩ := createAndInvite_of_admits hadmits "tok" ttl now
    have hboth := h ⟨"al", "al@example.com", ⟨""⟩⟩ "tok" initial hadmits.id
    rw [he] at hboth
    cases hadd : now.add? ttl with
    | none =>
      rw [hadd] at hboth
      obtain ⟨f, hf⟩ | ⟨user, hok, -⟩ := hboth
      · cases hf
      · cases hok
    | some t =>
      rw [hadd] at hboth
      obtain ⟨f, hf⟩ | ⟨user, -, -, hinvitation⟩ := hboth
      · cases hf
      · simp only [Table.get?_insert, if_true, Option.some.injEq, Invitation.mk.injEq]
          at hinvitation
        rw [hinvitation.2]
  · intro hadd u token s hfresh
    by_cases hadmits : s.Admits u
    · obtain ⟨id, at', he⟩ := createAndInvite_of_admits hadmits token ttl now
      rw [he, hadd]
      refine .inr ⟨_, rfl, ?_, ?_⟩
      · exact (Table.get?_insert _ _ _ _).trans (if_pos rfl)
      · exact (Table.get?_insert _ _ _ _).trans (if_pos rfl)
    · obtain ⟨e, he, hoverflow⟩ := createAndInvite_of_not_admits hadmits token ttl now
      rw [he]
      cases e with
      | failed f => exact .inl ⟨f, rfl⟩
      | overflow => exact absurd (hoverflow rfl) hfresh

end Microblog.Store
