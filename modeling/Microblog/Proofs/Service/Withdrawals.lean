import Microblog.Proofs.Service.Activation
import Microblog.Proofs.Service.Integrity

/-!
# Registrations that are taken back

A registration is three steps: the user is stored and invited, the mail is sent,
and if it fails the user is deleted. `Registering` is an application with the
registrations that are between their steps; in between, anything else may happen
in any order, and the token of a mail that has failed may be known all the same.

What is taken back is the user whom the registration has stored and the
invitation with its own token, and nothing else (`takenBack_of_run`). Whether the
user has been activated by then is not asked. That can only be by a token with
the key of the registration's own, but then an account goes that is in use
(`active_user_is_withdrawn`). A step that overflows inside the store would keep it
locked from the deletion too, and ends what is meant here.
-/

namespace Microblog.Service

open Account Content Http Store

/-- A registration whose user is stored. -/
structure Pending where
  /-- As it was stored. -/
  user : User
  token : String
  /-- Whether the mail could not be sent. -/
  failed : Bool

structure Registering where
  app : App
  /-- Under the ids of their users. -/
  pending : Table Int64 Pending

/-- What may come next: a step of a registration, or anything else. -/
inductive Turn where
  /-- A registration stores and invites its user. -/
  | invite (u : NewUser) (o : Occasion)
  /-- The mail to the user of a registration is sent, which ends it unless that fails. -/
  | mail (id : Int64)
  /-- A registration whose mail has failed deletes its user, and answers with an error. -/
  | withdraw (id : Int64)
  | event (e : Event)

def Turn.IsOwn : Turn → Prop
  | event e => e.IsOwn
  | _ => True

namespace Registering

/-- An application with no registration between its steps. -/
def start (app : App) : Registering := ⟨app, .empty⟩

def step (x : Registering) : Turn → Registering
  | .invite u o =>
    match x.app.invite u o with
    | (.ok user, app) => ⟨app, x.pending.insert user.id ⟨user, o.token, false⟩⟩
    | (.error _, app) => ⟨app, x.pending⟩
  | .mail id =>
    match (x.pending.get? id).filter (!·.failed) with
    | none => x
    | some p =>
      match x.app.welcome p.user p.token with
      | (.ok (), app) => ⟨app, x.pending.erase id⟩
      | (.error _, app) => ⟨app, x.pending.modify id fun p => { p with failed := true }⟩
  | .withdraw id =>
    match (x.pending.get? id).filter (·.failed) with
    | none => x
    | some p => ⟨x.app.withdraw p.user, x.pending.erase id⟩
  | .event e => ⟨x.app.step e, x.pending⟩

def after (ts : List Turn) (x : Registering) : Registering := ts.foldl step x

variable {app first : App} {x x' : Registering} {u : NewUser} {user : User} {token : String}
  {p : Pending} {o : Occasion} {req : Request} {t : Turn} {ts ts' between : List Turn}
  {s s' : Store} {id : Int64}

theorem after_append (ts ts' : List Turn) (x : Registering) :
    x.after (ts ++ ts') = (x.after ts).after ts' := List.foldl_append

theorem app_invite (u : NewUser) (o : Occasion) (x : Registering) :
    (x.step (.invite u o)).app = (x.app.invite u o).2 := by
  simp only [step]
  split <;> rename_i hinvite <;> rw [hinvite]

theorem store_mail (id : Int64) (x : Registering) :
    (x.step (.mail id)).app.store = x.app.store := by
  simp only [step]
  split
  · rfl
  · next p _ =>
    have hstore : (x.app.welcome p.user p.token).2.store = x.app.store := rfl
    split <;> rename_i hmail <;> rwa [hmail] at hstore

/-! ## A registration is its steps -/

/-- Step by step, a registration that stores its user comes to what it comes to as a whole, whatever
else is under way: the mail is sent, or it fails and the user is deleted. -/
theorem register_eq_steps (hu : (x.app.invite u o).1 = .ok user)
    (hx' : x' = x.after [.invite u o, .mail user.id]) :
    (x'.pending.get? user.id = none ∧ x.app.register u o =
        (some (.json 201 (App.userWithToken user o.token)), x'.app)) ∨
      x'.pending.get? user.id = some ⟨user, o.token, true⟩ ∧ x.app.register u o =
        (some Refusal.internal.reply, (x'.step (.withdraw user.id)).app) := by
  cases hinvite : x.app.invite u o with
  | mk outcome app =>
    rw [hinvite] at hu
    change outcome = .ok user at hu
    subst hu
    have hget : (x.pending.insert user.id ⟨user, o.token, false⟩).get? user.id =
        some ⟨user, o.token, false⟩ := by
      rw [Table.get?_insert, if_pos rfl]
    simp only [after, List.foldl_cons, List.foldl_nil, step, hinvite, hget,
      Option.filter_some] at hx'
    cases hmail : app.welcome user o.token with
    | mk sent app' =>
      cases sent with
      | ok =>
        simp only [Bool.not_false, if_true, hmail] at hx'
        subst hx'
        refine .inl ⟨by simp [Table.get?_erase], ?_⟩
        simp only [App.register, hinvite, hmail]
      | error f =>
        simp only [Bool.not_false, if_true, hmail] at hx'
        subst hx'
        have hfailed : ((x.pending.insert user.id ⟨user, o.token, false⟩).modify user.id
            fun p => { p with failed := true }).get? user.id = some ⟨user, o.token, true⟩ := by
          rw [Table.get?_modify, if_pos rfl, hget]
          rfl
        refine .inr ⟨hfailed, ?_⟩
        simp only [App.register, hinvite, hmail, step, hfailed, Option.filter_some, if_true]

/-! ## Users of registrations under way -/

/-- Somebody asks for the activation with a token that has the key of the given one. -/
def TakenUp (ts : List Turn) (token : String) : Prop :=
  ∃ req o token', .event (.request req o) ∈ ts ∧ AsksToActivate req token' ∧
    tokenKey token' = tokenKey token

/-- The user of a registration, since its first step: stored as at first but for the activation,
which somebody has asked for with the token, and invited with the token alone. -/
structure Underway (s : Store) (since : List Turn) (user : User) (token : String) : Prop where
  known : user.id.toInt ≤ s.lastId.toInt
  stored : ∃ active, s.users.get? user.id = some { user with isActive := active } ∧
    (active = true → TakenUp since token)
  invited : ∀ key inv, s.invitations.get? key = some inv → inv.userId = user.id →
    key = tokenKey token

/-- The turns of a run since the first step of a registration. -/
def Begun (first : App) (ts : List Turn) (user : User) (token : String) (since : List Turn) :
    Prop :=
  ∃ before u o, ts = before ++ .invite u o :: since ∧ o.token = token ∧
    (((start first).after before).app.invite u o).1 = .ok user

theorem TakenUp.concat (h : TakenUp between token) (t : Turn) : TakenUp (between ++ [t]) token := by
  obtain ⟨req, o, token', hmem, hasks⟩ := h
  exact ⟨req, o, token', List.mem_append_left _ hmem, hasks⟩

theorem Begun.concat (h : Begun first ts user token between) (t : Turn) :
    Begun first (ts ++ [t]) user token (between ++ [t]) := by
  obtain ⟨before, u, o, rfl, hbegins⟩ := h
  exact ⟨before, u, o, by simp, hbegins⟩

/-- A turn that does not touch the user. -/
theorem Underway.concat (h : Underway s between user token) (t : Turn)
    (hlast : s.lastId.toInt ≤ s'.lastId.toInt)
    (huser : s'.users.get? user.id = s.users.get? user.id)
    (hinvited : ∀ key inv, s'.invitations.get? key = some inv → inv.userId = user.id →
      s.invitations.get? key = some inv) : Underway s' (between ++ [t]) user token where
  known := Int.le_trans h.known hlast
  stored := by
    obtain ⟨active, hstored, htaken⟩ := h.stored
    exact ⟨active, huser.trans hstored, fun hactive => (htaken hactive).concat t⟩
  invited key inv hinv hid := h.invited key inv (hinvited key inv hinv hid) hid

/-- The store of an event is a later one. -/
theorem lastId_step (e : Event) (app : App) :
    app.store.lastId.toInt ≤ (app.step e).store.lastId.toInt := by
  obtain ⟨cs, hcs⟩ := step_calls e app
  rw [hcs]
  exact lastId_run cs app.store

/-- A turn that at most stores a new user and invites it. -/
theorem Underway.insert {v : User} (h : Underway s between user token) (t : Turn)
    (hlast : s.lastId.toInt ≤ s'.lastId.toInt) (new : id.toInt = s.lastId.toInt + 1)
    (users : s'.users = s.users.insert id v)
    (invitations : ∀ key inv, s'.invitations.get? key = some inv →
      inv.userId = id ∨ s.invitations.get? key = some inv) :
    Underway s' (between ++ [t]) user token := by
  have hid : user.id ≠ id := by
    have hknown := h.known
    rintro rfl
    omega
  refine h.concat t hlast ?_ fun key inv hinv huser => ?_
  · rw [users, Table.get?_insert, if_neg hid]
  · exact (invitations key inv hinv).resolve_left fun he => hid (huser.symm.trans he)

theorem Underway.respond (h : Underway app.store between user token) (hs : Numbered app.store)
    (req : Request) (o : Occasion) :
    Underway (app.respond req o).2.store (between ++ [.event (.request req o)]) user token := by
  have hlast := lastId_step (.request req o) app
  cases respond_accounts hs req o with
  | steady users invitations =>
    exact h.concat _ hlast (by rw [users]) fun key inv hinv _ => by rwa [invitations] at hinv
  | stored v id at' asks new last distinct users invitations =>
    exact h.insert _ hlast new users fun key inv hinv => .inr (by rwa [invitations] at hinv)
  | invited v id at' expiry new last distinct registers users invitations =>
    refine h.insert _ hlast new users fun key inv hinv => ?_
    rw [invitations] at hinv
    exact (Table.eq_or_get?_of_insert hinv).imp_left (congrArg Invitation.userId)
  | withdrawn id expiry asks new users invitations =>
    refine h.concat _ hlast (by rw [users]) fun key inv hinv _ => ?_
    rw [invitations, Table.get?_filter, Option.filter_eq_some_iff] at hinv
    obtain ⟨hinv, hother⟩ := hinv
    -- what the new user was invited with is gone
    refine (Table.eq_or_get?_of_insert hinv).resolve_left ?_
    rintro rfl
    simp at hother
  | activated token' inv asks invited live users invitations =>
    have hinvited : ∀ key i, (app.respond req o).2.store.invitations.get? key = some i →
        app.store.invitations.get? key = some i := by
      intro key i hi
      rw [invitations, Table.get?_filter, Option.filter_eq_some_iff] at hi
      exact hi.1
    by_cases hid : inv.userId = user.id
    -- the user's own invitation is taken up
    · obtain ⟨active, hstored, -⟩ := h.stored
      refine ⟨Int.le_trans h.known hlast, ⟨true, ?_, fun _ => ?_⟩, fun key i hi hid' =>
        h.invited key i (hinvited key i hi) hid'⟩
      · rw [users, Table.get?_modify, if_pos hid.symm, hstored]
        rfl
      · exact ⟨req, o, token', by simp, asks, h.invited _ inv invited hid⟩
    · refine h.concat _ hlast ?_ fun key i hi _ => hinvited key i hi
      rw [users, Table.get?_modify, if_neg fun he => hid he.symm]

theorem Underway.event {e : Event} (h : Underway app.store between user token)
    (hs : Numbered app.store) (he : e.IsOwn) :
    Underway (app.step e).store (between ++ [.event e]) user token := by
  cases e with
  | request req o => exact h.respond hs req o
  | call c => exact he.elim
  | resolve id instant =>
    have hlast := lastId_step (.resolve id instant) app
    obtain ⟨c, n, hn⟩ := resolve_eq id instant app
    rw [App.step, hn] at hlast ⊢
    exact h.concat _ hlast rfl fun _ _ hinv _ => hinv
  | failCacheWrites fail => exact h.concat _ (Int.le_refl _) rfl fun _ _ hinv _ => hinv
  | setMailer m => exact h.concat _ (Int.le_refl _) rfl fun _ _ hinv _ => hinv

/-- Another registration gives its user a new id. -/
theorem Underway.invite (h : Underway app.store between user token) (u : NewUser) (o : Occasion) :
    Underway (app.invite u o).2.store (between ++ [.invite u o]) user token := by
  unfold App.invite
  cases app.config.invitationSecs? with
  | none => exact h.concat _ (Int.le_refl _) rfl fun _ _ hinv _ => hinv
  | some secs =>
    dsimp only
    have hlast := lastId_call (.createAndInvite u o.token (secs * Timestamp.second) o.now) app.store
    simp only [Call.run] at hlast
    rcases createAndInvite_cases u o.token (secs * Timestamp.second) o.now app.store with
      ⟨e, he⟩ | ⟨id, at', hid, -, ⟨-, he⟩ | ⟨expiry, -, he⟩⟩ <;> rw [he] at hlast ⊢
    · exact h.concat _ hlast rfl fun _ _ hinv _ => hinv
    · exact h.insert _ hlast hid rfl fun _ _ hinv => .inr hinv
    · exact h.insert _ hlast hid rfl fun _ _ hinv =>
        (Table.eq_or_get?_of_insert hinv).imp_left (congrArg Invitation.userId)

/-- The first step of a registration. -/
theorem underway_invite (hi : InvitesKnown app.store) (hu : (app.invite u o).1 = .ok user) :
    Underway (app.invite u o).2.store [] user o.token := by
  unfold App.invite at hu ⊢
  cases hsecs : app.config.invitationSecs? with
  | none => simp [hsecs] at hu
  | some secs =>
    simp only [hsecs] at hu ⊢
    rcases createAndInvite_cases u o.token (secs * Timestamp.second) o.now app.store with
      ⟨e, he⟩ | ⟨id, at', hid, -, ⟨-, he⟩ | ⟨expiry, -, he⟩⟩ <;> rw [he] at hu ⊢
    · cases hu
    · cases hu
    · cases hu
      refine ⟨Int.le_refl _, ⟨false, ?_, nofun⟩, fun key inv hinv hid' => ?_⟩
      · exact (Table.get?_insert ..).trans (if_pos rfl)
      · change (app.store.invitations.insert _ _).get? key = some inv at hinv
        rw [Table.get?_insert] at hinv
        split at hinv
        · assumption
        · have hle := hi key inv hinv
          rw [hid'] at hle
          change id.toInt ≤ _ at hle
          omega

/-- The deletion of another user. -/
theorem Underway.deleteUser (h : Underway s between user token) (t : Turn) (hid : user.id ≠ id) :
    Underway (s.deleteUser id) (between ++ [t]) user token := by
  refine h.concat t (Int.le_refl _) ?_ fun key inv hinv _ => ?_
  · change (s.users.erase id).get? user.id = _
    rw [Table.get?_erase, if_neg hid]
  · change (s.invitations.filter fun _ i => i.userId != id).get? key = some inv at hinv
    rw [Table.get?_filter, Option.filter_eq_some_iff] at hinv
    exact hinv.1

/-! ## Runs -/

theorem reachable_step (h : Store.Reachable x.app.store) (t : Turn) :
    Store.Reachable (x.step t).app.store := by
  cases t with
  | invite u o =>
    rw [app_invite]
    rcases store_invite u o x.app with hs | ⟨ttl, hs⟩ <;> rw [hs]
    · exact h
    · exact h.call _
  | mail id =>
    rwa [store_mail]
  | withdraw id =>
    simp only [step]
    split
    · exact h
    · exact h.call (.deleteUser _)
  | event e =>
    obtain ⟨cs, hcs⟩ := step_calls e x.app
    simp only [step, hcs]
    exact h.run cs

/-- A registration that is under way after a turn was so before, or has just begun. -/
theorem pending_step (h : (x.step t).pending.get? id = some p) :
    (∃ q, x.pending.get? id = some q ∧ q.user = p.user ∧ q.token = p.token) ∨
      ∃ u o, t = .invite u o ∧ (x.app.invite u o).1 = .ok p.user ∧ o.token = p.token ∧
        p.user.id = id := by
  cases t with
  | invite u o =>
    simp only [step] at h
    split at h
    · next user app hinvite =>
      rw [Table.get?_insert] at h
      split at h
      · next hid =>
        cases h
        exact .inr ⟨u, o, rfl, by rw [hinvite], rfl, hid.symm⟩
      · exact .inl ⟨p, h, rfl, rfl⟩
    · exact .inl ⟨p, h, rfl, rfl⟩
  | mail j =>
    refine .inl ?_
    simp only [step] at h
    split at h
    · exact ⟨p, h, rfl, rfl⟩
    · split at h
      · rw [Table.get?_erase] at h
        split at h
        · cases h
        · exact ⟨p, h, rfl, rfl⟩
      · rw [Table.get?_modify] at h
        split at h
        · obtain ⟨q, hq, rfl⟩ := Option.map_eq_some_iff.1 h
          exact ⟨q, hq, rfl, rfl⟩
        · exact ⟨p, h, rfl, rfl⟩
  | withdraw j =>
    refine .inl ?_
    simp only [step] at h
    split at h
    · exact ⟨p, h, rfl, rfl⟩
    · rw [Table.get?_erase] at h
      split at h
      · cases h
      · exact ⟨p, h, rfl, rfl⟩
  | event e => exact .inl ⟨p, h, rfl, rfl⟩

/-- What every run keeps. -/
structure Sound (first : App) (ts : List Turn) : Prop where
  reachable : Store.Reachable ((start first).after ts).app.store
  keyed : ∀ id p, ((start first).after ts).pending.get? id = some p → p.user.id = id
  begun : ∀ id p, ((start first).after ts).pending.get? id = some p → ∃ since,
    Begun first ts p.user p.token since ∧
      Underway ((start first).after ts).app.store since p.user p.token

/-- A turn that leaves a registration under way leaves its user, too. -/
theorem Underway.step (h : Underway x.app.store between user token)
    (hreach : Store.Reachable x.app.store)
    (hkeyed : ∀ id p, x.pending.get? id = some p → p.user.id = id) (ht : t.IsOwn)
    (hstill : (x.step t).pending.get? user.id = some p) :
    Underway (x.step t).app.store (between ++ [t]) user token := by
  cases t with
  | invite u o =>
    rw [app_invite]
    exact h.invite u o
  | mail id =>
    rw [store_mail]
    exact h.concat _ (Int.le_refl _) rfl fun _ _ hinv _ => hinv
  | withdraw id =>
    simp only [Registering.step] at hstill ⊢
    split at hstill
    · exact h.concat _ (Int.le_refl _) rfl fun _ _ hinv _ => hinv
    · next q hq =>
      rw [Table.get?_erase] at hstill
      split at hstill
      · cases hstill
      · next hid =>
        have hother : q.user.id = id := hkeyed id q (Option.filter_eq_some_iff.1 hq).1
        exact h.deleteUser _ fun he => hid (he.trans hother)
  | event e => exact h.event hreach.numbered ht

theorem Sound.concat (h : Sound first ts) (ht : t.IsOwn) : Sound first (ts ++ [t]) := by
  have hafter : (start first).after (ts ++ [t]) = ((start first).after ts).step t :=
    after_append ts [t] _
  refine ⟨?_, fun id p hp => ?_, fun id p hp => ?_⟩ <;> rw [hafter] at *
  · exact reachable_step h.reachable t
  · rcases pending_step hp with ⟨q, hq, huser, -⟩ | ⟨u, o, -, -, -, hid⟩
    · exact huser ▸ h.keyed id q hq
    · exact hid
  · rcases pending_step hp with ⟨q, hq, huser, htoken⟩ | ⟨u, o, rfl, hinvite, htoken, hid⟩
    · obtain ⟨since, hbegun, hunderway⟩ := h.begun id q hq
      rw [huser, htoken] at hbegun hunderway
      have hstill : (((start first).after ts).step t).pending.get? p.user.id = some p := by
        rwa [← huser, h.keyed id q hq]
      exact ⟨since ++ [t], hbegun.concat t, hunderway.step h.reachable h.keyed ht hstill⟩
    · refine ⟨[], ⟨ts, u, o, rfl, htoken, hinvite⟩, ?_⟩
      rw [app_invite, ← htoken]
      exact underway_invite h.reachable.invitesKnown hinvite

theorem Sound.append (h : Sound first ts) (hts' : ∀ t ∈ ts', t.IsOwn) :
    Sound first (ts ++ ts') := by
  induction ts' generalizing ts with
  | nil => simpa using h
  | cons t ts' ih =>
    have hstep := ih (h.concat (hts' t List.mem_cons_self)) fun t' ht' =>
      hts' t' (List.mem_cons_of_mem t ht')
    simpa using hstep

theorem Sound.nil (h : Store.Reachable first.store) : Sound first [] := ⟨h, nofun, nofun⟩

/-- From the store `s` to the store `t`, the user of a registration is taken back. -/
structure TakesBack (s t : Store) (since : List Turn) (user : User) (token : String) : Prop where
  /-- The user is the one of the registration, and active only by its token. -/
  stored : ∃ active, s.users.get? user.id = some { user with isActive := active } ∧
    (active = true → TakenUp since token)
  /-- The user can only be invited with the token of the registration. -/
  invited : ∀ key inv, s.invitations.get? key = some inv → inv.userId = user.id →
    key = tokenKey token
  users : t.users = s.users.erase user.id
  invitations : t.invitations = s.invitations.filter fun _ inv => inv.userId != user.id
  posts : t.posts = s.posts
  comments : t.comments = s.comments
  follows : t.follows = s.follows

variable {accounts : List (NewUser × String × Bool)} {config : Config}
  {cache : Option Cache.Memory} {mailer : Mail.Mailer} {instant : Int}

/-- **Withdrawal.** After every run, whatever comes between the steps of however many registrations,
a registration whose mail has failed takes back the user whom it has stored and the invitation with
its token, and nothing else. If the user is active, somebody has asked for that with the token. -/
theorem takenBack_of_run
    (hstart : App.start? config (populated accounts) cache mailer instant = some first)
    (hts : ∀ t ∈ ts, t.IsOwn) (hp : ((start first).after ts).pending.get? id = some p)
    (hfailed : p.failed = true) :
    ∃ since, Begun first ts p.user p.token since ∧
      TakesBack ((start first).after ts).app.store
        ((start first).after (ts ++ [.withdraw id])).app.store since p.user p.token := by
  have hreach : Store.Reachable first.store := by
    obtain ⟨authority, -, rfl⟩ := Option.map_eq_some_iff.1 hstart
    exact reachable_populated accounts
  obtain ⟨since, hbegun, hunderway⟩ := (Sound.append (.nil hreach) hts).begun id p hp
  have hwithdraw : ((start first).after (ts ++ [.withdraw id])).app.store =
      ((start first).after ts).app.store.deleteUser p.user.id := by
    rw [after_append]
    simp only [after, List.foldl_cons, List.foldl_nil] at hp ⊢
    simp only [step, hp, Option.filter_some, hfailed, if_true, App.withdraw]
  refine ⟨since, hbegun, hunderway.stored, hunderway.invited, ?_, ?_, ?_, ?_, ?_⟩ <;>
    rw [hwithdraw] <;> rfl

/-- A registration whose mail fails. -/
def sampleTurns : List Turn :=
  [.event (.setMailer .failing), .invite ⟨"ann", "ann@example.com", ⟨""⟩⟩ secondOccasion, .mail 101]

theorem takenBack_sampleTurns :
    App.start? sampleConfig (populated []) none .discarding 0 = some sampleStart ∧
      ∃ p, ((start sampleStart).after sampleTurns).pending.get? 101 = some p ∧ p.failed = true ∧
        ∃ since, Begun sampleStart sampleTurns p.user p.token since ∧
          TakesBack ((start sampleStart).after sampleTurns).app.store
            ((start sampleStart).after (sampleTurns ++ [.withdraw 101])).app.store since p.user
            p.token := by
  have hstart : App.start? sampleConfig (populated []) none .discarding 0 = some sampleStart :=
    start?_sampleConfig
  have hown : ∀ t ∈ sampleTurns, t.IsOwn := by
    intro t ht
    simp only [sampleTurns, List.mem_cons, List.not_mem_nil, or_false] at ht
    rcases ht with rfl | rfl | rfl <;> trivial
  have hfailed : (((start sampleStart).after sampleTurns).pending.get? 101).any (·.failed) := by
    decide +kernel
  obtain ⟨p, hp, hpfailed⟩ := (Option.any_eq_true ..).1 hfailed
  exact ⟨hstart, p, hp, hpfailed, takenBack_of_run hstart hown hp hpfailed⟩

/-- The same registration, but its token is taken up before it ends. -/
def crossedTurns : List Turn := sampleTurns ++ [.event (.request sampleActivation secondOccasion)]

/-- An active user goes with a failed registration. -/
theorem active_user_is_withdrawn :
    App.start? sampleConfig (populated []) none .discarding 0 = some sampleStart ∧
      (((start sampleStart).after crossedTurns).pending.get? 101).any (·.failed) ∧
      activity? ((start sampleStart).after crossedTurns).app.store 101 = some true ∧
      activity? ((start sampleStart).after (crossedTurns ++ [.withdraw 101])).app.store 101 =
        none :=
  ⟨start?_sampleConfig, by decide +kernel, by decide +kernel, by decide +kernel⟩

end Registering

end Microblog.Service
