import Microblog.Proofs.Service.Activation

/-!
# Accounts that registrations make

A registration that succeeds has kept the bounds and makes an account under a new
id (`account_of_registration`), which no later request takes away or gives to
someone else (`HasAccount.respond`).
-/

namespace Microblog.Service

open Account Content Http Store

variable {app : App} {req : Request} {o : Occasion} {id : Int64} {email : String} {p : Password}

/-! ## Requests on the pages for everyone -/

section Front

variable {page : FrontPage}

/-- Without limits a request on a page for everyone comes to the task that is planned for it. -/
theorem undertakes_front {t : Task} (hunlimited : app.config.limits.enabled = false)
    (hmethod : req.method ≠ "OPTIONS") (hroute : Route.ofPath? req.path = some (.front page))
    (hplan : app.planFront page (Verb.ofMethod? req.method) req o = .ok t) :
    Undertakes app req o (.front page) t app := by
  have hmeter := meter_of_unlimited hunlimited req o.instant
  refine ⟨hmethod, by rw [hmeter], hroute, ?_⟩
  rw [hmeter, App.plan]
  exact congrArg (·, app) hplan

/-- Where there is no task, the reply is that of the plan. -/
theorem refused_front {f : Reply} (hunlimited : app.config.limits.enabled = false)
    (hmethod : req.method ≠ "OPTIONS") (hroute : Route.ofPath? req.path = some (.front page))
    (hplan : app.planFront page (Verb.ofMethod? req.method) req o = .error f) :
    ∃ r, (app.respond req o).1 = some r ∧ r.status = f.status := by
  have hmeter := meter_of_unlimited hunlimited req o.instant
  rw [respond_of_metered hmethod (by rw [hmeter]) hroute, hmeter]
  simp only [App.serve, App.plan, hplan, Option.map_some]
  exact ⟨_, rfl, status_finish ..⟩

end Front

/-! ## Accounts -/

/-- The user under the id has the address and the hash, and nobody else has the address. -/
structure HasAccount (s : Store) (id : Int64) (email : String) (p : Password) : Prop where
  stored : ∃ u, s.users.get? id = some u ∧ u.email = email ∧ u.password = p
  alone : ∀ j v, s.users.get? j = some v → v.email = email → j = id

theorem HasAccount.of_users {s t : Store} (h : HasAccount s id email p) (ht : t.users = s.users) :
    HasAccount t id email p := by
  obtain ⟨hstored, halone⟩ := h
  rw [← ht] at hstored halone
  exact ⟨hstored, halone⟩

/-- To store a new user with another address leaves the account. -/
theorem HasAccount.insert {s t : Store} {u : NewUser} {j : Int64} {at' : Timestamp}
    (h : HasAccount s id email p) (hs : Numbered s) (hj : j.toInt = s.lastId.toInt + 1)
    (hdistinct : ∀ k v, s.users.get? k = some v → v.email ≠ u.email)
    (ht : t.users = s.users.insert j (s.newUser u "user" false j at')) :
    HasAccount t id email p := by
  obtain ⟨w, hw, hemail, hpassword⟩ := h.stored
  have hid := (hs.users id w hw).2
  refine ⟨⟨w, ?_, hemail, hpassword⟩, fun k v hv hvemail => ?_⟩
  · rw [ht, Table.get?_insert, if_neg (by rintro rfl; omega), hw]
  · rw [ht, Table.get?_insert] at hv
    split at hv
    · cases hv
      exact absurd (hemail.trans hvemail.symm) (hdistinct id w hw)
    · exact h.alone k v hv hvemail

/-- No request takes an account away, changes its address or password, or gives the address to
another user. -/
theorem HasAccount.respond (h : HasAccount app.store id email p) (hs : Numbered app.store)
    (req : Request) (o : Occasion) : HasAccount (app.respond req o).2.store id email p := by
  cases respond_accounts hs req o with
  | steady users invitations => exact h.of_users users
  | stored u j at' _ new _ distinct users invitations => exact h.insert hs new distinct users
  | invited u j at' expiry new _ distinct registers users invitations =>
    exact h.insert hs new distinct users
  | withdrawn j expiry _ new users invitations => exact h.of_users users
  | activated token inv asks invited live users invitations =>
    have hget : ∀ k, (app.respond req o).2.store.users.get? k =
        if k = inv.userId then (app.store.users.get? k).map fun u => { u with isActive := true }
        else app.store.users.get? k := fun k => by rw [users, Table.get?_modify]
    obtain ⟨w, hw, hemail, hpassword⟩ := h.stored
    constructor
    · rw [hget, hw]
      split
      · exact ⟨_, rfl, hemail, hpassword⟩
      · exact ⟨w, rfl, hemail, hpassword⟩
    · intro k v hv hvemail
      rw [hget] at hv
      split at hv
      · obtain ⟨v', hv', rfl⟩ := Option.map_eq_some_iff.1 hv
        exact h.alone k v' hv' hvemail
      · exact h.alone k v hv hvemail

/-- A registration that is answered with success has kept the bounds and comes to its task. -/
theorem undertakes_of_registration {reg : Registration} {r : Reply}
    (hunlimited : app.config.limits.enabled = false) (hasks : AsksToRegister req)
    (hbody : readBody Registration req = .ok reg) (hr : (app.respond req o).1 = some r)
    (h201 : r.status = 201) :
    reg.check = .ok () ∧ Undertakes app req o (.front .registration)
      (.register ⟨reg.username, reg.email, .make o.salt reg.password⟩) app := by
  obtain ⟨hverb, hroute⟩ := asksToRegister_iff.1 hasks
  have hmethod : req.method ≠ "OPTIONS" := by
    rw [hasks.1]
    decide
  have hfront : app.planFront .registration (Verb.ofMethod? req.method) req o =
      orReply (App.planRegistration req o) := by
    rw [hverb]
    rfl
  cases hplan : App.planRegistration req o with
  | error f =>
    rw [hplan] at hfront
    obtain ⟨r', hr', hstatus⟩ := refused_front hunlimited hmethod hroute hfront
    cases hr.symm.trans hr'
    rw [status_reply, h201] at hstatus
    cases f <;> cases hstatus
  | ok t =>
    obtain ⟨reg', hreg', hcheck, rfl⟩ := planRegistration_eq_ok_iff.1 hplan
    cases hbody.symm.trans hreg'
    rw [hplan] at hfront
    exact ⟨hcheck, undertakes_front hunlimited hmethod hroute hfront⟩

/-- A registration that is answered with success makes an account. -/
theorem account_of_registration {reg : Registration} {r : Reply} (hs : Numbered app.store)
    (hunlimited : app.config.limits.enabled = false) (hasks : AsksToRegister req)
    (hbody : readBody Registration req = .ok reg) (hr : (app.respond req o).1 = some r)
    (h201 : r.status = 201) :
    reg.check = .ok () ∧ ∃ id expiry, Registers app req o id expiry ∧
      HasAccount (app.respond req o).2.store id reg.email (.make o.salt reg.password) := by
  obtain ⟨hcheck, ht⟩ := undertakes_of_registration hunlimited hasks hbody hr h201
  obtain ⟨r', hr', hstatus⟩ := ht.reply hr
  rw [hstatus] at h201
  have hstore := ht.store_respond
  simp only [App.perform] at hr' hstore
  cases register_ends ⟨reg.username, reg.email, .make o.salt reg.password⟩ o app with
  | refused out status ends =>
    rw [ends] at hr'
    exact absurd h201 (status r' hr')
  | stored id at' new distinct ends =>
    rw [ends] at hr'
    cases hr'
  | withdrawn id at' expiry new ends =>
    rw [ends] at hr'
    cases hr'
    cases h201
  | invited id at' expiry secs m new distinct life expires ends =>
    have hget : ∀ j, (app.respond req o).2.store.users.get? j = if j = id then
        some (app.store.newUser ⟨reg.username, reg.email, .make o.salt reg.password⟩ "user" false
          id at') else app.store.users.get? j := by
      intro j
      rw [hstore, ends, ← Table.get?_insert]
    refine ⟨hcheck, id, expiry, ht.registers hs new life expires rfl ends,
      ⟨_, (hget id).trans (if_pos rfl), rfl, rfl⟩, fun j v hv hemail => ?_⟩
    rw [hget] at hv
    split at hv
    · assumption
    · exact absurd hemail (distinct j v hv)

end Microblog.Service
