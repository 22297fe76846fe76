import Microblog.Proofs.Service.Undertakings

/-!
# What a request does to accounts

`AccountStep` lists all that a request may do to users and invitations: nothing,
a registration with or without its end, or an activation. Everything that is
proved of accounts over a run is read off this list.
-/

namespace Microblog.Service

open Account Content Http Store

variable {app app' : App} {req : Request} {o : Occasion} {route : Route} {t : Task}

/-! ## Requests on accounts -/

/-- The request asks for a registration. -/
def AsksToRegister (req : Request) : Prop :=
  req.method = "POST" ∧ req.path = "/v1/authentication/user"

/-- The request asks for the activation with a token. -/
def AsksToActivate (req : Request) (token : String) : Prop :=
  req.method = "PUT" ∧ NamesToken req.path token

theorem asksToRegister_iff : AsksToRegister req ↔
    Verb.ofMethod? req.method = some .post ∧
      Route.ofPath? req.path = some (.front .registration) := by
  rw [AsksToRegister, ofPath?_eq_registration_iff]
  refine and_congr_left fun _ => ⟨fun h => by rw [h]; rfl, fun h => ?_⟩
  exact List.mem_singleton.1 (mem_methods_of_ofMethod? h)

theorem asksToActivate_iff {token : String} : AsksToActivate req token ↔
    Verb.ofMethod? req.method = some .put ∧ ∃ raw,
      Route.ofPath? req.path = some (.front (.activation raw)) ∧
        pathText "token" raw = .ok token := by
  rw [AsksToActivate, namesToken_iff]
  refine and_congr_left fun _ => ⟨fun h => by rw [h]; rfl, fun h => ?_⟩
  exact List.mem_singleton.1 (mem_methods_of_ofMethod? h)

/-- A registration is answered with success: a new user, who is inactive, is stored, the reply
carries the token, and the invitation ends at some time. -/
structure Registers (app : App) (req : Request) (o : Occasion) (id : Int64) (expiry : Timestamp) :
    Prop where
  asks : AsksToRegister req
  new : app.store.users.get? id = none
  stored : ∃ u r, (app.respond req o).2.store.users.get? id = some u ∧ u.isActive = false ∧
    (app.respond req o).1 = some r ∧ r.status = 201 ∧
    r.body = .json (App.userWithToken u o.token)
  ends : ∃ secs, app.config.invitationSecs? = some secs ∧
    o.now.add? (secs * Timestamp.second) = some expiry

/-! ## One request -/

/-- What a request may do to users and invitations. -/
inductive AccountStep (app : App) (req : Request) (o : Occasion) (s : Store) : Prop
  | steady (users : s.users = app.store.users) (invitations : s.invitations = app.store.invitations)
  /-- The end of the invitation has no date, and there is no reply. -/
  | stored (u : NewUser) (id : Int64) (at' : Timestamp) (asks : AsksToRegister req)
    (new : id.toInt = app.store.lastId.toInt + 1) (last : s.lastId = id)
    (distinct : ∀ j v, app.store.users.get? j = some v → v.email ≠ u.email)
    (users : s.users = app.store.users.insert id (app.store.newUser u "user" false id at'))
    (invitations : s.invitations = app.store.invitations)
  | invited (u : NewUser) (id : Int64) (at' expiry : Timestamp)
    (new : id.toInt = app.store.lastId.toInt + 1) (last : s.lastId = id)
    (distinct : ∀ j v, app.store.users.get? j = some v → v.email ≠ u.email)
    (registers : Registers app req o id expiry)
    (users : s.users = app.store.users.insert id (app.store.newUser u "user" false id at'))
    (invitations : s.invitations = app.store.invitations.insert (tokenKey o.token) ⟨id, expiry⟩)
  /-- The mail fails. -/
  | withdrawn (id : Int64) (expiry : Timestamp) (asks : AsksToRegister req)
    (new : id.toInt = app.store.lastId.toInt + 1) (users : s.users = app.store.users)
    (invitations : s.invitations = (app.store.invitations.insert (tokenKey o.token)
      ⟨id, expiry⟩).filter fun _ i => i.userId != id)
  | activated (token : String) (inv : Invitation) (asks : AsksToActivate req token)
    (invited : app.store.invitations.get? (tokenKey token) = some inv)
    (live : inv.expiry.notAfter o.now = false)
    (users : s.users = app.store.users.modify inv.userId fun u => { u with isActive := true })
    (invitations : s.invitations =
      app.store.invitations.filter fun _ i => i.userId != inv.userId)

theorem Task.Makes.steady {c : Call} (h : t.Makes o c) (hregister : ∀ u, t ≠ .register u)
    (hactivate : ∀ token, t ≠ .activate token) (s : Store) :
    (c.run s).users = s.users ∧ (c.run s).invitations = s.invitations := by
  cases h with
  | createAndInvite u ttl => exact absurd rfl (hregister u)
  | deleteUser u id => exact absurd rfl (hregister u)
  | activate token => exact absurd rfl (hactivate token)
  | _ => simp [Call.run, Store.getUser, Store.deletePost, Store.deleteComment, Store.unfollow]

/-- All tasks but registrations and activations keep users and invitations. -/
theorem perform_steady (hregister : ∀ u, t ≠ .register u) (hactivate : ∀ token, t ≠ .activate token)
    (o : Occasion) (app : App) :
    (app.perform t o).2.store.users = app.store.users ∧
      (app.perform t o).2.store.invitations = app.store.invitations := by
  rcases perform_call hregister o app with hs | ⟨c, hc, hs⟩ <;> rw [hs]
  · exact ⟨rfl, rfl⟩
  · exact hc.steady hregister hactivate app.store

theorem body_finish {route : Option Route} {method : String} (hmethod : method ≠ "HEAD")
    (r : Reply) : (App.finish route method r).body = r.body := by
  unfold App.finish
  cases route with
  | none => rfl
  | some route =>
    simp only [hmethod, if_false]
    split <;> rfl

theorem get?_new (hs : Numbered app.store) {id : Int64}
    (hid : id.toInt = app.store.lastId.toInt + 1) : app.store.users.get? id = none :=
  hs.users.get?_next hid

/-! ## Ends of a registration -/

/-- What a registration comes to. -/
inductive RegisterEnd (app : App) (u : NewUser) (o : Occasion) : Prop
  | refused (r : Option Reply) (status : ∀ reply, r = some reply → reply.status ≠ 201)
    (ends : app.register u o = (r, app))
  /-- The end of the invitation has no date, and there is no reply. -/
  | stored (id : Int64) (at' : Timestamp) (new : id.toInt = app.store.lastId.toInt + 1)
    (distinct : ∀ j v, app.store.users.get? j = some v → v.email ≠ u.email)
    (ends : app.register u o = (none, { app with store := { app.store with
      lastId := id
      clock := at'
      users := app.store.users.insert id (app.store.newUser u "user" false id at') } }))
  /-- The mail fails, and the user is deleted. -/
  | withdrawn (id : Int64) (at' expiry : Timestamp) (new : id.toInt = app.store.lastId.toInt + 1)
    (ends : app.register u o = (some Refusal.internal.reply, { app with
      store := ({ app.store with
        lastId := id
        clock := at'
        users := app.store.users.insert id (app.store.newUser u "user" false id at')
        invitations := app.store.invitations.insert (tokenKey o.token) ⟨id, expiry⟩ } :
          Store).deleteUser id }))
  | invited (id : Int64) (at' expiry : Timestamp) (secs : Int) (m : Mail.Mailer)
    (new : id.toInt = app.store.lastId.toInt + 1)
    (distinct : ∀ j v, app.store.users.get? j = some v → v.email ≠ u.email)
    (life : app.config.invitationSecs? = some secs)
    (expires : o.now.add? (secs * Timestamp.second) = some expiry)
    (ends : app.register u o =
      (some (.json 201 (App.userWithToken (app.store.newUser u "user" false id at') o.token)),
        { app with
          store := { app.store with
            lastId := id
            clock := at'
            users := app.store.users.insert id (app.store.newUser u "user" false id at')
            invitations := app.store.invitations.insert (tokenKey o.token) ⟨id, expiry⟩ }
          mailer := m }))

theorem register_ends (u : NewUser) (o : Occasion) (app : App) : RegisterEnd app u o := by
  rcases register_cases u o app with ⟨r, he, hstatus⟩ | ⟨secs, s, hsecs, hinvited⟩
  · exact .refused r hstatus he
  have hdistinct : (∀ f, (app.store.createAndInvite u o.token (secs * Timestamp.second) o.now).1 ≠
      .error (.failed f)) → ∀ j v, app.store.users.get? j = some v → v.email ≠ u.email :=
    fun h _ _ hv => (ne_of_createAndInvite h hv).1
  rcases createAndInvite_cases u o.token (secs * Timestamp.second) o.now app.store with
    ⟨e, hc⟩ | ⟨id, at', hid, -, ⟨-, hc⟩ | ⟨expiry, hexpiry, hc⟩⟩ <;> rw [hc] at hinvited hdistinct
  · rcases hinvited with ⟨hinvite, he⟩ | ⟨user, hinvite, -⟩ <;> cases hinvite
    exact .refused none (by simp) he
  · rcases hinvited with ⟨hinvite, he⟩ | ⟨user, hinvite, -⟩ <;> cases hinvite
    exact .stored id at' hid (hdistinct (by simp)) he
  · rcases hinvited with ⟨hinvite, -⟩ | ⟨user, hinvite, ⟨-, he⟩ | ⟨-, m, -, he⟩⟩ <;> cases hinvite
    · exact .withdrawn id at' expiry hid he
    · exact .invited id at' expiry secs m hid (hdistinct (by simp)) hsecs hexpiry he

/-- A registration that ends with an invitation is answered with success. -/
theorem Undertakes.registers {u : NewUser} {id : Int64} {at' expiry : Timestamp} {secs : Int}
    {s : Store} {m : Mail.Mailer} (hs : Numbered app.store)
    (h : Undertakes app req o (.front .registration) (.register u) app')
    (new : id.toInt = app.store.lastId.toInt + 1) (life : app.config.invitationSecs? = some secs)
    (expires : o.now.add? (secs * Timestamp.second) = some expiry)
    (users : s.users = app.store.users.insert id (app.store.newUser u "user" false id at'))
    (ends : app'.register u o =
      (some (.json 201 (App.userWithToken (app.store.newUser u "user" false id at') o.token)),
        { app' with store := s, mailer := m })) : Registers app req o id expiry := by
  obtain ⟨-, hverb, -⟩ := plan_register (congrArg Prod.fst h.plan)
  have hasks : AsksToRegister req := asksToRegister_iff.2 ⟨hverb, h.lies⟩
  have hhead : req.method ≠ "HEAD" := by
    rw [hasks.1]
    decide
  have hrespond := h.respond_eq
  simp only [App.perform, ends] at hrespond
  refine ⟨hasks, get?_new hs new, ⟨app.store.newUser u "user" false id at', _, ?_, rfl,
    congrArg Prod.fst hrespond, ?_, ?_⟩, secs, life, expires⟩
  · rw [hrespond]
    change s.users.get? id = _
    rw [users, Table.get?_insert, if_pos rfl]
  · rw [status_finish]
    rfl
  · rw [body_finish hhead]
    rfl

theorem accountStep_of_register {u : NewUser} (hs : Numbered app.store)
    (h : Undertakes app req o (.front .registration) (.register u) app') :
    AccountStep app req o (app.respond req o).2.store := by
  obtain ⟨-, hverb, -⟩ := plan_register (congrArg Prod.fst h.plan)
  have hasks : AsksToRegister req := asksToRegister_iff.2 ⟨hverb, h.lies⟩
  have hstore := h.store_respond
  obtain ⟨l, c, n, rfl⟩ := h.frame
  rw [hstore, App.perform]
  cases register_ends u o { app with
    limiter := l, cache := c, store := { app.store with reads := n } } with
  | refused r status ends =>
    rw [ends]
    exact .steady rfl rfl
  | stored id at' new distinct ends =>
    rw [ends]
    exact .stored u id at' hasks new rfl distinct rfl rfl
  | withdrawn id at' expiry new ends =>
    rw [ends]
    exact .withdrawn id expiry hasks new (Table.erase_insert (get?_new hs new)) rfl
  | invited id at' expiry secs m new distinct life expires ends =>
    rw [ends]
    exact .invited u id at' expiry new rfl distinct (h.registers hs new life expires rfl ends) rfl rfl

theorem accountStep_of_activate {token : String}
    (h : Undertakes app req o route (.activate token) app') :
    AccountStep app req o (app.respond req o).2.store := by
  obtain ⟨raw, rfl, hverb, htoken⟩ := plan_activate (congrArg Prod.fst h.plan)
  have hasks : AsksToActivate req token := asksToActivate_iff.2 ⟨hverb, raw, h.lies, htoken⟩
  have hstore := h.store_respond
  obtain ⟨l, c, n, rfl⟩ := h.frame
  rw [hstore, App.perform, store_conclude]
  rcases activate_cases token o.now { app.store with reads := n } with he | ⟨inv, hinv, hlive, he⟩ <;>
    rw [he]
  · exact .steady rfl rfl
  · exact .activated token inv hasks hinv hlive rfl rfl

/-- **Accounts.** What a request does to users and invitations. -/
theorem respond_accounts (hs : Numbered app.store) (req : Request) (o : Occasion) :
    AccountStep app req o (app.respond req o).2.store := by
  rcases respond_cases req o app with ⟨route, t, app', ht⟩ | ⟨l, c, n, hn⟩
  · have hplan := congrArg Prod.fst ht.plan
    by_cases hregister : ∃ u, t = .register u
    · obtain ⟨u, rfl⟩ := hregister
      obtain ⟨rfl, -, -⟩ := plan_register hplan
      exact accountStep_of_register hs ht
    by_cases hactivate : ∃ token, t = .activate token
    · obtain ⟨token, rfl⟩ := hactivate
      exact accountStep_of_activate ht
    · obtain ⟨hu, hi⟩ := perform_steady (fun u hu => hregister ⟨u, hu⟩)
        (fun token htoken => hactivate ⟨token, htoken⟩) o app'
      have hstore := ht.store_respond
      obtain ⟨l, c, n, rfl⟩ := ht.frame
      exact .steady (hstore ▸ hu) (hstore ▸ hi)
  · rw [hn]
    exact .steady rfl rfl

end Microblog.Service
