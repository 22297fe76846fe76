import Microblog.Proofs.Service.Admission
import Microblog.Proofs.Store.Invitations

/-!
# What a request comes to

A request either comes to a task, which is then done and answered
(`Undertakes.respond_eq`), or it is answered before and leaves all records as
they are (`respond_cases`). Up to the task no more than the limiter, the cache
and the number of reads is touched (`Undertakes.frame`).
-/

namespace Microblog.Service

open Account Content Http Store

variable {app app' : App} {req : Request} {o : Occasion} {route : Route} {t : Task} {raw : String}

/-- The request is admitted and lies on a route, and what is left of it is a task, to be done by
the application as it is then. -/
structure Undertakes (app : App) (req : Request) (o : Occasion) (route : Route) (t : Task)
    (app' : App) : Prop where
  method : req.method ≠ "OPTIONS"
  metered : (app.meter req o.instant).1 = .ok ()
  lies : Route.ofPath? req.path = some route
  plan : (app.meter req o.instant).2.plan route req o = (.ok t, app')

/-- A request on a route that is admitted is served. -/
theorem respond_of_metered (hmethod : req.method ≠ "OPTIONS")
    (hmeter : (app.meter req o.instant).1 = .ok ()) (hroute : Route.ofPath? req.path = some route) :
    app.respond req o =
      let served := (app.meter req o.instant).2.serve route req o
      (served.1.map fun r => App.finish (some route) req.method (r.withOrigins served.2.origins),
        served.2) := by
  simp only [App.respond, hmethod, if_false, App.admitted, hroute]
  cases hm : app.meter req o.instant with
  | mk outcome app' =>
    rw [hm] at hmeter
    change outcome = .ok () at hmeter
    subst hmeter
    rfl

/-- The task is done, and the reply goes out. -/
theorem Undertakes.respond_eq (h : Undertakes app req o route t app') :
    app.respond req o =
      let done := app'.perform t o
      (done.1.map fun r => App.finish (some route) req.method (r.withOrigins done.2.origins),
        done.2) := by
  rw [respond_of_metered h.method h.metered h.lies, App.serve, h.plan]

theorem Undertakes.store_respond (h : Undertakes app req o route t app') :
    (app.respond req o).2.store = (app'.perform t o).2.store := by
  rw [h.respond_eq]

/-- The reply that goes out has the status of the reply to the task. -/
theorem Undertakes.reply {r : Reply} (h : Undertakes app req o route t app')
    (hr : (app.respond req o).1 = some r) :
    ∃ r', (app'.perform t o).1 = some r' ∧ r.status = r'.status := by
  rw [h.respond_eq] at hr
  obtain ⟨r', hr', rfl⟩ := Option.map_eq_some_iff.1 hr
  exact ⟨r', hr', status_finish _ _ _⟩

/-! ## Up to the task -/

theorem resolve_eq (id : Int64) (instant : Int) (app : App) :
    ∃ c n, (app.resolve id instant).2 =
      { app with cache := c, store := { app.store with reads := n } } := by
  rcases store_resolve id instant app with hs | hs
  · exact ⟨(app.resolve id instant).2.cache, app.store.reads, by rw [← hs]; rfl⟩
  · refine ⟨(app.resolve id instant).2.cache, app.store.reads + 1, ?_⟩
    change _ = { app with cache := _, store := Call.run app.store (.getUser id) }
    rw [← hs]
    rfl

theorem authenticate_eq (headers : Headers) (o : Occasion) (app : App) :
    ∃ c n, (app.authenticate headers o).2 =
      { app with cache := c, store := { app.store with reads := n } } := by
  unfold App.authenticate
  cases app.bearer? headers o with
  | none => exact ⟨app.cache, app.store.reads, rfl⟩
  | some id =>
    obtain ⟨c, n, hn⟩ := resolve_eq id o.instant app
    cases hread : app.resolve id o.instant with
    | mk outcome app' =>
      rw [hread] at hn
      cases outcome <;> exact ⟨c, n, by simpa only [hread] using hn⟩

/-- Planning touches the cache and the number of reads alone. -/
theorem plan_eq (route : Route) (req : Request) (o : Occasion) (app : App) :
    ∃ c n, (app.plan route req o).2 =
      { app with cache := c, store := { app.store with reads := n } } := by
  cases route with
  | front page => exact ⟨app.cache, app.store.reads, rfl⟩
  | _ =>
    rw [plan_member (by simp)]
    exact authenticate_eq req.headers o app

theorem Undertakes.frame (h : Undertakes app req o route t app') :
    ∃ l c n, app' =
      { app with limiter := l, cache := c, store := { app.store with reads := n } } := by
  obtain ⟨l, hl⟩ := meter_eq req o.instant app
  obtain ⟨c, n, hn⟩ := plan_eq route req o (app.meter req o.instant).2
  rw [h.plan, hl] at hn
  exact ⟨l, c, n, hn⟩

theorem sameRecords_reads (s : Store) (n : Nat) : SameRecords s { s with reads := n } :=
  ⟨rfl, rfl, rfl, rfl, rfl⟩

theorem Undertakes.sameRecords (h : Undertakes app req o route t app') :
    SameRecords app.store app'.store := by
  obtain ⟨l, c, n, rfl⟩ := h.frame
  exact sameRecords_reads app.store n

/-- **Requests and tasks.** A request comes to a task, or nothing happens but to the limiter and
by reads of users. -/
theorem respond_cases (req : Request) (o : Occasion) (app : App) :
    (∃ route t app', Undertakes app req o route t app') ∨
      ∃ l c n, (app.respond req o).2 =
        { app with limiter := l, cache := c, store := { app.store with reads := n } } := by
  by_cases hmethod : req.method = "OPTIONS"
  · exact .inr ⟨app.limiter, app.cache, app.store.reads, by simp [App.respond, hmethod]⟩
  obtain ⟨l, hl⟩ := meter_eq req o.instant app
  cases hmeter : app.meter req o.instant with
  | mk outcome app₁ =>
    rw [hmeter] at hl
    change app₁ = _ at hl
    subst hl
    cases outcome with
    | error left =>
      refine .inr ⟨l, app.cache, app.store.reads, ?_⟩
      simp [App.respond, hmethod, App.admitted, hmeter]
    | ok =>
      cases hroute : Route.ofPath? req.path with
      | none =>
        refine .inr ⟨l, app.cache, app.store.reads, ?_⟩
        simp [App.respond, hmethod, App.admitted, hmeter, hroute]
      | some route =>
        cases hplan : App.plan route req o { app with limiter := l } with
        | mk planned app' =>
          cases planned with
          | ok t =>
            refine .inl ⟨route, t, app', hmethod, by rw [hmeter], hroute, ?_⟩
            rw [hmeter]
            exact hplan
          | error r =>
            obtain ⟨c, n, hn⟩ := plan_eq route req o { app with limiter := l }
            rw [hplan] at hn
            change app' = _ at hn
            subst hn
            refine .inr ⟨l, c, n, ?_⟩
            rw [respond_of_metered hmethod (by rw [hmeter]) hroute, hmeter]
            simp only [App.serve, hplan]

/-! ## Tasks that are planned -/

/-- What the requests on the pages for everyone come to. -/
theorem planFront_cases {page : FrontPage} {verb : Option Verb}
    (h : app.planFront page verb req o = .ok t) :
    (verb = some .get ∧ ∃ r, t = .answer r) ∨
      (page = .registration ∧ verb = some .post ∧ App.planRegistration req o = .ok t) ∨
      (page = .token ∧ verb = some .post ∧ app.planToken req = .ok t) ∨
      ∃ raw token, page = .activation raw ∧ verb = some .put ∧
        pathText "token" raw = .ok token ∧ t = .activate token := by
  unfold App.planFront at h
  split at h
  · cases h
    exact .inl ⟨rfl, _, rfl⟩
  · obtain ⟨⟨⟩, -, ht⟩ := bind_eq_ok_iff.1 h
    cases ht
    exact .inl ⟨rfl, _, rfl⟩
  · exact .inr (.inl ⟨rfl, rfl, orReply_eq_ok_iff.1 h⟩)
  · exact .inr (.inr (.inl ⟨rfl, rfl, orReply_eq_ok_iff.1 h⟩))
  · obtain ⟨token, htoken, rfl⟩ := map_eq_ok_iff.1 h
    exact .inr (.inr (.inr ⟨_, token, rfl, rfl, htoken, rfl⟩))
  · cases h

theorem planRegistration_eq_ok_iff :
    App.planRegistration req o = .ok t ↔ ∃ r : Registration, readBody Registration req = .ok r ∧
      r.check = .ok () ∧ t = .register ⟨r.username, r.email, .make o.salt r.password⟩ := by
  simp only [App.planRegistration, bind_eq_ok_iff]
  constructor
  · rintro ⟨r, hr, ⟨⟩, hcheck, ht⟩
    cases ht
    exact ⟨r, hr, hcheck, rfl⟩
  · rintro ⟨r, hr, hcheck, rfl⟩
    exact ⟨r, hr, ⟨⟩, hcheck, rfl⟩

theorem planToken_cases (h : app.planToken req = .ok t) :
    t = .overflow ∨ ∃ id, t = .issueToken id := by
  simp only [App.planToken, bind_eq_ok_iff] at h
  obtain ⟨login, -, ⟨⟩, -, h⟩ := h
  split at h
  · cases h
  · cases h
  · split at h
    · cases h
      exact .inl rfl
    · cases h
      exact .inr ⟨_, rfl⟩
    · cases h

/-- A task on a page for members is planned for one. -/
theorem planned_of_plan (hroute : ∀ page, route ≠ .front page)
    (h : (app.plan route req o).1 = .ok t) :
    ∃ s u v, Verb.ofMethod? req.method = some v ∧ Planned s u req route v t := by
  rw [plan_member hroute] at h
  dsimp only at h
  split at h
  · cases h
  · obtain ⟨v, hv, hplanned⟩ := planned_of_planFor hroute h
    exact ⟨_, _, v, hv, hplanned⟩

theorem Planned.of_get {s : Store} {u : User} (h : Planned s u req route .get t) :
    (∃ r, t = .answer r) ∨ ∃ id, t = .showUser id := by
  cases h with
  | answer => exact .inl ⟨_, rfl⟩
  | showUser => exact .inr ⟨_, rfl⟩

/-- A request to read comes to a reply, if not to the reading of a user. -/
theorem plan_get (hverb : Verb.ofMethod? req.method = some .get)
    (h : (app.plan route req o).1 = .ok t) : (∃ r, t = .answer r) ∨ ∃ id, t = .showUser id := by
  by_cases hroute : ∃ page, route = .front page
  · obtain ⟨page, rfl⟩ := hroute
    rcases planFront_cases h with ⟨-, ht⟩ | ⟨-, hv, -⟩ | ⟨-, hv, -⟩ | ⟨_, _, -, hv, -⟩
    · exact .inl ht
    all_goals
      rw [hverb] at hv
      cases hv
  · obtain ⟨s, u, v, hv, hplanned⟩ := planned_of_plan (fun page hpage => hroute ⟨page, hpage⟩) h
    rw [hverb] at hv
    cases hv
    exact hplanned.of_get

/-- Only a request that is posted to the page of registrations comes to one. -/
theorem plan_register {u : NewUser} (h : (app.plan route req o).1 = .ok (.register u)) :
    route = .front .registration ∧ Verb.ofMethod? req.method = some .post ∧
      App.planRegistration req o = .ok (.register u) := by
  by_cases hroute : ∃ page, route = .front page
  · obtain ⟨page, rfl⟩ := hroute
    rcases planFront_cases h with ⟨-, _, ht⟩ | ⟨rfl, hv, ht⟩ | ⟨-, -, ht⟩ | ⟨_, _, -, -, -, ht⟩
    · cases ht
    · exact ⟨rfl, hv, ht⟩
    · rcases planToken_cases ht with ht | ⟨_, ht⟩ <;> cases ht
    · cases ht
  · obtain ⟨s, u, v, -, hplanned⟩ := planned_of_plan (fun page hpage => hroute ⟨page, hpage⟩) h
    cases hplanned

/-- Only a request that is put to the page of a token comes to the activation with it. -/
theorem plan_activate {token : String} (h : (app.plan route req o).1 = .ok (.activate token)) :
    ∃ raw, route = .front (.activation raw) ∧ Verb.ofMethod? req.method = some .put ∧
      pathText "token" raw = .ok token := by
  by_cases hroute : ∃ page, route = .front page
  · obtain ⟨page, rfl⟩ := hroute
    rcases planFront_cases h with ⟨-, _, ht⟩ | ⟨-, -, ht⟩ | ⟨-, -, ht⟩ | ⟨raw, _, rfl, hv, htoken, ht⟩
    · cases ht
    · obtain ⟨_, -, -, ht⟩ := planRegistration_eq_ok_iff.1 ht
      cases ht
    · rcases planToken_cases ht with ht | ⟨_, ht⟩ <;> cases ht
    · cases ht
      exact ⟨raw, rfl, hv, htoken⟩
  · obtain ⟨s, u, v, -, hplanned⟩ := planned_of_plan (fun page hpage => hroute ⟨page, hpage⟩) h
    cases hplanned

/-! ## Tasks that are done -/

theorem perform_showUser (id : Int64) (o : Occasion) (app : App) :
    (app.perform (.showUser id) o).2 = (app.resolve id o.instant).2 := by
  unfold App.perform
  cases hread : app.resolve id o.instant with
  | mk outcome app' => cases outcome <;> simp only [hread]

theorem send_cases (m : Mail.Message) (mailer : Mail.Mailer) :
    (mailer = .failing ∧ ∃ f, mailer.send m = (.error f, .failing)) ∨
      mailer ≠ .failing ∧ (mailer.send m).1 = .ok () ∧ (mailer.send m).2 ≠ .failing := by
  cases mailer with
  | failing => exact .inl ⟨rfl, _, rfl⟩
  | _ => exact .inr ⟨by simp, rfl, by simp [Mail.Mailer.send]⟩

theorem createAndInvite_failed {s : Store} {u : NewUser} {token : String} {ttl : Int}
    {now : Timestamp} {f : Failure} (h : (s.createAndInvite u token ttl now).1 = .error (.failed f)) :
    s.createAndInvite u token ttl now = (.error (.failed f), s) := by
  rcases createAndInvite_cases u token ttl now s with
    ⟨_, he⟩ | ⟨_, _, -, -, ⟨-, he⟩ | ⟨_, -, he⟩⟩ <;> rw [he] at h ⊢ <;> cases h
  rfl

/-- A registration is refused with nothing done, has no reply, or stores its user and sends the
mail; without the mail it deletes the user again. -/
theorem register_cases (u : NewUser) (o : Occasion) (app : App) :
    (∃ r, app.register u o = (r, app) ∧ ∀ reply, r = some reply → reply.status ≠ 201) ∨
      ∃ secs s, app.config.invitationSecs? = some secs ∧
        ((app.store.createAndInvite u o.token (secs * Timestamp.second) o.now =
              (.error .overflow, s) ∧
            app.register u o = (none, { app with store := s })) ∨
          ∃ user, app.store.createAndInvite u o.token (secs * Timestamp.second) o.now =
              (.ok user, s) ∧
            ((app.mailer = .failing ∧ app.register u o =
                (some Refusal.internal.reply, { app with store := s.deleteUser user.id })) ∨
              (app.mailer ≠ .failing ∧ ∃ m, m ≠ .failing ∧ app.register u o =
                (some (.json 201 (App.userWithToken user o.token)),
                  { app with store := s, mailer := m })))) := by
  unfold App.register App.invite
  cases hsecs : app.config.invitationSecs? with
  | none => exact .inl ⟨none, rfl, by simp⟩
  | some secs =>
    have hfailed := @createAndInvite_failed app.store u o.token (secs * Timestamp.second) o.now
    cases hinvite : app.store.createAndInvite u o.token (secs * Timestamp.second) o.now with
    | mk outcome s =>
      rw [hinvite] at hfailed
      simp only [hinvite]
      rcases outcome with (f | _) | user
      · cases hfailed rfl
        refine .inl ⟨_, rfl, ?_⟩
        rintro _ ⟨⟩
        cases f <;> simp [Refusal.ofFailure, Refusal.status]
      · exact .inr ⟨secs, s, rfl, .inl ⟨hinvite, rfl⟩⟩
      · refine .inr ⟨secs, s, rfl, .inr ⟨user, hinvite, ?_⟩⟩
        dsimp only
        unfold App.welcome
        rcases send_cases (App.welcomeMail { app with store := s } user o.token) app.mailer with
          ⟨hm, f, hsend⟩ | ⟨hm, hsend, hleft⟩
        · refine .inl ⟨hm, ?_⟩
          simp only [hsend, App.withdraw, ← hm]
        · refine .inr ⟨hm, _, hleft, ?_⟩
          cases hs : app.mailer.send (App.welcomeMail { app with store := s } user o.token) with
          | mk sent m =>
            rw [hs] at hsend
            change sent = .ok () at hsend
            subst hsend
            rfl

/-! ## What stays as it was started -/

/-- The same configuration and the same authority for tokens. -/
def SameSettings (app app' : App) : Prop :=
  app'.config = app.config ∧ app'.authority = app.authority

theorem sameSettings_perform (t : Task) (o : Occasion) (app : App) :
    SameSettings app (app.perform t o).2 := by
  have hsettle : ∀ {α : Type} (x : Except Stop α × Store) (reply : α → Reply),
      SameSettings app (app.settle x reply).2 := by
    intro α x reply
    unfold App.settle
    rcases x with ⟨(f | _) | a, s⟩ <;> exact ⟨rfl, rfl⟩
  cases t with
  | register u =>
    rcases register_cases u o app with ⟨_, he, -⟩ | ⟨secs, s, -, ⟨-, he⟩ |
      ⟨user, -, ⟨-, he⟩ | ⟨-, m, -, he⟩⟩⟩ <;> rw [App.perform, he] <;> exact ⟨rfl, rfl⟩
  | showUser id =>
    obtain ⟨c, n, hn⟩ := resolve_eq id o.instant app
    rw [perform_showUser, hn]
    exact ⟨rfl, rfl⟩
  | activate token => exact hsettle _ _
  | createPost d => exact hsettle _ _
  | updatePost p => exact hsettle _ _
  | createComment d => exact hsettle _ _
  | updateComment c => exact hsettle _ _
  | follow a b => exact hsettle _ _
  | _ => exact ⟨rfl, rfl⟩

theorem sameSettings_respond (req : Request) (o : Occasion) (app : App) :
    SameSettings app (app.respond req o).2 := by
  rcases respond_cases req o app with ⟨route, t, app', ht⟩ | ⟨l, c, n, hn⟩
  · obtain ⟨l, c, n, rfl⟩ := ht.frame
    rw [ht.respond_eq]
    exact sameSettings_perform t o _
  · rw [hn]
    exact ⟨rfl, rfl⟩

theorem sameSettings_step (e : Event) (app : App) : SameSettings app (app.step e) := by
  cases e with
  | request req o => exact sameSettings_respond req o app
  | resolve id instant =>
    obtain ⟨c, n, hn⟩ := resolve_eq id instant app
    rw [App.step, hn]
    exact ⟨rfl, rfl⟩
  | _ => exact ⟨rfl, rfl⟩

theorem sameSettings_after (es : List Event) (app : App) : SameSettings app (app.after es) := by
  refine after_keeps (P := SameSettings app) (fun app' e _ h => ?_) ⟨rfl, rfl⟩
  obtain ⟨hconfig, hauthority⟩ := sameSettings_step e app'
  exact ⟨hconfig.trans h.1, hauthority.trans h.2⟩

/-- Without limits every request is admitted. -/
theorem meter_of_unlimited (h : app.config.limits.enabled = false) (req : Request) (instant : Int) :
    app.meter req instant = (.ok (), app) := by
  simp [App.meter, h]

/-- The same token stands for the same user wherever it is verified by the same authority. -/
theorem bearer?_congr {headers headers' : Headers} (h : app'.authority = app.authority)
    (htoken : authorization headers' "Bearer" = authorization headers "Bearer") (o : Occasion) :
    app'.bearer? headers' o = app.bearer? headers o := by
  rw [App.bearer?, App.bearer?, h, htoken]

/-- How a member's request is answered without limits, once it is known whom its token stands
for. -/
theorem respond_of_bearer {id : Int64} (hmethod : req.method ≠ "OPTIONS")
    (hlimits : app.config.limits.enabled = false) (lies : Route.ofPath? req.path = some route)
    (hroute : ∀ page, route ≠ .front page) (hbearer : app.bearer? req.headers o = some id) :
    app.respond req o =
      let served := match app.resolve id o.instant with
        | (.error _, app) => (some Refusal.unauthorized.reply, app)
        | (.ok u, app) =>
          match app.planFor u route (Verb.ofMethod? req.method) req o with
          | .error r => (some r, app)
          | .ok t => app.perform t o
      (served.1.map fun r => App.finish (some route) req.method (r.withOrigins served.2.origins),
        served.2) := by
  have hmeter := meter_of_unlimited hlimits req o.instant
  rw [respond_of_metered hmethod (by rw [hmeter]) lies, hmeter]
  simp only [App.serve, plan_member hroute, App.authenticate, hbearer]
  cases app.resolve id o.instant with
  | mk outcome app' =>
    cases outcome with
    | error f => rfl
    | ok u =>
      dsimp only
      cases app'.planFor u route (Verb.ofMethod? req.method) req o <;> rfl

end Microblog.Service
