import Microblog.Proofs.Service.Planning
import Microblog.Service.Respond

/-!
# What a request does to the store

A request leaves the store as a run of calls does, and each of the calls is one
that `Called` accounts for: a user is read, or the call is made by an open task,
or by a task that is planned for the member who sent the request.
-/

namespace Microblog.Service

open Account Content Http Store

variable {app : App} {req : Request} {o : Occasion} {t : Task}

/-! ## Tasks -/

/-- The calls of the store that a task may make. -/
inductive Task.Makes (o : Occasion) : Task → Call → Prop
  | createAndInvite (u : NewUser) (ttl : Int) :
    Makes o (.register u) (.createAndInvite u o.token ttl o.now)
  | deleteUser (u : NewUser) (id : Int64) : Makes o (.register u) (.deleteUser id)
  | activate (token : String) : Makes o (.activate token) (.activate token o.now)
  | getUser (id : Int64) : Makes o (.showUser id) (.getUser id)
  | createPost (d : NewPost) : Makes o (.createPost d) (.createPost d)
  | updatePost (p : Post) : Makes o (.updatePost p) (.updatePost p)
  | deletePost (id : Int64) : Makes o (.deletePost id) (.deletePost id)
  | createComment (d : NewComment) : Makes o (.createComment d) (.createComment d)
  | updateComment (c : Comment) : Makes o (.updateComment c) (.updateComment c)
  | deleteComment (id : Int64) : Makes o (.deleteComment id) (.deleteComment id)
  | follow (a b : Int64) : Makes o (.follow a b) (.follow a b)
  | unfollow (a b : Int64) : Makes o (.unfollow a b) (.unfollow a b)

@[simp] theorem store_settle {α : Type} (app : App) (r : Except Stop α × Store)
    (reply : α → Reply) : (app.settle r reply).2.store = r.2 := by
  unfold App.settle
  rcases r with ⟨(f | _) | a, s⟩ <;> rfl

@[simp] theorem store_conclude {α : Type} (app : App) (r : Except Failure α × Store)
    (reply : α → Reply) : (app.conclude r reply).2.store = r.2 := store_settle app _ reply

theorem store_invite (u : NewUser) (o : Occasion) (app : App) :
    (app.invite u o).2.store = app.store ∨
      ∃ ttl, (app.invite u o).2.store =
        Call.run app.store (.createAndInvite u o.token ttl o.now) := by
  unfold App.invite
  cases app.config.invitationSecs? with
  | none => exact .inl rfl
  | some secs => exact .inr ⟨secs * Timestamp.second, rfl⟩

/-- Without a mail the user who has been stored is removed. -/
theorem store_register (u : NewUser) (o : Occasion) (app : App) :
    (app.register u o).2.store = (app.invite u o).2.store ∨
      ∃ id, (app.register u o).2.store = (app.invite u o).2.store.deleteUser id := by
  unfold App.register
  cases app.invite u o with
  | mk outcome app' =>
    rcases outcome with (f | _) | user
    · exact .inl rfl
    · exact .inl rfl
    · have hstore : (app'.welcome user o.token).2.store = app'.store := rfl
      cases hmail : app'.welcome user o.token with
      | mk sent app'' =>
        rw [hmail] at hstore
        change app''.store = app'.store at hstore
        cases sent with
        | ok => exact .inl (by simp only [hmail, hstore])
        | error f => exact .inr ⟨user.id, by simp only [hmail, App.withdraw, hstore]⟩

/-- A task that is no registration makes one call at most. -/
theorem perform_call (hregister : ∀ u, t ≠ .register u) (o : Occasion) (app : App) :
    (app.perform t o).2.store = app.store ∨
      ∃ c, t.Makes o c ∧ (app.perform t o).2.store = c.run app.store := by
  cases t with
  | answer r => exact .inl rfl
  | overflow => exact .inl rfl
  | issueToken id => exact .inl rfl
  | register u => exact absurd rfl (hregister u)
  | activate token => exact .inr ⟨_, .activate token, store_conclude ..⟩
  | showUser id =>
    have hperform : (app.perform (.showUser id) o).2 = (app.resolve id o.instant).2 := by
      unfold App.perform
      cases hread : app.resolve id o.instant with
      | mk outcome app' => cases outcome <;> simp only [hread]
    rw [hperform]
    exact (store_resolve id o.instant app).imp_right fun hs => ⟨_, .getUser id, hs⟩
  | createPost d => exact .inr ⟨_, .createPost d, store_settle ..⟩
  | updatePost p => exact .inr ⟨_, .updatePost p, store_settle ..⟩
  | deletePost id => exact .inr ⟨_, .deletePost id, rfl⟩
  | createComment d => exact .inr ⟨_, .createComment d, store_settle ..⟩
  | updateComment c => exact .inr ⟨_, .updateComment c, store_conclude ..⟩
  | deleteComment id => exact .inr ⟨_, .deleteComment id, rfl⟩
  | follow a b => exact .inr ⟨_, .follow a b, store_conclude ..⟩
  | unfollow a b => exact .inr ⟨_, .unfollow a b, rfl⟩

/-- A registration makes two at most: the second one deletes the user. -/
theorem register_calls (u : NewUser) (o : Occasion) (app : App) :
    ∃ cs, (app.register u o).2.store = run cs app.store ∧
      ∀ c ∈ cs, (Task.register u).Makes o c := by
  rcases store_invite u o app with hi | ⟨ttl, hi⟩ <;>
    rcases store_register u o app with hr | ⟨id, hr⟩ <;> rw [hr, hi]
  · exact ⟨[], rfl, by simp⟩
  · exact ⟨[.deleteUser id], rfl, by simpa using .deleteUser u id⟩
  · exact ⟨[.createAndInvite u o.token ttl o.now], rfl, by simpa using .createAndInvite u ttl⟩
  · refine ⟨[.createAndInvite u o.token ttl o.now, .deleteUser id], rfl, ?_⟩
    simpa using ⟨.createAndInvite u ttl, .deleteUser u id⟩

/-- **Tasks.** A task leaves the store as a run of its calls does. -/
theorem perform_calls (t : Task) (o : Occasion) (app : App) :
    ∃ cs, (app.perform t o).2.store = run cs app.store ∧ ∀ c ∈ cs, t.Makes o c := by
  by_cases hregister : ∃ u, t = .register u
  · obtain ⟨u, rfl⟩ := hregister
    exact register_calls u o app
  rcases perform_call (fun u hu => hregister ⟨u, hu⟩) o app with hs | ⟨c, hc, hs⟩
  · exact ⟨[], hs, by simp⟩
  · exact ⟨[c], hs, by simpa using hc⟩

/-! ## Requests -/

/-- What accounts for a call that is made in the course of a request. -/
inductive Called (app : App) (req : Request) (o : Occasion) : Call → Prop
  | read (id : Int64) : Called app req o (.getUser id)
  | anybody {t : Task} {c : Call} (ht : t.Open) (hc : t.Makes o c) : Called app req o c
  | member {route : Route} {u : User} {v : Verb} {t : Task} {c : Call}
    (hroute : Route.ofPath? req.path = some route) (hu : SentBy app req o u)
    (hv : Verb.ofMethod? req.method = some v) (ht : Planned app.store u req route v t)
    (hc : t.Makes o c) : Called app req o c

theorem serve_calls (app : App) (o : Occasion) {route : Route}
    (hroute : Route.ofPath? req.path = some route) :
    ∃ cs, (app.serve route req o).2.store = run cs app.store ∧ ∀ c ∈ cs, Called app req o c := by
  have hstore : ∃ cs, (app.plan route req o).2.store = run cs app.store ∧
      ∀ c ∈ cs, Called app req o c := by
    rcases store_plan route req o app with hs | ⟨id, hs⟩
    · exact ⟨[], hs, by simp⟩
    · exact ⟨[.getUser id], hs, by simpa using .read id⟩
  have hcases : ∀ t, (app.plan route req o).1 = .ok t → t.Open ∨ ∃ u v, SentBy app req o u ∧
      Verb.ofMethod? req.method = some v ∧ Planned app.store u req route v t := fun _ => plan_cases
  unfold App.serve
  cases hplan : app.plan route req o with
  | mk outcome app' =>
    rw [hplan] at hstore hcases
    cases outcome with
    | error r => exact hstore
    | ok t =>
      obtain ⟨cs, hcs, hcalled⟩ := hstore
      obtain ⟨ds, hds, hmakes⟩ := perform_calls t o app'
      refine ⟨cs ++ ds, ?_, ?_⟩
      · rw [run_append, ← hcs]
        exact hds
      · intro c hc
        rcases List.mem_append.1 hc with hc | hc
        · exact hcalled c hc
        · rcases hcases t rfl with hopen | ⟨u, v, hu, hv, hplanned⟩
          · exact .anybody hopen (hmakes c hc)
          · exact .member hroute hu hv hplanned (hmakes c hc)

/-- Counting a request touches the limiter alone. -/
theorem meter_eq (req : Request) (instant : Int) (app : App) :
    ∃ l, (app.meter req instant).2 = { app with limiter := l } := by
  unfold App.meter
  split
  · exact ⟨_, rfl⟩
  · exact ⟨app.limiter, rfl⟩

theorem Called.of_limiter {l : Limiter} {c : Call} (h : Called { app with limiter := l } req o c) :
    Called app req o c := by
  cases h with
  | read id => exact .read id
  | anybody ht hc => exact .anybody ht hc
  | member hroute hu hv ht hc => exact .member hroute hu hv ht hc

/-- **Requests.** A request leaves the store as a run of accounted calls does. -/
theorem respond_calls (req : Request) (o : Occasion) (app : App) :
    ∃ cs, (app.respond req o).2.store = run cs app.store ∧ ∀ c ∈ cs, Called app req o c := by
  unfold App.respond
  by_cases hmethod : req.method = "OPTIONS"
  · exact ⟨[], by simp [hmethod], by simp⟩
  simp only [hmethod, if_false]
  obtain ⟨l, hl⟩ := meter_eq req o.instant app
  unfold App.admitted
  cases hmeter : app.meter req o.instant with
  | mk outcome app' =>
    rw [hmeter] at hl
    change app' = _ at hl
    subst hl
    cases outcome with
    | error left => exact ⟨[], rfl, by simp⟩
    | ok =>
      cases hroute : Route.ofPath? req.path with
      | none => exact ⟨[], rfl, by simp⟩
      | some route =>
        obtain ⟨cs, hcs, hcalled⟩ := serve_calls { app with limiter := l } o hroute
        exact ⟨cs, hcs, fun c hc => (hcalled c hc).of_limiter⟩

/-! ## Runs of the application -/

/-- What may happen to the application: a request, a use of the store or of the cache beside it,
and a change of what it meets. -/
inductive Event where
  | request (req : Request) (o : Occasion)
  | call (c : Call)
  | resolve (id : Int64) (instant : Int)
  | failCacheWrites (fail : Bool)
  | setMailer (m : Mail.Mailer)

/-- The application after an event. -/
def App.step (app : App) : Event → App
  | .request req o => (app.respond req o).2
  | .call c => { app with store := c.run app.store }
  | .resolve id instant => (app.resolve id instant).2
  | .failCacheWrites fail => { app with cache := app.cache.map ({ · with writesFail := fail }) }
  | .setMailer m => { app with mailer := m }

/-- The application after some events. Behind a request that jams the store, what is said of it is
not meant of requests that look at the store: these are not answered any more. -/
def App.after (es : List Event) (app : App) : App := es.foldl App.step app

theorem after_append (es es' : List Event) (app : App) :
    app.after (es ++ es') = (app.after es).after es' := List.foldl_append

theorem after_concat (es : List Event) (e : Event) (app : App) :
    app.after (es ++ [e]) = (app.after es).step e := after_append es [e] app

/-- What each of the events keeps is kept by all of them. -/
theorem after_keeps {P : App → Prop} {es : List Event}
    (hstep : ∀ app, ∀ e ∈ es, P app → P (app.step e)) {app : App} (h : P app) :
    P (app.after es) := by
  induction es generalizing app with
  | nil => exact h
  | cons e es ih =>
    have hrest : ∀ app, ∀ e' ∈ es, P app → P (app.step e') := fun app e' he' =>
      hstep app e' (List.mem_cons_of_mem e he')
    exact ih hrest (hstep app e List.mem_cons_self h)

/-- The applications that events lead to from a start with no records, and with or without a
cache. -/
def App.Reachable (app : App) : Prop :=
  ∃ config cache mailer instant start es, (cache = none ∨ cache = some .empty) ∧
    App.start? config initial cache mailer instant = some start ∧ app = start.after es

theorem step_calls (e : Event) (app : App) : ∃ cs, (app.step e).store = run cs app.store := by
  cases e with
  | request req o =>
    obtain ⟨cs, hcs, -⟩ := respond_calls req o app
    exact ⟨cs, hcs⟩
  | call c => exact ⟨[c], rfl⟩
  | resolve id instant =>
    rcases store_resolve id instant app with hs | hs
    · exact ⟨[], hs⟩
    · exact ⟨[.getUser id], hs⟩
  | failCacheWrites fail => exact ⟨[], rfl⟩
  | setMailer m => exact ⟨[], rfl⟩

theorem numbered_step {app : App} (h : Numbered app.store) (e : Event) :
    Numbered (app.step e).store := by
  obtain ⟨cs, hcs⟩ := step_calls e app
  rw [hcs]
  exact h.run cs

theorem after_calls (es : List Event) (app : App) :
    ∃ cs, (app.after es).store = run cs app.store := by
  induction es generalizing app with
  | nil => exact ⟨[], rfl⟩
  | cons e es ih =>
    obtain ⟨cs, hcs⟩ := step_calls e app
    obtain ⟨ds, hds⟩ := ih (app.step e)
    exact ⟨cs ++ ds, by rw [run_append, ← hcs]; exact hds⟩

/-- The store of a reachable application is one that calls lead to. -/
theorem App.Reachable.store (h : app.Reachable) : Store.Reachable app.store := by
  obtain ⟨config, cache, mailer, instant, start, es, -, hstart, rfl⟩ := h
  obtain ⟨cs, hcs⟩ := after_calls es start
  refine ⟨cs, hcs.trans ?_⟩
  obtain ⟨authority, -, rfl⟩ := Option.map_eq_some_iff.1 hstart
  rfl

end Microblog.Service
