import Microblog.Proofs.Service.Effects

/-!
# What those who command are answered

A member who commands over a record and asks to change or delete it is answered
that it is done, or that the body, the version or the number of requests is
wrong, but never that it is not allowed. While roles cannot be read, all but the
owner are told of a failure of the service.
-/

namespace Microblog.Service

open Account Content Http Store

variable {app : App} {req : Request} {o : Occasion} {u : User} {owner id : Int64} {r : Reply}
  {raw : String}

/-- The replies to those who command. -/
def Passes (s : Store) (u : User) (owner : Int64) (r : Reply) : Prop :=
  r.status ∈ [200, 204, 400, 404, 429] ∨ (r.status = 500 ∧ s.rolesDown = true ∧ u.id ≠ owner)

/-! ## Refusals of bodies -/

theorem readBody_error {α : Type} [Json.Shaped α] {f : Refusal} (h : readBody α req = .error f) :
    f.status = 400 := by
  unfold readBody at h
  cases hbody : bodyValue α req with
  | error e =>
    rw [hbody] at h
    cases h
    rfl
  | ok a =>
    rw [hbody] at h
    cases h

theorem checkContent_error {content : String} {f : Refusal} (h : checkContent content = .error f) :
    f.status = 400 := by
  unfold checkContent at h
  split at h
  · cases h
    rfl
  · cases h

theorem checkTitle_error {title : String} {f : Refusal} (h : checkTitle title = .error f) :
    f.status = 400 := by
  unfold checkTitle at h
  split at h
  · cases h
    rfl
  · cases h

theorem forM_error {α : Type} {check : α → Except Refusal Unit} {a : Option α} {f : Refusal}
    (hcheck : ∀ a f, check a = .error f → f.status = 400) (h : a.forM check = .error f) :
    f.status = 400 := by
  cases a with
  | none => cases h
  | some a => exact hcheck a f h

theorem patch_check_error {patch : PostPatch} {f : Refusal} (h : patch.check = .error f) :
    f.status = 400 := by
  rcases bind_eq_error_iff.1 h with h | ⟨⟨⟩, -, h⟩
  · exact forM_error (fun _ _ => checkTitle_error) h
  · exact forM_error (fun _ _ => checkContent_error) h

@[simp] theorem status_reply (f : Refusal) : f.reply.status = f.status := rfl

/-! ## Plans -/

/-- The methods that change a record, each with the role that it requires. -/
inductive Requires : String → String → Prop
  | patch : Requires "PATCH" "moderator"
  | delete : Requires "DELETE" "admin"

variable {method required : String}

theorem Requires.ne_options (h : Requires method required) : method ≠ "OPTIONS" := by
  cases h <;> decide

/-- A chain of steps that begins with the demand for access. -/
theorem demand_bind_passes {s : Store} {rest : Unit → Except Refusal Task}
    (hu : Commands s u owner required) (hrest : ∀ f, rest () = .error f → f.status = 400)
    (h : orReply (Access.demand s u owner required >>= rest) = .error r) : Passes s u owner r := by
  rcases demand_of_commands hu with hd | ⟨hd, hdown, howner⟩ <;> rw [hd] at h
  · change orReply (rest ()) = .error r at h
    cases hf : rest () with
    | ok t =>
      rw [hf] at h
      cases h
    | error f =>
      rw [hf] at h
      cases h
      exact .inl (by simp [hrest f hf])
  · cases h
    exact .inr ⟨rfl, hdown, howner⟩

theorem planPost_error_passes {p : Post} (hreq : Requires method required)
    (hu : Commands app.store u p.userId required)
    (h : app.planPost u p .itself (Verb.ofMethod? method) req = .error r) :
    Passes app.store u p.userId r := by
  cases hreq with
  | patch =>
    refine demand_bind_passes hu (fun f hf => ?_) h
    rcases bind_eq_error_iff.1 hf with hf | ⟨patch, -, hf⟩
    · exact readBody_error hf
    · rcases bind_eq_error_iff.1 hf with hf | ⟨-, -, hf⟩
      · exact patch_check_error hf
      · cases hf
  | delete => exact demand_bind_passes hu (fun f hf => by cases hf) h

theorem planComment_error_passes {c : Comment} (hreq : Requires method required)
    (hu : Commands app.store u c.userId required)
    (h : app.planComment u c (Verb.ofMethod? method) req = .error r) :
    Passes app.store u c.userId r := by
  cases hreq with
  | patch =>
    refine demand_bind_passes hu (fun f hf => ?_) h
    rcases bind_eq_error_iff.1 hf with hf | ⟨d, -, hf⟩
    · exact readBody_error hf
    · rcases bind_eq_error_iff.1 hf with hf | ⟨-, -, hf⟩
      · exact checkContent_error hf
      · cases hf
  | delete => exact demand_bind_passes hu (fun f hf => by cases hf) h

/-! ## Tasks -/

theorem settle_reply {α : Type} {x : Except Stop α × Store} {reply : α → Reply}
    (h : (app.settle x reply).1 = some r) :
    (∃ a, x.1 = .ok a ∧ reply a = r) ∨
      ∃ f, x.1 = .error (.failed f) ∧ (Refusal.ofFailure f).reply = r := by
  unfold App.settle at h
  obtain ⟨(f | _) | a, s⟩ := x
  · exact .inr ⟨f, rfl, Option.some.inj h⟩
  · cases h
  · exact .inl ⟨a, rfl, Option.some.inj h⟩

theorem updatePost_reply {p : Post} (h : (app.perform (.updatePost p) o).1 = some r) :
    r.status = 200 ∨ r.status = 404 := by
  rcases settle_reply h with ⟨q, -, rfl⟩ | ⟨f, hf, rfl⟩
  · exact .inl rfl
  · rcases updatePost_cases p app.store with
      ⟨-, he⟩ | ⟨now, -, ⟨-, he⟩ | ⟨q, -, -, ⟨-, he⟩ | ⟨-, he⟩⟩⟩ <;> rw [he] at hf <;> cases hf
    exact .inr rfl

theorem updateComment_reply {c : Comment} (h : (app.perform (.updateComment c) o).1 = some r) :
    r.status = 200 ∨ r.status = 404 := by
  rcases settle_reply h with ⟨d, -, rfl⟩ | ⟨f, hf, rfl⟩
  · exact .inl rfl
  · rcases updateComment_cases c app.store with ⟨-, he⟩ | ⟨d, -, he⟩ <;> rw [he] at hf <;> cases hf
    exact .inr rfl

/-- The tasks that are planned for the methods that change a record. -/
theorem perform_status {s : Store} {route : Route} {v : Verb} {t : Task}
    (hreq : Requires method required) (hv : Verb.ofMethod? method = some v)
    (ht : Planned s u req route v t) (h : (app.perform t o).1 = some r) :
    r.status ∈ [200, 204, 404] := by
  cases ht with
  | answer => cases hreq <;> cases hv
  | createPost => cases hreq <;> cases hv
  | showUser => cases hreq <;> cases hv
  | follow => cases hreq <;> cases hv
  | unfollow => cases hreq <;> cases hv
  | createComment => cases hreq <;> cases hv
  | updatePost => rcases updatePost_reply h with h | h <;> simp [h]
  | updateComment => rcases updateComment_reply h with h | h <;> simp [h]
  | deletePost =>
    cases h
    decide
  | deleteComment =>
    cases h
    decide

/-! ## Requests -/

/-- After authentication the store is the same but for the number of reads. -/
theorem authenticate_reads (headers : Headers) (o : Occasion) (app : App) :
    ∃ n, (app.authenticate headers o).2.store = { app.store with reads := n } := by
  rcases store_authenticate headers o app with hs | ⟨id, hs⟩
  · exact ⟨app.store.reads, hs⟩
  · exact ⟨app.store.reads + 1, hs⟩

/-- What is left to show of a route once its caller is found: that its refusals pass. -/
theorem serve_passes {route : Route} (hreq : Requires req.method required)
    (hroute : ∀ page, route ≠ .front page) (hu : SentBy app req o u)
    (herror : ∀ (app' : App) (n : Nat) (r : Reply), app'.store = { app.store with reads := n } →
      app'.planFor u route (Verb.ofMethod? req.method) req o = .error r →
        Passes app'.store u owner r)
    (h : (app.serve route req o).1 = some r) : Passes app.store u owner r := by
  obtain ⟨n, hn⟩ := authenticate_reads req.headers o app
  rw [App.serve, plan_member hroute, authenticate_eq_ok_iff.2 hu] at h
  cases hplan : (app.authenticate req.headers o).2.planFor u route
      (Verb.ofMethod? req.method) req o with
  | error f =>
    have hpass := herror _ n f hn hplan
    rw [hn] at hpass
    simp only [hplan] at h
    cases h
    exact hpass
  | ok t =>
    simp only [hplan] at h
    obtain ⟨v, hv, ht⟩ := planned_of_planFor hroute hplan
    have hstatus := perform_status hreq hv ht h
    refine .inl ?_
    simp only [List.mem_cons, List.not_mem_nil, or_false] at hstatus ⊢
    omega

theorem serve_post_passes (app : App) {p : Post} (hreq : Requires req.method required)
    (hu : SentBy app req o u) (hid : pathParam "post" raw = .ok id)
    (hp : app.store.posts.get? id = some p)
    (hcommands : Commands app.store u p.userId required)
    (h : (app.serve (.post raw .itself) req o).1 = some r) : Passes app.store u p.userId r := by
  refine serve_passes hreq (by simp) hu (fun app' n f hn hf => ?_) h
  have hfind : app'.findPost raw = .ok p := findPost_eq_ok_iff.2 ⟨id, hid, by rw [hn]; exact hp⟩
  rw [App.planFor, hfind] at hf
  exact planPost_error_passes hreq (by rw [hn]; exact hcommands) hf

theorem serve_comment_passes (app : App) {c : Comment} (hreq : Requires req.method required)
    (hu : SentBy app req o u) (hid : pathParam "comment" raw = .ok id)
    (hc : app.store.comments.get? id = some c)
    (hcommands : Commands app.store u c.userId required)
    (h : (app.serve (.comment raw) req o).1 = some r) : Passes app.store u c.userId r := by
  refine serve_passes hreq (by simp) hu (fun app' n f hn hf => ?_) h
  have hfind : app'.findComment raw = .ok c :=
    findComment_eq_ok_iff.2 ⟨id, hid, by rw [hn]; exact hc⟩
  rw [App.planFor, hfind] at hf
  exact planComment_error_passes hreq (by rw [hn]; exact hcommands) hf

/-! ## The way in and out -/

theorem status_finish (route : Option Route) (method : String) (r : Reply) :
    (App.finish route method r).status = r.status := by
  unfold App.finish
  cases route with
  | none => rfl
  | some route =>
    simp only
    split
    · split <;> rfl
    · rfl

/-- Of the requests that count, the limiter refuses some, some have no route, and the others are
served. -/
theorem admitted_cases {at' : Option Route} (h : (app.admitted at' req o).1 = some r) :
    (∃ secs, r = (Refusal.rateLimited secs).reply) ∨ (at' = none ∧ r = .bare 404) ∨
      ∃ route, at' = some route ∧ (app.meter req o.instant).1 = .ok () ∧
        ((app.meter req o.instant).2.serve route req o).1 = some r := by
  unfold App.admitted at h
  cases hmeter : app.meter req o.instant with
  | mk outcome app' =>
    rw [hmeter] at h
    cases outcome with
    | error left =>
      obtain ⟨secs, -, rfl⟩ := Option.map_eq_some_iff.1 h
      exact .inl ⟨secs, rfl⟩
    | ok =>
      cases at' with
      | none =>
        cases h
        exact .inr (.inl ⟨rfl, rfl⟩)
      | some route => exact .inr (.inr ⟨route, rfl, rfl, h⟩)

/-- A reply to a request on a route has the status with which the route is served, unless the
client has used up the window. -/
theorem respond_status {route : Route} (hmethod : req.method ≠ "OPTIONS")
    (hroute : Route.ofPath? req.path = some route) (h : (app.respond req o).1 = some r) :
    r.status = 429 ∨ ∃ l r', (App.serve route req o { app with limiter := l }).1 = some r' ∧
      r.status = r'.status := by
  obtain ⟨l, hl⟩ := meter_eq req o.instant app
  simp only [App.respond, hmethod, if_false, Option.map_eq_some_iff] at h
  obtain ⟨r', hr', rfl⟩ := h
  rw [status_finish]
  change r'.status = 429 ∨ ∃ l r'', _ ∧ r'.status = _
  rcases admitted_cases hr' with ⟨secs, rfl⟩ | ⟨hlost, -⟩ | ⟨route', hroute', -, hserve⟩
  · exact .inl rfl
  · rw [hroute] at hlost
    cases hlost
  · cases hroute.symm.trans hroute'
    rw [hl] at hserve
    exact .inr ⟨l, r', hserve, rfl⟩

end Microblog.Service
