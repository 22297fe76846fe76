import Microblog.Proofs.Service.Activation
import Microblog.Proofs.Service.Caching
import Microblog.Proofs.Store.Reads

/-!
# A cache makes no difference

Two applications over equal stores, one without a cache and one with it, are
sent the same requests. A request changes no user who is stored but to activate
the user, so every entry of the cache shows the stored user up to that
(`Faithful`). This is all that it takes for both to do the same, and to answer
the same but for the activity of a user who is shown (`Beside.respond`), over
runs of any length (`Beside.after`).
-/

namespace Microblog.Service

open Account Content Http Store

variable {app : App} {users : Table Int64 User} {c c' : Option Cache.Memory} {m : Cache.Memory}
  {n : Nat} {u v : User} {req : Request} {o : Occasion} {route : Route} {t : Task}

/-! ## Entries show stored users -/

/-- The same user, who may be active or not. -/
def SameButActive (u v : User) : Prop := ∃ active, v = { u with isActive := active }

/-- The cache can be written, and each entry shows the user who is stored under its id, but for
whether the user is active. -/
def Faithful (users : Table Int64 User) (c : Option Cache.Memory) : Prop :=
  ∀ m, c = some m → m.writesFail = false ∧
    ∀ id e, m.entries.get? id = some e → ∃ u, users.get? id = some u ∧ SameButActive u e.user

theorem Faithful.caches {last : Int64} (hkeyed : Keyed last User.id users) (hc : Faithful users c)
    (h : Caches users c c') : Faithful users c' := by
  induction h with
  | refl => exact hc
  | insert id u instant _ writes stored ih =>
    rintro _ ⟨⟩
    refine ⟨writes, fun j e he => ?_⟩
    rw [Table.get?_insert] at he
    split at he
    · rename_i hj
      cases he
      exact ⟨u, by rw [hj, (hkeyed id u stored).1]; exact stored, u.isActive, rfl⟩
    · exact (ih _ rfl).2 j e he

/-- A request leaves every user who is stored, and may activate one. -/
theorem Faithful.accountStep {s : Store} (hs : Numbered app.store)
    (hc : Faithful app.store.users c) (h : AccountStep app req o s) : Faithful s.users c := by
  have hinsert : ∀ {id : Int64} {v : User}, id.toInt = app.store.lastId.toInt + 1 →
      Faithful (app.store.users.insert id v) c := by
    rintro id v hid m rfl
    refine ⟨(hc m rfl).1, fun j e he => ?_⟩
    obtain ⟨u, hu, hsame⟩ := (hc m rfl).2 j e he
    have hj : j ≠ id := by
      rintro rfl
      rw [get?_new hs hid] at hu
      cases hu
    exact ⟨u, by rw [Table.get?_insert, if_neg hj]; exact hu, hsame⟩
  cases h with
  | steady users => exact users ▸ hc
  | stored u id at' asks new last distinct users => exact users ▸ hinsert new
  | invited u id at' expiry new last distinct registers users => exact users ▸ hinsert new
  | withdrawn id expiry asks new users => exact users ▸ hc
  | activated token inv asks invited live users =>
    rw [users]
    rintro m rfl
    refine ⟨(hc m rfl).1, fun j e he => ?_⟩
    obtain ⟨u, hu, active, hsame⟩ := (hc m rfl).2 j e he
    rw [Table.get?_modify, hu]
    split
    · exact ⟨_, rfl, active, hsame⟩
    · exact ⟨u, rfl, active, hsame⟩

/-! ## Side by side -/

/-- The application with a cache, and with a number of reads in its store. -/
def App.withCache (m : Cache.Memory) (n : Nat) (app : App) : App :=
  { app with cache := some m, store := { app.store with reads := n } }

/-- Both succeed with the same user, active or not, or fail alike. -/
inductive SameCaller {ε : Type} : Except ε User → Except ε User → Prop
  | ok {u v : User} (same : SameButActive u v) : SameCaller (.ok u) (.ok v)
  | error (f : ε) : SameCaller (.error f) (.error f)

theorem resolve_withCache (hnone : app.cache = none) (hm : Faithful app.store.users (some m))
    (id : Int64) (instant : Int) :
    SameCaller (app.resolve id instant).1 ((app.withCache m n).resolve id instant).1 ∧
      ∃ m' n', ((app.withCache m n).resolve id instant).2 =
        (app.resolve id instant).2.withCache m' n' := by
  obtain ⟨hwrites, hshows⟩ := hm m rfl
  unfold App.resolve Cache.resolve Cache.resolveThrough getUser
  simp only [hnone, App.withCache, Cache.UserCache.get, Cache.UserCache.set]
  cases hget : m.get? id instant with
  | some v =>
    obtain ⟨e, he, rfl⟩ := Option.map_eq_some_iff.1 hget
    obtain ⟨u, hu, hsame⟩ := hshows id e (Option.filter_eq_some_iff.1 he).1
    simp only [hu]
    exact ⟨.ok hsame, m, n, rfl⟩
  | none =>
    cases hu : app.store.users.get? id with
    | none => exact ⟨.error _, m, n + 1, rfl⟩
    | some u =>
      simp only [hwrites, Bool.false_eq_true, if_false]
      exact ⟨.ok ⟨u.isActive, rfl⟩, _, n + 1, rfl⟩

theorem authenticate_withCache (hnone : app.cache = none)
    (hm : Faithful app.store.users (some m)) (headers : Headers) (o : Occasion) :
    SameCaller (app.authenticate headers o).1 ((app.withCache m n).authenticate headers o).1 ∧
      ∃ m' n', ((app.withCache m n).authenticate headers o).2 =
        (app.authenticate headers o).2.withCache m' n' := by
  have hbearer : (app.withCache m n).bearer? headers o = app.bearer? headers o := rfl
  unfold App.authenticate
  rw [hbearer]
  cases app.bearer? headers o with
  | none => exact ⟨.error _, m, n, rfl⟩
  | some id =>
    obtain ⟨hsame, m', n', he⟩ := @resolve_withCache app m n hnone hm id o.instant
    dsimp only
    cases hplain : app.resolve id o.instant with
    | mk outcome plain =>
      cases hcached : (app.withCache m n).resolve id o.instant with
      | mk outcome' cached =>
        rw [hplain, hcached] at hsame he
        change SameCaller outcome outcome' at hsame
        cases hsame with
        | ok same => exact ⟨.ok same, m', n', he⟩
        | error f => exact ⟨.error _, m', n', he⟩

/-- A member's request is understood in the same way. -/
theorem planFor_withCache (hroute : ∀ page, route ≠ .front page) (active : Bool)
    (verb : Option Verb) :
    (app.withCache m n).planFor { u with isActive := active } route verb req o =
      app.planFor u route verb req o := by
  cases route with
  | front page => exact absurd rfl (hroute page)
  | member page => cases page <;> rfl
  | post raw page => cases page <;> rfl
  | comment raw => rfl

/-- What the requests for one page come to: the same, but that the variables are shown as they
are. -/
inductive SamePlan (route : Route) (verb : Option Verb) :
    Except Reply Task → Except Reply Task → Prop
  | same (planned : Except Reply Task) : SamePlan route verb planned planned
  | debugVars (v v' : Json.Value) (lies : route = .front .debugVars) (reads : verb = some .get) :
    SamePlan route verb (.ok (.answer (.json 200 v))) (.ok (.answer (.json 200 v')))

theorem planFront_withCache (page : FrontPage) (verb : Option Verb) :
    SamePlan (.front page) verb (app.planFront page verb req o)
      ((app.withCache m n).planFront page verb req o) := by
  by_cases hvars : page = .debugVars ∧ verb = some .get
  · obtain ⟨rfl, rfl⟩ := hvars
    change SamePlan _ _ (orReply (app.demandOperator req.headers) >>= _)
      (orReply (app.demandOperator req.headers) >>= _)
    cases app.demandOperator req.headers with
    | error f => exact .same _
    | ok => exact .debugVars _ _ rfl rfl
  · have hsame : (app.withCache m n).planFront page verb req o = app.planFront page verb req o := by
      rcases verb with _ | (_ | _ | _ | _ | _) <;> cases page <;>
        first | rfl | exact absurd ⟨rfl, rfl⟩ hvars
    rw [hsame]
    exact .same _

/-- **Planning.** Both come to the same task or reply, but for the variables. -/
theorem plan_withCache (hnone : app.cache = none) (hm : Faithful app.store.users (some m))
    (route : Route) (req : Request) (o : Occasion) :
    SamePlan route (Verb.ofMethod? req.method) (app.plan route req o).1
        ((app.withCache m n).plan route req o).1 ∧
      ∃ m' n', ((app.withCache m n).plan route req o).2 =
        (app.plan route req o).2.withCache m' n' := by
  by_cases hroute : ∃ page, route = .front page
  · obtain ⟨page, rfl⟩ := hroute
    exact ⟨planFront_withCache page _, m, n, rfl⟩
  · have hmember : ∀ page, route ≠ .front page := fun page hpage => hroute ⟨page, hpage⟩
    obtain ⟨hsame, m', n', he⟩ := @authenticate_withCache app m n hnone hm req.headers o
    rw [plan_member hmember, plan_member hmember, he]
    refine ⟨?_, m', n', rfl⟩
    dsimp only
    generalize (app.authenticate req.headers o).1 = outcome at hsame ⊢
    generalize ((app.withCache m n).authenticate req.headers o).1 = outcome' at hsame ⊢
    cases hsame with
    | error r => exact .same _
    | ok same =>
      obtain ⟨active, rfl⟩ := same
      dsimp only
      rw [planFor_withCache hmember active]
      exact .same _

/-! ## Tasks -/

theorem settle_withCache {α : Type} {op : Op α} (h : Oblivious op) (reply : α → Reply) :
    (app.withCache m n).settle (op (app.withCache m n).store) reply =
      ((app.settle (op app.store) reply).1,
        (app.settle (op app.store) reply).2.withCache m n) := by
  change (app.withCache m n).settle (op { app.store with reads := n }) reply = _
  rw [h]
  unfold App.settle
  rcases op app.store with ⟨(f | _) | a, s⟩ <;> rfl

theorem conclude_withCache {α : Type} {op : Store → Except Failure α × Store} (h : Oblivious op)
    (reply : α → Reply) :
    (app.withCache m n).conclude (op (app.withCache m n).store) reply =
      ((app.conclude (op app.store) reply).1,
        (app.conclude (op app.store) reply).2.withCache m n) := by
  change (app.withCache m n).conclude (op { app.store with reads := n }) reply = _
  rw [h]
  unfold App.conclude App.settle
  rcases op app.store with ⟨f | a, s⟩ <;> rfl

theorem register_withCache (u : NewUser) (o : Occasion) :
    (app.withCache m n).register u o =
      ((app.register u o).1, (app.register u o).2.withCache m n) := by
  have hinvite : (app.withCache m n).invite u o =
      ((app.invite u o).1, (app.invite u o).2.withCache m n) := by
    unfold App.invite
    simp only [App.withCache]
    cases app.config.invitationSecs? with
    | none => rfl
    | some secs => simp only [oblivious_createAndInvite _ _ _ _ app.store n]
  unfold App.register
  rw [hinvite]
  rcases app.invite u o with ⟨(f | _) | user, app'⟩
  · rfl
  · rfl
  · have hwelcome : (app'.withCache m n).welcome user o.token =
        ((app'.welcome user o.token).1, (app'.welcome user o.token).2.withCache m n) := rfl
    dsimp only
    rw [hwelcome]
    rcases app'.welcome user o.token with ⟨f | _, app''⟩ <;> rfl

/-- **Tasks.** Both do the same, and reply the same but for the activity of a user who is shown. -/
theorem perform_withCache (hshow : ∀ id, t ≠ .showUser id) (o : Occasion) :
    (app.withCache m n).perform t o =
      ((app.perform t o).1, (app.perform t o).2.withCache m n) := by
  cases t with
  | showUser id => exact absurd rfl (hshow id)
  | register u => exact register_withCache u o
  | activate token => exact conclude_withCache (oblivious_activate token o.now) _
  | createPost d => exact settle_withCache (oblivious_createPost d) _
  | updatePost p => exact settle_withCache (oblivious_updatePost p) _
  | createComment d => exact settle_withCache (oblivious_createComment d) _
  | updateComment c => exact conclude_withCache (oblivious_updateComment c) _
  | follow a b => exact conclude_withCache (oblivious_follow a b) _
  | _ => rfl

/-! ## Requests on one page -/

/-- The replies to a request for one page: the same, but that the variables are shown as they are,
and a user as the user is known. -/
inductive SameReply (route : Route) (verb : Option Verb) : Option Reply → Option Reply → Prop
  | same (r : Option Reply) : SameReply route verb r r
  | debugVars (v v' : Json.Value) (lies : route = .front .debugVars) (reads : verb = some .get) :
    SameReply route verb (some (.json 200 v)) (some (.json 200 v'))
  | user (raw : String) (id : Int64) (u : User) (active : Bool)
    (lies : route = .member (.user raw)) (reads : verb = some .get)
    (named : pathParam "user" raw = .ok id) :
    SameReply route verb (some (.json 200 (Json.encode u)))
      (some (.json 200 (Json.encode { u with isActive := active })))

/-- Only a request to read the page of a user comes to showing the user. -/
theorem plan_showUser {id : Int64} (h : (app.plan route req o).1 = .ok (.showUser id)) :
    ∃ raw, route = .member (.user raw) ∧ Verb.ofMethod? req.method = some .get ∧
      pathParam "user" raw = .ok id := by
  rcases plan_cases h with hopen | ⟨u, v, -, hv, hplanned⟩
  · cases hopen
  · cases hplanned with
    | @showUser raw _ hid => exact ⟨raw, rfl, hv, hid⟩

theorem eq_none_of_caches (hc : c = none) (h : Caches users c c') : c' = none := by
  induction h with
  | refl => exact hc
  | insert _ _ _ _ _ _ ih => cases ih

/-- What planning leaves is side by side as before. -/
theorem faithful_plan (hs : Numbered app.store) (hm : Faithful app.store.users (some m))
    {m' : Cache.Memory} {n' : Nat}
    (h : ((app.withCache m n).plan route req o).2 = (app.plan route req o).2.withCache m' n') :
    Faithful (app.plan route req o).2.store.users (some m') := by
  have hcaches := caches_plan route req o (app.withCache m n)
  rw [h] at hcaches
  obtain ⟨c, k, hk⟩ := plan_eq route req o app
  rw [hk]
  exact hm.caches hs.users hcaches

theorem showUser_withCache {verb : Option Verb} {raw : String} {id : Int64}
    (hnone : app.cache = none) (hm : Faithful app.store.users (some m))
    (lies : route = .member (.user raw)) (reads : verb = some .get)
    (named : pathParam "user" raw = .ok id) :
    SameReply route verb (app.perform (.showUser id) o).1
        ((app.withCache m n).perform (.showUser id) o).1 ∧
      ∃ m' n', ((app.withCache m n).perform (.showUser id) o).2 =
        (app.perform (.showUser id) o).2.withCache m' n' := by
  obtain ⟨hsame, m', n', he⟩ := @resolve_withCache app m n hnone hm id o.instant
  unfold App.perform
  dsimp only
  cases hplain : app.resolve id o.instant with
  | mk outcome plain =>
    cases hcached : (app.withCache m n).resolve id o.instant with
    | mk outcome' cached =>
      rw [hplain, hcached] at hsame he
      change SameCaller outcome outcome' at hsame
      cases hsame with
      | error f => exact ⟨.same _, m', n', he⟩
      | ok same =>
        obtain ⟨active, rfl⟩ := same
        exact ⟨.user raw id _ active lies reads named, m', n', he⟩

/-- **Pages.** -/
theorem serve_withCache (hnone : app.cache = none) (hs : Numbered app.store)
    (hm : Faithful app.store.users (some m)) (route : Route) (req : Request) (o : Occasion) :
    SameReply route (Verb.ofMethod? req.method) (app.serve route req o).1
        ((app.withCache m n).serve route req o).1 ∧
      ∃ m' n', ((app.withCache m n).serve route req o).2 =
        (app.serve route req o).2.withCache m' n' := by
  obtain ⟨hsame, m', n', he⟩ := @plan_withCache app m n hnone hm route req o
  have hfaithful := faithful_plan hs hm he
  have hplainless := eq_none_of_caches hnone (caches_plan route req o app)
  have hshow : ∀ id, (app.plan route req o).1 = .ok (.showUser id) → _ := fun _ => plan_showUser
  unfold App.serve
  cases hplain : app.plan route req o with
  | mk planned plain =>
    cases hcached : (app.withCache m n).plan route req o with
    | mk planned' cached =>
      rw [hplain] at hsame he hfaithful hplainless hshow
      rw [hcached] at hsame he
      change cached = plain.withCache m' n' at he
      subst he
      change SamePlan route _ planned planned' at hsame
      cases hsame with
      | debugVars v v' lies reads => exact ⟨.debugVars v v' lies reads, m', n', rfl⟩
      | same =>
        cases planned with
        | error r => exact ⟨.same _, m', n', rfl⟩
        | ok t =>
          by_cases hread : ∃ id, t = .showUser id
          · obtain ⟨id, rfl⟩ := hread
            obtain ⟨raw, lies, reads, named⟩ := hshow id rfl
            exact showUser_withCache hplainless hfaithful lies reads named
          · dsimp only
            rw [perform_withCache (fun id hid => hread ⟨id, hid⟩)]
            exact ⟨.same _, m', n', rfl⟩

/-! ## Requests -/

theorem meter_withCache (req : Request) (instant : Int) :
    (app.withCache m n).meter req instant =
      ((app.meter req instant).1, (app.meter req instant).2.withCache m n) := by
  unfold App.meter
  by_cases henabled : app.config.limits.enabled = true
  · rw [if_pos henabled, if_pos (show (app.withCache m n).config.limits.enabled = true from henabled)]
    rfl
  · rw [if_neg henabled, if_neg (show ¬ (app.withCache m n).config.limits.enabled = true from henabled)]

/-- The replies to a request: the same, but that the variables are shown as they are, and that a
user who is shown may be active or not. -/
def Transparent (req : Request) (r r' : Option Reply) : Prop :=
  r' = r ∨ (req.method = "GET" ∧ req.path = "/v1/debug/vars") ∨
    ∃ (id : Int64) (u : User) (active : Bool) (reply : Reply),
      req.method = "GET" ∧ Names req.path "users" id ∧
        r = some reply ∧ reply.body = .json (Json.encode u) ∧
        r' = some { reply with body := .json (Json.encode { u with isActive := active }) }

/-- On the way out the replies to one page become those to a request. -/
theorem SameReply.transparent {r r' : Option Reply} (origins : Origins)
    (h : SameReply route (Verb.ofMethod? req.method) r r')
    (hroute : Route.ofPath? req.path = some route) :
    Transparent req (r.map fun r => App.finish (some route) req.method (r.withOrigins origins))
      (r'.map fun r => App.finish (some route) req.method (r.withOrigins origins)) := by
  have hmethod : Verb.ofMethod? req.method = some .get → req.method = "GET" ∨ req.method = "HEAD" :=
    fun hverb => by simpa [Verb.methods] using mem_methods_of_ofMethod? hverb
  cases h with
  | same => exact .inl rfl
  | debugVars v v' lies reads =>
    subst lies
    rcases hmethod reads with hget | hhead
    · exact .inr (.inl ⟨hget, ofPath?_eq_debugVars_iff.1 hroute⟩)
    · refine .inl ?_
      simp only [Option.map_some, App.finish, hhead, if_true]
      rfl
  | user raw id u active lies reads named =>
    subst lies
    rcases hmethod reads with hget | hhead
    · have hserves : (Route.member (.user raw)).serves req.method = true := by
        rw [hget]
        rfl
      have hhead : ¬ req.method = "HEAD" := by
        rw [hget]
        decide
      refine .inr (.inr ⟨id, u, active, _, hget, names_users_iff.2 ⟨raw, hroute, named⟩, rfl, ?_, ?_⟩)
      · simp only [App.finish, hserves, hhead, if_true, if_false]
        rfl
      · simp only [Option.map_some, App.finish, hserves, hhead, if_true, if_false]
        rfl
    · refine .inl ?_
      simp only [Option.map_some, App.finish, hhead, if_true]
      rfl

/-- **Requests.** Side by side, both answer alike, and are side by side again. -/
theorem respond_withCache (hnone : app.cache = none) (hs : Numbered app.store)
    (hm : Faithful app.store.users (some m)) (req : Request) (o : Occasion) :
    Transparent req (app.respond req o).1 ((app.withCache m n).respond req o).1 ∧
      ∃ m' n', ((app.withCache m n).respond req o).2 =
        (app.respond req o).2.withCache m' n' := by
  have horigins : (app.withCache m n).origins = app.origins := rfl
  unfold App.respond
  rw [horigins]
  by_cases hmethod : req.method = "OPTIONS"
  · simp only [hmethod, if_true]
    exact ⟨.inl rfl, m, n, rfl⟩
  simp only [hmethod, if_false]
  unfold App.admitted
  rw [meter_withCache]
  obtain ⟨l, hl⟩ := meter_eq req o.instant app
  cases hmeter : app.meter req o.instant with
  | mk outcome app' =>
    rw [hmeter] at hl
    change app' = _ at hl
    subst hl
    cases outcome with
    | error left => exact ⟨.inl rfl, m, n, rfl⟩
    | ok =>
      cases hroute : Route.ofPath? req.path with
      | none => exact ⟨.inl rfl, m, n, rfl⟩
      | some route =>
        obtain ⟨hsame, m', n', he⟩ :=
          @serve_withCache { app with limiter := l } m n hnone hs hm route req o
        dsimp only
        cases hplain : App.serve route req o { app with limiter := l } with
        | mk r plain =>
          cases hcached : App.serve route req o (App.withCache m n { app with limiter := l }) with
          | mk r' cached =>
            rw [hplain, hcached] at hsame he
            change cached = plain.withCache m' n' at he
            subst he
            exact ⟨hsame.transparent plain.origins hroute, m', n', rfl⟩

/-! ## Runs -/

/-- One application is the other with a cache that shows its users. -/
structure Beside (plain cached : App) : Prop where
  cacheless : plain.cache = none
  numbered : Numbered plain.store
  beside : ∃ m n, cached = plain.withCache m n
  faithful : Faithful plain.store.users cached.cache

theorem Beside.respond {plain cached : App} (h : Beside plain cached) (req : Request)
    (o : Occasion) :
    Transparent req (plain.respond req o).1 (cached.respond req o).1 ∧
      Beside (plain.respond req o).2 (cached.respond req o).2 := by
  obtain ⟨hnone, hs, ⟨m, n, rfl⟩, hfaithful⟩ := h
  obtain ⟨hsame, hbeside⟩ := @respond_withCache plain m n hnone hs hfaithful req o
  refine ⟨hsame, eq_none_of_caches hnone (caches_respond req o plain),
    numbered_step hs (.request req o), hbeside, ?_⟩
  exact (hfaithful.caches hs.users (caches_respond req o (plain.withCache m n))).accountStep hs
    (respond_accounts hs req o)

/-- The event is a request, or changes whether mail can be sent. -/
def Event.IsOutward : Event → Prop
  | .request _ _ => True
  | .setMailer _ => True
  | _ => False

theorem Beside.after {plain cached : App} (h : Beside plain cached) {es : List Event}
    (hes : ∀ e ∈ es, e.IsOutward) : Beside (plain.after es) (cached.after es) := by
  induction es generalizing plain cached with
  | nil => exact h
  | cons e es ih =>
    refine ih ?_ fun e' he' => hes e' (List.mem_cons_of_mem e he')
    cases e with
    | request req o => exact (h.respond req o).2
    | setMailer mailer =>
      obtain ⟨hnone, hs, ⟨m, n, rfl⟩, hfaithful⟩ := h
      exact ⟨hnone, hs, ⟨m, n, rfl⟩, hfaithful⟩
    | _ => exact (hes _ List.mem_cons_self).elim

/-- The applications that start over one store, without a cache and with an empty one. -/
theorem Beside.start {s : Store} (hs : Numbered s) (config : Config) (authority : Authority)
    (mailer : Mail.Mailer) (limiter : Limiter) (instant : Int) :
    Beside ⟨config, authority, s, none, mailer, limiter, instant⟩
      ⟨config, authority, s, some .empty, mailer, limiter, instant⟩ := by
  refine ⟨rfl, hs, ⟨.empty, s.reads, rfl⟩, ?_⟩
  rintro m ⟨⟩
  refine ⟨rfl, fun id e he => ?_⟩
  cases he

end Microblog.Service
