import Microblog.Proofs.Service.Accounts
import Microblog.Proofs.Store.Orders

/-!
# Requests and the order of tables

Two applications that are the same but for the order of their tables
(`Reorders`) give every request the same reply, and are left the same but for
the order (`Reorders.respond`). It takes addresses that tell apart the users who
are active or invited, and no request makes two of them share one
(`ownAddresses_accountStep`).
-/

namespace Microblog.Service

open Account Content Http Store

variable {α : Type} {app app' : App} {req : Request} {o : Occasion} {route : Route}
  {x y : α × Store}

/-! ## The same up to order -/

/-- The same application over a store in another order. -/
def Reorders (app app' : App) : Prop :=
  ∃ t, app' = { app with store := t } ∧ Rearranged app.store t

/-- The same comes out, and what is left is the same up to order. -/
def Matches (x y : α × App) : Prop := y.1 = x.1 ∧ Reorders x.2 y.2

/-- Where both match, there is one outcome and two applications. -/
theorem Matches.outcome {x y : α × App} (h : Matches x y) :
    ∃ a left left', x = (a, left) ∧ y = (a, left') ∧ Reorders left left' :=
  ⟨x.1, x.2, y.2, rfl, by rw [← h.1], h.2⟩

theorem coincide_outcome (h : Coincide x y) :
    ∃ a s t, x = (a, s) ∧ y = (a, t) ∧ Rearranged s t :=
  ⟨x.1, x.2, y.2, rfl, by rw [← h.1], h.2⟩

theorem Reorders.refl (app : App) : Reorders app app := ⟨app.store, rfl, .refl app.store⟩

theorem Reorders.store (h : Reorders app app') : Rearranged app.store app'.store := by
  obtain ⟨t, rfl, ht⟩ := h
  exact ht

/-- What is left of both can be brought into any order. -/
theorem Reorders.trans (h : Reorders app app') {t : Store} (ht : Rearranged app'.store t) :
    Reorders app { app' with store := t } := by
  obtain ⟨r, rfl, hr⟩ := h
  exact ⟨t, rfl, hr.trans ht⟩

/-! ## Addresses -/

/-- Addresses stay apart if every user who is active or invited was so before, or is a new one whose
address nobody had. -/
theorem ownAddresses_of_origins {s t : Store} (id : Int64) (hown : OwnAddresses s)
    (h : ∀ i u, t.Entitled i u →
      (i = id ∧ ∀ j v, s.users.get? j = some v → v.email ≠ u.email) ∨
        ∃ v, s.Entitled i v ∧ v.email = u.email) : OwnAddresses t := by
  intro i j u v hi hj heq
  rcases h i u hi with ⟨rfl, hu⟩ | ⟨u', hu', hu⟩ <;> rcases h j v hj with ⟨rfl, hv⟩ | ⟨v', hv', hv⟩
  · rfl
  · exact absurd (hv.trans heq.symm) (hu j v' hv'.1)
  · exact absurd (hu.trans heq) (hv i u' hu'.1)
  · exact hown i j u' v' hu' hv' (hu.trans (heq.trans hv.symm))

/-- An invitation to another user than the new one was there before. -/
theorem invited_of_insert {t : Table String Invitation} {token : String} {id i : Int64}
    {expiry : Timestamp} (hi : i ≠ id)
    (h : ∃ k inv, (t.insert token ⟨id, expiry⟩).get? k = some inv ∧ inv.userId = i) :
    ∃ k inv, t.get? k = some inv ∧ inv.userId = i := by
  obtain ⟨k, inv, hinv, huser⟩ := h
  rcases Table.eq_or_get?_of_insert hinv with rfl | hold
  · exact absurd huser.symm hi
  · exact ⟨k, inv, hold, huser⟩

theorem invited_of_filter {t : Table String Invitation} {p : String → Invitation → Bool} {i : Int64}
    (h : ∃ k inv, (t.filter p).get? k = some inv ∧ inv.userId = i) :
    ∃ k inv, t.get? k = some inv ∧ p k inv = true ∧ inv.userId = i := by
  obtain ⟨k, inv, hinv, huser⟩ := h
  rw [Table.get?_filter] at hinv
  obtain ⟨hold, hp⟩ := Option.filter_eq_some_iff.1 hinv
  exact ⟨k, inv, hold, hp, huser⟩

/-- A request makes no two users who are active or invited share an address: who registers has one
that nobody has, and who is activated has been invited. -/
theorem ownAddresses_accountStep {s : Store} (hown : OwnAddresses app.store)
    (h : AccountStep app req o s) : OwnAddresses s := by
  cases h with
  | steady users invitations =>
    refine ownAddresses_of_origins 0 hown fun i u ⟨hu, hentitled⟩ => .inr ⟨u, ⟨?_, ?_⟩, rfl⟩
    · rw [← users]
      exact hu
    · rw [← invitations]
      exact hentitled
  | stored u id at' asks new last distinct users invitations =>
    refine ownAddresses_of_origins id hown fun i v ⟨hv, hentitled⟩ => ?_
    rw [users, Table.get?_insert] at hv
    rw [invitations] at hentitled
    split at hv
    · cases hv
      exact .inl ⟨by assumption, distinct⟩
    · exact .inr ⟨v, ⟨hv, hentitled⟩, rfl⟩
  | invited u id at' expiry new last distinct registers users invitations =>
    refine ownAddresses_of_origins id hown fun i v ⟨hv, hentitled⟩ => ?_
    rw [users, Table.get?_insert] at hv
    rw [invitations] at hentitled
    split at hv
    · cases hv
      exact .inl ⟨by assumption, distinct⟩
    · rename_i hi
      exact .inr ⟨v, ⟨hv, hentitled.imp_right (invited_of_insert hi)⟩, rfl⟩
  | withdrawn id expiry asks new users invitations =>
    refine ownAddresses_of_origins id hown fun i v ⟨hv, hentitled⟩ => .inr ⟨v, ⟨?_, ?_⟩, rfl⟩
    · rw [← users]
      exact hv
    · rw [invitations] at hentitled
      refine hentitled.imp_right fun hinvited => ?_
      obtain ⟨k, inv, hinv, hother, huser⟩ := invited_of_filter hinvited
      exact invited_of_insert (by simpa [huser] using hother) ⟨k, inv, hinv, huser⟩
  | activated token inv asks invited live users invitations =>
    refine ownAddresses_of_origins 0 hown fun i v ⟨hv, hentitled⟩ => .inr ?_
    rw [users, Table.get?_modify] at hv
    rw [invitations] at hentitled
    split at hv
    · rename_i hi
      obtain ⟨u, hu, rfl⟩ := Option.map_eq_some_iff.1 hv
      exact ⟨u, ⟨hu, .inr ⟨_, inv, invited, hi.symm⟩⟩, rfl⟩
    · refine ⟨v, ⟨hv, hentitled.imp_right fun hinvited => ?_⟩, rfl⟩
      obtain ⟨k, inv, hinv, -, huser⟩ := invited_of_filter hinvited
      exact ⟨k, inv, hinv, huser⟩

/-! ## Who sends a request -/

theorem Reorders.resolve (h : Reorders app app') (id : Int64) (instant : Int) :
    Matches (app.resolve id instant) (app'.resolve id instant) := by
  obtain ⟨t, rfl, ht⟩ := h
  obtain ⟨outcome, s', t', hs', ht', hleft⟩ := coincide_outcome (ht.getUser id)
  unfold App.resolve Cache.resolve Cache.resolveThrough
  dsimp only
  cases app.cache with
  | none =>
    dsimp only
    rw [hs', ht']
    cases outcome <;> exact ⟨rfl, t', rfl, hleft⟩
  | some m =>
    simp only [Cache.UserCache.get]
    cases m.get? id instant with
    | some u => exact ⟨rfl, t, rfl, ht⟩
    | none =>
      dsimp only
      rw [hs', ht']
      cases outcome with
      | error f => exact ⟨rfl, t', rfl, hleft⟩
      | ok u =>
        dsimp only
        rcases Cache.UserCache.set u instant m with ⟨f | _, m⟩ <;> exact ⟨rfl, t', rfl, hleft⟩

theorem Reorders.authenticate (h : Reorders app app') (headers : Headers) (o : Occasion) :
    Matches (app.authenticate headers o) (app'.authenticate headers o) := by
  have hbearer : app'.bearer? headers o = app.bearer? headers o := by
    obtain ⟨t, rfl, -⟩ := h
    rfl
  unfold App.authenticate
  rw [hbearer]
  cases app.bearer? headers o with
  | none => exact ⟨rfl, h⟩
  | some id =>
    obtain ⟨outcome, left, left', hl, hl', hleft⟩ := (h.resolve id o.instant).outcome
    dsimp only
    rw [hl, hl']
    cases outcome <;> exact ⟨rfl, hleft⟩

/-! ## Plans -/

theorem Reorders.planToken (h : Reorders app app') (hown : OwnAddresses app.store) (req : Request) :
    app'.planToken req = app.planToken req := by
  unfold App.planToken
  simp only [h.store.getUserByEmail hown]

theorem Reorders.planFront (h : Reorders app app') (hown : OwnAddresses app.store)
    (page : FrontPage) (verb : Option Verb) :
    app'.planFront page verb req o = app.planFront page verb req o := by
  have htoken := h.planToken hown req
  obtain ⟨t, rfl, -⟩ := h
  -- a login is the only request on these pages that looks at the store
  rcases verb with _ | (_ | _ | _ | _ | _) <;> cases page <;>
    first | rfl | exact congrArg orReply htoken

theorem Reorders.demand (h : Reorders app app') (caller : User) (ownerId : Int64)
    (required : String) :
    Access.demand app'.store caller ownerId required =
      Access.demand app.store caller ownerId required := by
  rw [Access.demand, Access.demand, Access.check, Access.check, h.store.getRole]

theorem Reorders.planMember (h : Reorders app app') (hs : Numbered app.store) (u : User)
    (page : MemberPage) (verb : Option Verb) :
    app'.planMember u page verb req = app.planMember u page verb req := by
  have hfeed : app'.planFeed u req = app.planFeed u req := by
    unfold App.planFeed
    simp only [h.store.feed hs]
  rcases verb with _ | (_ | _ | _ | _ | _) <;> cases page <;>
    first | rfl | exact congrArg orReply hfeed

theorem Reorders.planPost (h : Reorders app app') (hs : Store.Reachable app.store) (u : User)
    (post : Post) (page : PostPage) (verb : Option Verb) :
    app'.planPost u post page verb req = app.planPost u post page verb req := by
  have hlist := h.store.toReordered.listComments hs
  unfold App.planPost App.showPost
  simp only [hlist, h.demand]

theorem Reorders.planComment (h : Reorders app app') (u : User) (c : Comment)
    (verb : Option Verb) :
    app'.planComment u c verb req = app.planComment u c verb req := by
  unfold App.planComment
  simp only [h.demand]

theorem Reorders.planFor (h : Reorders app app') (hs : Store.Reachable app.store)
    (hroute : ∀ page, route ≠ .front page) (u : User) (verb : Option Verb) :
    app'.planFor u route verb req o = app.planFor u route verb req o := by
  cases route with
  | front page => exact absurd rfl (hroute page)
  | member page => exact h.planMember hs.numbered u page verb
  | post raw page =>
    have hfind : app'.findPost raw = app.findPost raw := by
      unfold App.findPost
      simp only [h.store.getPost]
    unfold App.planFor
    simp only [hfind, h.planPost hs]
  | comment raw =>
    have hfind : app'.findComment raw = app.findComment raw := by
      unfold App.findComment
      simp only [h.store.getComment]
    unfold App.planFor
    simp only [hfind, h.planComment]

/-- **Planning.** Both come to the same task or reply. -/
theorem Reorders.plan (h : Reorders app app') (hs : Store.Reachable app.store)
    (hown : OwnAddresses app.store) (route : Route) (req : Request) (o : Occasion) :
    Matches (app.plan route req o) (app'.plan route req o) := by
  by_cases hroute : ∃ page, route = .front page
  · obtain ⟨page, rfl⟩ := hroute
    exact ⟨h.planFront hown page _, h⟩
  · have hmember : ∀ page, route ≠ .front page := fun page hpage => hroute ⟨page, hpage⟩
    have hreach : Store.Reachable (app.authenticate req.headers o).2.store := by
      rcases store_authenticate req.headers o app with he | ⟨id, he⟩ <;> rw [he]
      · exact hs
      · exact hs.call (.getUser id)
    obtain ⟨outcome, left, left', hl, hl', hleft⟩ := (h.authenticate req.headers o).outcome
    rw [plan_member hmember, plan_member hmember, hl']
    rw [hl] at hreach ⊢
    cases outcome with
    | error f => exact ⟨rfl, hleft⟩
    | ok u => exact ⟨hleft.planFor hreach hmember u _, hleft⟩

/-! ## Tasks -/

theorem Reorders.settle {x y : Except Stop α × Store} (h : Reorders app app') (hxy : Coincide x y)
    (reply : α → Reply) : Matches (app.settle x reply) (app'.settle y reply) := by
  obtain ⟨outcome, s, t, rfl, rfl, hst⟩ := coincide_outcome hxy
  obtain ⟨_, rfl, -⟩ := h
  rcases outcome with (f | _) | a <;> exact ⟨rfl, t, rfl, hst⟩

theorem Reorders.conclude {x y : Except Failure α × Store} (h : Reorders app app')
    (hxy : Coincide x y) (reply : α → Reply) :
    Matches (app.conclude x reply) (app'.conclude y reply) :=
  h.settle ⟨congrArg (Except.mapError Stop.failed) hxy.1, hxy.2⟩ reply

theorem Reorders.invite (h : Reorders app app') (u : NewUser) (o : Occasion) :
    Matches (app.invite u o) (app'.invite u o) := by
  obtain ⟨t, rfl, ht⟩ := h
  unfold App.invite
  dsimp only
  cases app.config.invitationSecs? with
  | none => exact ⟨rfl, t, rfl, ht⟩
  | some secs =>
    obtain ⟨houtcome, hleft⟩ := ht.createAndInvite u o.token (secs * Timestamp.second) o.now
    exact ⟨houtcome, _, rfl, hleft⟩

theorem Reorders.register (h : Reorders app app') (u : NewUser) (o : Occasion) :
    Matches (app.register u o) (app'.register u o) := by
  obtain ⟨outcome, left, left', hl, hl', t, rfl, ht⟩ := (h.invite u o).outcome
  unfold App.register
  rw [hl, hl']
  rcases outcome with (f | _) | user
  · exact ⟨rfl, t, rfl, ht⟩
  · exact ⟨rfl, t, rfl, ht⟩
  · have hwelcome : ({ left with store := t } : App).welcome user o.token =
        ((left.welcome user o.token).1, { (left.welcome user o.token).2 with store := t }) := rfl
    have hstore : (left.welcome user o.token).2.store = left.store := rfl
    dsimp only
    rw [hwelcome]
    generalize left.welcome user o.token = sent at hstore ⊢
    obtain ⟨f | _, mailed⟩ := sent
    · exact ⟨rfl, _, rfl, Rearranged.deleteUser (hstore ▸ ht) user.id⟩
    · exact ⟨rfl, t, rfl, hstore ▸ ht⟩

/-- **Tasks.** Both do the same, and give the same reply. -/
theorem Reorders.perform (h : Reorders app app') (t : Task) (o : Occasion) :
    Matches (app.perform t o) (app'.perform t o) := by
  have hst := h.store
  have hleft : ∀ {s s'}, Rearranged s s' →
      Reorders { app with store := s } { app' with store := s' } := by
    obtain ⟨_, rfl, -⟩ := h
    exact fun hss' => ⟨_, rfl, hss'⟩
  cases t with
  | answer r => exact ⟨rfl, h⟩
  | overflow => exact ⟨rfl, h⟩
  | register u => exact h.register u o
  | issueToken id =>
    obtain ⟨_, rfl, ht⟩ := h
    exact ⟨rfl, _, rfl, ht⟩
  | activate token => exact h.conclude (hst.activate token o.now) _
  | showUser id =>
    obtain ⟨outcome, left, left', hl, hl', hreordered⟩ := (h.resolve id o.instant).outcome
    unfold App.perform
    dsimp only
    rw [hl, hl']
    cases outcome <;> exact ⟨rfl, hreordered⟩
  | createPost d => exact h.settle (hst.createPost d) _
  | updatePost p => exact h.settle (hst.updatePost p) _
  | deletePost id => exact ⟨rfl, hleft (hst.deletePost id)⟩
  | createComment d => exact h.settle (hst.createComment d) _
  | updateComment c => exact h.conclude (hst.updateComment c) _
  | deleteComment id => exact ⟨rfl, hleft (hst.deleteComment id)⟩
  | follow a b => exact h.conclude (hst.follow a b) _
  | unfollow a b => exact ⟨rfl, hleft (hst.unfollow a b)⟩

/-! ## Requests -/

theorem Reorders.serve (h : Reorders app app') (hs : Store.Reachable app.store)
    (hown : OwnAddresses app.store) (route : Route) (req : Request) (o : Occasion) :
    Matches (app.serve route req o) (app'.serve route req o) := by
  obtain ⟨planned, left, left', hl, hl', hleft⟩ := (h.plan hs hown route req o).outcome
  unfold App.serve
  rw [hl, hl']
  cases planned with
  | error r => exact ⟨rfl, hleft⟩
  | ok t => exact hleft.perform t o

theorem Reorders.meter (h : Reorders app app') (req : Request) (instant : Int) :
    Matches (app.meter req instant) (app'.meter req instant) := by
  obtain ⟨t, rfl, ht⟩ := h
  unfold App.meter
  dsimp only
  split <;> exact ⟨rfl, t, rfl, ht⟩

/-- **Requests.** The order of the tables makes no difference to a reply. -/
theorem Reorders.respond (h : Reorders app app') (hs : Store.Reachable app.store)
    (hown : OwnAddresses app.store) (req : Request) (o : Occasion) :
    Matches (app.respond req o) (app'.respond req o) := by
  have horigins : ∀ {app app' : App}, Reorders app app' → app'.origins = app.origins := by
    rintro _ _ ⟨_, rfl, -⟩
    rfl
  unfold App.respond
  rw [horigins h]
  by_cases hmethod : req.method = "OPTIONS"
  · simp only [hmethod, if_true]
    exact ⟨rfl, h⟩
  simp only [hmethod, if_false]
  unfold App.admitted
  have hstore : (app.meter req o.instant).2.store = app.store := by
    obtain ⟨l, hl⟩ := meter_eq req o.instant app
    rw [hl]
  obtain ⟨outcome, left, left', hl, hl', hleft⟩ := (h.meter req o.instant).outcome
  rw [hl] at hstore
  rw [hl, hl']
  change left.store = app.store at hstore
  cases outcome with
  | error remaining => exact ⟨by rw [horigins hleft], hleft⟩
  | ok =>
    cases Route.ofPath? req.path with
    | none => exact ⟨by rw [horigins hleft], hleft⟩
    | some route =>
      obtain ⟨r, served, served', hr, hr', hserved⟩ :=
        (hleft.serve (hstore ▸ hs) (hstore ▸ hown) route req o).outcome
      dsimp only
      rw [hr, hr']
      exact ⟨by rw [horigins hserved], hserved⟩

end Microblog.Service
