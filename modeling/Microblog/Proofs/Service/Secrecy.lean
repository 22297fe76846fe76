import Microblog.Proofs.Service.SigningIn
import Microblog.Proofs.Store.Blinding

/-!
# Hashes are kept secret

Two applications that differ at most in the hashes of passwords (`Alike`), in the
store or in the cache, answer every request in the same way and are alike again,
provided that the request is no login, or that both have the same verdict on its
password (`Alike.respond`). Outcomes agree (`Agree`) step by step: an operation
on the store is blind to hashes, and so is all that is made of it.
-/

namespace Microblog.Cache

open Account Store

/-- The entry without the hash of its user. -/
def Entry.blind (e : Entry) : Entry := { e with user := e.user.blind }

/-- The cache without the hashes of its users. -/
def Memory.blind (m : Memory) : Memory := { m with entries := m.entries.map Entry.blind }

theorem Memory.blind_blind (m : Memory) : m.blind.blind = m.blind :=
  congrArg (fun entries => ({ m with entries } : Memory)) (Table.map_map (f := Entry.blind))

theorem Memory.get?_blind (m : Memory) (id : Int64) (now : Int) :
    m.blind.get? id now = (m.get? id now).map User.blind := by
  unfold Memory.get? Memory.blind
  rw [Table.get?_map, Option.filter_map, Option.map_map, Option.map_map]
  rfl

theorem Memory.set_blind (u : User) (now : Int) (m : Memory) :
    UserCache.set u.blind now m.blind =
      ((UserCache.set u now m).1, (UserCache.set u now m).2.blind) := by
  have hinsert : (m.entries.map Entry.blind).insert u.id ⟨u.blind, now⟩ =
      (m.entries.insert u.id ⟨u, now⟩).map Entry.blind :=
    (Table.map_insert Entry.blind m.entries u.id ⟨u, now⟩).symm
  change (if m.writesFail then (Except.error Fault.server, m.blind)
    else (.ok (), { m.blind with
      entries := (m.entries.map Entry.blind).insert u.id ⟨u.blind, now⟩ })) = _
  rw [hinsert]
  simp only [UserCache.set]
  split <;> rfl

theorem resolve_blind (id : Int64) (now : Int) (c : Option Memory) (s : Store) :
    resolve id now (c.map Memory.blind) s.blind =
      ((resolve id now c s).1.map User.blind, (resolve id now c s).2.1.map Memory.blind,
        (resolve id now c s).2.2.blind) := by
  cases c with
  | none =>
    simp only [resolve, Option.map_none, getUser_blind]
    rcases s.getUser id with ⟨f | u, s⟩ <;> rfl
  | some m =>
    have hget : ∀ m : Memory, UserCache.get id now m = (.ok (m.get? id now), m) := fun _ => rfl
    simp only [resolve, resolveThrough, Option.map_some, hget, Memory.get?_blind]
    cases m.get? id now with
    | some u => rfl
    | none =>
      simp only [Option.map_none, getUser_blind]
      rcases s.getUser id with ⟨f | u, s⟩
      · rfl
      · simp only [Except.map, Memory.set_blind]
        rcases UserCache.set u now m with ⟨f | _, m⟩ <;> rfl

end Microblog.Cache

namespace Microblog.Service

open Account Content Http Store

variable {α : Type} {app app' : App} {req : Request} {o : Occasion} {route : Route}
  {es : List Event}

/-! ## Applications without hashes -/

/-- The application without the hashes in its store and in its cache. -/
def App.blind (app : App) : App :=
  { app with store := app.store.blind, cache := app.cache.map Cache.Memory.blind }

/-- Both are the same but for the hashes of users in the store and in the cache. -/
def Alike (app app' : App) : Prop := app.blind = app'.blind

/-- The same comes out, and what is left is alike. -/
def Agree (x y : α × App) : Prop := x.1 = y.1 ∧ Alike x.2 y.2

theorem blind_cache_blind (c : Option Cache.Memory) :
    (c.map Cache.Memory.blind).map Cache.Memory.blind = c.map Cache.Memory.blind := by
  cases c with
  | none => rfl
  | some m => exact congrArg some m.blind_blind

theorem alike_blind (app : App) : Alike app.blind app := by
  simp only [Alike, App.blind, blind_blind, blind_cache_blind]

/-- What stores leave that are the same but for hashes. -/
theorem alike_withStore {s s' : Store} (h : s.blind = s'.blind) (app : App) :
    Alike { app.blind with store := s } { app with store := s' } := by
  simp only [Alike, App.blind, h, blind_cache_blind]

theorem Agree.symm {x y : α × App} (h : Agree x y) : Agree y x := ⟨h.1.symm, h.2.symm⟩

theorem Agree.trans {x y z : α × App} (h : Agree x y) (h' : Agree y z) : Agree x z :=
  ⟨h.1.trans h'.1, h.2.trans h'.2⟩

theorem agree_of_blind {x y : α × App} (h : x = (y.1, y.2.blind)) : Agree x y :=
  h ▸ ⟨rfl, alike_blind y.2⟩

/-- Where both agree, there is one outcome and two applications. -/
theorem Agree.outcome {x y : α × App} (h : Agree x y) :
    ∃ a left left', x = (a, left) ∧ y = (a, left') ∧ Alike left left' :=
  ⟨x.1, x.2, y.2, rfl, by rw [h.1], h.2⟩

/-- What agrees with itself once hashes are left out agrees on all that is alike. -/
theorem Alike.agree {f : App → α × App} (h : Alike app app')
    (hf : ∀ app, Agree (f app.blind) (f app)) : Agree (f app) (f app') := by
  have happ := hf app
  rw [h] at happ
  exact happ.symm.trans (hf app')

/-! ## Who sends a request -/

theorem resolve_blind (id : Int64) (instant : Int) (app : App) :
    app.blind.resolve id instant =
      ((app.resolve id instant).1.map User.blind, (app.resolve id instant).2.blind) := by
  unfold App.resolve App.blind
  dsimp only
  rw [Cache.resolve_blind]

theorem authenticate_blind (headers : Headers) (o : Occasion) (app : App) :
    app.blind.authenticate headers o =
      ((app.authenticate headers o).1.map User.blind, (app.authenticate headers o).2.blind) := by
  have hbearer : app.blind.bearer? headers o = app.bearer? headers o := rfl
  unfold App.authenticate
  rw [hbearer]
  cases app.bearer? headers o with
  | none => rfl
  | some id =>
    dsimp only
    rw [resolve_blind]
    rcases app.resolve id o.instant with ⟨f | u, app⟩ <;> rfl

/-! ## Plans -/

/-- The request asks for a token. -/
def AsksForToken (req : Request) : Prop :=
  req.method = "POST" ∧ req.path = "/v1/authentication/token"

theorem asksForToken_iff : AsksForToken req ↔
    Verb.ofMethod? req.method = some .post ∧ Route.ofPath? req.path = some (.front .token) := by
  rw [AsksForToken, ofPath?_eq_token_iff]
  refine and_congr_left fun _ => ⟨fun h => by rw [h]; rfl, fun h => ?_⟩
  exact List.mem_singleton.1 (mem_methods_of_ofMethod? h)

/-- If the request is a login, then whoever has the address has, in both stores, a hash with the
same verdict on the password. -/
def SameVerdict (app app' : App) (req : Request) : Prop :=
  ∀ email password, LogsIn req email password → ∀ u u',
    app.store.getUserByEmail email = .ok u → app'.store.getUserByEmail email = .ok u' →
      u.password.verify? password = u'.password.verify? password

theorem sameVerdict_of_not_asks (h : ¬ AsksForToken req) (app app' : App) :
    SameVerdict app app' req :=
  fun _ _ hlogs => absurd ⟨hlogs.method, hlogs.path⟩ h

theorem planFor_blind (hroute : ∀ page, route ≠ .front page) (u : User) (verb : Option Verb)
    (app : App) :
    app.blind.planFor u.blind route verb req o = app.planFor u route verb req o := by
  cases route with
  | front page => exact absurd rfl (hroute page)
  | member page =>
    have hfeed : app.blind.planFeed u.blind req = app.planFeed u req := by
      unfold App.planFeed App.blind
      simp only [feed_blind]
      rfl
    -- the feed is the only page that looks at other users
    rcases verb with _ | (_ | _ | _ | _ | _) <;> cases page <;>
      first | rfl | exact congrArg orReply hfeed
  | post raw page => cases page <;> rfl
  | comment raw => rfl

theorem planFront_blind {page : FrontPage} {verb : Option Verb}
    (h : ¬ (page = .token ∧ verb = some .post)) (app : App) :
    app.blind.planFront page verb req o = app.planFront page verb req o := by
  have hvars : app.blind.debugVars o = app.debugVars o := by
    unfold App.debugVars App.blind
    simp only [Option.isSome_map]
  by_cases hdebug : page = .debugVars ∧ verb = some .get
  · obtain ⟨rfl, rfl⟩ := hdebug
    change (orReply (app.demandOperator req.headers) >>= fun _ =>
      pure (Task.answer (.json 200 (app.blind.debugVars o)))) = _
    rw [hvars]
    rfl
  · rcases verb with _ | (_ | _ | _ | _ | _) <;> cases page <;>
      first | rfl | exact absurd ⟨rfl, rfl⟩ h | exact absurd ⟨rfl, rfl⟩ hdebug

theorem plan_blind (h : ¬ (route = .front .token ∧ Verb.ofMethod? req.method = some .post))
    (app : App) : Agree (app.blind.plan route req o) (app.plan route req o) := by
  by_cases hroute : ∃ page, route = .front page
  · obtain ⟨page, rfl⟩ := hroute
    refine ⟨planFront_blind (fun hpost => h ⟨by rw [hpost.1], hpost.2⟩) app, alike_blind app⟩
  · have hmember : ∀ page, route ≠ .front page := fun page hpage => hroute ⟨page, hpage⟩
    refine agree_of_blind ?_
    rw [plan_member hmember, plan_member hmember, authenticate_blind]
    rcases app.authenticate req.headers o with ⟨f | u, app⟩
    · rfl
    · dsimp only [Except.map]
      rw [planFor_blind hmember]

/-- A request for a token comes to the same if the verdicts are the same. -/
theorem Alike.planToken (h : Alike app app') (hasks : AsksForToken req)
    (hverdict : SameVerdict app app' req) : app.planToken req = app'.planToken req := by
  cases hbody : readBody Login req with
  | error f =>
    unfold App.planToken
    rw [hbody]
    rfl
  | ok login =>
    have hlogs : LogsIn req login.email login.password := ⟨hasks.1, hasks.2, hbody⟩
    rw [planToken_of_logsIn hlogs, planToken_of_logsIn hlogs]
    have hfound : (app.store.getUserByEmail login.email).map User.blind =
        (app'.store.getUserByEmail login.email).map User.blind := by
      rw [← getUserByEmail_blind, ← getUserByEmail_blind]
      exact congrArg (fun app : App => app.store.getUserByEmail login.email) h
    have hsame := hverdict _ _ hlogs
    generalize app.store.getUserByEmail login.email = found at hfound hsame ⊢
    generalize app'.store.getUserByEmail login.email = found' at hfound hsame ⊢
    rcases found with f | u <;> rcases found' with f' | u'
    · cases hfound
      rfl
    · cases hfound
    · cases hfound
    · have hblind : u.blind = u'.blind := Except.ok.inj hfound
      have hid : u.id = u'.id := show u.blind.id = u'.blind.id by rw [hblind]
      dsimp only
      rw [hsame u u' rfl rfl, hid]

/-- What a request comes to is the same on both sides. -/
theorem Alike.plan (h : Alike app app') (hverdict : SameVerdict app app' req)
    (hroute : Route.ofPath? req.path = some route) (o : Occasion) :
    Agree (app.plan route req o) (app'.plan route req o) := by
  by_cases htoken : route = .front .token ∧ Verb.ofMethod? req.method = some .post
  · obtain ⟨rfl, hverb⟩ := htoken
    refine ⟨?_, h⟩
    change app.planFront .token (Verb.ofMethod? req.method) req o =
      app'.planFront .token (Verb.ofMethod? req.method) req o
    rw [hverb]
    exact congrArg orReply (h.planToken (asksForToken_iff.2 ⟨hverb, hroute⟩) hverdict)
  · exact h.agree fun app => plan_blind htoken app

/-! ## Tasks -/

theorem settle_blind {op : Op α} (hop : Blindly op) (reply : α → Reply) (app : App) :
    Agree (app.blind.settle (op app.blind.store) reply) (app.settle (op app.store) reply) := by
  obtain ⟨houtcome, hleft⟩ := hop app.store
  have hsame := alike_withStore hleft app
  have hstore : app.blind.store = app.store.blind := rfl
  unfold App.settle
  rw [hstore, houtcome]
  rcases (op app.store).1 with (f | _) | a <;> exact ⟨rfl, hsame⟩

theorem conclude_blind {op : Store → Except Failure α × Store} (hop : Blindly op)
    (reply : α → Reply) (app : App) :
    Agree (app.blind.conclude (op app.blind.store) reply) (app.conclude (op app.store) reply) := by
  have hlifted : Blindly fun s => ((op s).1.mapError Stop.failed, (op s).2) := fun s =>
    ⟨congrArg (Except.mapError Stop.failed) (hop s).1, (hop s).2⟩
  exact settle_blind hlifted reply app

theorem invite_blind (u : NewUser) (o : Occasion) (app : App) :
    Agree (app.blind.invite u o) (app.invite u o) := by
  have hconfig : app.blind.config = app.config := rfl
  unfold App.invite
  rw [hconfig]
  cases app.config.invitationSecs? with
  | none => exact ⟨rfl, alike_blind app⟩
  | some secs =>
    obtain ⟨houtcome, hleft⟩ :=
      blindly_createAndInvite u o.token (secs * Timestamp.second) o.now app.store
    exact ⟨houtcome, alike_withStore hleft app⟩

theorem Alike.welcome (h : Alike app app') (u : User) (token : String) :
    Agree (app.welcome u token) (app'.welcome u token) :=
  h.agree fun _ => agree_of_blind rfl

theorem Alike.withdraw (h : Alike app app') (u : User) :
    Alike (app.withdraw u) (app'.withdraw u) := by
  have hleft : ∀ app : App, (app.withdraw u).blind = app.blind.withdraw u := fun app => by
    simp only [App.withdraw, App.blind, blind_deleteUser]
  rw [Alike, hleft, hleft, h]

theorem register_blind (u : NewUser) (o : Occasion) (app : App) :
    Agree (app.blind.register u o) (app.register u o) := by
  obtain ⟨outcome, left, left', hx, hy, hleft⟩ := (invite_blind u o app).outcome
  unfold App.register
  rw [hx, hy]
  rcases outcome with (f | _) | user
  · exact ⟨rfl, hleft⟩
  · exact ⟨rfl, hleft⟩
  · obtain ⟨sent, app₁, app₂, hm, hm', hsame⟩ := (hleft.welcome user o.token).outcome
    dsimp only
    rw [hm, hm']
    cases sent with
    | ok => exact ⟨rfl, hsame⟩
    | error f => exact ⟨rfl, hsame.withdraw user⟩

/-- **Tasks.** A user who is shown is shown without the hash. -/
theorem perform_blind (t : Task) (o : Occasion) (app : App) :
    Agree (app.blind.perform t o) (app.perform t o) := by
  cases t with
  | register u => exact register_blind u o app
  | activate token => exact conclude_blind (blindly_activate token o.now) _ app
  | showUser id =>
    refine agree_of_blind ?_
    unfold App.perform
    dsimp only
    rw [resolve_blind]
    rcases app.resolve id o.instant with ⟨f | u, app⟩ <;> rfl
  | createPost d => exact settle_blind (blindly_createPost d) _ app
  | updatePost p => exact settle_blind (blindly_updatePost p) _ app
  | createComment d => exact settle_blind (blindly_createComment d) _ app
  | updateComment c => exact conclude_blind (blindly_updateComment c) _ app
  | follow a b => exact conclude_blind (blindly_follow a b) _ app
  | _ => exact agree_of_blind rfl

/-! ## Requests -/

theorem Alike.serve (h : Alike app app') (hverdict : SameVerdict app app' req)
    (hroute : Route.ofPath? req.path = some route) (o : Occasion) :
    Agree (app.serve route req o) (app'.serve route req o) := by
  obtain ⟨planned, left, left', hp, hp', hleft⟩ := (h.plan hverdict hroute o).outcome
  unfold App.serve
  rw [hp, hp']
  cases planned with
  | error r => exact ⟨rfl, hleft⟩
  | ok t => exact hleft.agree fun app => perform_blind t o app

theorem meter_blind (req : Request) (instant : Int) (app : App) :
    app.blind.meter req instant =
      ((app.meter req instant).1, (app.meter req instant).2.blind) := by
  have henabled : app.blind.config.limits.enabled = app.config.limits.enabled := rfl
  unfold App.meter
  rw [henabled]
  split <;> rfl

theorem Alike.admitted (h : Alike app app') (hverdict : SameVerdict app app' req) (o : Occasion) :
    Agree (app.admitted (Route.ofPath? req.path) req o)
      (app'.admitted (Route.ofPath? req.path) req o) := by
  obtain ⟨outcome, left, left', hm, hm', hleft⟩ :=
    (h.agree fun app => agree_of_blind (meter_blind req o.instant app)).outcome
  obtain ⟨l, hl⟩ := meter_eq req o.instant app
  obtain ⟨l', hl'⟩ := meter_eq req o.instant app'
  rw [hm] at hl
  rw [hm'] at hl'
  unfold App.admitted
  rw [hm, hm']
  cases outcome with
  | error secs => exact ⟨rfl, hleft⟩
  | ok =>
    cases hroute : Route.ofPath? req.path with
    | none => exact ⟨rfl, hleft⟩
    | some route =>
      -- the limiter is all that has changed, so the verdicts are the same as before
      have hverdict : SameVerdict left left' req := by
        rw [show left = _ from hl, show left' = _ from hl']
        exact hverdict
      exact hleft.serve hverdict hroute o

/-- **Requests.** Both answer alike, and are alike again. -/
theorem Alike.respond (h : Alike app app') (hverdict : SameVerdict app app' req) (o : Occasion) :
    Agree (app.respond req o) (app'.respond req o) := by
  have horigins : ∀ {app app' : App}, Alike app app' → app.origins = app'.origins :=
    fun {a a'} h => show a.blind.origins = a'.blind.origins by rw [h]
  unfold App.respond
  by_cases hmethod : req.method = "OPTIONS"
  · simp only [hmethod, if_true, horigins h]
    exact ⟨rfl, h⟩
  obtain ⟨reply, left, left', ha, ha', hleft⟩ := (h.admitted hverdict o).outcome
  simp only [hmethod, if_false, ha, ha']
  exact ⟨by rw [horigins hleft], hleft⟩

/-! ## Runs -/

/-- The event is a request that asks for no token. -/
def Event.AsksNoToken : Event → Prop
  | .request req _ => ¬ AsksForToken req
  | _ => False

theorem Alike.after (h : Alike app app') (hes : ∀ e ∈ es, e.AsksNoToken) :
    Alike (app.after es) (app'.after es) := by
  induction es generalizing app app' with
  | nil => exact h
  | cons e es ih =>
    refine ih ?_ fun e' he' => hes e' (List.mem_cons_of_mem e he')
    cases e with
    | request req o =>
      have hno : ¬ AsksForToken req := hes _ List.mem_cons_self
      exact (h.respond (sameVerdict_of_not_asks hno app app') o).2
    | _ => exact (hes _ List.mem_cons_self).elim

/-- **Secrecy.** Two applications that are the same but for hashes give the same replies to whatever
is asked of them, and stay the same but for hashes, as long as no token is asked for. If one is, the
verdict of the hash on the password that is sent is all that matters of it. -/
theorem hashes_stay_secret (h : Alike app app') :
    (∀ es, (∀ e ∈ es, Event.AsksNoToken e) → Alike (app.after es) (app'.after es) ∧
      ∀ req o, ¬ AsksForToken req →
        ((app.after es).respond req o).1 = ((app'.after es).respond req o).1) ∧
      ∀ req o, AsksForToken req → SameVerdict app app' req →
        Agree (app.respond req o) (app'.respond req o) := by
  refine ⟨fun es hes => ?_, fun req o _ hverdict => h.respond hverdict o⟩
  have hend := h.after hes
  exact ⟨hend, fun req o hno => (hend.respond (sameVerdict_of_not_asks hno _ _) o).1⟩

def hashedUser (p : Password) : User :=
  ⟨101, "bob", "bob@example.com", p, .ofUnix 1600000000, true, 1, namedRole 1 "user" 1⟩

/-- The user has one hash in the store, and another one in the cache. -/
def hashedApp (p q : Password) : App :=
  { sampleStart with
    store := { initial with lastId := 101, users := Table.empty.insert 101 (hashedUser p) }
    cache := some ⟨Table.empty.insert 101 ⟨hashedUser q, 0⟩, false⟩ }

theorem alike_hashedApp (p q p' q' : Password) : Alike (hashedApp p q) (hashedApp p' q') := by
  simp only [Alike, App.blind, hashedApp, Store.blind, Table.map_insert, Option.map_some,
    Cache.Memory.blind]
  rfl

theorem getUserByEmail_hashedApp (p q : Password) :
    (hashedApp p q).store.getUserByEmail "bob@example.com" = .ok (hashedUser p) := by
  have hvalues : (hashedApp p q).store.users.values = [hashedUser p] := rfl
  rw [getUserByEmail, hvalues]
  simp [hashedUser]

/-- The hashes cannot be read, so that they verify nothing. -/
theorem sameVerdict_hashedApp (q q' : Password) :
    SameVerdict (hashedApp ⟨"left"⟩ q) (hashedApp ⟨"right"⟩ q') (sampleLogin "secret") := by
  intro email password hlogs u u' hu hu'
  cases hlogs.body.symm.trans (@logsIn_sampleLogin "secret" (by simp)).body
  rw [getUserByEmail_hashedApp] at hu hu'
  cases hu
  cases hu'
  decide +kernel

/-- The user asks for the own page. -/
def selfRequest : Request := { sampleRemoval with method := "GET", path := "/v1/users/101" }

/-- The page of the user is the same, and so is the reply to a login. -/
theorem hashes_stay_secret_hashedApp :
    let app := hashedApp ⟨"left"⟩ ⟨"first"⟩
    let app' := hashedApp ⟨"right"⟩ ⟨"second"⟩
    (app.store ≠ app'.store ∧ app.cache ≠ app'.cache ∧ Alike app app' ∧
      AsksForToken (sampleLogin "secret") ∧ SameVerdict app app' (sampleLogin "secret") ∧
      Event.AsksNoToken (.request selfRequest sampleOccasion)) ∧
    (app.after [.request selfRequest sampleOccasion]).blind =
        (app'.after [.request selfRequest sampleOccasion]).blind ∧
      (app.respond selfRequest sampleOccasion).1 = (app'.respond selfRequest sampleOccasion).1 ∧
      (app.respond (sampleLogin "secret") sampleOccasion).1 =
        (app'.respond (sampleLogin "secret") sampleOccasion).1 := by
  intro app app'
  have halike : Alike app app' := alike_hashedApp _ _ _ _
  have hasks : AsksForToken (sampleLogin "secret") := ⟨rfl, rfl⟩
  have hno : ¬ AsksForToken selfRequest := fun h => absurd h.1 (by decide)
  have hverdict : SameVerdict app app' (sampleLogin "secret") := sameVerdict_hashedApp _ _
  obtain ⟨hruns, hlogins⟩ := hashes_stay_secret halike
  have hself := hruns [.request selfRequest sampleOccasion] fun e he => by
    cases List.mem_singleton.1 he
    exact hno
  exact ⟨⟨by decide +kernel, by decide +kernel, halike, hasks, hverdict, hno⟩, hself.1,
    (hruns [] (by simp)).2 _ _ hno, (hlogins _ _ hasks hverdict).1⟩

end Microblog.Service
