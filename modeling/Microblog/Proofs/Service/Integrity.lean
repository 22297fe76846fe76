import Microblog.Proofs.Service.Accounts
import Microblog.Proofs.Service.Authorisation
import Microblog.Proofs.Service.Caching
import Microblog.Proofs.Store.Integrity

/-!
# Records refer to what is stored

The store itself does not ask whether the author of a post is stored, and a user
may be deleted whose posts stay. That all records refer to what is stored, over
every run of requests (`consistent_of_run`), is the work of the application: what
a member adds is the member's own, a member is someone who is stored, be it that
the cache says so (`stored_of_sentBy`), and nobody is taken away but a user whom
the same request has just stored (`AccountStep.stays`).
-/

namespace Microblog.Service

open Account Content Http Store

variable {app app' : App} {req : Request} {o : Occasion} {e : Event} {route : Route} {t : Task}
  {users users' : Table Int64 User} {c c' : Option Cache.Memory} {id : Int64}

/-! ## Who sends requests -/

/-- Everybody in the cache is stored. -/
def CachedIn (users : Table Int64 User) (c : Option Cache.Memory) : Prop :=
  ∀ m, c = some m → ∀ id e, m.entries.get? id = some e → users.contains e.user.id

theorem CachedIn.mono (h : CachedIn users c)
    (husers : ∀ id, users.contains id → users'.contains id) : CachedIn users' c :=
  fun m hm id e he => husers _ (h m hm id e he)

theorem CachedIn.caches (h : CachedIn users c) (hc : Caches users c c')
    (hid : ∀ id u, users.get? id = some u → u.id = id) : CachedIn users c' := by
  induction hc with
  | refl => exact h
  | insert id u instant _ _ stored ih =>
    rintro _ ⟨⟩ j e he
    rw [Table.get?_insert] at he
    split at he
    · cases he
      show users.contains u.id
      rw [hid id u stored]
      exact Table.contains_of_get? stored
    · exact ih _ rfl j e he

/-- Whoever is found is stored, also where the cache has the answer. -/
theorem stored_of_resolve {u : User} {instant : Int} (hs : Numbered app.store)
    (hcached : CachedIn app.store.users app.cache) (h : (app.resolve id instant).1 = .ok u) :
    app.store.users.contains u.id := by
  rcases found_of_resolve h with hu | ⟨m, e, hm, he, rfl⟩
  · rw [(hs.users id u hu).1]
    exact Table.contains_of_get? hu
  · exact hcached m hm id e he

theorem stored_of_sentBy {u : User} (hs : Numbered app.store)
    (hcached : CachedIn app.store.users app.cache) (h : SentBy app req o u) :
    app.store.users.contains u.id := by
  obtain ⟨token, claims, id, -, -, -, hresolve⟩ := h
  exact stored_of_resolve hs hcached hresolve

/-! ## Users stay -/

/-- A request takes away nobody who was stored before. -/
theorem AccountStep.stays {s : Store} (h : AccountStep app req o s)
    (hid : app.store.users.contains id) : s.users.contains id := by
  cases h with
  | steady users invitations =>
    rw [users]
    exact hid
  | stored u i at' asks new last distinct users invitations =>
    rw [users]
    exact Table.contains_insert_iff.2 (.inr hid)
  | invited u i at' expiry new last distinct registers users invitations =>
    rw [users]
    exact Table.contains_insert_iff.2 (.inr hid)
  | withdrawn i expiry asks new users invitations =>
    rw [users]
    exact hid
  | activated token inv asks invited live users invitations =>
    rw [users, Table.contains_modify]
    exact hid

theorem contains_users_respond (hs : Numbered app.store) (req : Request) (o : Occasion)
    (hid : app.store.users.contains id) : (app.respond req o).2.store.users.contains id :=
  (respond_accounts hs req o).stays hid

/-! ## Users differ -/

theorem Task.Makes.checksNames {c : Call} (h : t.Makes o c) : c.ChecksNames := by
  cases h <;> trivial

theorem Called.checksNames {c : Call} (h : Called app req o c) : c.ChecksNames := by
  cases h with
  | read id => trivial
  | anybody ht hc => exact hc.checksNames
  | member hroute hu hv ht hc => exact hc.checksNames

theorem distinctUsers_respond (h : DistinctUsers app.store) (req : Request) (o : Occasion) :
    DistinctUsers (app.respond req o).2.store := by
  obtain ⟨cs, hcs, hcalled⟩ := respond_calls req o app
  rw [hcs]
  exact run_keeps (fun s c hc hs => hs.call (hcalled c hc).checksNames) h

/-! ## What members add is their own -/

theorem Planned.isBy {s : Store} {u : User} {v : Verb} {c : Call}
    (h : Planned s u req route v t) (hc : t.Makes o c) : c.IsBy u.id := by
  cases h <;> cases hc <;> trivial

/-- Posts, comments and follow edges are none of the tasks that anybody may have done. -/
theorem perform_open (h : t.Open) (o : Occasion) (app : App) :
    (app.perform t o).2.store.posts = app.store.posts ∧
      (app.perform t o).2.store.comments = app.store.comments ∧
      (app.perform t o).2.store.follows = app.store.follows := by
  obtain ⟨cs, hcs, hmakes⟩ := perform_calls t o app
  rw [hcs]
  refine run_keeps (P := fun s => s.posts = app.store.posts ∧ s.comments = app.store.comments ∧
    s.follows = app.store.follows) (fun s c hc hs => ?_) ⟨rfl, rfl, rfl⟩
  have hmade := hmakes c hc
  cases h with
  | register v =>
    cases hmade with
    | createAndInvite u ttl => simpa [Call.run] using hs
    | deleteUser u id => exact hs
  | activate token =>
    cases hmade
    simpa [Call.run] using hs
  | _ => cases hmade

/-- A task that a request comes to is an open one, or planned for the member who sent it. -/
theorem Undertakes.cases (h : Undertakes app req o route t app') :
    t.Open ∨ ∃ u v, SentBy app req o u ∧ Verb.ofMethod? req.method = some v ∧
      Planned app.store u req route v t := by
  obtain ⟨l, hl⟩ := meter_eq req o.instant app
  rcases plan_cases (congrArg Prod.fst h.plan) with hopen | ⟨u, v, hu, hv, ht⟩
  · exact .inl hopen
  · rw [hl] at hu ht
    exact .inr ⟨u, v, hu, hv, ht⟩

theorem attributed_respond (hs : Numbered app.store)
    (hcached : CachedIn app.store.users app.cache) (h : Attributed app.store) (req : Request)
    (o : Occasion) : Attributed (app.respond req o).2.store := by
  have hstays := fun id => @contains_users_respond app id hs req o
  rcases respond_cases req o app with ⟨route, t, app', ht⟩ | ⟨l, c, n, hn⟩
  · have hstore := ht.store_respond
    rcases ht.cases with hopen | ⟨u, v, hu, -, hplanned⟩
    · obtain ⟨hposts, hcomments, hfollows⟩ := perform_open hopen o app'
      obtain ⟨l, c, n, rfl⟩ := ht.frame
      rw [← hstore] at hposts hcomments hfollows
      exact h.mono hstays hposts hcomments hfollows
    -- the author was stored before, and the call of the task leaves users alone
    · have hauthor := stored_of_sentBy hs hcached hu
      have hregister : ∀ w, t ≠ .register w := by
        rintro w rfl
        cases hplanned
      obtain ⟨l, c, n, rfl⟩ := ht.frame
      rw [hstore]
      have hreads : Attributed { app.store with reads := n } := h.mono (fun _ h => h) rfl rfl rfl
      rcases perform_call hregister o _ with hsame | ⟨d, hd, hcall⟩
      · rw [hsame]
        exact hreads
      · rw [hcall]
        exact hreads.call (hplanned.isBy hd) hauthor
  · exact h.mono hstays (by rw [hn]) (by rw [hn]) (by rw [hn])

/-! ## Runs -/

/-- Nothing uses the store but the application. -/
def Event.IsOwn : Event → Prop
  | .call _ => False
  | _ => True

/-- A consistent store, and with it what keeps it so. -/
structure Coherent (app : App) : Prop where
  numbered : Numbered app.store
  cached : CachedIn app.store.users app.cache
  consistent : Consistent app.store

theorem Coherent.respond (h : Coherent app) (req : Request) (o : Occasion) :
    Coherent (app.respond req o).2 := by
  have hstays := fun id => @contains_users_respond app id h.numbered req o
  have hcached := h.cached.caches (caches_respond req o app) fun id u hu =>
    (h.numbered.users id u hu).1
  obtain ⟨cs, hcs, -⟩ := respond_calls req o app
  refine ⟨numbered_step h.numbered (.request req o), hcached.mono hstays, ?_, ?_, ?_, ?_⟩
  · exact distinctUsers_respond h.consistent.distinct req o
  · exact attributed_respond h.numbered h.cached h.consistent.attributed req o
  · rw [hcs]
    exact run_keeps (fun s c _ hs => hs.call c) h.consistent.attached
  · rw [hcs]
    exact run_keeps (fun s c _ hs => hs.call c) h.consistent.invited

theorem Coherent.step (h : Coherent app) (he : e.IsOwn) : Coherent (app.step e) := by
  cases e with
  | request req o => exact h.respond req o
  | call c => exact he.elim
  | resolve id instant =>
    have hcached := h.cached.caches (caches_resolve id instant app) fun id u hu =>
      (h.numbered.users id u hu).1
    have hnumbered := numbered_step h.numbered (.resolve id instant)
    obtain ⟨c, n, hn⟩ := resolve_eq id instant app
    rw [hn] at hcached
    rw [App.step, hn] at hnumbered ⊢
    exact ⟨hnumbered, hcached, h.consistent.of_sameRecords (sameRecords_reads app.store n)⟩
  | failCacheWrites fail =>
    refine ⟨h.numbered, fun m hm id e he => ?_, h.consistent⟩
    obtain ⟨m', hm', rfl⟩ := Option.map_eq_some_iff.1 hm
    exact h.cached m' hm' id e he
  | setMailer m => exact ⟨h.numbered, h.cached, h.consistent⟩

variable {accounts : List (NewUser × String × Bool)} {config : Config}
  {cache : Option Cache.Memory} {mailer : Mail.Mailer} {instant : Int} {start : App}
  {es : List Event}

theorem coherent_of_start (hemails : (accounts.map (·.1.email)).Nodup)
    (husernames : (accounts.map (·.1.username)).Nodup)
    (hcache : cache = none ∨ cache = some .empty)
    (hstart : App.start? config (populated accounts) cache mailer instant = some start) :
    Coherent start := by
  obtain ⟨authority, -, rfl⟩ := Option.map_eq_some_iff.1 hstart
  refine ⟨(reachable_populated accounts).numbered, ?_, consistent_populated hemails husernames⟩
  rintro m hm id e he
  change cache = some m at hm
  rcases hcache with rfl | rfl
  · cases hm
  · cases hm
    cases he

/-- **Integrity.** From a start with users who differ, with an empty cache or none, the store is
consistent after every run of requests, whether mails and writes of the cache fail or not. That
comments are on stored posts holds after all calls whatsoever, in whatever order requests are
interleaved. -/
theorem consistent_of_run (hemails : (accounts.map (·.1.email)).Nodup)
    (husernames : (accounts.map (·.1.username)).Nodup)
    (hcache : cache = none ∨ cache = some .empty)
    (hstart : App.start? config (populated accounts) cache mailer instant = some start)
    (hes : ∀ e ∈ es, e.IsOwn) :
    Consistent (start.after es).store ∧
      ∀ cs : List Call, Attached (run cs (populated accounts)) := by
  have hcoherent : Coherent (start.after es) :=
    after_keeps (fun app e he h => h.step (hes e he))
      (coherent_of_start hemails husernames hcache hstart)
  exact ⟨hcoherent.consistent, fun cs => (reachable_run_populated accounts cs).attached⟩

/-- Two users, the ones of 101 and 102. -/
def sampleAccounts : List (NewUser × String × Bool) := [
  (⟨"ann", "ann@example.com", ⟨""⟩⟩, "user", true),
  (⟨"bob", "bob@example.com", ⟨""⟩⟩, "moderator", true)]

/-- The application with the two users and a cache. -/
def peopledStart : App :=
  { sampleStart with store := populated sampleAccounts, cache := some .empty }

/-- The user 101 asks to follow the user 102. -/
def sampleFollow : Request :=
  { sampleRemoval with method := "PUT", path := "/v1/users/102/follow" }

/-- One user follows the other one, and from then on no mail is sent. -/
theorem consistent_sampleFollow :
    App.start? sampleConfig (populated sampleAccounts) (some .empty) .discarding 0 =
        some peopledStart ∧
      (peopledStart.after [.request sampleFollow sampleOccasion, .setMailer .failing]).store.follows
        = [(101, 102)] ∧
      Consistent
        (peopledStart.after [.request sampleFollow sampleOccasion, .setMailer .failing]).store := by
  have hstart : App.start? sampleConfig (populated sampleAccounts) (some .empty) .discarding 0 =
      some peopledStart := by
    have hof : Authority.of? "test" "test" "test" 72 = some sampleStart.authority := by decide
    simp only [App.start?, sampleConfig, hof, Option.map_some]
    rfl
  have hroute : Route.ofPath? sampleFollow.path = some (.member (.follow "102")) := by
    decide +kernel
  have hauthority : peopledStart.authority = sampleStart.authority := rfl
  have hbearer : peopledStart.bearer? sampleFollow.headers sampleOccasion = some 101 :=
    (bearer?_congr hauthority rfl _).trans bearer?_sampleRemoval
  have hfollows : (peopledStart.respond sampleFollow sampleOccasion).2.store.follows =
      [(101, 102)] := by
    rw [respond_of_bearer (by decide) rfl hroute (by simp) hbearer]
    decide +kernel
  have hafter : ∀ app : App,
      (app.after [.request sampleFollow sampleOccasion, .setMailer .failing]).store =
        (app.respond sampleFollow sampleOccasion).2.store := fun _ => rfl
  refine ⟨hstart, by rw [hafter, hfollows], ?_⟩
  refine (consistent_of_run (by decide) (by decide) (.inr rfl) hstart fun e he => ?_).1
  simp only [List.mem_cons, List.not_mem_nil, or_false] at he
  rcases he with rfl | rfl <;> trivial

end Microblog.Service
