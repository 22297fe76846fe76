import Microblog.Proofs.Service.Undertakings

/-!
# What a request leaves in the cache

The cache is written by reads of users alone, and each puts a user who is stored
under the user's own id (`caches_respond`). So every entry of a reachable
application is one of the user it stands for (`App.Reachable.ownEntries`), and
who is stored is found, be it with a cache or without (`resolve_of_stored`).
-/

namespace Microblog.Service

open Account Content Http Store

variable {app : App} {users : Table Int64 User} {c c' c'' : Option Cache.Memory} {id : Int64}

/-! ## Entries that are added -/

/-- A cache comes from another by entries for stored users, if it can be written. -/
inductive Caches (users : Table Int64 User) (c : Option Cache.Memory) :
    Option Cache.Memory → Prop
  | refl : Caches users c c
  | insert {m : Cache.Memory} (id : Int64) (u : User) (instant : Int) (h : Caches users c (some m))
    (writes : m.writesFail = false) (stored : users.get? id = some u) :
    Caches users c (some { m with entries := m.entries.insert u.id ⟨u, instant⟩ })

theorem Caches.trans (h : Caches users c c') (h' : Caches users c' c'') : Caches users c c'' := by
  induction h' with
  | refl => exact h
  | insert id u instant _ writes stored ih => exact .insert id u instant ih writes stored

theorem caches_resolve (id : Int64) (instant : Int) (app : App) :
    Caches app.store.users app.cache (app.resolve id instant).2.cache := by
  unfold App.resolve Cache.resolve Cache.resolveThrough
  cases hcache : app.cache with
  | none =>
    cases hread : app.store.getUser id with
    | mk outcome s => cases outcome <;> exact .refl
  | some m =>
    simp only [Cache.UserCache.get, Cache.UserCache.set]
    cases m.get? id instant with
    | some u => exact .refl
    | none =>
      unfold getUser
      cases hu : app.store.users.get? id with
      | none => exact .refl
      | some u =>
        by_cases hfail : m.writesFail = true
        · simp only [if_pos hfail]
          exact .refl
        · simp only [if_neg hfail]
          exact .insert id u instant .refl (Bool.eq_false_iff.2 hfail) hu

theorem caches_authenticate (headers : Headers) (o : Occasion) (app : App) :
    Caches app.store.users app.cache (app.authenticate headers o).2.cache := by
  unfold App.authenticate
  cases app.bearer? headers o with
  | none => exact .refl
  | some id =>
    have hcaches := caches_resolve id o.instant app
    cases hread : app.resolve id o.instant with
    | mk outcome app' =>
      rw [hread] at hcaches
      cases outcome <;> simpa only [hread] using hcaches

theorem caches_plan (route : Route) (req : Request) (o : Occasion) (app : App) :
    Caches app.store.users app.cache (app.plan route req o).2.cache := by
  cases route with
  | front page => exact .refl
  | _ =>
    rw [plan_member (by simp)]
    exact caches_authenticate req.headers o app

theorem cache_register (u : NewUser) (o : Occasion) (app : App) :
    (app.register u o).2.cache = app.cache := by
  rcases register_cases u o app with ⟨_, he, -⟩ | ⟨secs, s, -, ⟨-, he⟩ |
    ⟨user, -, ⟨-, he⟩ | ⟨-, m, -, he⟩⟩⟩ <;> rw [he]

theorem cache_settle {α : Type} (x : Except Stop α × Store) (reply : α → Reply) (app : App) :
    (app.settle x reply).2.cache = app.cache := by
  unfold App.settle
  rcases x with ⟨(f | _) | a, s⟩ <;> rfl

theorem caches_perform (t : Task) (o : Occasion) (app : App) :
    Caches app.store.users app.cache (app.perform t o).2.cache := by
  have hsame : ∀ {c : Option Cache.Memory}, c = app.cache → Caches app.store.users app.cache c := by
    rintro _ rfl
    exact .refl
  cases t with
  | register u => exact hsame (cache_register u o app)
  | showUser id =>
    rw [perform_showUser]
    exact caches_resolve id o.instant app
  | activate token => exact hsame (cache_settle _ _ _)
  | createPost d => exact hsame (cache_settle _ _ _)
  | updatePost p => exact hsame (cache_settle _ _ _)
  | createComment d => exact hsame (cache_settle _ _ _)
  | updateComment c => exact hsame (cache_settle _ _ _)
  | follow a b => exact hsame (cache_settle _ _ _)
  | _ => exact .refl

theorem caches_serve (route : Route) (req : Request) (o : Occasion) (app : App) :
    Caches app.store.users app.cache (app.serve route req o).2.cache := by
  have hcaches := caches_plan route req o app
  obtain ⟨c, n, hn⟩ := plan_eq route req o app
  unfold App.serve
  cases hplan : app.plan route req o with
  | mk planned app' =>
    rw [hplan] at hcaches hn
    change app' = _ at hn
    subst hn
    cases planned with
    | error r => exact hcaches
    | ok t =>
      exact hcaches.trans
        (caches_perform t o { app with cache := c, store := { app.store with reads := n } })

/-- **Requests.** What a request leaves in the cache. -/
theorem caches_respond (req : Request) (o : Occasion) (app : App) :
    Caches app.store.users app.cache (app.respond req o).2.cache := by
  unfold App.respond
  by_cases hmethod : req.method = "OPTIONS"
  · simp only [hmethod, if_true]
    exact .refl
  simp only [hmethod, if_false]
  unfold App.admitted
  obtain ⟨l, hl⟩ := meter_eq req o.instant app
  cases hmeter : app.meter req o.instant with
  | mk outcome app' =>
    rw [hmeter] at hl
    change app' = _ at hl
    subst hl
    cases outcome with
    | error left => exact .refl
    | ok =>
      cases Route.ofPath? req.path with
      | none => exact .refl
      | some route => exact caches_serve route req o { app with limiter := l }

/-! ## Entries stand for their users -/

/-- Every entry is of the user under whose id it is. -/
def OwnEntries (c : Option Cache.Memory) : Prop :=
  ∀ m, c = some m → ∀ id e, m.entries.get? id = some e → e.user.id = id

/-- No write fails. -/
def Writable (c : Option Cache.Memory) : Prop := ∀ m, c = some m → m.writesFail = false

theorem OwnEntries.caches (hc : OwnEntries c) (h : Caches users c c') : OwnEntries c' := by
  induction h with
  | refl => exact hc
  | insert id u instant _ _ _ ih =>
    rintro _ ⟨⟩ j e he
    rw [Table.get?_insert] at he
    split at he
    · rename_i hj
      cases he
      exact hj.symm
    · exact ih _ rfl j e he

theorem Writable.caches (hc : Writable c) (h : Caches users c c') : Writable c' := by
  induction h with
  | refl => exact hc
  | insert id u instant _ writes _ _ =>
    rintro _ ⟨⟩
    exact writes

theorem ownEntries_step (e : Event) (h : OwnEntries app.cache) : OwnEntries (app.step e).cache := by
  cases e with
  | request req o => exact h.caches (caches_respond req o app)
  | call c => exact h
  | resolve id instant => exact h.caches (caches_resolve id instant app)
  | failCacheWrites fail =>
    intro m hm id e he
    obtain ⟨m', hm', rfl⟩ := Option.map_eq_some_iff.1 hm
    exact h m' hm' id e he
  | setMailer m => exact h

theorem App.Reachable.ownEntries (h : app.Reachable) : OwnEntries app.cache := by
  obtain ⟨config, cache, mailer, instant, start, es, hcache, hstart, rfl⟩ := h
  refine after_keeps (P := fun app => OwnEntries app.cache) (fun app e _ => ownEntries_step e) ?_
  obtain ⟨authority, -, rfl⟩ := Option.map_eq_some_iff.1 hstart
  rintro m hm id e he
  change cache = some m at hm
  rcases hcache with rfl | rfl
  · cases hm
  · cases hm
    cases he

/-- Who is found is stored under the id, or the cache has an entry for it. -/
theorem found_of_resolve {u : User} {instant : Int} (h : (app.resolve id instant).1 = .ok u) :
    app.store.users.get? id = some u ∨
      ∃ m e, app.cache = some m ∧ m.entries.get? id = some e ∧ e.user = u := by
  unfold App.resolve Cache.resolve Cache.resolveThrough getUser at h
  cases hcache : app.cache with
  | none =>
    cases hu : app.store.users.get? id with
    | none => simp [hcache, hu] at h
    | some v =>
      simp only [hcache, hu, Except.ok.injEq] at h
      exact .inl (congrArg some h)
  | some m =>
    simp only [hcache, Cache.UserCache.get, Cache.UserCache.set] at h
    cases hget : m.get? id instant with
    | some v =>
      obtain ⟨e, he, rfl⟩ := Option.map_eq_some_iff.1 hget
      simp only [hget, Except.ok.injEq] at h
      exact .inr ⟨m, e, rfl, (Option.filter_eq_some_iff.1 he).1, h⟩
    | none =>
      cases hu : app.store.users.get? id with
      | none => simp [hget, hu] at h
      | some v =>
        by_cases hfail : m.writesFail = true
        · simp [hget, hu, hfail] at h
        · simp only [hget, hu, hfail, Bool.false_eq_true, if_false, Except.ok.injEq] at h
          exact .inl (congrArg some h)

/-- Who is stored is found, with or without a cache. -/
theorem resolve_of_stored {u : User} (hs : Numbered app.store) (hown : OwnEntries app.cache)
    (hwrites : Writable app.cache) (hu : app.store.users.get? id = some u) (instant : Int) :
    ∃ v, (app.resolve id instant).1 = .ok v ∧ v.id = id := by
  have hid := (hs.users id u hu).1
  unfold App.resolve Cache.resolve Cache.resolveThrough getUser
  cases hcache : app.cache with
  | none => exact ⟨u, by simp only [hu], hid⟩
  | some m =>
    simp only [Cache.UserCache.get, Cache.UserCache.set]
    cases hget : m.get? id instant with
    | some v =>
      obtain ⟨e, he, rfl⟩ := Option.map_eq_some_iff.1 hget
      exact ⟨e.user, rfl, hown m hcache id e (Option.filter_eq_some_iff.1 he).1⟩
    | none => exact ⟨u, by simp [hu, hwrites m hcache], hid⟩

end Microblog.Service
