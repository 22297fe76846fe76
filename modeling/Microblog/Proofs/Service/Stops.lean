import Microblog.Proofs.Service.Undertakings

/-!
# Requests that stop inside the store

A request can overflow while it holds the lock of the store: when the ids, the
times of the clock, the versions of a post or the dates for the end of an
invitation have run out. It has no reply then, and the lock is never given back
(`Jams`): from then on every request that looks at the store stops too, and none
but those that need no store are answered.

The application as it is defined goes on from such a request with the store as it
is left, as though the lock had been given back. So what is proved of runs is
meant up to the first request that jams the store: behind it no record changes
any more, and a reply that is promised is given only where the store is not
needed. Runs that end there are the courses of copies with and without a cache.
-/

namespace Microblog.Service

open Account Http Store

variable {app app' : App} {req : Request} {o : Occasion} {route : Route} {t : Task}

/-- The task takes the lock of the store. A lifetime of invitations that has no seconds ends a
registration before. -/
def Task.takesStore (config : Config) : Task → Bool
  | .answer _ => false
  | .overflow => false
  | .issueToken _ => false
  | .register _ => config.invitationSecs?.isSome
  | _ => true

/-- What has been planned takes the store and then has no reply. -/
def StopsInside (o : Occasion) (planned : Except Reply Task × App) : Prop :=
  ∃ t, planned.1 = .ok t ∧ t.takesStore planned.2.config = true ∧ (planned.2.perform t o).1 = none

/-- The request overflows while it holds the store. The lock is then never given back, and whatever
looks at the store from then on stops too. -/
def Jams (app : App) (req : Request) (o : Occasion) : Prop :=
  req.method ≠ "OPTIONS" ∧ (app.meter req o.instant).1 = .ok () ∧
    ∃ route, Route.ofPath? req.path = some route ∧
      StopsInside o ((app.meter req o.instant).2.plan route req o)

/-- A request jams the store if it comes to a task that does. -/
theorem Undertakes.jams (h : Undertakes app req o route t app')
    (htakes : t.takesStore app'.config = true) (hsilent : (app'.perform t o).1 = none) :
    Jams app req o :=
  ⟨h.method, h.metered, route, h.lies, t, by rw [h.plan], by rw [h.plan]; exact htakes,
    by rw [h.plan]; exact hsilent⟩

/-- A user is shown or refused, whatever the store and the cache hold. -/
theorem perform_showUser_ne_none (id : Int64) : (app.perform (.showUser id) o).1 ≠ none := by
  unfold App.perform
  dsimp only
  split <;> exact Option.some_ne_none _

/-- Only tasks that count on something stop inside the store. -/
theorem verb_of_stopsInside (h : StopsInside o (app.plan route req o)) :
    Verb.ofMethod? req.method = some .post ∨ Verb.ofMethod? req.method = some .patch := by
  obtain ⟨t, hplan, htakes, hsilent⟩ := h
  have hsettled : ∀ {α : Type} {app : App} {x : Except Failure α × Store} {reply : α → Reply},
      (app.conclude x reply).1 ≠ none := by
    rintro α app ⟨f | a, s⟩ reply <;> exact Option.some_ne_none _
  rcases plan_cases hplan with hopen | ⟨u, v, -, hv, hplanned⟩
  · cases hopen with
    | answer r => cases htakes
    | overflow => cases htakes
    | issueToken id => cases htakes
    | register u => exact .inl (plan_register hplan).2.1
    | activate token => exact absurd hsilent hsettled
  · cases hplanned with
    | answer => cases htakes
    | createPost => exact .inl hv
    | createComment => exact .inl hv
    | updatePost => exact .inr hv
    | updateComment => exact .inr hv
    | showUser => exact absurd hsilent (perform_showUser_ne_none _)
    | follow => exact absurd hsilent hsettled
    | _ => cases hsilent

/-- A request that jams the store is posted, or patches something. -/
theorem Jams.method (h : Jams app req o) : req.method = "POST" ∨ req.method = "PATCH" := by
  obtain ⟨-, -, route, -, hstops⟩ := h
  rcases verb_of_stopsInside hstops with hv | hv
  · exact .inl (List.mem_singleton.1 (mem_methods_of_ofMethod? hv))
  · exact .inr (List.mem_singleton.1 (mem_methods_of_ofMethod? hv))

end Microblog.Service
