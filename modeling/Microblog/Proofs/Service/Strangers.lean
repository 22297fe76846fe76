import Microblog.Proofs.Account.Issuing
import Microblog.Proofs.Service.Authorisation
import Microblog.Proofs.Service.Undertakings

/-!
# Strangers

A request for a page of members that carries no token of a user is turned away
before the path, the query or the body is looked at. The reply is made of the
configuration and the method alone, so that nothing is learnt of what is stored,
and the limiter is all that has changed (`stranger_learns_nothing`).
-/

namespace Microblog.Service

open Account Http

variable {app app' : App} {req : Request} {o : Occasion} {route : Route} {headers : Headers}

/-- The headers show a token that holds at some time, and that stands for a user with a number. -/
def ShowsToken (authority : Authority) (now : Int64) (headers : Headers) : Prop :=
  ∃ token claims id, Headers.text? headers "authorization" = some ("Bearer " ++ token) ∧
    authority.verify now token = .ok claims ∧ claims.userId = .ok id

theorem bearer?_eq_none (h : ¬ ShowsToken app.authority o.unix headers) :
    app.bearer? headers o = none := by
  rw [Option.eq_none_iff_forall_ne_some]
  intro id hid
  obtain ⟨token, claims, htoken, hverify, huser⟩ := bearer?_eq_some_iff.1 hid
  exact h ⟨token, claims, id, (authorization_eq_ok_iff.1 htoken).1, hverify, huser⟩

/-- What strangers are told. -/
def strangerReply (app : App) (route : Route) (method : String) : Reply :=
  App.finish (some route) method (Refusal.unauthorized.reply.withOrigins app.origins)

theorem status_strangerReply (app : App) (route : Route) (method : String) :
    (strangerReply app route method).status = 401 := status_finish ..

theorem body_strangerReply {method : String} (h : route.serves method) (app : App) :
    (strangerReply app route method).body =
      if method = "HEAD" then .empty else .json (.object [("error", .string "unauthorized")]) := by
  simp only [strangerReply, App.finish, h, if_true]
  split <;> rfl

/-- A stranger's request is answered after it has been counted, and leaves all else alone. -/
theorem respond_stranger (hmethod : req.method ≠ "OPTIONS")
    (hroute : Route.ofPath? req.path = some route) (hmembers : ∀ page, route ≠ .front page)
    (hmeter : (app.meter req o.instant).1 = .ok ())
    (hstranger : ¬ ShowsToken app.authority o.unix req.headers) :
    ∃ l, app.respond req o =
      (some (strangerReply app route req.method), { app with limiter := l }) := by
  obtain ⟨l, hl⟩ := meter_eq req o.instant app
  have hbearer : ({ app with limiter := l } : App).bearer? req.headers o = none :=
    bearer?_eq_none hstranger
  have hplan : App.plan route req o { app with limiter := l } =
      (.error Refusal.unauthorized.reply, { app with limiter := l }) := by
    simp only [plan_member hmembers, App.authenticate, hbearer]
  refine ⟨l, ?_⟩
  rw [respond_of_metered hmethod hmeter hroute, hl, App.serve, hplan]
  rfl

/-- **Strangers.** Two applications with the same settings, whatever they have stored, give a
stranger the same reply, and keep their records, their caches and the number of reads. -/
theorem stranger_learns_nothing (hsettings : SameSettings app app')
    (hroute : Route.ofPath? req.path = some route) (hmembers : ∀ page, route ≠ .front page)
    (hserves : route.serves req.method)
    (hmeter : (app.meter req o.instant).1 = .ok ()) (hmeter' : (app'.meter req o.instant).1 = .ok ())
    (hstranger : ¬ ShowsToken app.authority o.unix req.headers) :
    ∃ r l l', r.status = 401 ∧
      r.body = (if req.method = "HEAD" then .empty
        else .json (.object [("error", .string "unauthorized")])) ∧
      app.respond req o = (some r, { app with limiter := l }) ∧
      app'.respond req o = (some r, { app' with limiter := l' }) := by
  have hmethod : req.method ≠ "OPTIONS" := by
    intro hoptions
    rw [hoptions] at hserves
    cases hserves
  obtain ⟨hconfig, hauthority⟩ := hsettings
  obtain ⟨l, hl⟩ := respond_stranger hmethod hroute hmembers hmeter hstranger
  rw [← hauthority] at hstranger
  obtain ⟨l', hl'⟩ := respond_stranger hmethod hroute hmembers hmeter' hstranger
  have hreply : strangerReply app' route req.method = strangerReply app route req.method := by
    rw [strangerReply, App.origins, hconfig]
    rfl
  exact ⟨_, l, l', status_strangerReply app route req.method, body_strangerReply hserves app, hl,
    hreply ▸ hl'⟩

/-- A request to delete the post 102, with credentials of another scheme. -/
def strangeRemoval : Request :=
  { sampleRemoval with headers := [("authorization", "Basic YW5uOnNlY3JldA==")] }

/-- The post is stored by one of the applications only. -/
theorem stranger_learns_nothing_strangeRemoval :
    (SameSettings sampleStart sampleApp ∧
      Route.ofPath? strangeRemoval.path = some (.post "102" .itself) ∧
      (sampleStart.store.posts.contains 102 = false ∧ sampleApp.store.posts.contains 102 = true) ∧
      (∀ app ∈ [sampleStart, sampleApp], (app.meter strangeRemoval 0).1 = .ok ()) ∧
      ¬ ShowsToken sampleStart.authority sampleOccasion.unix strangeRemoval.headers) ∧
    ∃ r l l', r.status = 401 ∧ r.body = .json (.object [("error", .string "unauthorized")]) ∧
      sampleStart.respond strangeRemoval sampleOccasion =
        (some r, { sampleStart with limiter := l }) ∧
      sampleApp.respond strangeRemoval sampleOccasion =
        (some r, { sampleApp with limiter := l' }) := by
  have hsettings : SameSettings sampleStart sampleApp := sameSettings_after _ _
  have hroute : Route.ofPath? strangeRemoval.path = some (.post "102" .itself) := by decide +kernel
  have hunlimited : ∀ app ∈ [sampleStart, sampleApp], app.config.limits.enabled = false := by
    intro app happ
    simp only [List.mem_cons, List.not_mem_nil, or_false] at happ
    rcases happ with rfl | rfl
    · rfl
    · rw [hsettings.1]
      rfl
  have hmeter : ∀ app ∈ [sampleStart, sampleApp], (app.meter strangeRemoval 0).1 = .ok () :=
    fun app happ => by rw [meter_of_unlimited (hunlimited app happ)]
  have hstranger :
      ¬ ShowsToken sampleStart.authority sampleOccasion.unix strangeRemoval.headers := by
    rintro ⟨token, claims, id, htext, -⟩
    have htext' : Headers.text? strangeRemoval.headers "authorization" =
      some "Basic YW5uOnNlY3JldA==" := by decide +kernel
    have hscheme : "Basic YW5uOnNlY3JldA==".toList.take 7 = "Bearer ".toList := by
      rw [Option.some.inj (htext'.symm.trans htext), String.toList_append]
      exact List.take_left' (by decide)
    exact absurd hscheme (by decide)
  exact ⟨⟨hsettings, hroute, ⟨rfl, by decide +kernel⟩, hmeter, hstranger⟩,
    stranger_learns_nothing hsettings hroute (fun _ h => nomatch h) rfl
      (hmeter _ (by simp)) (hmeter _ (by simp)) hstranger⟩

end Microblog.Service
