import Microblog.Proofs.Service.Accounts
import Microblog.Proofs.Service.Refusals

/-!
# How failures are answered

What a handler refuses is explained: the reply is JSON, an object with the one
member `error`, whose value is a text. What fails before a handler has its
arguments is not: a path without a route and a method that the route does not
serve are answered with a status alone, and a part of the path that is not UTF-8
with plain text. There is no other failure without an explanation
(`explains_iff`).
-/

namespace Microblog.Service

open Account Content Http Store

variable {app : App} {req : Request} {o : Occasion} {u : User} {route : Route} {r : Reply}
  {raw : String} {f : Refusal}

/-- The reply is JSON with a text under `error` and nothing else. -/
def Explains (r : Reply) : Prop :=
  r.header? "content-type" = some "application/json" ∧
    ∃ m, r.body = .json (.object [("error", .string m)])

/-- The failures before a handler has its arguments, each with its status. -/
inductive Overlooked (req : Request) : Nat → Prop
  | lost (lies : Route.ofPath? req.path = none) : Overlooked req 404
  | notServed {route : Route} (lies : Route.ofPath? req.path = some route)
    (serves : route.serves req.method = false) : Overlooked req 405
  | illegible {route : Route} {raw : String} (lies : Route.ofPath? req.path = some route)
    (part : raw ∈ route.segments) (text : Percent.segment? raw = none) : Overlooked req 400

/-! ## Refusals -/

theorem explains_reply (f : Refusal) : Explains f.reply := ⟨rfl, f.message, rfl⟩

theorem le_status (f : Refusal) : 400 ≤ f.status := by
  cases f <;> simp [Refusal.status]

theorem not_succeeds_reply (f : Refusal) : ¬ Succeeds f.reply := by
  intro hok
  have hle := le_status f
  have hlt := hok.2
  rw [status_reply] at hlt
  omega

theorem succeeds_finish {method : String} {origins : Origins} {at' : Option Route} :
    Succeeds (App.finish at' method (r.withOrigins origins)) ↔ Succeeds r := by
  rw [Succeeds, status_finish]
  exact Iff.rfl

theorem orReply_eq_error_iff {α : Type} {e : Except Refusal α} :
    orReply e = .error r ↔ ∃ f, e = .error f ∧ f.reply = r := mapError_eq_error_iff

theorem pathText_eq_error_iff {name : String} :
    pathText name raw = .error r ↔ Percent.segment? raw = none ∧
      r = .text 400 ("Invalid URL: Invalid UTF-8 in \x60" ++ name ++ "\x60") := by
  unfold pathText
  cases Percent.segment? raw <;> simp [eq_comm]

/-! ## Plans -/

/-- All parts of the path are UTF-8. -/
def Route.Legible (route : Route) : Prop := ∀ raw ∈ route.segments, Percent.segment? raw ≠ none

instance (route : Route) : Decidable route.Legible :=
  inferInstanceAs (Decidable (∀ raw ∈ route.segments, Percent.segment? raw ≠ none))

theorem serves_eq_false_iff {method : String} :
    route.serves method = false ↔ ∀ v ∈ route.verbs, Verb.ofMethod? method ≠ some v := by
  unfold Route.serves
  cases Verb.ofMethod? method with
  | none => simp
  | some v => simpa using ⟨fun h w hw hv => h (hv ▸ hw), fun h hv => h v hv rfl⟩

/-- The replies to requests on a route that come to no task. -/
inductive Rejected (req : Request) (route : Route) : Reply → Prop
  | refused (f : Refusal) (legible : f.status = 400 → route.Legible) : Rejected req route f.reply
  | notServed (serves : route.serves req.method = false) : Rejected req route (.bare 405)
  | illegible {raw : String} (name : String) (part : raw ∈ route.segments)
    (text : Percent.segment? raw = none) :
    Rejected req route (.text 400 ("Invalid URL: Invalid UTF-8 in \x60" ++ name ++ "\x60"))

/-- What planning comes to: a reply, and if not to a failure then to a reading, or a task. -/
inductive Plans (req : Request) (route : Route) : Except Reply Task → Prop
  | rejected {r : Reply} (h : Rejected req route r) : Plans req route (.error r)
  | answered (v : Json.Value) : Plans req route (.ok (.answer (.json 200 v)))
  | task {t : Task} (h : ∀ r, t ≠ .answer r) : Plans req route (.ok t)

/-- On a legible route a handler gives a task, or a refusal. -/
theorem plans_orReply {e : Except Refusal Task} (hlegible : route.Legible)
    (h : ∀ t, e = .ok t → ∀ r, t ≠ .answer r) : Plans req route (orReply e) := by
  cases e with
  | error f => exact .rejected (.refused f fun _ => hlegible)
  | ok t => exact .task (h t rfl)

theorem segment?_of_pathParam {entity : String} {id : Int64} (h : pathParam entity raw = .ok id) :
    Percent.segment? raw ≠ none := by
  obtain ⟨text, htext, -⟩ := pathParam_eq_ok_iff.1 h
  simp [htext]

theorem rejected_pathParam {entity : String} (hpart : raw ∈ route.segments)
    (hlegible : Percent.segment? raw ≠ none → route.Legible) (h : pathParam entity raw = .error r) :
    Rejected req route r := by
  rcases bind_eq_error_iff.1 h with h | ⟨text, htext, h⟩
  · obtain ⟨htext, rfl⟩ := pathText_eq_error_iff.1 h
    exact .illegible "id" hpart htext
  · obtain ⟨f, -, rfl⟩ := orReply_eq_error_iff.1 h
    refine .refused f fun _ => hlegible ?_
    simp [pathText_eq_ok_iff.1 htext]

/-- A handler whose argument is an id gives a task, or the id is refused. -/
theorem plans_pathParam {entity : String} {task : Int64 → Task} (hpart : raw ∈ route.segments)
    (hlegible : Percent.segment? raw ≠ none → route.Legible) (h : ∀ id r, task id ≠ .answer r) :
    Plans req route ((pathParam entity raw).map task) := by
  cases hid : pathParam entity raw with
  | ok id => exact .task (h id)
  | error r => exact .rejected (rejected_pathParam hpart hlegible hid)

theorem plans_front (page : FrontPage) (req : Request) (o : Occasion) (app : App) :
    Plans req (.front page) (app.planFront page (Verb.ofMethod? req.method) req o) := by
  unfold App.planFront
  split
  case h_1 => exact .answered _
  case h_2 =>
    cases app.demandOperator req.headers with
    | error f => exact .rejected (.refused f fun _ => by decide)
    | ok => exact .answered _
  case h_3 =>
    refine plans_orReply (by decide) fun t ht r => ?_
    obtain ⟨_, -, -, rfl⟩ := planRegistration_eq_ok_iff.1 ht
    simp
  case h_4 =>
    refine plans_orReply (by decide) fun t ht r => ?_
    rcases planToken_cases ht with rfl | ⟨id, rfl⟩ <;> simp
  case h_5 raw _ =>
    cases htoken : pathText "token" raw with
    | ok token => exact .task (by simp)
    | error r =>
      obtain ⟨htext, rfl⟩ := pathText_eq_error_iff.1 htoken
      exact .rejected (.illegible "token" (by simp [Route.segments]) htext)
  case h_6 page _ _ _ _ _ _ _ =>
    refine .rejected (.notServed (serves_eq_false_iff.2 ?_))
    cases page <;> simp_all [Route.verbs]

theorem legible_user {last : List String} (hlast : ∀ w ∈ last, Percent.segment? w ≠ none)
    (hsegments : route.segments = "users" :: raw :: last) (hraw : Percent.segment? raw ≠ none) :
    route.Legible := by
  have husers : Percent.segment? "users" ≠ none := by decide
  simpa [Route.Legible, hsegments, husers, hraw] using hlast

theorem plans_member (u : User) (page : MemberPage) (req : Request) (app : App) :
    Plans req (.member page) (app.planMember u page (Verb.ofMethod? req.method) req) := by
  unfold App.planMember
  split
  case h_1 =>
    refine plans_orReply (by decide) fun t ht r => ?_
    simp only [bind_eq_ok_iff] at ht
    obtain ⟨d, -, ⟨⟩, -, ht⟩ := ht
    cases ht
    simp
  case h_2 =>
    unfold App.planFeed
    split
    · exact .rejected (.refused _ fun _ => by decide)
    · exact .answered _
  case h_3 | h_4 | h_5 =>
    exact plans_pathParam (by simp [Route.segments]) (legible_user (by decide) rfl) (by simp)
  case h_6 page _ _ _ _ _ _ _ =>
    refine .rejected (.notServed (serves_eq_false_iff.2 ?_))
    cases page <;> simp_all [Route.verbs]

theorem plans_post (u : User) {p : Post} (page : PostPage) (req : Request) (app : App)
    (hlegible : (Route.post raw page).Legible) :
    Plans req (.post raw page) (app.planPost u p page (Verb.ofMethod? req.method) req) := by
  unfold App.planPost
  split
  case h_1 | h_4 => exact .answered _
  case h_2 =>
    refine plans_orReply hlegible fun t ht r => ?_
    simp only [bind_eq_ok_iff] at ht
    obtain ⟨⟨⟩, -, patch, -, ⟨⟩, -, ht⟩ := ht
    cases ht
    simp
  case h_3 =>
    refine plans_orReply hlegible fun t ht r => ?_
    obtain ⟨⟨⟩, -, ht⟩ := bind_eq_ok_iff.1 ht
    cases ht
    simp
  case h_5 =>
    refine plans_orReply hlegible fun t ht r => ?_
    simp only [bind_eq_ok_iff] at ht
    obtain ⟨d, -, ⟨⟩, -, ht⟩ := ht
    cases ht
    simp
  case h_6 page _ _ _ _ _ _ _ =>
    refine .rejected (.notServed (serves_eq_false_iff.2 ?_))
    cases page <;> simp_all [Route.verbs]

theorem plans_comment (u : User) {c : Comment} (req : Request) (app : App)
    (hlegible : (Route.comment raw).Legible) :
    Plans req (.comment raw) (app.planComment u c (Verb.ofMethod? req.method) req) := by
  unfold App.planComment
  split
  case h_1 =>
    refine plans_orReply hlegible fun t ht r => ?_
    simp only [bind_eq_ok_iff] at ht
    obtain ⟨⟨⟩, -, d, -, ⟨⟩, -, ht⟩ := ht
    cases ht
    simp
  case h_2 =>
    refine plans_orReply hlegible fun t ht r => ?_
    obtain ⟨⟨⟩, -, ht⟩ := bind_eq_ok_iff.1 ht
    cases ht
    simp
  case h_3 =>
    refine .rejected (.notServed (serves_eq_false_iff.2 ?_))
    simp_all [Route.verbs]

theorem legible_post (page : PostPage) (hraw : Percent.segment? raw ≠ none) :
    (Route.post raw page).Legible := by
  have hposts : Percent.segment? "posts" ≠ none := by decide
  have hcomments : Percent.segment? "comments" ≠ none := by decide
  cases page <;> simp [Route.Legible, Route.segments, hposts, hcomments, hraw]

theorem legible_comment (hraw : Percent.segment? raw ≠ none) : (Route.comment raw).Legible := by
  have hcomments : Percent.segment? "comments" ≠ none := by decide
  simp [Route.Legible, Route.segments, hcomments, hraw]

/-- The record that a part of the path names is not found. -/
theorem rejected_find {α : Type} {entity : String} {find : Int64 → Except Refusal α}
    (hpart : raw ∈ route.segments) (hlegible : Percent.segment? raw ≠ none → route.Legible)
    (h : (pathParam entity raw >>= fun id => orReply (find id)) = .error r) :
    Rejected req route r := by
  rcases bind_eq_error_iff.1 h with hid | ⟨id, hid, hfind⟩
  · exact rejected_pathParam hpart hlegible hid
  · obtain ⟨f, -, rfl⟩ := orReply_eq_error_iff.1 hfind
    exact .refused f fun _ => hlegible (segment?_of_pathParam hid)

theorem plans_for (u : User) (route : Route) (req : Request) (o : Occasion) (app : App) :
    Plans req route (app.planFor u route (Verb.ofMethod? req.method) req o) := by
  cases route with
  | front page => exact plans_front page req o app
  | member page => exact plans_member u page req app
  | post raw page =>
    cases hfind : app.findPost raw with
    | error r =>
      rw [App.planFor, hfind]
      exact .rejected (rejected_find (by cases page <;> simp [Route.segments])
        (legible_post page) hfind)
    | ok p =>
      obtain ⟨id, hid, -⟩ := findPost_eq_ok_iff.1 hfind
      rw [App.planFor, hfind]
      exact plans_post u page req app (legible_post page (segment?_of_pathParam hid))
  | comment raw =>
    cases hfind : app.findComment raw with
    | error r =>
      rw [App.planFor, hfind]
      exact .rejected (rejected_find (by simp [Route.segments]) legible_comment hfind)
    | ok c =>
      obtain ⟨id, hid, -⟩ := findComment_eq_ok_iff.1 hfind
      rw [App.planFor, hfind]
      exact plans_comment u req app (legible_comment (segment?_of_pathParam hid))

theorem authenticate_error {headers : Headers} (h : (app.authenticate headers o).1 = .error f) :
    f = .unauthorized := by
  unfold App.authenticate at h
  split at h
  · cases h
    rfl
  · split at h <;> cases h
    rfl

/-- **Plans.** Whatever the request, its plan is a reply to a failure, a reading or a task. -/
theorem plans_plan (route : Route) (req : Request) (o : Occasion) (app : App) :
    Plans req route (app.plan route req o).1 := by
  by_cases hroute : ∃ page, route = .front page
  · obtain ⟨page, rfl⟩ := hroute
    exact plans_front page req o app
  rw [plan_member fun page hpage => hroute ⟨page, hpage⟩]
  cases hauth : (app.authenticate req.headers o).1 with
  | error f =>
    rw [authenticate_error hauth]
    exact .rejected (.refused .unauthorized (by simp [Refusal.status]))
  | ok u => exact plans_for u route req o _

/-! ## Tasks -/

theorem ofFailure_status (f : Failure) : (Refusal.ofFailure f).status ≠ 400 := by
  cases f <;> simp [Refusal.ofFailure, Refusal.status]

theorem succeeds_json {n : Nat} (v : Json.Value) (hle : 200 ≤ n) (hlt : n < 300) :
    Succeeds (.json n v) := ⟨hle, hlt⟩

/-- A task that is not done is refused, and not for what the request says. -/
def Settles (r : Reply) : Prop := Succeeds r ∨ ∃ f : Refusal, r = f.reply ∧ f.status ≠ 400

theorem settles_of_settle {α : Type} {x : Except Stop α × Store} {reply : α → Reply}
    (h : (app.settle x reply).1 = some r) (hok : ∀ a, Succeeds (reply a)) : Settles r := by
  rcases settle_reply h with ⟨a, -, rfl⟩ | ⟨f, -, rfl⟩
  · exact .inl (hok a)
  · exact .inr ⟨_, rfl, ofFailure_status f⟩

theorem settles_register {v : NewUser} (h : (app.register v o).1 = some r) : Settles r := by
  unfold App.register at h
  split at h
  · cases h
  · cases h
    exact .inr ⟨_, rfl, ofFailure_status _⟩
  · split at h
    · cases h
      exact .inl (succeeds_json _ (by omega) (by omega))
    · cases h
      exact .inr ⟨.internal, rfl, by simp [Refusal.status]⟩

theorem settles_issueToken {id : Int64} (h : app.issueToken id o = some r) : Settles r := by
  obtain ⟨claims, -, hr⟩ := Option.map_eq_some_iff.1 h
  split at hr
  · subst hr
    exact .inl (succeeds_json _ (by omega) (by omega))
  · rename_i f _
    refine .inr ⟨_, hr.symm, ?_⟩
    cases f <;> simp [Refusal.ofTokenFault, Refusal.status]

theorem settles_showUser {id : Int64} (h : (app.perform (.showUser id) o).1 = some r) :
    Settles r := by
  cases hread : app.resolve id o.instant with
  | mk outcome app' =>
    rw [App.perform, hread] at h
    cases outcome with
    | ok u =>
      cases h
      exact .inl (succeeds_json _ (by omega) (by omega))
    | error f =>
      cases h
      refine .inr ⟨_, rfl, ?_⟩
      cases f with
      | store f => exact ofFailure_status f
      | cache f => simp [Cache.ResolveFault.refusal, Refusal.status]

theorem settles_perform {t : Task} (ht : ∀ r, t ≠ .answer r) (h : (app.perform t o).1 = some r) :
    Settles r := by
  have hbare : Succeeds (.bare 204) := by decide
  cases t with
  | answer r => exact absurd rfl (ht r)
  | overflow => cases h
  | register v => exact settles_register h
  | issueToken id => exact settles_issueToken h
  | showUser id => exact settles_showUser h
  | activate token => exact settles_of_settle h fun _ => hbare
  | follow a b => exact settles_of_settle h fun _ => hbare
  | createPost d => exact settles_of_settle h fun _ => succeeds_json _ (by omega) (by omega)
  | updatePost p => exact settles_of_settle h fun _ => succeeds_json _ (by omega) (by omega)
  | createComment d => exact settles_of_settle h fun _ => succeeds_json _ (by omega) (by omega)
  | updateComment c => exact settles_of_settle h fun _ => succeeds_json _ (by omega) (by omega)
  | deletePost id | deleteComment id | unfollow a b =>
    cases h
    exact .inl hbare

/-! ## Requests -/

/-- A request that is served is rejected, or answered with success. -/
theorem serve_reply (h : (app.serve route req o).1 = some r) :
    Rejected req route r ∨ Succeeds r := by
  have hplans := plans_plan route req o app
  cases hplan : app.plan route req o with
  | mk planned app' =>
    rw [hplan] at hplans
    rw [App.serve, hplan] at h
    cases hplans with
    | rejected hrejected =>
      cases h
      exact .inl hrejected
    | answered v =>
      cases h
      exact .inr (succeeds_json v (by omega) (by omega))
    | task ht =>
      rcases settles_perform ht h with hsucceeds | ⟨f, rfl, hf⟩
      · exact .inr hsucceeds
      · exact .inl (.refused f fun h400 => absurd h400 hf)

/-- A reply, before it goes out: that of the limiter or of a path without a route, or the one that
the request on its route has come to. -/
inductive Answer (req : Request) : Reply → Prop
  | limited (secs : Nat) : Answer req (Refusal.rateLimited secs).reply
  | lost (lies : Route.ofPath? req.path = none) : Answer req (.bare 404)
  | rejected {route : Route} {r : Reply} (lies : Route.ofPath? req.path = some route)
    (h : Rejected req route r) : Answer req r
  | success {r : Reply} (h : Succeeds r) : Answer req r

theorem answer_of_admitted (h : (app.admitted (Route.ofPath? req.path) req o).1 = some r) :
    Answer req r := by
  rcases admitted_cases h with ⟨secs, rfl⟩ | ⟨hlost, rfl⟩ | ⟨route, lies, -, hserve⟩
  · exact .limited secs
  · exact .lost hlost
  · exact (serve_reply hserve).elim (.rejected lies) .success

/-- The way out only adds headers, but for HEAD. -/
theorem headers_finish {method : String} (route : Option Route) (origins : Origins)
    (hmethod : method ≠ "HEAD") (r : Reply) :
    ∃ added, (App.finish route method (r.withOrigins origins)).headers = r.headers ++ added := by
  unfold App.finish Reply.withOrigins
  cases route with
  | none => exact ⟨_, List.append_assoc ..⟩
  | some route =>
    simp only [hmethod, if_false]
    split
    · exact ⟨_, List.append_assoc ..⟩
    · simp only [Reply.withHeader, List.append_assoc]
      exact ⟨_, rfl⟩

theorem Explains.finish {method : String} (h : Explains r) (route : Option Route)
    (origins : Origins) (hmethod : method ≠ "HEAD") :
    Explains (App.finish route method (r.withOrigins origins)) := by
  obtain ⟨added, hadded⟩ := headers_finish route origins hmethod r
  obtain ⟨htype, m, hm⟩ := h
  refine ⟨?_, m, by rw [body_finish hmethod]; exact hm⟩
  rw [Reply.header?, hadded, List.lookup_append, show r.headers.lookup _ = _ from htype]
  rfl

theorem not_explains_finish {method : String} (hbody : ∀ v, r.body ≠ .json v)
    (route : Option Route) (origins : Origins) (hmethod : method ≠ "HEAD") :
    ¬ Explains (App.finish route method (r.withOrigins origins)) := by
  rintro ⟨-, m, hm⟩
  rw [body_finish hmethod] at hm
  exact hbody _ hm

/-- A refusal on a route is not one of the failures before it. -/
theorem not_overlooked (lies : Route.ofPath? req.path = some route)
    (legible : f.status = 400 → route.Legible) : ¬ Overlooked req f.status := by
  intro h
  generalize hstatus : f.status = n at h
  cases h with
  | lost hlost =>
    rw [lies] at hlost
    cases hlost
  | notServed => cases f <;> simp [Refusal.status] at hstatus
  | illegible hlies part text =>
    rw [lies] at hlies
    cases hlies
    exact legible hstatus _ part text

/-- **Failures.** A reply to a failure is JSON with a text under `error` and nothing else, unless
the request lies on no route, its route does not serve its method, or a part of its path is not
UTF-8. -/
theorem explains_iff (h : (app.respond req o).1 = some r) (hmethod : req.method ≠ "HEAD")
    (hfails : 400 ≤ r.status) : Explains r ↔ ¬ Overlooked req r.status := by
  by_cases hoptions : req.method = "OPTIONS"
  · simp only [App.respond, hoptions, if_true, Option.some.injEq] at h
    rw [← h, status_finish] at hfails
    simp [Reply.preflight] at hfails
  simp only [App.respond, hoptions, if_false] at h
  obtain ⟨r', hr', rfl⟩ := Option.map_eq_some_iff.1 h
  rw [status_finish] at hfails ⊢
  cases answer_of_admitted hr' with
  | limited secs =>
    exact iff_of_true ((explains_reply _).finish _ _ hmethod) fun hoverlooked => by
      cases hoverlooked
  | lost lies =>
    refine iff_of_false (not_explains_finish ?_ _ _ hmethod) (not_not_intro (.lost lies))
    simp [Reply.bare]
  | success hsucceeds =>
    change 400 ≤ r'.status at hfails
    have hlt := hsucceeds.2
    omega
  | rejected lies hrejected =>
    cases hrejected with
    | refused f legible =>
      exact iff_of_true ((explains_reply f).finish _ _ hmethod) (not_overlooked lies legible)
    | notServed serves =>
      refine iff_of_false (not_explains_finish ?_ _ _ hmethod)
        (not_not_intro (.notServed lies serves))
      simp [Reply.bare]
    | illegible name part text =>
      refine iff_of_false (not_explains_finish ?_ _ _ hmethod)
        (not_not_intro (.illegible lies part text))
      simp [Reply.text]

/-- Without a token nobody removes a post, and the reply says so. -/
theorem explains_unsigned : ∃ r,
    (sampleApp.respond { sampleRemoval with headers := [] } sampleOccasion).1 = some r ∧
      r.status = 401 ∧
      (Explains r ↔ ¬ Overlooked { sampleRemoval with headers := [] } r.status) := by
  have hstatus : (sampleApp.respond { sampleRemoval with headers := [] } sampleOccasion).1.map
      Reply.status = some 401 := by decide +kernel
  obtain ⟨r, hr, h401⟩ := Option.map_eq_some_iff.1 hstatus
  exact ⟨r, hr, h401, explains_iff hr (by decide) (by omega)⟩

/-- Somebody asks for a page that there is not. -/
def lostRequest : Request := ⟨"GET", "/v1/nope", none, [], none, []⟩

/-- The reply to the one who is lost has no body. -/
theorem lostRequest_unexplained : sampleStart.Reachable ∧ lostRequest.method ≠ "HEAD" ∧ ∃ r,
    (sampleStart.respond lostRequest sampleOccasion).1 = some r ∧ r.status = 404 ∧
      r.body = .empty ∧ ¬ Explains r := by
  have hreply : (sampleStart.respond lostRequest sampleOccasion).1 =
      some ((Reply.bare 404).withOrigins .any) := rfl
  refine ⟨reachable_after_sampleStart [], by decide, _, hreply, rfl, rfl, ?_⟩
  rintro ⟨-, m, hm⟩
  cases hm

end Microblog.Service
