import Microblog.Proofs.Service.Changes
import Microblog.Proofs.Store.Discussions

/-!
# The comments that are shown

The page of a post and the page of its comments show what the store lists
(`showsComments`). So all that a member learns of the comments on a post agrees:
its two pages and the number in every row of a feed (`discussions_agree`).
-/

namespace Microblog.Service

open Account Content Http Store

variable {app : App} {req : Request} {o : Occasion} {r : Reply} {t : Task} {raw : String}
  {page : PostPage} {s : Store} {u : User} {p : Post}

/-! ## The pages of a post -/

/-- The comments on a post, as a reply holds them. -/
def commentList (s : Store) (id : Int64) : Json.Value :=
  .array ((s.listComments id).map Json.encode)

/-- What a page of a post shows. -/
def postView (s : Store) (p : Post) : PostPage → Json.Value
  | .itself => (Json.encode p).append [("comments", commentList s p.id)]
  | .comments => commentList s p.id

theorem planPost_get (app : App) (u : User) (p : Post) (page : PostPage) (req : Request) :
    app.planPost u p page (some .get) req =
      .ok (.answer (.json 200 (postView app.store p page))) := by
  cases page <;> rfl

/-- To read a page of a post comes to a reply that shows the stored post. -/
theorem plan_get_post (hverb : Verb.ofMethod? req.method = some .get)
    (h : (app.plan (.post raw page) req o).1 = .ok t) :
    ∃ id p, pathParam "post" raw = .ok id ∧ app.store.posts.get? id = some p ∧
      t = .answer (.json 200 (postView app.store p page)) := by
  rw [plan_member (by simp), hverb] at h
  obtain ⟨c, n, hn⟩ := authenticate_eq req.headers o app
  rw [hn] at h
  cases hauth : (app.authenticate req.headers o).1 with
  | error f => simp [hauth] at h
  | ok u =>
    simp only [hauth] at h
    obtain ⟨p, hp, h⟩ := bind_eq_ok_iff.1 h
    obtain ⟨id, hid, hp⟩ := findPost_eq_ok_iff.1 hp
    rw [planPost_get] at h
    cases h
    exact ⟨id, p, hid, hp, rfl⟩

/-- The reply with success to a request to read a page of a post. -/
theorem body_of_get_post (hmethod : req.method = "GET")
    (hroute : Route.ofPath? req.path = some (.post raw page))
    (hr : (app.respond req o).1 = some r) (hok : Succeeds r) :
    ∃ id p, pathParam "post" raw = .ok id ∧ app.store.posts.get? id = some p ∧
      r.body = .json (postView app.store p page) := by
  have hverb : Verb.ofMethod? req.method = some .get := by
    rw [hmethod]
    rfl
  have hoptions : req.method ≠ "OPTIONS" := by simp [hmethod]
  obtain ⟨route, t, app', ht⟩ := undertakes_of_succeeds hoptions hr hok
  obtain rfl := Option.some.inj (ht.lies.symm.trans hroute)
  obtain ⟨l, hl⟩ := meter_eq req o.instant app
  have hplan := congrArg Prod.fst ht.plan
  rw [hl] at hplan
  obtain ⟨id, p, hid, hp, rfl⟩ := plan_get_post hverb hplan
  rw [ht.respond_eq] at hr
  cases hr
  exact ⟨id, p, hid, hp, body_finish (by simp [hmethod]) _⟩

theorem serve_get_post {id : Int64} (hverb : Verb.ofMethod? req.method = some .get)
    (hu : SentBy app req o u) (hid : pathParam "post" raw = .ok id)
    (hp : app.store.posts.get? id = some p) :
    (app.serve (.post raw page) req o).1 = some (.json 200 (postView app.store p page)) := by
  obtain ⟨c, n, hn⟩ := authenticate_eq req.headers o app
  have hplan : (app.authenticate req.headers o).2.planFor u (.post raw page) (some .get) req o =
      .ok (.answer (.json 200 (postView app.store p page))) := by
    have hfind : (app.authenticate req.headers o).2.findPost raw = .ok p :=
      findPost_eq_ok_iff.2 ⟨id, hid, by rw [hn]; exact hp⟩
    rw [App.planFor, hfind, hn]
    exact planPost_get _ u p page req
  rw [App.serve, plan_member (by simp), authenticate_eq_ok_iff.2 hu, hverb]
  simp only [hplan, App.perform]

/-- A member who asks for a page of a stored post is shown it. -/
theorem respond_get_post {id : Int64} (hmethod : req.method = "GET")
    (hmeter : (app.meter req o.instant).1 = .ok ()) (hu : SentBy app req o u)
    (hroute : Route.ofPath? req.path = some (.post raw page)) (hid : pathParam "post" raw = .ok id)
    (hp : app.store.posts.get? id = some p) :
    ∃ r, (app.respond req o).1 = some r ∧ r.status = 200 ∧
      r.body = .json (postView app.store p page) := by
  have hverb : Verb.ofMethod? req.method = some .get := by
    rw [hmethod]
    rfl
  obtain ⟨l, hl⟩ := meter_eq req o.instant app
  have hmetered : SentBy { app with limiter := l } req o u := hu
  have hserve : (App.serve (.post raw page) req o { app with limiter := l }).1 =
      some (.json 200 (postView app.store p page)) := serve_get_post hverb hmetered hid hp
  rw [respond_of_metered (by simp [hmethod]) hmeter hroute, hl]
  refine ⟨_, congrArg (Option.map _) hserve, ?_, ?_⟩
  · exact status_finish _ _ _
  · exact body_finish (by simp [hmethod]) _

/-- The path is that of the page on a post. -/
def OnPost (path : String) (id : Int64) : PostPage → Prop
  | .itself => Names path "posts" id
  | .comments => NamesPage path "posts" id "comments"

theorem onPost_iff {path : String} {id : Int64} : OnPost path id page ↔
    ∃ raw, Route.ofPath? path = some (.post raw page) ∧ pathParam "post" raw = .ok id := by
  cases page with
  | itself => exact names_posts_iff
  | comments => exact namesPage_comments_iff

/-- The pages of posts show the comments that the store lists. -/
structure ShowsComments (s : Store) : Prop where
  /-- Members are shown the pages of stored posts. -/
  shown : ∀ (app : App) (req : Request) (o : Occasion) (u : User) (id : Int64) (p : Post)
    (page : PostPage), app.store = s → req.method = "GET" →
      (app.meter req o.instant).1 = .ok () → SentBy app req o u → OnPost req.path id page →
      s.posts.get? id = some p →
      ∃ r, (app.respond req o).1 = some r ∧ r.status = 200 ∧ r.body = .json (postView s p page)
  /-- Nothing else is shown on them. -/
  only : ∀ (app : App) (req : Request) (o : Occasion) (r : Reply) (id : Int64) (page : PostPage),
    app.store = s → req.method = "GET" → (app.respond req o).1 = some r → Succeeds r →
      OnPost req.path id page →
      ∃ p, s.posts.get? id = some p ∧ p.id = id ∧ r.body = .json (postView s p page)

theorem showsComments (hown : ∀ id p, s.posts.get? id = some p → p.id = id) :
    ShowsComments s := by
  constructor
  · rintro app req o u id p page rfl hmethod hmeter hu hpage hp
    obtain ⟨raw, hroute, hid⟩ := onPost_iff.1 hpage
    exact respond_get_post hmethod hmeter hu hroute hid hp
  · rintro app req o r id page rfl hmethod hr hok hpage
    obtain ⟨raw, hroute, hid⟩ := onPost_iff.1 hpage
    obtain ⟨id', p, hid', hp, hbody⟩ := body_of_get_post hmethod hroute hr hok
    cases hid.symm.trans hid'
    exact ⟨p, hp, hown id p hp, hbody⟩

/-! ## Agreement -/

/-- **Comments.** Whatever has happened to the store, and in whatever order its tables are, the
lists hold what has been created and not deleted, newest first, the feeds count what is listed, and
the pages show it. -/
theorem discussions_agree (cs : List Call) (s : Store) (h : Reordered (run cs initial) s) :
    Discussions cs s ∧ ShowsComments s := by
  refine ⟨discussions_of_run h, showsComments fun id p hp => ?_⟩
  rw [Table.get?_of_perm h.posts] at hp
  exact ((Numbered.initial.run cs).posts id p hp).1

/-- Of three comments one is edited and one is deleted. -/
def discussedCalls : List Call := [
  .insertUser ⟨"ann", "ann@example.com", ⟨""⟩⟩ "user" true,
  .createPost ⟨101, "first", "draft", []⟩,
  .createComment ⟨102, 101, "one"⟩,
  .createComment ⟨102, 101, "two"⟩,
  .createComment ⟨102, 101, "three"⟩,
  .updateComment ⟨103, 102, 101, "one, edited", .epoch, ""⟩,
  .deleteComment 104]

/-- The store after these calls, with its table of comments in the other order. -/
def discussedStore : Store :=
  let s := run discussedCalls initial
  { s with comments := ⟨s.comments.entries.reverse, by decide⟩ }

def discussedApp : App := { sampleStart with store := discussedStore }

/-- The author asks for the comments. -/
def sampleReading : Request :=
  { sampleRemoval with method := "GET", path := "/v1/posts/102/comments" }

/-- The two that remain are listed and shown, the last one first. -/
theorem discussions_agree_discussedStore :
    Reordered (run discussedCalls initial) discussedStore ∧
      (discussedStore.listComments 102).map (·.content) = ["three", "one, edited"] ∧
      ∃ r, (discussedApp.respond sampleReading sampleOccasion).1 = some r ∧ r.status = 200 ∧
        ∃ p, discussedStore.posts.get? 102 = some p ∧
          r.body = .json (postView discussedStore p .comments) := by
  have hreordered : Reordered (run discussedCalls initial) discussedStore :=
    ⟨.rfl, .rfl, List.reverse_perm _, .rfl⟩
  obtain ⟨hlists, hshows⟩ := discussions_agree _ _ hreordered
  refine ⟨hreordered, ?_, ?_⟩
  · have hperm := (listComments_perm discussedStore 102).trans (List.reverse_perm _).symm
    rw [eq_of_pairwise_newer hperm (hlists.newestFirst 102) (by decide)]
    decide
  · have hauthority : discussedApp.authority = sampleStart.authority := rfl
    have hbearer := (bearer?_congr hauthority rfl _).trans bearer?_sampleRemoval
    obtain ⟨token, claims, hsent⟩ := bearer?_eq_some_iff.1 hbearer
    obtain ⟨u, hu⟩ := Option.isSome_iff_exists.1
      (by decide : (discussedApp.resolve 101 sampleOccasion.instant).1.toOption.isSome)
    obtain ⟨p, hp⟩ := Option.isSome_iff_exists.1
      (by decide : (discussedStore.posts.get? 102).isSome)
    have hsent : SentBy discussedApp sampleReading sampleOccasion u :=
      ⟨token, claims, 101, hsent.1, hsent.2.1, hsent.2.2, toOption_eq_some_iff.1 hu⟩
    have hmeter : (discussedApp.meter sampleReading sampleOccasion.instant).1 = .ok () := by
      rw [meter_of_unlimited rfl]
    have hpage : OnPost sampleReading.path 102 .comments :=
      ⟨"102", "102", by decide, by decide, by decide, by decide⟩
    obtain ⟨r, hr, hstatus, hbody⟩ :=
      hshows.shown _ _ _ u 102 p .comments rfl rfl hmeter hsent hpage hp
    exact ⟨r, hr, hstatus, p, hp, hbody⟩

end Microblog.Service
