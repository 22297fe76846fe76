import Microblog.Proofs.Service.Paths
import Microblog.Proofs.Store.Calls
import Microblog.Service.Task

/-!
# How tasks come about

A task of a member's request is one of those that `Planned` lists, each with all
that was checked before it. A task of anybody's request is an open one: it
touches no post and no comment.
-/

namespace Microblog.Service

open Account Content Http

variable {s : Store} {u : User} {owner : Int64} {required : String}

/-! ## Access -/

/-- The user is the owner, or has a role as high as the stored one that is required. -/
def Commands (s : Store) (u : User) (owner : Int64) (required : String) : Prop :=
  u.id = owner ∨ ∃ role, s.role? required = some role ∧ role.level ≤ u.role.level

theorem commands_of_demand (h : Access.demand s u owner required = .ok ()) :
    Commands s u owner required := by
  unfold Access.demand Access.check Store.getRole at h
  by_cases howner : u.id = owner
  · exact .inl howner
  cases hdown : s.rolesDown with
  | true => simp [howner, hdown] at h
  | false =>
    cases hrole : s.role? required with
    | none => simp [howner, hdown, hrole] at h
    | some role =>
      by_cases hlevel : role.level ≤ u.role.level
      · exact .inr ⟨role, hrole, hlevel⟩
      · simp [howner, hdown, hrole, hlevel] at h

/-- Whoever commands is refused only while roles cannot be read, and not as the owner. -/
theorem demand_of_commands (h : Commands s u owner required) :
    Access.demand s u owner required = .ok () ∨
      (Access.demand s u owner required = .error .internal ∧ s.rolesDown = true ∧
        u.id ≠ owner) := by
  unfold Access.demand Access.check Store.getRole
  by_cases howner : u.id = owner
  · exact .inl (by simp [howner])
  obtain ⟨role, hrole, hlevel⟩ := h.resolve_left howner
  cases hdown : s.rolesDown with
  | true => exact .inr (by simp [howner])
  | false => exact .inl (by simp [howner, hrole, hlevel])

/-! ## Callers -/

variable {app app' : App} {headers : Headers} {req : Request} {o : Occasion}

/-- The bearer token of a request is verified, and its subject is resolved to the user. -/
def SentBy (app : App) (req : Request) (o : Occasion) (u : User) : Prop :=
  ∃ token claims id, authorization req.headers "Bearer" = .ok token ∧
    app.authority.verify o.unix token = .ok claims ∧ claims.userId = .ok id ∧
    (app.resolve id o.instant).1 = .ok u

theorem bearer?_eq_some_iff {id : Int64} :
    app.bearer? headers o = some id ↔ ∃ token claims, authorization headers "Bearer" = .ok token ∧
      app.authority.verify o.unix token = .ok claims ∧ claims.userId = .ok id := by
  unfold App.bearer?
  cases authorization headers "Bearer" with
  | error f => simp
  | ok token =>
    cases hverify : app.authority.verify o.unix token with
    | error f => simp [hverify]
    | ok claims => simp [hverify, toOption_eq_some_iff]

/-- To resolve a user reads the store at most once. -/
theorem store_resolve (id : Int64) (instant : Int) (app : App) :
    (app.resolve id instant).2.store = app.store ∨
      (app.resolve id instant).2.store = Store.Call.run app.store (.getUser id) := by
  unfold App.resolve Cache.resolve Cache.resolveThrough
  cases hread : app.store.getUser id with
  | mk outcome s =>
    have hs : Store.Call.run app.store (.getUser id) = s := by simp [Store.Call.run, hread]
    cases app.cache with
    | none => cases outcome <;> exact .inr hs.symm
    | some c =>
      cases hget : Cache.UserCache.get id instant c with
      | mk found c =>
        rcases found with f | (_ | v)
        · exact .inl (by simp [hget])
        · refine .inr ?_
          cases outcome with
          | error f => simp [hget, hs]
          | ok v => cases hset : Cache.UserCache.set v instant c with
            | mk written c => cases written <;> simp [hget, hset, hs]
        · exact .inl (by simp [hget])

theorem store_authenticate (headers : Headers) (o : Occasion) (app : App) :
    (app.authenticate headers o).2.store = app.store ∨
      ∃ id, (app.authenticate headers o).2.store = Store.Call.run app.store (.getUser id) := by
  unfold App.authenticate
  cases app.bearer? headers o with
  | none => exact .inl rfl
  | some id =>
    have hstore := store_resolve id o.instant app
    cases hread : app.resolve id o.instant with
    | mk outcome app' =>
      rw [hread] at hstore
      cases outcome <;> simp only [hread] <;> exact hstore.imp_right fun h => ⟨id, h⟩

theorem authenticate_eq_ok_iff :
    (app.authenticate req.headers o).1 = .ok u ↔ SentBy app req o u := by
  have hiff : (app.authenticate req.headers o).1 = .ok u ↔
      ∃ id, app.bearer? req.headers o = some id ∧ (app.resolve id o.instant).1 = .ok u := by
    unfold App.authenticate
    cases app.bearer? req.headers o with
    | none => simp
    | some id =>
      cases hread : app.resolve id o.instant with
      | mk outcome app' => cases outcome <;> simp [hread]
  simp only [hiff, bearer?_eq_some_iff, SentBy]
  constructor
  · rintro ⟨id, ⟨token, claims, htoken, hverify, hid⟩, hu⟩
    exact ⟨token, claims, id, htoken, hverify, hid, hu⟩
  · rintro ⟨token, claims, id, htoken, hverify, hid, hu⟩
    exact ⟨id, ⟨token, claims, htoken, hverify, hid⟩, hu⟩

/-! ## Tasks of members -/

theorem mem_methods_of_ofMethod? {method : String} {v : Verb} (h : Verb.ofMethod? method = some v) :
    method ∈ v.methods := by
  unfold Verb.ofMethod? at h
  split at h <;> cases h <;> decide

/-- The tasks of a member's requests on a route, each with what was found and checked before. -/
inductive Planned (s : Store) (u : User) (req : Request) : Route → Verb → Task → Prop
  | answer (route : Route) (r : Reply) : Planned s u req route .get (.answer r)
  | createPost {d : PostDraft}
    (hbody : readBody PostDraft req = .ok d) (hcheck : d.check = .ok ()) :
    Planned s u req (.member .posts) .post (.createPost (d.toNewPost u.id))
  | showUser {raw : String} {id : Int64} (hid : pathParam "user" raw = .ok id) :
    Planned s u req (.member (.user raw)) .get (.showUser id)
  | follow {raw : String} {id : Int64} (hid : pathParam "user" raw = .ok id) :
    Planned s u req (.member (.follow raw)) .put (.follow u.id id)
  | unfollow {raw : String} {id : Int64} (hid : pathParam "user" raw = .ok id) :
    Planned s u req (.member (.unfollow raw)) .put (.unfollow u.id id)
  | updatePost {raw : String} {id : Int64} {p : Post} {patch : PostPatch}
    (hid : pathParam "post" raw = .ok id) (hp : s.posts.get? id = some p)
    (hcaller : Access.demand s u p.userId "moderator" = .ok ())
    (hbody : readBody PostPatch req = .ok patch) (hcheck : patch.check = .ok ()) :
    Planned s u req (.post raw .itself) .patch (.updatePost (patch.apply p))
  | deletePost {raw : String} {id : Int64} {p : Post}
    (hid : pathParam "post" raw = .ok id) (hp : s.posts.get? id = some p)
    (hcaller : Access.demand s u p.userId "admin" = .ok ()) :
    Planned s u req (.post raw .itself) .delete (.deletePost p.id)
  | createComment {raw : String} {id : Int64} {p : Post} {d : CommentDraft}
    (hid : pathParam "post" raw = .ok id) (hp : s.posts.get? id = some p)
    (hbody : readBody CommentDraft req = .ok d) (hcheck : d.check = .ok ()) :
    Planned s u req (.post raw .comments) .post (.createComment ⟨p.id, u.id, d.content⟩)
  | updateComment {raw : String} {id : Int64} {c : Comment} {d : CommentDraft}
    (hid : pathParam "comment" raw = .ok id) (hc : s.comments.get? id = some c)
    (hcaller : Access.demand s u c.userId "moderator" = .ok ())
    (hbody : readBody CommentDraft req = .ok d) (hcheck : d.check = .ok ()) :
    Planned s u req (.comment raw) .patch (.updateComment { c with content := d.content })
  | deleteComment {raw : String} {id : Int64} {c : Comment}
    (hid : pathParam "comment" raw = .ok id) (hc : s.comments.get? id = some c)
    (hcaller : Access.demand s u c.userId "admin" = .ok ()) :
    Planned s u req (.comment raw) .delete (.deleteComment c.id)

variable {raw : String} {verb : Option Verb} {route : Route} {t : Task}

theorem findPost_eq_ok_iff {p : Post} :
    app.findPost raw = .ok p ↔
      ∃ id, pathParam "post" raw = .ok id ∧ app.store.posts.get? id = some p := by
  simp only [App.findPost, bind_eq_ok_iff, orReply_eq_ok_iff, mapError_eq_ok_iff, Store.getPost]
  refine exists_congr fun id => and_congr_right fun _ => ?_
  cases app.store.posts.get? id <;> simp

theorem findComment_eq_ok_iff {c : Comment} :
    app.findComment raw = .ok c ↔
      ∃ id, pathParam "comment" raw = .ok id ∧ app.store.comments.get? id = some c := by
  simp only [App.findComment, bind_eq_ok_iff, orReply_eq_ok_iff, mapError_eq_ok_iff,
    Store.getComment]
  refine exists_congr fun id => and_congr_right fun _ => ?_
  cases app.store.comments.get? id <;> simp

theorem planned_of_planMember {page : MemberPage} (h : app.planMember u page verb req = .ok t) :
    ∃ v, verb = some v ∧ Planned app.store u req (.member page) v t := by
  unfold App.planMember at h
  split at h
  · simp only [orReply_eq_ok_iff, bind_eq_ok_iff] at h
    obtain ⟨d, hbody, ⟨⟩, hcheck, ht⟩ := h
    cases ht
    exact ⟨_, rfl, .createPost hbody hcheck⟩
  · simp only [orReply_eq_ok_iff, App.planFeed] at h
    split at h
    · cases h
    · cases h
      exact ⟨_, rfl, .answer _ _⟩
  · obtain ⟨id, hid, rfl⟩ := map_eq_ok_iff.1 h
    exact ⟨_, rfl, .showUser hid⟩
  · obtain ⟨id, hid, rfl⟩ := map_eq_ok_iff.1 h
    exact ⟨_, rfl, .follow hid⟩
  · obtain ⟨id, hid, rfl⟩ := map_eq_ok_iff.1 h
    exact ⟨_, rfl, .unfollow hid⟩
  · cases h

theorem planned_of_planPost {page : PostPage} {p : Post} {id : Int64}
    (hid : pathParam "post" raw = .ok id) (hp : app.store.posts.get? id = some p)
    (h : app.planPost u p page verb req = .ok t) :
    ∃ v, verb = some v ∧ Planned app.store u req (.post raw page) v t := by
  unfold App.planPost at h
  split at h
  · cases h
    exact ⟨_, rfl, .answer _ _⟩
  · simp only [orReply_eq_ok_iff, bind_eq_ok_iff] at h
    obtain ⟨⟨⟩, hcaller, patch, hbody, ⟨⟩, hcheck, ht⟩ := h
    cases ht
    exact ⟨_, rfl, .updatePost hid hp hcaller hbody hcheck⟩
  · simp only [orReply_eq_ok_iff, bind_eq_ok_iff] at h
    obtain ⟨⟨⟩, hcaller, ht⟩ := h
    cases ht
    exact ⟨_, rfl, .deletePost hid hp hcaller⟩
  · cases h
    exact ⟨_, rfl, .answer _ _⟩
  · simp only [orReply_eq_ok_iff, bind_eq_ok_iff] at h
    obtain ⟨d, hbody, ⟨⟩, hcheck, ht⟩ := h
    cases ht
    exact ⟨_, rfl, .createComment hid hp hbody hcheck⟩
  · cases h

theorem planned_of_planComment {c : Comment} {id : Int64}
    (hid : pathParam "comment" raw = .ok id) (hc : app.store.comments.get? id = some c)
    (h : app.planComment u c verb req = .ok t) :
    ∃ v, verb = some v ∧ Planned app.store u req (.comment raw) v t := by
  unfold App.planComment at h
  split at h
  · simp only [orReply_eq_ok_iff, bind_eq_ok_iff] at h
    obtain ⟨⟨⟩, hcaller, d, hbody, ⟨⟩, hcheck, ht⟩ := h
    cases ht
    exact ⟨_, rfl, .updateComment hid hc hcaller hbody hcheck⟩
  · simp only [orReply_eq_ok_iff, bind_eq_ok_iff] at h
    obtain ⟨⟨⟩, hcaller, ht⟩ := h
    cases ht
    exact ⟨_, rfl, .deleteComment hid hc hcaller⟩
  · cases h

theorem planned_of_planFor (hroute : ∀ page, route ≠ .front page)
    (h : app.planFor u route verb req o = .ok t) :
    ∃ v, verb = some v ∧ Planned app.store u req route v t := by
  unfold App.planFor at h
  cases route with
  | front page => exact absurd rfl (hroute page)
  | member page => exact planned_of_planMember h
  | post raw page =>
    obtain ⟨p, hp, h⟩ := bind_eq_ok_iff.1 h
    obtain ⟨id, hid, hp⟩ := findPost_eq_ok_iff.1 hp
    exact planned_of_planPost hid hp h
  | comment raw =>
    obtain ⟨c, hc, h⟩ := bind_eq_ok_iff.1 h
    obtain ⟨id, hid, hc⟩ := findComment_eq_ok_iff.1 hc
    exact planned_of_planComment hid hc h

/-- A user that has been read since makes no difference. -/
theorem Planned.of_getUser {id : Int64} {v : Verb}
    (h : Planned (Store.Call.run s (.getUser id)) u req route v t) :
    Planned s u req route v t := by
  cases h with
  | answer => exact .answer route _
  | createPost hbody hcheck => exact .createPost hbody hcheck
  | showUser hid => exact .showUser hid
  | follow hid => exact .follow hid
  | unfollow hid => exact .unfollow hid
  | updatePost hid hp hcaller hbody hcheck => exact .updatePost hid hp hcaller hbody hcheck
  | deletePost hid hp hcaller => exact .deletePost hid hp hcaller
  | createComment hid hp hbody hcheck => exact .createComment hid hp hbody hcheck
  | updateComment hid hc hcaller hbody hcheck => exact .updateComment hid hc hcaller hbody hcheck
  | deleteComment hid hc hcaller => exact .deleteComment hid hc hcaller

/-! ## Tasks of everybody -/

/-- The tasks that anybody may have done, by a reply or on users and tokens alone. -/
inductive Task.Open : Task → Prop
  | answer (r : Reply) : Open (.answer r)
  | overflow : Open .overflow
  | register (v : NewUser) : Open (.register v)
  | issueToken (id : Int64) : Open (.issueToken id)
  | activate (token : String) : Open (.activate token)

theorem open_of_planFront {page : FrontPage} (h : app.planFront page verb req o = .ok t) :
    t.Open := by
  unfold App.planFront at h
  split at h
  · cases h
    exact .answer _
  · obtain ⟨⟨⟩, -, ht⟩ := bind_eq_ok_iff.1 h
    cases ht
    exact .answer _
  · simp only [orReply_eq_ok_iff, App.planRegistration, bind_eq_ok_iff] at h
    obtain ⟨r, -, ⟨⟩, -, ht⟩ := h
    cases ht
    exact .register _
  · simp only [orReply_eq_ok_iff, App.planToken, bind_eq_ok_iff] at h
    obtain ⟨login, -, ⟨⟩, -, h⟩ := h
    split at h
    · cases h
    · cases h
    · split at h
      · cases h
        exact .overflow
      · cases h
        exact .issueToken _
      · cases h
  · obtain ⟨token, -, rfl⟩ := map_eq_ok_iff.1 h
    exact .activate token
  · cases h

/-! ## Tasks of requests -/

/-- A member's request is planned for the member, if there is one. -/
theorem plan_member (hroute : ∀ page, route ≠ .front page) (req : Request) (o : Occasion)
    (app : App) :
    app.plan route req o =
      (match (app.authenticate req.headers o).1 with
        | .error r => .error r.reply
        | .ok u => (app.authenticate req.headers o).2.planFor u route
            (Verb.ofMethod? req.method) req o,
        (app.authenticate req.headers o).2) := by
  cases route with
  | front page => exact absurd rfl (hroute page)
  | _ =>
    unfold App.plan
    cases hauth : app.authenticate req.headers o with
    | mk outcome app' => cases outcome <;> rfl

theorem store_plan (route : Route) (req : Request) (o : Occasion) (app : App) :
    (app.plan route req o).2.store = app.store ∨
      ∃ id, (app.plan route req o).2.store = Store.Call.run app.store (.getUser id) := by
  cases route with
  | front page => exact .inl rfl
  | _ =>
    rw [plan_member (by simp)]
    exact store_authenticate req.headers o app

/-- **Planning.** A task is an open one, or it is planned for the member who sent the request. -/
theorem plan_cases (h : (app.plan route req o).1 = .ok t) :
    t.Open ∨ ∃ u v, SentBy app req o u ∧ Verb.ofMethod? req.method = some v ∧
      Planned app.store u req route v t := by
  by_cases hroute : ∃ page, route = .front page
  · obtain ⟨page, rfl⟩ := hroute
    exact .inl (open_of_planFront h)
  have hroute : ∀ page, route ≠ .front page := fun page hpage => hroute ⟨page, hpage⟩
  rw [plan_member hroute] at h
  cases hauth : (app.authenticate req.headers o).1 with
  | error r => simp [hauth] at h
  | ok u =>
    simp only [hauth] at h
    obtain ⟨v, hv, hplanned⟩ := planned_of_planFor hroute h
    refine .inr ⟨u, v, authenticate_eq_ok_iff.1 hauth, hv, ?_⟩
    rcases store_authenticate req.headers o app with hs | ⟨id, hs⟩ <;> rw [hs] at hplanned
    · exact hplanned
    · exact hplanned.of_getUser

end Microblog.Service
