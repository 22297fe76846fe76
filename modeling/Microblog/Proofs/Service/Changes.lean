import Microblog.Proofs.Service.Integrity
import Microblog.Proofs.Service.Replies

/-!
# What a request changes

`Ask` lists the changes that requests can ask for, each by a method and a path of
its own, and `Effect` says what each comes to. A request that is answered with
success has the effect that it asks for and no other, and one that asks for no
change makes none (`effect_of_reachable`).
-/

namespace Microblog.Service

open Account Content Http Store

variable {app app' : App} {req : Request} {o : Occasion} {route : Route} {t : Task} {r : Reply}
  {s : Store} {u : User}

/-! ## Requests for a change -/

inductive Ask where
  | createPost
  | editPost (id : Int64)
  | removePost (id : Int64)
  | addComment (postId : Int64)
  | editComment (id : Int64)
  | removeComment (id : Int64)
  | follow (id : Int64)
  | unfollow (id : Int64)
  | register
  | activate (token : String)

/-- The request asks for the change. -/
def Ask.IsOf (req : Request) : Ask → Prop
  | createPost => req.method = "POST" ∧ req.path = "/v1/posts"
  | editPost id => req.method = "PATCH" ∧ Names req.path "posts" id
  | removePost id => req.method = "DELETE" ∧ Names req.path "posts" id
  | addComment id => req.method = "POST" ∧ NamesPage req.path "posts" id "comments"
  | editComment id => req.method = "PATCH" ∧ Names req.path "comments" id
  | removeComment id => req.method = "DELETE" ∧ Names req.path "comments" id
  | follow id => req.method = "PUT" ∧ NamesPage req.path "users" id "follow"
  | unfollow id => req.method = "PUT" ∧ NamesPage req.path "users" id "unfollow"
  | register => AsksToRegister req
  | activate token => AsksToActivate req token

/-- The verbs and routes of the requests for a change. -/
inductive Ask.On : Ask → Verb → Route → Prop
  | createPost : On .createPost .post (.member .posts)
  | editPost {raw : String} {id : Int64} (hid : pathParam "post" raw = .ok id) :
    On (.editPost id) .patch (.post raw .itself)
  | removePost {raw : String} {id : Int64} (hid : pathParam "post" raw = .ok id) :
    On (.removePost id) .delete (.post raw .itself)
  | addComment {raw : String} {id : Int64} (hid : pathParam "post" raw = .ok id) :
    On (.addComment id) .post (.post raw .comments)
  | editComment {raw : String} {id : Int64} (hid : pathParam "comment" raw = .ok id) :
    On (.editComment id) .patch (.comment raw)
  | removeComment {raw : String} {id : Int64} (hid : pathParam "comment" raw = .ok id) :
    On (.removeComment id) .delete (.comment raw)
  | follow {raw : String} {id : Int64} (hid : pathParam "user" raw = .ok id) :
    On (.follow id) .put (.member (.follow raw))
  | unfollow {raw : String} {id : Int64} (hid : pathParam "user" raw = .ok id) :
    On (.unfollow id) .put (.member (.unfollow raw))
  | register : On .register .post (.front .registration)
  | activate {raw token : String} (htoken : pathText "token" raw = .ok token) :
    On (.activate token) .put (.front (.activation raw))

theorem Ask.isOf_of_on {a : Ask} {v : Verb} (h : a.On v route)
    (hv : Verb.ofMethod? req.method = some v) (hroute : Route.ofPath? req.path = some route) :
    a.IsOf req := by
  have hmethod := mem_methods_of_ofMethod? hv
  cases h with
  | createPost => exact ⟨List.mem_singleton.1 hmethod, ofPath?_eq_posts_iff.1 hroute⟩
  | editPost hid => exact ⟨List.mem_singleton.1 hmethod, names_posts_iff.2 ⟨_, hroute, hid⟩⟩
  | removePost hid => exact ⟨List.mem_singleton.1 hmethod, names_posts_iff.2 ⟨_, hroute, hid⟩⟩
  | addComment hid =>
    exact ⟨List.mem_singleton.1 hmethod, namesPage_comments_iff.2 ⟨_, hroute, hid⟩⟩
  | editComment hid => exact ⟨List.mem_singleton.1 hmethod, names_comments_iff.2 ⟨_, hroute, hid⟩⟩
  | removeComment hid =>
    exact ⟨List.mem_singleton.1 hmethod, names_comments_iff.2 ⟨_, hroute, hid⟩⟩
  | follow hid => exact ⟨List.mem_singleton.1 hmethod, namesPage_follow_iff.2 ⟨_, hroute, hid⟩⟩
  | unfollow hid => exact ⟨List.mem_singleton.1 hmethod, namesPage_unfollow_iff.2 ⟨_, hroute, hid⟩⟩
  | register => exact asksToRegister_iff.2 ⟨hv, hroute⟩
  | activate htoken => exact asksToActivate_iff.2 ⟨hv, _, hroute, htoken⟩

theorem Ask.on_of_isOf {a : Ask} (h : a.IsOf req) : ∃ v route,
    Verb.ofMethod? req.method = some v ∧ Route.ofPath? req.path = some route ∧ a.On v route := by
  cases a with
  | createPost => exact ⟨_, _, by rw [h.1]; rfl, ofPath?_eq_posts_iff.2 h.2, .createPost⟩
  | editPost id =>
    obtain ⟨raw, hroute, hid⟩ := names_posts_iff.1 h.2
    exact ⟨_, _, by rw [h.1]; rfl, hroute, .editPost hid⟩
  | removePost id =>
    obtain ⟨raw, hroute, hid⟩ := names_posts_iff.1 h.2
    exact ⟨_, _, by rw [h.1]; rfl, hroute, .removePost hid⟩
  | addComment id =>
    obtain ⟨raw, hroute, hid⟩ := namesPage_comments_iff.1 h.2
    exact ⟨_, _, by rw [h.1]; rfl, hroute, .addComment hid⟩
  | editComment id =>
    obtain ⟨raw, hroute, hid⟩ := names_comments_iff.1 h.2
    exact ⟨_, _, by rw [h.1]; rfl, hroute, .editComment hid⟩
  | removeComment id =>
    obtain ⟨raw, hroute, hid⟩ := names_comments_iff.1 h.2
    exact ⟨_, _, by rw [h.1]; rfl, hroute, .removeComment hid⟩
  | follow id =>
    obtain ⟨raw, hroute, hid⟩ := namesPage_follow_iff.1 h.2
    exact ⟨_, _, by rw [h.1]; rfl, hroute, .follow hid⟩
  | unfollow id =>
    obtain ⟨raw, hroute, hid⟩ := namesPage_unfollow_iff.1 h.2
    exact ⟨_, _, by rw [h.1]; rfl, hroute, .unfollow hid⟩
  | register =>
    obtain ⟨hv, hroute⟩ := asksToRegister_iff.1 h
    exact ⟨_, _, hv, hroute, .register⟩
  | activate token =>
    obtain ⟨hv, raw, hroute, htoken⟩ := asksToActivate_iff.1 h
    exact ⟨_, _, hv, hroute, .activate htoken⟩

/-- A request asks for a change by its verb and its route. -/
theorem Ask.isOf_iff {a : Ask} : a.IsOf req ↔ ∃ v route, Verb.ofMethod? req.method = some v ∧
    Route.ofPath? req.path = some route ∧ a.On v route :=
  ⟨on_of_isOf, fun ⟨_, _, hv, hroute, h⟩ => isOf_of_on h hv hroute⟩

/-- A request asks for one change at most. -/
theorem Ask.On.unique {a b : Ask} {v : Verb} (ha : a.On v route) (hb : b.On v route) : a = b := by
  cases ha <;> cases hb <;> simp_all

/-! ## Tasks that make a change -/

/-- The change that a task makes. -/
def Task.ask? : Task → Option Ask
  | createPost _ => some .createPost
  | updatePost p => some (.editPost p.id)
  | deletePost id => some (.removePost id)
  | createComment d => some (.addComment d.postId)
  | updateComment c => some (.editComment c.id)
  | deleteComment id => some (.removeComment id)
  | follow _ id => some (.follow id)
  | unfollow _ id => some (.unfollow id)
  | register _ => some .register
  | activate token => some (.activate token)
  | answer _ | overflow | issueToken _ | showUser _ => none

theorem Planned.on {v : Verb} (hs : Numbered s) (h : Planned s u req route v t) :
    (∃ a, t.ask? = some a ∧ a.On v route) ∨ t.ask? = none ∧ v = .get := by
  cases h with
  | answer => exact .inr ⟨rfl, rfl⟩
  | showUser hid => exact .inr ⟨rfl, rfl⟩
  | createPost hbody hcheck => exact .inl ⟨_, rfl, .createPost⟩
  | follow hid => exact .inl ⟨_, rfl, .follow hid⟩
  | unfollow hid => exact .inl ⟨_, rfl, .unfollow hid⟩
  | updatePost hid hp hcaller hbody hcheck =>
    exact .inl ⟨_, rfl, by simpa [PostPatch.apply, (hs.posts _ _ hp).1] using .editPost hid⟩
  | deletePost hid hp hcaller =>
    exact .inl ⟨_, rfl, by simpa [(hs.posts _ _ hp).1] using .removePost hid⟩
  | createComment hid hp hbody hcheck =>
    exact .inl ⟨_, rfl, by simpa [(hs.posts _ _ hp).1] using .addComment hid⟩
  | updateComment hid hc hcaller hbody hcheck =>
    exact .inl ⟨_, rfl, by simpa [(hs.comments _ _ hc).1] using .editComment hid⟩
  | deleteComment hid hc hcaller =>
    exact .inl ⟨_, rfl, by simpa [(hs.comments _ _ hc).1] using .removeComment hid⟩

theorem Ask.not_on_get (a : Ask) : ¬ a.On .get route := by
  rintro ⟨⟩

/-- On a page for everyone. -/
theorem on_of_planFront {page : FrontPage}
    (h : app.planFront page (Verb.ofMethod? req.method) req o = .ok t) :
    ∃ v, Verb.ofMethod? req.method = some v ∧
      ((∃ a, t.ask? = some a ∧ a.On v (.front page)) ∨
        t.ask? = none ∧ ∀ a : Ask, ¬ a.On v (.front page)) := by
  rcases planFront_cases h with ⟨hv, r, rfl⟩ | ⟨rfl, hv, ht⟩ | ⟨rfl, hv, ht⟩ |
    ⟨raw, token, rfl, hv, htoken, rfl⟩
  · exact ⟨_, hv, .inr ⟨rfl, Ask.not_on_get⟩⟩
  · obtain ⟨_, -, -, rfl⟩ := planRegistration_eq_ok_iff.1 ht
    exact ⟨_, hv, .inl ⟨_, rfl, .register⟩⟩
  · refine ⟨_, hv, .inr ⟨?_, by rintro _ ⟨⟩⟩⟩
    rcases planToken_cases ht with rfl | ⟨_, rfl⟩ <;> rfl
  · exact ⟨_, hv, .inl ⟨_, rfl, .activate htoken⟩⟩

theorem Undertakes.on (hs : Numbered app.store) (h : Undertakes app req o route t app') :
    ∃ v, Verb.ofMethod? req.method = some v ∧
      ((∃ a, t.ask? = some a ∧ a.On v route) ∨ t.ask? = none ∧ ∀ a : Ask, ¬ a.On v route) := by
  have hplan := congrArg Prod.fst h.plan
  by_cases hroute : ∃ page, route = .front page
  · obtain ⟨page, rfl⟩ := hroute
    exact on_of_planFront hplan
  rcases h.cases with hopen | ⟨u, v, -, hv, hplanned⟩
  · obtain ⟨s, u, v, hv, hplanned⟩ := planned_of_plan (fun page hpage => hroute ⟨page, hpage⟩) hplan
    cases hopen with
    | answer r =>
      cases hplanned
      exact ⟨_, hv, .inr ⟨rfl, Ask.not_on_get⟩⟩
    | _ => cases hplanned
  · refine ⟨v, hv, ?_⟩
    rcases hplanned.on hs with hon | ⟨hask, rfl⟩
    · exact .inl hon
    · exact .inr ⟨hask, Ask.not_on_get⟩

/-- A task makes the change that the request asks for. -/
theorem Undertakes.ask?_eq_some_iff (hs : Numbered app.store)
    (h : Undertakes app req o route t app') {a : Ask} : t.ask? = some a ↔ a.IsOf req := by
  obtain ⟨v, hv, hon⟩ := h.on hs
  have hisOf : a.IsOf req ↔ a.On v route := by
    rw [Ask.isOf_iff, hv, h.lies]
    simp
  rw [hisOf]
  rcases hon with ⟨b, hb, hon⟩ | ⟨hnone, hnot⟩
  · rw [hb, Option.some.injEq]
    exact ⟨fun hab => hab ▸ hon, hon.unique⟩
  · rw [hnone]
    exact ⟨nofun, fun ha => absurd ha (hnot a)⟩

/-! ## Effects -/

/-- What a request for a change comes to that is answered with success: the reply, and the records
that it leaves. -/
inductive Effect (app : App) (req : Request) (o : Occasion) (r : Reply) (s : Store) : Ask → Prop
  | createPost (d : PostDraft) (p : Post) (sent : readBody PostDraft req = .ok d)
    (caller : app.bearer? req.headers o = some p.userId)
    (new : app.store.posts.get? p.id = none)
    (made : p = ⟨p.id, p.userId, d.title, d.content, d.tags, p.createdAt, p.createdAt, 1⟩)
    (returned : r.body = .json (Json.encode p))
    (left : SameRecords { app.store with posts := app.store.posts.insert p.id p } s) :
    Effect app req o r s .createPost
  | editPost (id : Int64) (patch : PostPatch) (p q : Post)
    (sent : readBody PostPatch req = .ok patch) (stored : app.store.posts.get? id = some p)
    (made : q = { p with
      title := patch.title.getD p.title
      content := patch.content.getD p.content
      tags := patch.tags.getD p.tags
      updatedAt := q.updatedAt
      version := p.version + 1 })
    (returned : r.body = .json (Json.encode q))
    (left : SameRecords { app.store with posts := app.store.posts.insert id q } s) :
    Effect app req o r s (.editPost id)
  | removePost (id : Int64) (stored : app.store.posts.contains id)
    (left : SameRecords { app.store with
      posts := app.store.posts.erase id
      comments := app.store.comments.filter fun _ c => c.postId != id } s) :
    Effect app req o r s (.removePost id)
  | addComment (postId : Int64) (d : CommentDraft) (c : Comment)
    (sent : readBody CommentDraft req = .ok d) (stored : app.store.posts.contains postId)
    (caller : app.bearer? req.headers o = some c.userId)
    (new : app.store.comments.get? c.id = none)
    (made : c = ⟨c.id, postId, c.userId, d.content, c.createdAt, c.username⟩)
    (returned : r.body = .json (Json.encode c))
    (left : SameRecords { app.store with comments := app.store.comments.insert c.id c } s) :
    Effect app req o r s (.addComment postId)
  | editComment (id : Int64) (d : CommentDraft) (c : Comment)
    (sent : readBody CommentDraft req = .ok d) (stored : app.store.comments.get? id = some c)
    (returned : r.body = .json (Json.encode { c with content := d.content }))
    (left : SameRecords { app.store with
      comments := app.store.comments.insert id { c with content := d.content } } s) :
    Effect app req o r s (.editComment id)
  | removeComment (id : Int64) (stored : app.store.comments.contains id)
    (left : SameRecords { app.store with comments := app.store.comments.erase id } s) :
    Effect app req o r s (.removeComment id)
  | follow (id caller : Int64) (sent : app.bearer? req.headers o = some caller)
    (stored : app.store.users.contains id) (new : (caller, id) ∉ app.store.follows)
    (left : SameRecords { app.store with follows := (caller, id) :: app.store.follows } s) :
    Effect app req o r s (.follow id)
  | unfollow (id caller : Int64) (sent : app.bearer? req.headers o = some caller)
    (left : SameRecords { app.store with
      follows := app.store.follows.filter (· != (caller, id)) } s) :
    Effect app req o r s (.unfollow id)
  | register (reg : Registration) (u : User) (expiry : Timestamp)
    (sent : readBody Registration req = .ok reg)
    (named : u.username = reg.username ∧ u.email = reg.email)
    (new : app.store.users.get? u.id = none) (inactive : u.isActive = false)
    (role : u.role = namedRole 1 "user" 1 ∧ u.roleId = 1)
    (returned : r.body = .json (App.userWithToken u o.token))
    (left : SameRecords { app.store with
      users := app.store.users.insert u.id u
      invitations := app.store.invitations.insert (tokenKey o.token) ⟨u.id, expiry⟩ } s) :
    Effect app req o r s .register
  | activate (token : String) (inv : Invitation)
    (invited : app.store.invitations.get? (tokenKey token) = some inv)
    (stored : app.store.users.contains inv.userId)
    (left : SameRecords { app.store with
      users := app.store.users.modify inv.userId fun u => { u with isActive := true }
      invitations := app.store.invitations.filter fun _ i => i.userId != inv.userId } s) :
    Effect app req o r s (.activate token)

theorem ne_head {method : String} {v : Verb} (hv : Verb.ofMethod? method = some v)
    (hget : v ≠ .get) : method ≠ "HEAD" := by
  rintro rfl
  cases hv
  exact hget rfl

/-- The id in the bearer token is the one of the user who is found for it. -/
theorem bearer?_of_sentBy (hs : Numbered app.store) (hown : OwnEntries app.cache)
    (h : SentBy app req o u) : app.bearer? req.headers o = some u.id := by
  obtain ⟨token, claims, id, htoken, hverify, hid, hresolve⟩ := h
  have heq : u.id = id := by
    rcases found_of_resolve hresolve with hu | ⟨m, e, hm, he, rfl⟩
    · exact (hs.users id u hu).1
    · exact hown m hm id e he
  rw [heq]
  exact bearer?_eq_some_iff.2 ⟨token, claims, htoken, hverify, hid⟩

/-- An operation on the store whose reply is one of success has succeeded. -/
theorem Undertakes.settled {α : Type} {x : Except Stop α × Store} {reply : α → Reply}
    (h : Undertakes app req o route t app') (hperform : app'.perform t o = app'.settle x reply)
    (hhead : req.method ≠ "HEAD") (hr : (app.respond req o).1 = some r) (hok : Succeeds r) :
    ∃ a, x.1 = .ok a ∧ r.body = (reply a).body ∧ (app.respond req o).2.store = x.2 := by
  rw [h.store_respond, hperform, store_settle]
  rw [h.respond_eq, hperform] at hr
  obtain ⟨r', hr', rfl⟩ := Option.map_eq_some_iff.1 hr
  rcases settle_reply hr' with ⟨a, ha, rfl⟩ | ⟨f, -, rfl⟩
  · exact ⟨a, ha, body_finish hhead _, rfl⟩
  · exact absurd (succeeds_finish.1 hok) (not_succeeds_reply _)

theorem Undertakes.concluded {α : Type} {x : Except Failure α × Store} {reply : α → Reply}
    (h : Undertakes app req o route t app') (hperform : app'.perform t o = app'.conclude x reply)
    (hhead : req.method ≠ "HEAD") (hr : (app.respond req o).1 = some r) (hok : Succeeds r) :
    ∃ a, x.1 = .ok a ∧ r.body = (reply a).body ∧ (app.respond req o).2.store = x.2 := by
  obtain ⟨a, ha, hreply⟩ := h.settled hperform hhead hr hok
  exact ⟨a, mapError_eq_ok_iff.1 ha, hreply⟩

/-- What a member's request comes to that is answered with success. -/
theorem Planned.effect {v : Verb} {a : Ask} (hplanned : Planned app.store u req route v t)
    (h : Undertakes app req o route t app') (hs : Numbered app.store)
    (hcaller : app.bearer? req.headers o = some u.id) (hv : Verb.ofMethod? req.method = some v)
    (hask : t.ask? = some a) (hr : (app.respond req o).1 = some r) (hok : Succeeds r) :
    Effect app req o r (app.respond req o).2.store a := by
  have hstore := h.store_respond
  cases hplanned with
  | answer | showUser => cases hask
  | createPost hbody hcheck =>
    cases hask
    obtain ⟨p, hp, hreturned, hleft⟩ := h.settled rfl (ne_head hv nofun) hr hok
    obtain ⟨l, c, n, rfl⟩ := h.frame
    rw [hleft]
    rcases createPost_cases _ _ with he | ⟨id, now, hid, -, he⟩ <;> rw [he] at hp ⊢
    · cases hp
    · cases hp
      exact .createPost _ _ hbody hcaller (hs.posts.get?_next hid) rfl hreturned
        ⟨rfl, rfl, rfl, rfl, rfl⟩
  | updatePost hid hp hallowed hbody hcheck =>
    cases hask
    obtain ⟨q, hq, hreturned, hleft⟩ := h.settled rfl (ne_head hv nofun) hr hok
    obtain ⟨l, c, n, rfl⟩ := h.frame
    obtain rfl := (hs.posts _ _ hp).1
    rw [hleft]
    rcases updatePost_cases _ _ with
      ⟨-, he⟩ | ⟨now, -, ⟨-, he⟩ | ⟨q₀, hq₀, -, ⟨-, he⟩ | ⟨-, he⟩⟩⟩ <;> rw [he] at hq ⊢
    · cases hq
    · cases hq
    · cases hq
    · cases hq
      obtain rfl := Option.some.inj (hq₀.symm.trans hp)
      exact .editPost _ _ _ _ hbody hp rfl hreturned ⟨rfl, rfl, rfl, rfl, rfl⟩
  | deletePost hid hp hallowed =>
    cases hask
    obtain ⟨l, c, n, rfl⟩ := h.frame
    obtain rfl := (hs.posts _ _ hp).1
    rw [hstore]
    exact .removePost _ (Table.contains_of_get? hp) ⟨rfl, rfl, rfl, rfl, rfl⟩
  | createComment hid hp hbody hcheck =>
    cases hask
    obtain ⟨c, hc, hreturned, hleft⟩ := h.settled rfl (ne_head hv nofun) hr hok
    obtain ⟨l, cache, n, rfl⟩ := h.frame
    rw [hleft]
    rcases createComment_cases _ _ with ⟨_, he⟩ | ⟨id, now, hpost, hid, -, name, he⟩ <;>
      rw [he] at hc ⊢
    · cases hc
    · cases hc
      exact .addComment _ _ _ hbody hpost hcaller (hs.comments.get?_next hid) rfl hreturned
        ⟨rfl, rfl, rfl, rfl, rfl⟩
  | updateComment hid hc hallowed hbody hcheck =>
    cases hask
    obtain ⟨d, hd, hreturned, hleft⟩ := h.concluded rfl (ne_head hv nofun) hr hok
    obtain ⟨l, cache, n, rfl⟩ := h.frame
    obtain rfl := (hs.comments _ _ hc).1
    rw [hleft]
    rcases updateComment_cases _ _ with ⟨-, he⟩ | ⟨c₀, hc₀, he⟩ <;> rw [he] at hd ⊢
    · cases hd
    · cases hd
      obtain rfl := Option.some.inj (hc₀.symm.trans hc)
      exact .editComment _ _ _ hbody hc hreturned ⟨rfl, rfl, rfl, rfl, rfl⟩
  | deleteComment hid hc hallowed =>
    cases hask
    obtain ⟨l, cache, n, rfl⟩ := h.frame
    obtain rfl := (hs.comments _ _ hc).1
    rw [hstore]
    exact .removeComment _ (Table.contains_of_get? hc) ⟨rfl, rfl, rfl, rfl, rfl⟩
  | follow hid =>
    cases hask
    obtain ⟨⟨⟩, hfollow, -, hleft⟩ := h.concluded rfl (ne_head hv nofun) hr hok
    obtain ⟨l, c, n, rfl⟩ := h.frame
    rw [hleft]
    rcases follow_cases _ _ _ with ⟨_, he⟩ | ⟨hstored, hnew, he⟩ <;> rw [he] at hfollow ⊢
    · cases hfollow
    · exact .follow _ _ hcaller hstored (by simpa [isFollowing] using hnew)
        ⟨rfl, rfl, rfl, rfl, rfl⟩
  | unfollow hid =>
    cases hask
    obtain ⟨l, c, n, rfl⟩ := h.frame
    rw [hstore]
    exact .unfollow _ _ hcaller ⟨rfl, rfl, rfl, rfl, rfl⟩

theorem newUser_role (hroles : s.roles = initial.roles) (v : NewUser) (active : Bool) (id : Int64)
    (at' : Timestamp) : (s.newUser v "user" active id at').role = namedRole 1 "user" 1 := by
  rw [newUser, role?, hroles]
  rfl

theorem register_created {v : NewUser} (h : (app.register v o).1 = some r) (hok : Succeeds r) :
    r.status = 201 := by
  unfold App.register at h
  split at h
  · cases h
  · cases h
    exact absurd hok (not_succeeds_reply _)
  · split at h <;> cases h
    · rfl
    · exact absurd hok (not_succeeds_reply _)

/-- What a registration comes to that is answered with success. -/
theorem Undertakes.effect_register {v : NewUser} (h : Undertakes app req o route (.register v) app')
    (hs : Store.Reachable app.store) (hr : (app.respond req o).1 = some r) (hok : Succeeds r) :
    Effect app req o r (app.respond req o).2.store .register := by
  obtain ⟨rfl, hv, hplan⟩ := plan_register (congrArg Prod.fst h.plan)
  obtain ⟨reg, hbody, -, hreg⟩ := planRegistration_eq_ok_iff.1 hplan
  cases hreg
  have hhead := ne_head hv nofun
  rw [h.store_respond]
  rw [h.respond_eq] at hr
  obtain ⟨l, c, n, rfl⟩ := h.frame
  obtain ⟨r', hr', rfl⟩ := Option.map_eq_some_iff.1 hr
  have hcreated : r'.status = 201 := register_created hr' (succeeds_finish.1 hok)
  rw [App.perform] at hr' ⊢
  cases register_ends ⟨reg.username, reg.email, .make o.salt reg.password⟩ o
      { app with limiter := l, cache := c, store := { app.store with reads := n } } with
  | refused reply status ends =>
    rw [ends] at hr'
    exact absurd hcreated (status r' hr')
  | stored id at' new distinct ends =>
    rw [ends] at hr'
    cases hr'
  | withdrawn id at' expiry new ends =>
    rw [ends] at hr'
    cases hr'
    cases hcreated
  | invited id at' expiry secs m new distinct life expires ends =>
    rw [ends] at hr' ⊢
    cases hr'
    have hrole := newUser_role (s := { app.store with reads := n }) hs.roles
      ⟨reg.username, reg.email, .make o.salt reg.password⟩ false id at'
    exact .register reg _ expiry hbody ⟨rfl, rfl⟩ (hs.numbered.users.get?_next new) rfl
      ⟨hrole, congrArg Role.id hrole⟩ (body_finish hhead _) ⟨rfl, rfl, rfl, rfl, rfl⟩

/-- What an activation comes to that is answered with success. -/
theorem Undertakes.effect_activate {token : String}
    (h : Undertakes app req o route (.activate token) app') (hs : Store.Reachable app.store)
    (hr : (app.respond req o).1 = some r) (hok : Succeeds r) :
    Effect app req o r (app.respond req o).2.store (.activate token) := by
  obtain ⟨raw, rfl, hv, -⟩ := plan_activate (congrArg Prod.fst h.plan)
  obtain ⟨⟨⟩, hactivate, -, hleft⟩ := h.concluded rfl (ne_head hv nofun) hr hok
  obtain ⟨l, c, n, rfl⟩ := h.frame
  rw [hleft]
  rcases activate_cases _ _ _ with he | ⟨inv, hinv, -, he⟩ <;> rw [he] at hactivate ⊢
  · cases hactivate
  · exact .activate token inv hinv (hs.invitesStored _ inv hinv) ⟨rfl, rfl, rfl, rfl, rfl⟩

/-! ## Requests -/

/-- A task that makes no change leaves the records. -/
theorem sameRecords_of_idle (hask : t.ask? = none) (o : Occasion) (app : App) :
    SameRecords app.store (app.perform t o).2.store := by
  cases t with
  | answer r | overflow | issueToken id => exact .refl app.store
  | showUser id => exact sameRecords_showUser id o app
  | _ => cases hask

theorem status_of_rejected (h : Rejected req route r) : 400 ≤ r.status := by
  cases h with
  | refused f legible => exact le_status f
  | notServed serves => simp [Reply.bare]
  | illegible name part text => simp [Reply.text]

/-- A request but OPTIONS that is answered with success has come to a task. -/
theorem undertakes_of_succeeds (hmethod : req.method ≠ "OPTIONS")
    (hr : (app.respond req o).1 = some r) (hok : Succeeds r) :
    ∃ route t app', Undertakes app req o route t app' := by
  simp only [App.respond, hmethod, if_false] at hr
  obtain ⟨r', hr', rfl⟩ := Option.map_eq_some_iff.1 hr
  have hok := succeeds_finish.1 hok
  rcases admitted_cases hr' with ⟨secs, rfl⟩ | ⟨-, rfl⟩ | ⟨route, lies, hmeter, hserve⟩
  · exact absurd hok (not_succeeds_reply _)
  · exact absurd hok (by decide)
  have hplans := plans_plan route req o (app.meter req o.instant).2
  cases hplan : (app.meter req o.instant).2.plan route req o with
  | mk planned app' =>
    rw [hplan] at hplans
    rw [App.serve, hplan] at hserve
    cases hplans with
    | rejected h =>
      cases hserve
      have hle := status_of_rejected h
      have hlt := hok.2
      omega
    | answered v => exact ⟨route, _, app', hmethod, hmeter, lies, hplan⟩
    | task ht => exact ⟨route, _, app', hmethod, hmeter, lies, hplan⟩

theorem Ask.IsOf.method_ne {a : Ask} (h : a.IsOf req) : req.method ≠ "OPTIONS" := by
  obtain ⟨v, -, hv, -, -⟩ := on_of_isOf h
  intro hmethod
  rw [hmethod] at hv
  cases hv

/-- **Changes.** Whatever has happened to the application, a request that is answered with success
has the effect that it asks for; and if it asks for none, no record changes. -/
theorem effect_of_reachable (h : app.Reachable) (hr : (app.respond req o).1 = some r)
    (hok : Succeeds r) :
    (∀ a : Ask, a.IsOf req → Effect app req o r (app.respond req o).2.store a) ∧
      ((∀ a : Ask, ¬ a.IsOf req) → SameRecords app.store (app.respond req o).2.store) := by
  have hs := h.store.numbered
  constructor
  · intro a ha
    obtain ⟨route, t, app', ht⟩ := undertakes_of_succeeds ha.method_ne hr hok
    have hask := (ht.ask?_eq_some_iff hs).2 ha
    rcases ht.cases with hopen | ⟨u, v, hu, hv, hplanned⟩
    · cases hopen with
      | register v =>
        cases hask
        exact ht.effect_register h.store hr hok
      | activate token =>
        cases hask
        exact ht.effect_activate h.store hr hok
      | _ => cases hask
    · have hcaller := bearer?_of_sentBy hs h.ownEntries hu
      exact hplanned.effect ht hs hcaller hv hask hr hok
  · intro hnone
    rcases respond_cases req o app with ⟨route, t, app', ht⟩ | ⟨l, c, n, hn⟩
    · have hask : t.ask? = none :=
        Option.eq_none_iff_forall_ne_some.2 fun a ha => hnone a ((ht.ask?_eq_some_iff hs).1 ha)
      rw [ht.store_respond]
      exact ht.sameRecords.trans (sameRecords_of_idle hask o app')
    · rw [hn]
      exact sameRecords_reads app.store n

/-- A registration where nobody is stored yet. -/
theorem effect_sampleRegistration : sampleStart.Reachable ∧ ∃ r,
    (sampleStart.respond sampleRegistration secondOccasion).1 = some r ∧ Succeeds r ∧
      Effect sampleStart sampleRegistration secondOccasion r
        (sampleStart.respond sampleRegistration secondOccasion).2.store .register := by
  have hreach : sampleStart.Reachable := reachable_after_sampleStart []
  have hstatus : (sampleStart.respond sampleRegistration secondOccasion).1.map Reply.status =
      some 201 := by decide +kernel
  obtain ⟨r, hr, h201⟩ := Option.map_eq_some_iff.1 hstatus
  have hok : Succeeds r := by
    rw [Succeeds, h201]
    omega
  exact ⟨hreach, r, hr, hok, (effect_of_reachable hreach hr hok).1 .register ⟨rfl, rfl⟩⟩

end Microblog.Service
