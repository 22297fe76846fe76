import Microblog.Proofs.Service.Integrity
import Microblog.Proofs.Service.Refusals
import Microblog.Proofs.Store.Validity

/-!
# Only valid records are stored

Every request that writes a text checks it first, so over every run of requests
all posts and comments are within their bounds, and so is everybody who has
registered (`valid_of_run`). A partial change of a post checks what it names; the
rest stays as it is stored, which is within the bounds already.
-/

namespace Microblog.Service

open Account Content Http Store

variable {app app' : App} {req : Request} {o : Occasion} {route : Route} {t : Task} {c : Call}
  {u : User} {s : Store} {known : Int64 → Prop}

/-! ## Calls for requests -/

theorem text_make_ne (salt : List UInt8) (plain : String) :
    (Password.make salt plain).text ≠ "" := by
  -- that there is some output is enough, and no step may compute it
  obtain ⟨output, hmake⟩ : ∃ output, (Password.make salt plain).text =
      Password.front .standard ++ "$" ++ String.ofList (Bytes.Base64.encode .standard salt) ++
        "$" ++ String.ofList (Bytes.Base64.encode .standard output) := ⟨_, rfl⟩
  rw [hmake]
  intro h
  have hchars := congrArg String.toList h
  simp at hchars

theorem validAccount_of_check {r : Registration} (salt : List UInt8) (h : r.check = .ok ()) :
    ValidAccount r.username r.email (.make salt r.password) := by
  obtain ⟨hname, hcredentials⟩ := Registration.check_eq_ok_iff.1 h
  obtain ⟨⟨-, hsize, haddress⟩, -⟩ := checkCredentials_eq_ok_iff.1 hcredentials
  exact ⟨hname, haddress, hsize, text_make_ne salt r.password⟩

theorem bounded_getD {n : Nat} {new : Option String} {old : String}
    (hnew : ∀ text, new = some text → Bounded n text) (hold : Bounded n old) :
    Bounded n (new.getD old) := by
  cases new with
  | none => exact hold
  | some text => exact hnew text rfl

/-- The calls for a member's request are given texts that have been checked, or are stored. -/
theorem Planned.proper {v : Verb} (h : Planned s u req route v t) (hs : Valid known s)
    (hc : t.Makes o c) : c.Proper := by
  cases h with
  | createPost hbody hcheck =>
    cases hc
    exact PostDraft.check_eq_ok_iff.1 hcheck
  | updatePost hid hp hallowed hbody hcheck =>
    cases hc
    obtain ⟨htitle, hcontent⟩ := PostPatch.check_eq_ok_iff.1 hcheck
    have hvalid := hs.posts _ _ hp
    exact ⟨bounded_getD htitle hvalid.title, bounded_getD hcontent hvalid.content⟩
  | createComment hid hp hbody hcheck =>
    cases hc
    exact CommentDraft.check_eq_ok_iff.1 hcheck
  | updateComment hid hd hallowed hbody hcheck =>
    cases hc
    exact CommentDraft.check_eq_ok_iff.1 hcheck
  | answer => cases hc
  | showUser | deletePost | deleteComment | follow | unfollow =>
    cases hc
    trivial

theorem Undertakes.proper (h : Undertakes app req o route t app') (hs : Valid known app.store)
    (hc : t.Makes o c) : c.Proper := by
  rcases h.cases with hopen | ⟨u, v, -, -, hplanned⟩
  · cases hopen with
    | register v =>
      obtain ⟨-, -, hplan⟩ := plan_register (congrArg Prod.fst h.plan)
      obtain ⟨r, -, hcheck, hr⟩ := planRegistration_eq_ok_iff.1 hplan
      cases hr
      cases hc with
      | createAndInvite u ttl => exact validAccount_of_check o.salt hcheck
      | deleteUser u id => trivial
    | activate token =>
      cases hc
      trivial
    | _ => cases hc
  · exact hplanned.proper hs hc

/-! ## Requests and runs -/

theorem valid_reads (h : Valid known s) (n : Nat) : Valid known { s with reads := n } :=
  ⟨h.posts, h.comments, h.users⟩

theorem valid_respond (h : Valid known app.store) (req : Request) (o : Occasion) :
    Valid known (app.respond req o).2.store := by
  rcases respond_cases req o app with ⟨route, t, app', ht⟩ | ⟨l, c, n, hn⟩
  · have hproper (c : Call) (hc : t.Makes o c) : c.Proper := ht.proper h hc
    have hstore := ht.store_respond
    obtain ⟨l, c, n, rfl⟩ := ht.frame
    obtain ⟨cs, hcs, hcalls⟩ := perform_calls t o
      { app with limiter := l, cache := c, store := { app.store with reads := n } }
    rw [hstore, hcs]
    exact run_keeps (fun s c hc hs => hs.call (hproper c (hcalls c hc))) (valid_reads h n)
  · rw [hn]
    exact valid_reads h n

theorem valid_step {e : Event} (h : Valid known app.store) (he : e.IsOwn) :
    Valid known (app.step e).store := by
  cases e with
  | request req o => exact valid_respond h req o
  | call c => exact he.elim
  | resolve id instant =>
    obtain ⟨c, n, hn⟩ := resolve_eq id instant app
    rw [App.step, hn]
    exact valid_reads h n
  | failCacheWrites fail => exact h
  | setMailer m => exact h

/-- At a start there are users alone. -/
theorem valid_populated (accounts : List (NewUser × String × Bool)) :
    Valid (fun id => (populated accounts).users.contains id) (populated accounts) := by
  obtain ⟨hposts, hcomments⟩ : (populated accounts).posts = .empty ∧
      (populated accounts).comments = .empty := by
    refine run_keeps (P := fun s => s.posts = .empty ∧ s.comments = .empty) (fun s c hc hs => ?_)
      ⟨rfl, rfl⟩
    obtain ⟨⟨u, roleName, active⟩, -, rfl⟩ := List.mem_map.1 hc
    obtain ⟨-, -, hposts, hcomments, -⟩ := insertUser_frame u roleName active s
    exact ⟨hposts.trans hs.1, hcomments.trans hs.2⟩
  refine ⟨?_, ?_, fun id u hu => .inl ?_⟩
  · rw [hposts]
    exact nofun
  · rw [hcomments]
    exact nofun
  · rw [((reachable_populated accounts).numbered.users id u hu).1]
    exact Table.contains_of_get? hu

variable {accounts : List (NewUser × String × Bool)} {config : Config}
  {cache : Option Cache.Memory} {mailer : Mail.Mailer} {instant : Int} {start : App}
  {es : List Event}

/-- **Validity.** From a start with users alone, if any, all posts and comments are valid after
every run of requests, and so are all users but those of the start. -/
theorem valid_of_run
    (hstart : App.start? config (populated accounts) cache mailer instant = some start)
    (hes : ∀ e ∈ es, e.IsOwn) :
    (∀ id p, (start.after es).store.posts.get? id = some p → ValidPost p) ∧
      (∀ id c, (start.after es).store.comments.get? id = some c → ValidComment c) ∧
      ∀ id u, (start.after es).store.users.get? id = some u →
        start.store.users.get? id = none → ValidUser u := by
  have hstore : start.store = populated accounts := by
    obtain ⟨authority, -, rfl⟩ := Option.map_eq_some_iff.1 hstart
    rfl
  have hvalid : Valid (fun id => start.store.users.contains id) (start.after es).store := by
    refine after_keeps (P := fun app => Valid _ app.store)
      (fun app e he h => valid_step h (hes e he)) ?_
    rw [hstore]
    exact valid_populated accounts
  refine ⟨hvalid.posts, hvalid.comments, fun id u hu hnew => ?_⟩
  have hid : u.id = id := by
    obtain ⟨cs, hcs⟩ := after_calls es start
    rw [hcs, hstore] at hu
    exact ((reachable_populated accounts).numbered.run cs |>.users id u hu).1
  refine (hvalid.users id u hu).resolve_left fun hknown => ?_
  rw [hid, Table.contains, hnew] at hknown
  cases hknown

/-- The user 101 writes a post. -/
def samplePosting : Request where
  method := "POST"
  path := "/v1/posts"
  query := none
  headers := ("content-type", "application/json") :: sampleRemoval.headers
  peer := none
  body := Text.Utf8.encode
    "\x7b\x22title\x22:\x22first\x22,\x22content\x22:\x22draft\x22,\x22tags\x22:[]\x7d"

/-- Somebody registers and writes a post. -/
def postingRun : List Event :=
  [.request sampleRegistration secondOccasion, .request samplePosting sampleOccasion]

theorem valid_postingRun :
    App.start? sampleConfig (populated []) none .discarding 0 = some sampleStart ∧
      (∃ u, (sampleStart.after postingRun).store.users.get? 101 = some u ∧ ValidUser u) ∧
      ∃ p, (sampleStart.after postingRun).store.posts.get? 102 = some p ∧ ValidPost p := by
  have hstart : App.start? sampleConfig (populated []) none .discarding 0 = some sampleStart :=
    start?_sampleConfig
  have hown : ∀ e ∈ postingRun, e.IsOwn := by
    intro e he
    simp only [postingRun, List.mem_cons, List.not_mem_nil, or_false] at he
    rcases he with rfl | rfl <;> trivial
  have hsettings := sameSettings_respond sampleRegistration secondOccasion sampleStart
  have hlimits : (sampleStart.respond sampleRegistration secondOccasion).2.config.limits.enabled =
      false := by
    rw [hsettings.1]
    rfl
  have hroute : Route.ofPath? samplePosting.path = some (.member .posts) := by decide +kernel
  have htext : Headers.text? samplePosting.headers "authorization" =
      Headers.text? sampleRemoval.headers "authorization" := by decide +kernel
  have htoken : authorization samplePosting.headers "Bearer" =
      authorization sampleRemoval.headers "Bearer" := by
    rw [authorization, authorization, htext]
  have hbearer : (sampleStart.respond sampleRegistration secondOccasion).2.bearer?
      samplePosting.headers sampleOccasion = some 101 :=
    (bearer?_congr hsettings.2 htoken _).trans bearer?_sampleRemoval
  have hafter : ∀ app : App, app.after postingRun =
      ((app.respond sampleRegistration secondOccasion).2.respond samplePosting
        sampleOccasion).2 := fun _ => rfl
  obtain ⟨huser, hpost⟩ : (sampleStart.after postingRun).store.users.contains 101 ∧
      (sampleStart.after postingRun).store.posts.contains 102 := by
    rw [hafter, respond_of_bearer (by decide) hlimits hroute (by simp) hbearer]
    decide +kernel
  obtain ⟨u, hu⟩ := Option.isSome_iff_exists.1 huser
  obtain ⟨p, hp⟩ := Option.isSome_iff_exists.1 hpost
  obtain ⟨hposts, -, husers⟩ := valid_of_run hstart hown
  exact ⟨hstart, ⟨u, hu, husers 101 u hu rfl⟩, p, hp, hposts 102 p hp⟩

end Microblog.Service
