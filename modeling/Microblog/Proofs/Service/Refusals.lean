import Microblog.Proofs.Service.Authorisation
import Microblog.Proofs.Service.Undertakings

/-!
# Requests that change nothing

A request that is answered with anything but success leaves all users,
invitations, posts, comments and follow edges as they were. So does a request to
read, whatever its answer (`unchanged_of_reachable`). The one request that takes
back what it has done is a registration whose mail fails: it deletes the user
whom it has stored, and with the user the invitation under the key of its token,
which had not been in use.
-/

namespace Microblog.Service

open Account Content Http Store

variable {app app' : App} {req : Request} {o : Occasion} {t : Task} {r : Reply} {s : Store}

/-- The status is one of success. -/
def Succeeds (r : Reply) : Prop := 200 ≤ r.status ∧ r.status < 300

instance (r : Reply) : Decidable (Succeeds r) := inferInstanceAs (Decidable (_ ∧ _))

/-! ## Operations that fail -/

section Operations

variable {f : Failure}

theorem sameRecords_createPost {d : NewPost} (h : (s.createPost d).1 = .error (.failed f)) :
    SameRecords s (s.createPost d).2 := by
  rcases createPost_cases d s with he | ⟨_, _, -, -, he⟩ <;> rw [he] at h <;> cases h

/-- A stale update moves the clock alone. -/
theorem sameRecords_updatePost {p : Post} (h : (s.updatePost p).1 = .error (.failed f)) :
    SameRecords s (s.updatePost p).2 := by
  rcases updatePost_cases p s with
    ⟨-, he⟩ | ⟨now, -, ⟨-, he⟩ | ⟨q, -, -, ⟨-, he⟩ | ⟨-, he⟩⟩⟩ <;> rw [he] at h ⊢ <;> cases h
  exact ⟨rfl, rfl, rfl, rfl, rfl⟩

theorem sameRecords_createComment {d : NewComment}
    (h : (s.createComment d).1 = .error (.failed f)) : SameRecords s (s.createComment d).2 := by
  rcases createComment_cases d s with ⟨_, he⟩ | ⟨_, _, -, -, -, _, he⟩ <;> rw [he] at h ⊢
  · exact .refl s
  · cases h

theorem sameRecords_updateComment {c : Comment} (h : (s.updateComment c).1 = .error f) :
    SameRecords s (s.updateComment c).2 := by
  rcases updateComment_cases c s with ⟨-, he⟩ | ⟨_, -, he⟩ <;> rw [he] at h ⊢
  · exact .refl s
  · cases h

theorem sameRecords_activate {token : String} {now : Timestamp}
    (h : (s.activate token now).1 = .error f) : SameRecords s (s.activate token now).2 := by
  rcases activate_cases token now s with he | ⟨_, -, -, he⟩ <;> rw [he] at h ⊢
  · exact .refl s
  · cases h

theorem sameRecords_follow {a b : Int64} (h : (s.follow a b).1 = .error f) :
    SameRecords s (s.follow a b).2 := by
  rcases follow_cases a b s with ⟨_, he⟩ | ⟨-, -, he⟩ <;> rw [he] at h ⊢
  · exact .refl s
  · cases h

end Operations

/-! ## Tasks that fail -/

/-- An operation that is answered with success, or fails and leaves the records. -/
theorem sameRecords_settle {α : Type} {x : Except Stop α × Store} {reply : α → Reply}
    (h : (app.settle x reply).1 = some r) (hr : ¬ Succeeds r) (hok : ∀ a, Succeeds (reply a))
    (herror : ∀ f, x.1 = .error (.failed f) → SameRecords app.store x.2) :
    SameRecords app.store (app.settle x reply).2.store := by
  rw [store_settle]
  rcases settle_reply h with ⟨a, -, rfl⟩ | ⟨f, hf, -⟩
  · exact absurd (hok a) hr
  · exact herror f hf

theorem sameRecords_conclude {α : Type} {x : Except Failure α × Store} {reply : α → Reply}
    (h : (app.conclude x reply).1 = some r) (hr : ¬ Succeeds r) (hok : ∀ a, Succeeds (reply a))
    (herror : ∀ f, x.1 = .error f → SameRecords app.store x.2) :
    SameRecords app.store (app.conclude x reply).2.store := by
  refine sameRecords_settle h hr hok fun f hf => herror f ?_
  obtain ⟨outcome, s⟩ := x
  cases outcome with
  | ok a => cases hf
  | error e =>
    cases hf
    rfl

/-- No invitation is under the key of the token, unless mails can be sent. -/
def FreshToken (app : App) (o : Occasion) : Prop :=
  app.mailer = .failing → app.store.invitations.get? (tokenKey o.token) = none

theorem sameRecords_register {u : NewUser} (hs : Numbered app.store) (hi : InvitesKnown app.store)
    (hfresh : FreshToken app o) (h : (app.register u o).1 = some r) (hr : ¬ Succeeds r) :
    SameRecords app.store (app.register u o).2.store := by
  rcases register_cases u o app with ⟨_, he, -⟩ | ⟨secs, s, -, ⟨-, he⟩ |
    ⟨user, hinvite, ⟨hm, he⟩ | ⟨-, m, -, he⟩⟩⟩ <;> rw [he] at h ⊢
  · exact .refl app.store
  · cases h
  -- the mail fails
  · have hback := sameRecords_withdrawn hs hi (hfresh hm) (congrArg Prod.fst hinvite)
    rw [hinvite] at hback
    exact hback
  · cases h
    exact absurd ⟨by simp [Reply.json], by simp [Reply.json]⟩ hr

theorem sameRecords_showUser (id : Int64) (o : Occasion) (app : App) :
    SameRecords app.store (app.perform (.showUser id) o).2.store := by
  obtain ⟨c, n, hn⟩ := resolve_eq id o.instant app
  rw [perform_showUser, hn]
  exact sameRecords_reads app.store n

/-- **Tasks.** A task that is answered with anything but success leaves the records. -/
theorem sameRecords_perform (hs : Numbered app.store) (hi : InvitesKnown app.store)
    (hfresh : ∀ u, t = .register u → FreshToken app o) (h : (app.perform t o).1 = some r)
    (hr : ¬ Succeeds r) : SameRecords app.store (app.perform t o).2.store := by
  have hjson : ∀ n v, 200 ≤ n → n < 300 → Succeeds (.json n v) := fun _ _ hle hlt => ⟨hle, hlt⟩
  have hbare : Succeeds (.bare 204) := by decide
  cases t with
  | answer r => exact .refl app.store
  | overflow => exact .refl app.store
  | issueToken id => exact .refl app.store
  | register u => exact sameRecords_register hs hi (hfresh u rfl) h hr
  | activate token =>
    exact sameRecords_conclude h hr (fun _ => hbare) fun _ => sameRecords_activate
  | showUser id => exact sameRecords_showUser id o app
  | createPost d =>
    refine sameRecords_settle h hr (fun _ => hjson _ _ (by omega) (by omega)) fun _ => ?_
    exact sameRecords_createPost
  | updatePost p =>
    refine sameRecords_settle h hr (fun _ => hjson _ _ (by omega) (by omega)) fun _ => ?_
    exact sameRecords_updatePost
  | deletePost id =>
    cases h
    exact absurd hbare hr
  | createComment d =>
    refine sameRecords_settle h hr (fun _ => hjson _ _ (by omega) (by omega)) fun _ => ?_
    exact sameRecords_createComment
  | updateComment c =>
    refine sameRecords_conclude h hr (fun _ => hjson _ _ (by omega) (by omega)) fun _ => ?_
    exact sameRecords_updateComment
  | deleteComment id =>
    cases h
    exact absurd hbare hr
  | follow a b => exact sameRecords_conclude h hr (fun _ => hbare) fun _ => sameRecords_follow
  | unfollow a b =>
    cases h
    exact absurd hbare hr

/-! ## Requests -/

theorem get_of_method (h : req.method = "GET" ∨ req.method = "HEAD") :
    Verb.ofMethod? req.method = some .get := by
  rcases h with h | h <;> rw [h] <;> rfl

theorem sameRecords_respond (hs : Numbered app.store) (hi : InvitesKnown app.store)
    (hfresh : req.method = "POST" → req.path = "/v1/authentication/user" → FreshToken app o)
    (h : (app.respond req o).1 = some r) (hr : ¬ Succeeds r) :
    SameRecords app.store (app.respond req o).2.store := by
  rcases respond_cases req o app with ⟨route, t, app', ht⟩ | ⟨l, c, n, hn⟩
  · obtain ⟨l, c, n, rfl⟩ := ht.frame
    obtain ⟨r', hr', hstatus⟩ := ht.reply h
    have hplan := congrArg Prod.fst ht.plan
    rw [ht.store_respond]
    refine ht.sameRecords.trans (sameRecords_perform ?_ hi (fun u hu => ?_) hr' ?_)
    · exact ⟨hs.users, hs.posts, hs.comments⟩
    · subst hu
      obtain ⟨rfl, hverb, -⟩ := plan_register hplan
      exact hfresh (List.mem_singleton.1 (mem_methods_of_ofMethod? hverb))
        (ofPath?_eq_registration_iff.1 ht.lies)
    · rwa [Succeeds, ← hstatus]
  · rw [hn]
    exact sameRecords_reads app.store n

theorem sameRecords_respond_get (hverb : Verb.ofMethod? req.method = some .get) :
    SameRecords app.store (app.respond req o).2.store := by
  rcases respond_cases req o app with ⟨route, t, app', ht⟩ | ⟨l, c, n, hn⟩
  · rw [ht.store_respond]
    refine ht.sameRecords.trans ?_
    rcases plan_get hverb (congrArg Prod.fst ht.plan) with ⟨r, rfl⟩ | ⟨id, rfl⟩
    · exact .refl app'.store
    · exact sameRecords_showUser id o app'
  · rw [hn]
    exact sameRecords_reads app.store n

/-- **Requests that change nothing.** Whatever has happened to the application, a request that is
answered with anything but success, and a request to read, leave all records as they are. Of a
registration no more is asked than that its token has a new key, where its mail fails. -/
theorem unchanged_of_reachable (h : app.Reachable) (req : Request) (o : Occasion)
    (hfresh : req.method = "POST" → req.path = "/v1/authentication/user" →
      app.mailer = .failing → app.store.invitations.get? (tokenKey o.token) = none) :
    (∀ r, (app.respond req o).1 = some r → ¬ Succeeds r →
        SameRecords app.store (app.respond req o).2.store) ∧
      (req.method = "GET" ∨ req.method = "HEAD" →
        SameRecords app.store (app.respond req o).2.store) := by
  have hs := h.store.numbered
  have hi := h.store.invitesKnown
  refine ⟨fun r hr hfails => ?_, fun hget => sameRecords_respond_get (get_of_method hget)⟩
  exact sameRecords_respond hs hi hfresh hr hfails

/-- Someone has been invited, and from then on no mail is sent. -/
def unmailedApp : App := sampleStart.after [
  .call (.createAndInvite ⟨"ann", "ann@example.com", ⟨""⟩⟩ "first" 3600000000000 (.ofUnix 0)),
  .setMailer .failing]

def sampleRegistration : Request where
  method := "POST"
  path := "/v1/authentication/user"
  query := none
  headers := [("content-type", "application/json")]
  peer := none
  body := Text.Utf8.encode
    ("\x7b\x22username\x22:\x22bob\x22,\x22email\x22:\x22bob@example.com\x22," ++
      "\x22password\x22:\x22secret\x22\x7d")

/-- The token of the registration is not the one that was given out before. -/
def secondOccasion : Occasion := ⟨.ofUnix 2000000000, 0, "second", [1, 2, 3]⟩

/-- The registration fails with its mail, and nobody is stored or invited. -/
theorem unchanged_unmailedApp : unmailedApp.Reachable ∧
    unmailedApp.store.invitations.get? (tokenKey "second") = none ∧
    ∃ r, (unmailedApp.respond sampleRegistration secondOccasion).1 = some r ∧ ¬ Succeeds r ∧
      SameRecords unmailedApp.store
        (unmailedApp.respond sampleRegistration secondOccasion).2.store := by
  have hreach : unmailedApp.Reachable := reachable_after_sampleStart _
  have hfresh : unmailedApp.store.invitations.get? (tokenKey "second") = none := by
    decide +kernel
  have hstatus : (unmailedApp.respond sampleRegistration secondOccasion).1.map Reply.status =
      some 500 := by decide +kernel
  obtain ⟨r, hr, h500⟩ := Option.map_eq_some_iff.1 hstatus
  have hfails : ¬ Succeeds r := by
    rw [Succeeds, h500]
    omega
  have hsame := (unchanged_of_reachable hreach sampleRegistration secondOccasion
    fun _ _ _ => hfresh).1 r hr hfails
  exact ⟨hreach, hfresh, r, hr, hfails, hsame⟩

end Microblog.Service
