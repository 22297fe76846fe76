import Microblog.Proofs.Service.Lifetimes
import Microblog.Proofs.Service.Orders
import Microblog.Proofs.Service.SigningIn
import Microblog.Proofs.Service.Stops
import Microblog.Proofs.Service.Transparency

/-!
# Copies with and without a cache

Two copies of the application over the same records, one without a cache and one
with an empty one, are sent the same requests. Each keeps its tables in an order
of its own, which may be another one at every request. Both answer alike and
keep the same records (`transparent_of_courses`), if the users who are active or
invited have addresses of their own: else a login may find one user here and
another one there (`shared_address_divides`).

A request that overflows while it holds the store leaves the store locked for
good (`Jams`), so a course ends with it. Both copies jam at the same request.
-/

namespace Microblog.Service

open Account Content Http Store

variable {app app' ref plain cached : App} {req : Request} {o : Occasion} {route : Route} {t : Task}
  {es : List Event}

/-! ## Both jam at the same requests -/

theorem Matches.stopsInside_iff {x y : Except Reply Task × App} (h : Matches x y) :
    StopsInside o y ↔ StopsInside o x := by
  obtain ⟨planned, left, left', rfl, rfl, hleft⟩ := h.outcome
  have hconfig : left'.config = left.config := by
    obtain ⟨_, rfl, -⟩ := hleft
    rfl
  unfold StopsInside
  dsimp only
  simp only [hconfig, (hleft.perform _ o).1]

/-- The order of the tables has no part in it. -/
theorem Reorders.jams_iff (h : Reorders app app') (hs : Store.Reachable app.store)
    (hown : OwnAddresses app.store) : Jams app' req o ↔ Jams app req o := by
  obtain ⟨outcome, left, left', hl, hl', hleft⟩ := (h.meter req o.instant).outcome
  have hstore : left.store = app.store := by
    obtain ⟨l, hm⟩ := meter_eq req o.instant app
    rw [hl] at hm
    rw [show left = _ from hm]
  unfold Jams
  rw [hl, hl']
  dsimp only
  simp only [(hleft.plan (hstore ▸ hs) (hstore ▸ hown) _ req o).stopsInside_iff]

/-- Nor has a cache. -/
theorem Beside.jams_iff (h : Beside plain cached) : Jams cached req o ↔ Jams plain req o := by
  obtain ⟨hnone, hs, ⟨m, n, rfl⟩, hfaithful⟩ := h
  obtain ⟨l, hl⟩ := meter_eq req o.instant plain
  unfold Jams
  rw [meter_withCache, hl]
  refine and_congr_right fun _ => and_congr_right fun _ => exists_congr fun route =>
    and_congr_right fun _ => ?_
  obtain ⟨hsame, m', n', he⟩ :=
    @plan_withCache { plain with limiter := l } m n hnone hfaithful route req o
  unfold StopsInside
  rw [he]
  generalize (App.plan route req o { plain with limiter := l }).1 = planned at hsame ⊢
  generalize (App.plan route req o (App.withCache m n { plain with limiter := l })).1 = planned'
    at hsame ⊢
  cases hsame with
  | debugVars v v' =>
    refine iff_of_false ?_ ?_ <;> (rintro ⟨t, ht, htakes, -⟩; cases ht; cases htakes)
  | same =>
    refine exists_congr fun t => and_congr_right fun _ => and_congr_right fun _ => ?_
    by_cases hshow : ∃ id, t = .showUser id
    · obtain ⟨id, rfl⟩ := hshow
      exact iff_of_false (perform_showUser_ne_none id) (perform_showUser_ne_none id)
    · rw [perform_withCache fun id hid => hshow ⟨id, hid⟩]

/-! ## Courses -/

/-- What a copy comes to by requests, none of which jams the store, and by changes of the mailer,
while its tables may be brought into another order at any time. -/
inductive Course : List Event → App → App → Prop
  | done (app : App) : Course [] app app
  | reorder {es : List Event} {app app' : App} {s : Store} (order : Rearranged app.store s)
    (rest : Course es { app with store := s } app') : Course es app app'
  | request {es : List Event} {app app' : App} (req : Request) (o : Occasion)
    (goesOn : ¬ Jams app req o) (rest : Course es (app.respond req o).2 app') :
    Course (.request req o :: es) app app'
  | setMailer {es : List Event} {app app' : App} (mailer : Mail.Mailer)
    (rest : Course es { app with mailer } app') : Course (.setMailer mailer :: es) app app'

/-- The store has been filled by calls, and who is active or invited has an address of one's own. -/
structure Sound (s : Store) : Prop where
  reachable : Store.Reachable s
  addresses : OwnAddresses s

theorem Sound.respond (h : Sound app.store) (req : Request) (o : Occasion) :
    Sound (app.respond req o).2.store := by
  refine ⟨?_, ownAddresses_accountStep h.addresses (respond_accounts h.reachable.numbered req o)⟩
  obtain ⟨cs, hcs, -⟩ := respond_calls req o app
  rw [hcs]
  exact h.reachable.run cs

/-- A course leads to what the events lead to without changes of the order, up to order. -/
theorem Course.reorders (h : Course es app app') (hs : Sound ref.store) (href : Reorders ref app) :
    Sound (ref.after es).store ∧ Reorders (ref.after es) app' := by
  induction h generalizing ref with
  | done app => exact ⟨hs, href⟩
  | reorder order rest ih => exact ih hs (href.trans order)
  | request req o goesOn rest ih =>
    exact ih (hs.respond req o) (href.respond hs.reachable hs.addresses req o).2
  | setMailer mailer rest ih =>
    refine @ih { ref with mailer } hs ?_
    obtain ⟨t, rfl, ht⟩ := href
    exact ⟨t, rfl, ht⟩

theorem Course.isOutward (h : Course es app app') : ∀ e ∈ es, e.IsOutward := by
  induction h with
  | done app => simp
  | reorder order rest ih => exact ih
  | request req o goesOn rest ih => exact List.forall_mem_cons.2 ⟨trivial, ih⟩
  | setMailer mailer rest ih => exact List.forall_mem_cons.2 ⟨trivial, ih⟩

/-- Courses from two applications side by side, each in an order of its own. -/
theorem Beside.courses {ref' plain' cached' : App} (h : Beside ref ref') (hs : Sound ref.store)
    (hs' : Sound ref'.store) (hr : Reorders ref plain) (hr' : Reorders ref' cached)
    (hp : Course es plain plain') (hc : Course es cached cached') :
    Rearranged plain'.store cached'.store ∧
      ∀ req o, Transparent req (plain'.respond req o).1 (cached'.respond req o).1 ∧
        (Jams cached' req o ↔ Jams plain' req o) := by
  have hend := h.after hp.isOutward
  obtain ⟨hsound, hreorders⟩ := hp.reorders hs hr
  obtain ⟨hsound', hreorders'⟩ := hc.reorders hs' hr'
  refine ⟨?_, fun req o => ⟨?_, ?_⟩⟩
  · obtain ⟨m, n, he⟩ := hend.beside
    refine hreorders.store.symm.trans (Rearranged.trans ?_ hreorders'.store)
    rw [he]
    exact { Rearranged.refl _ with }
  · rw [(hreorders.respond hsound.reachable hsound.addresses req o).1,
      (hreorders'.respond hsound'.reachable hsound'.addresses req o).1]
    exact (hend.respond req o).1
  · rw [hreorders.jams_iff hsound.reachable hsound.addresses,
      hreorders'.jams_iff hsound'.reachable hsound'.addresses]
    exact hend.jams_iff

/-- **Transparency.** Two copies that start over the same records, one without a cache and one with
an empty one, answer all requests alike, jam at the same ones and keep the same records. -/
theorem transparent_of_courses {s s₁ s₂ : Store} (hs : Store.Reachable s) (hown : OwnAddresses s)
    (h₁ : Rearranged s s₁) (h₂ : Rearranged s s₂) {config : Config} {mailer : Mail.Mailer}
    {instant : Int} {plain plain' cached cached' : App}
    (hplain : App.start? config s₁ none mailer instant = some plain)
    (hcached : App.start? config s₂ (some .empty) mailer instant = some cached)
    {es : List Event} (hp : Course es plain plain') (hc : Course es cached cached') :
    Rearranged plain'.store cached'.store ∧
      ∀ req o, Transparent req (plain'.respond req o).1 (cached'.respond req o).1 ∧
        (Jams cached' req o ↔ Jams plain' req o) := by
  obtain ⟨authority, hauthority, rfl⟩ := Option.map_eq_some_iff.1 hplain
  obtain ⟨authority', hauthority', rfl⟩ := Option.map_eq_some_iff.1 hcached
  cases hauthority.symm.trans hauthority'
  -- both are compared with applications that never change the order of `s`
  exact (Beside.start hs.numbered config authority mailer _ instant).courses ⟨hs, hown⟩ ⟨hs, hown⟩
    ⟨s₁, rfl, h₁⟩ ⟨s₂, rfl, h₂⟩ hp hc

/-- The user 101 is active, and the user 102 has been invited. -/
def invitedStore : Store := run [
  .insertUser ⟨"ann", "ann@example.com", ⟨""⟩⟩ "user" true,
  .createAndInvite ⟨"bob", "bob@example.com", ⟨""⟩⟩ "second" 3600000000000 (.ofUnix 2000000000)]
  initial

/-- The application over a store, with a cache or without. -/
def startOver (s : Store) (cache : Option Cache.Memory) : App :=
  { sampleStart with store := s, cache }

theorem start?_startOver (s : Store) (cache : Option Cache.Memory) :
    App.start? sampleConfig s cache .discarding 0 = some (startOver s cache) := by
  have hof : Authority.of? "test" "test" "test" 72 = some sampleStart.authority := by decide
  simp only [App.start?, sampleConfig, hof, Option.map_some]
  rfl

/-- The user 101 asks for the user 102. -/
def sampleShow : Request := { sampleRemoval with method := "GET", path := "/v1/users/102" }

/-- The user 102 is looked at before the invitation is taken up. -/
def activatingRun : List Event :=
  [.request sampleShow sampleOccasion, .request sampleActivation secondOccasion]

/-- Neither request can jam the store. -/
theorem course_activatingRun (app : App) : Course activatingRun app (app.after activatingRun) := by
  have hgoesOn : ∀ (app : App) (req : Request) (o : Occasion),
      req.method ≠ "POST" → req.method ≠ "PATCH" → ¬ Jams app req o :=
    fun app req o hpost hpatch hjams => hjams.method.elim hpost hpatch
  refine .request _ _ (hgoesOn _ _ _ (by decide) (by decide)) ?_
  exact .request _ _ (hgoesOn _ _ _ (by decide) (by decide)) (.done _)

/-- Both copies then show the user, one of them perhaps as the user was first seen, although each has
its users in another order. -/
theorem transparent_activatingRun :
    (Store.Reachable invitedStore ∧ OwnAddresses invitedStore ∧
      Rearranged invitedStore invitedStore.turned) ∧
    let plain := (startOver invitedStore none).after activatingRun
    let cached := (startOver invitedStore.turned (some .empty)).after activatingRun
    Rearranged plain.store cached.store ∧
      Transparent sampleShow (plain.respond sampleShow sampleOccasion).1
        (cached.respond sampleShow sampleOccasion).1 ∧
      (Jams cached sampleShow sampleOccasion ↔ Jams plain sampleShow sampleOccasion) := by
  have hs : Store.Reachable invitedStore := ⟨_, rfl⟩
  have hown : OwnAddresses invitedStore := ownAddresses_of_values hs.numbered (by decide +kernel)
  have hturned := rearranged_turned invitedStore
  obtain ⟨hrecords, hreplies⟩ := transparent_of_courses hs hown (.refl _) hturned
    (start?_startOver _ none) (start?_startOver _ (some .empty))
    (course_activatingRun _) (course_activatingRun _)
  exact ⟨⟨hs, hown, hturned⟩, hrecords, hreplies sampleShow sampleOccasion⟩

/-- Two active users have one address, and only the second one has a password. -/
def sharedStore : Store := run [
  .insertUser ⟨"ann", "bob@example.com", ⟨""⟩⟩ "user" true,
  .insertUser ⟨"bob", "bob@example.com", .make saltedOccasion.salt "secret"⟩ "user" true]
  initial

/-- A login that finds a user with some password, which has a verdict. -/
theorem planToken_sampleLogin {app : App} {u : User} {b : Bool}
    (hfound : app.store.getUserByEmail "bob@example.com" = .ok u)
    (hverify : u.password.verify? "secret" = some b) :
    app.planToken (sampleLogin "secret") =
      if b then .ok (.issueToken u.id) else .error .unauthorized := by
  have hcheck : checkCredentials "bob@example.com" "secret" = .ok () :=
    checkCredentials_eq_ok_iff.2 (by decide +kernel)
  have hlogs := @logsIn_sampleLogin "secret" (by simp)
  simp only [planToken_of_logsIn hlogs, hcheck, hfound, hverify]
  cases b <;> rfl

/-- The application where invitations end when there are no more dates. -/
def endlessStart : App :=
  { sampleStart with
    config := { sampleConfig with mail := { sampleConfig.mail with invitationTtlHours := 87600000 } } }

theorem jams_endlessStart : Jams endlessStart sampleRegistration saltedOccasion := by
  have hplan : App.planRegistration sampleRegistration saltedOccasion =
      .ok (.register ⟨"bob", "bob@example.com", .make saltedOccasion.salt "secret"⟩) :=
    planRegistration_eq_ok_iff.2 ⟨_, readBody_sampleRegistration,
      toOption_eq_some_iff.1 (by decide +kernel), rfl⟩
  have ht : Undertakes endlessStart sampleRegistration saltedOccasion (.front .registration)
      (.register ⟨"bob", "bob@example.com", .make saltedOccasion.salt "secret"⟩) endlessStart :=
    undertakes_front rfl (by decide) (ofPath?_eq_registration_iff.2 rfl) (congrArg orReply hplan)
  have hadmits : Store.Admits initial ⟨"bob", "bob@example.com", .make saltedOccasion.salt "secret"⟩ :=
    ⟨nofun, nofun, nofun⟩
  have hcounts : endlessStart.config.CountsInvitation := by
    unfold Config.CountsInvitation
    decide
  exact ht.jams rfl (stopsHalfWay_iff.2 ⟨hadmits, hcounts, by decide⟩).silent

/-- If two active users share an address, a login with it is granted or refused by the order of the
users. And a registration can jam the store. -/
theorem shared_address_divides :
    (Store.Reachable sharedStore ∧ Rearranged sharedStore sharedStore.turned ∧
      App.start? sampleConfig sharedStore none .discarding 0 = some (startOver sharedStore none) ∧
      App.start? sampleConfig sharedStore.turned (some .empty) .discarding 0 =
        some (startOver sharedStore.turned (some .empty))) ∧
    (((startOver sharedStore none).respond (sampleLogin "secret") saltedOccasion).1.map
      Reply.status = some 201) ∧
    (((startOver sharedStore.turned (some .empty)).respond (sampleLogin "secret")
      saltedOccasion).1.map Reply.status = some 401) ∧
    Jams endlessStart sampleRegistration saltedOccasion := by
  have hlogs := @logsIn_sampleLogin "secret" (by simp)
  have hbob : ∃ u, sharedStore.getUserByEmail "bob@example.com" = .ok u ∧
      u.password = .make saltedOccasion.salt "secret" := ⟨_, rfl, rfl⟩
  have hann : ∃ u, sharedStore.turned.getUserByEmail "bob@example.com" = .ok u ∧
      u.password = ⟨""⟩ := ⟨_, rfl, rfl⟩
  refine ⟨⟨⟨_, rfl⟩, rearranged_turned _, start?_startOver _ _, start?_startOver _ _⟩, ?_, ?_, ?_⟩
  · obtain ⟨u, hu, hp⟩ := hbob
    have hplan := @planToken_sampleLogin (startOver sharedStore none) u true hu
      (hp ▸ verify?_saltedOccasion)
    obtain ⟨c, token, hclaims, -, hsign, -⟩ := @Authority.issues_of_secret sampleStart.authority
      saltedOccasion.unix (by decide) (by decide) (by decide) u.id
    obtain ⟨r, hr, h201, -⟩ := granted_of_planToken rfl hlogs hplan hclaims hsign
    rw [hr, Option.map_some, h201]
  · obtain ⟨u, hu, hp⟩ := hann
    have hplan := @planToken_sampleLogin (startOver sharedStore.turned (some .empty)) u false hu
      (by rw [hp]; rfl)
    obtain ⟨r, hr, h401⟩ := refused_of_planToken rfl hlogs hplan
    rw [hr, Option.map_some, h401]
    rfl
  · exact jams_endlessStart

end Microblog.Service
