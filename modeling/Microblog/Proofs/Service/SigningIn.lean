import Microblog.Proofs.Account.Hashing
import Microblog.Proofs.Account.Issuing
import Microblog.Proofs.Content.Checks
import Microblog.Proofs.Service.Caching
import Microblog.Proofs.Service.Enrolment

/-!
# Signing in

Whoever has registered is refused a token until an invitation to the account is
taken up, and given one from then on, whatever else is asked of the application
in between (`signsIn_of_registration`). The token stands for the user as long as
it holds. It is of no use if it is issued before the year 1970, and a password
that is too short or too long for a registration is turned away before it is
compared with the stored hash (`signing_in_has_bounds`). All of this is meant as
long as no request in between leaves the store locked (`Jams`).
-/

namespace Microblog.Service

open Account Content Http Store

variable {app start : App} {req : Request} {o : Occasion} {e : Event} {es : List Event} {id : Int64}
  {email password token : String} {p : Password} {t : Task}

/-! ## Accounts that are in use -/

/-- The event is a request. -/
def Event.IsRequest : Event → Prop
  | .request .. => True
  | _ => False

/-- An application without limits, whose cache can be written, that has an account. -/
structure Enrolled (app : App) (id : Int64) (email : String) (p : Password) : Prop where
  unlimited : app.config.limits.enabled = false
  numbered : Numbered app.store
  account : HasAccount app.store id email p
  ownEntries : OwnEntries app.cache
  writable : Writable app.cache

theorem Enrolled.respond (h : Enrolled app id email p) (req : Request) (o : Occasion) :
    Enrolled (app.respond req o).2 id email p where
  unlimited := by rw [(sameSettings_respond req o app).1, h.unlimited]
  numbered := numbered_step h.numbered (.request req o)
  account := h.account.respond h.numbered req o
  ownEntries := h.ownEntries.caches (caches_respond req o app)
  writable := h.writable.caches (caches_respond req o app)

theorem Enrolled.after (h : Enrolled app id email p) (hes : ∀ e ∈ es, e.IsRequest) :
    Enrolled (app.after es) id email p := by
  refine after_keeps (P := (Enrolled · id email p)) (fun app e he h => ?_) h
  cases e with
  | request req o => exact h.respond req o
  | _ => exact (hes _ he).elim

/-! ## Accounts that are activated -/

/-- The event is a request that takes up an invitation to the account. -/
def TakesUp (app : App) (e : Event) (id : Int64) : Prop :=
  ∃ req o token inv r, e = .request req o ∧ AsksToActivate req token ∧
    app.store.invitations.get? (tokenKey token) = some inv ∧ inv.userId = id ∧
    (app.respond req o).1 = some r ∧ r.status = 204

/-- An event of the run has taken up an invitation to the account. -/
def Activated (start : App) (es : List Event) (id : Int64) : Prop :=
  ∃ es₁ e es₂, es = es₁ ++ e :: es₂ ∧ TakesUp (start.after es₁) e id

theorem activated_cons_iff :
    Activated start (e :: es) id ↔ TakesUp start e id ∨ Activated (start.step e) es id := by
  constructor
  · rintro ⟨_ | ⟨e₁, es₁⟩, e', es₂, he, htakes⟩ <;> cases he
    · exact .inl htakes
    · exact .inr ⟨es₁, e', es₂, rfl, htakes⟩
  · rintro (htakes | ⟨es₁, e', es₂, rfl, htakes⟩)
    · exact ⟨[], e, es, rfl, htakes⟩
    · exact ⟨e :: es₁, e', es₂, rfl, htakes⟩

/-- After a request an account is active if it was before, or if the request has taken up an
invitation to it. -/
theorem activity?_respond_iff (h : Enrolled app id email p) :
    activity? (app.respond req o).2.store id = some true ↔
      activity? app.store id = some true ∨ TakesUp app (.request req o) id := by
  have hmeter := congrArg Prod.fst (meter_of_unlimited h.unlimited req o.instant)
  have hstep := activityStep_request h.numbered req o
  constructor
  · intro hafter
    obtain ⟨u, hu, -⟩ := h.account.stored
    have hbefore : activity? app.store id = some u.isActive := activity?_eq_some_iff.2 ⟨u, hu, rfl⟩
    cases hactive : u.isActive with
    | true => exact .inl (hbefore.trans (congrArg some hactive))
    | false =>
      rw [hactive] at hbefore
      obtain ⟨req', o', token, inv, he, hasks, hinv, hid, -⟩ :=
        hstep.activates h.numbered hbefore hafter
      cases he
      obtain ⟨hstore, r, hr, ⟨-, h204⟩ | ⟨herror, -⟩⟩ := respond_activate hasks hmeter
      · exact .inr ⟨req, o, token, inv, r, rfl, hasks, hinv, hid, hr, h204⟩
      -- an activation that fails leaves the account inactive
      · rcases activate_cases token o.now app.store with hend | ⟨_, -, -, hend⟩
        · rw [hstore, hend, hbefore] at hafter
          cases hafter
        · rw [hend] at herror
          cases herror
  · rintro (hbefore | ⟨req', o', token, inv, r, he, hasks, hinv, rfl, hr, h204⟩)
    · exact hstep.stays h.numbered hbefore
    · cases he
      obtain ⟨hstore, r', hr', hend⟩ := respond_activate hasks hmeter
      cases hr.symm.trans hr'
      rcases hend with ⟨hok, -⟩ | ⟨-, h404⟩
      · rcases activate_cases token o.now app.store with hfail | ⟨inv', hinv', -, hdone⟩
        · rw [hfail] at hok
          cases hok
        · cases hinv.symm.trans hinv'
          obtain ⟨u, hu, -⟩ := h.account.stored
          rw [activity?, hstore, hdone, Table.get?_modify, if_pos rfl, hu]
          rfl
      · omega

/-- **Activity.** After a run of requests an account is active if it was before, or if an invitation
to it has been taken up. -/
theorem activity?_after_iff (h : Enrolled start id email p) (hes : ∀ e ∈ es, e.IsRequest) :
    activity? (start.after es).store id = some true ↔
      activity? start.store id = some true ∨ Activated start es id := by
  induction es generalizing start with
  | nil => exact (or_iff_left (by rintro ⟨_ | _, _, _, he, -⟩ <;> cases he)).symm
  | cons e es ih =>
    have hrest : ∀ e' ∈ es, e'.IsRequest := fun e' he' => hes e' (List.mem_cons_of_mem e he')
    cases e with
    | request req o =>
      have hnext := ih (h.respond req o) hrest
      rw [activity?_respond_iff h, or_assoc] at hnext
      rw [activated_cons_iff]
      exact hnext
    | _ => exact (hes _ List.mem_cons_self).elim

/-! ## Requests for a token -/

/-- The request asks for a token with an address and a password. -/
structure LogsIn (req : Request) (email password : String) : Prop where
  method : req.method = "POST"
  path : req.path = "/v1/authentication/token"
  body : readBody Login req = .ok ⟨email, password⟩

theorem LogsIn.method_ne (h : LogsIn req email password) :
    req.method ≠ "OPTIONS" ∧ req.method ≠ "HEAD" := by
  rw [h.method]
  decide

theorem LogsIn.planFront (h : LogsIn req email password) :
    app.planFront .token (Verb.ofMethod? req.method) req o = orReply (app.planToken req) := by
  rw [h.method]
  rfl

/-- The reply to a login that is not planned. -/
theorem refused_of_planToken {f : Refusal} (hunlimited : app.config.limits.enabled = false)
    (h : LogsIn req email password) (hplan : app.planToken req = .error f) :
    ∃ r, (app.respond req o).1 = some r ∧ r.status = f.status := by
  have hfront : app.planFront .token (Verb.ofMethod? req.method) req o = .error f.reply := by
    rw [h.planFront, hplan]
    rfl
  exact refused_front hunlimited h.method_ne.1 (ofPath?_eq_token_iff.2 h.path) hfront

/-- The reply to a login that is to be given a token. -/
theorem granted_of_planToken {c : Claims} (hunlimited : app.config.limits.enabled = false)
    (h : LogsIn req email password) (hplan : app.planToken req = .ok (.issueToken id))
    (hclaims : app.authority.claimsFor? o.unix id = some c) (hsign : app.authority.sign c = .ok token) :
    ∃ r, (app.respond req o).1 = some r ∧ r.status = 201 ∧ r.body = .json (.string token) := by
  have hissue : app.issueToken id o = some (.json 201 (.string token)) := by
    rw [App.issueToken, hclaims, Option.map_some, hsign]
  have hfront : app.planFront .token (Verb.ofMethod? req.method) req o = .ok (.issueToken id) := by
    rw [h.planFront, hplan]
    rfl
  have ht := undertakes_front hunlimited h.method_ne.1 (ofPath?_eq_token_iff.2 h.path) hfront
  rw [ht.respond_eq]
  simp only [App.perform, hissue, Option.map_some]
  exact ⟨_, rfl, status_finish .., body_finish h.method_ne.2 _⟩

/-! ## Passwords at the login -/

theorem checkCredentials_error {f : Refusal} (h : checkCredentials email password = .error f) :
    f.status = 400 := by
  unfold checkCredentials at h
  split at h
  · cases h
    rfl
  split at h
  · cases h
    rfl
  · cases h

/-- Who has the account is found by the address while active. -/
theorem HasAccount.getUserByEmail_active {s : Store} (h : HasAccount s id email p)
    (hs : Numbered s) (hactive : activity? s id = some true) :
    ∃ u, s.getUserByEmail email = .ok u ∧ u.id = id ∧ u.password = p := by
  obtain ⟨u, hu, hemail, hpassword⟩ := h.stored
  obtain ⟨u', hu', hisActive⟩ := activity?_eq_some_iff.1 hactive
  cases hu.symm.trans hu'
  have hfound : (s.users.values.find? fun u => u.email == email && u.isActive).isSome :=
    List.find?_isSome.2 ⟨u, Table.mem_values_iff.2 ⟨id, hu⟩, by simp [hemail, hisActive]⟩
  obtain ⟨v, hv⟩ := Option.isSome_iff_exists.1 hfound
  obtain ⟨j, hget⟩ := Table.mem_values_iff.1 (List.mem_of_find?_eq_some hv)
  have hvemail := List.find?_some hv
  simp only [Bool.and_eq_true, beq_iff_eq] at hvemail
  obtain rfl := h.alone j _ hget hvemail.1
  cases hu.symm.trans hget
  exact ⟨u, by rw [getUserByEmail, hv], (hs.users j u hu).1, hpassword⟩

/-- While inactive the account is not found. -/
theorem HasAccount.getUserByEmail_inactive {s : Store} (h : HasAccount s id email p)
    (hinactive : activity? s id ≠ some true) : s.getUserByEmail email = .error .notFound := by
  have hnone : (s.users.values.find? fun u => u.email == email && u.isActive) = none := by
    rw [List.find?_eq_none]
    intro v hmem hv
    obtain ⟨j, hget⟩ := Table.mem_values_iff.1 hmem
    simp only [Bool.and_eq_true, beq_iff_eq] at hv
    obtain rfl := h.alone j v hget hv.1
    exact hinactive (activity?_eq_some_iff.2 ⟨v, hget, hv.2⟩)
  rw [getUserByEmail, hnone]

theorem isSome_verify? (h : HashText) (q : String) : (h.verify? q).isSome = !h.overflows := by
  unfold HashText.verify?
  cases h.overflows with
  | true => rfl
  | false =>
    rw [if_neg Bool.false_ne_true]
    cases Recipe.of? h <;> rfl

/-- A hash that has a verdict on one candidate has a verdict on every other. -/
theorem verify?_eq_some_false {q q' : String} {b : Bool} (h : p.verify? q = some b)
    (hq : p.verify? q' ≠ some true) : p.verify? q' = some false := by
  have hsome : (p.verify? q').isSome = true := by
    unfold Password.verify? at h ⊢
    cases hparse : HashText.parse p.text with
    | error f => rfl
    | ok hash =>
      rw [hparse] at h
      change hash.verify? q = some b at h
      change (hash.verify? q').isSome = true
      rw [isSome_verify?, ← isSome_verify? hash q, h]
      rfl
  cases hverdict : p.verify? q' with
  | none =>
    rw [hverdict] at hsome
    cases hsome
  | some b =>
    cases b with
    | true => exact absurd hverdict hq
    | false => rfl

/-! ## What a login comes to -/

theorem planToken_of_logsIn (h : LogsIn req email password) :
    app.planToken req =
      match checkCredentials email password with
      | .error f => .error f
      | .ok () =>
        match app.store.getUserByEmail email with
        | .error .notFound => .error .unauthorized
        | .error f => .error (.ofFailure f)
        | .ok user =>
          match user.password.verify? password with
          | none => .ok .overflow
          | some true => .ok (.issueToken user.id)
          | some false => .error .unauthorized := by
  rw [App.planToken, h.body]
  change (checkCredentials email password >>= _) = _
  cases checkCredentials email password <;> rfl

/-- A login with the wrong password or to an account that is not active is refused. -/
theorem Enrolled.refuses {b : Bool} (h : Enrolled app id email p) (hlogs : LogsIn req email password)
    (hcheck : checkCredentials email password = .ok ()) (hverify : p.verify? password = some b)
    (hwrong : activity? app.store id = some true → b = false) :
    ∃ r, (app.respond req o).1 = some r ∧ r.status = 401 := by
  refine refused_of_planToken (f := .unauthorized) h.unlimited hlogs ?_
  by_cases hactive : activity? app.store id = some true
  · obtain ⟨u, hu, -, rfl⟩ := h.account.getUserByEmail_active h.numbered hactive
    obtain rfl := hwrong hactive
    simp only [planToken_of_logsIn hlogs, hcheck, hu, hverify]
  · simp only [planToken_of_logsIn hlogs, hcheck, h.account.getUserByEmail_inactive hactive]

/-- A login with the right password to an active account is given a token. -/
theorem Enrolled.issues (h : Enrolled app id email p) (hlogs : LogsIn req email password)
    (hcheck : checkCredentials email password = .ok ()) (hverify : p.verify? password = some true)
    (hactive : activity? app.store id = some true) {c : Claims}
    (hclaims : app.authority.claimsFor? o.unix id = some c) (hsign : app.authority.sign c = .ok token) :
    ∃ r, (app.respond req o).1 = some r ∧ r.status = 201 ∧ r.body = .json (.string token) := by
  obtain ⟨u, hu, rfl, rfl⟩ := h.account.getUserByEmail_active h.numbered hactive
  refine granted_of_planToken h.unlimited hlogs ?_ hclaims hsign
  simp only [planToken_of_logsIn hlogs, hcheck, hu, hverify]

/-! ## Signing in -/

/-- Every request that carries the token from its issue to its end is one of the user, whatever is
asked of the application in between. -/
def StandsFor (app : App) (token : String) (issued id : Int64) : Prop :=
  ∀ (es : List Event) (req : Request) (o : Occasion), (∀ e ∈ es, e.IsRequest) →
    req.headers.lookup "authorization" = some ("Bearer " ++ token) → issued ≤ o.unix →
      o.unix.toInt ≤ issued.toInt + app.authority.ttl →
        ∃ u, ((app.after es).authenticate req.headers o).1 = .ok u ∧ u.id = id

/-- A token that is issued for an account stands for its user. -/
theorem Enrolled.standsFor {issued : Int64} (h : Enrolled app id email p)
    (hissues : app.authority.Issues issued id token) : StandsFor app token issued id := by
  intro es req o hes hheader hbegun hlasts
  have hlater := h.after hes
  obtain ⟨c, hverify, hid⟩ := hissues.accepted o.unix hbegun hlasts
  rw [← (sameSettings_after es app).2] at hverify
  obtain ⟨u, hu, -⟩ := hlater.account.stored
  obtain ⟨v, hv, hvid⟩ :=
    resolve_of_stored hlater.numbered hlater.ownEntries hlater.writable hu o.instant
  have htoken := authorization_of_visible hheader hissues.visible
  exact ⟨v, authenticate_eq_ok_iff.2 ⟨token, c, id, htoken, hverify, hid, hv⟩, hvid⟩

/-- What logins with the address of an account are answered after a run of requests. -/
structure SignsIn (start : App) (es : List Event) (id : Int64) (email password : String)
    (p : Password) : Prop where
  /-- Until an invitation to the account is taken up, there is no token. -/
  refused : ¬ Activated start es id → ∀ (req : Request) (o : Occasion), LogsIn req email password →
    ∃ r, ((start.after es).respond req o).1 = some r ∧ r.status = 401
  /-- From then on there is one, if its end has a number. It is of use since 1970. -/
  granted : Activated start es id → ∀ (req : Request) (o : Occasion), LogsIn req email password →
    o.unix.toInt + start.authority.ttl < 0x8000000000000000 →
      ∃ r token, ((start.after es).respond req o).1 = some r ∧ r.status = 201 ∧
        r.body = .json (.string token) ∧
        (0 ≤ o.unix → StandsFor ((start.after es).respond req o).2 token o.unix id)
  /-- A password within the bounds that the stored hash does not verify. -/
  wrong : ∀ q, 3 ≤ q.utf8ByteSize → q.utf8ByteSize ≤ 72 → p.verify? q ≠ some true →
    ∀ (req : Request) (o : Occasion), LogsIn req email q →
      ∃ r, ((start.after es).respond req o).1 = some r ∧ r.status = 401
  /-- A password outside the bounds is not compared with it. -/
  unbounded : ∀ q, q.utf8ByteSize < 3 ∨ 72 < q.utf8ByteSize →
    ∀ (req : Request) (o : Occasion), LogsIn req email q →
      ∃ r, ((start.after es).respond req o).1 = some r ∧ r.status = 400

/-- A password outside the bounds is refused, whoever has the address. -/
theorem refused_of_unbounded (hunlimited : app.config.limits.enabled = false)
    (hlogs : LogsIn req email password)
    (hbounds : password.utf8ByteSize < 3 ∨ 72 < password.utf8ByteSize) :
    ∃ r, (app.respond req o).1 = some r ∧ r.status = 400 := by
  cases hcheck : checkCredentials email password with
  | ok =>
    obtain ⟨-, hlo, hhi⟩ := checkCredentials_eq_ok_iff.1 hcheck
    omega
  | error f =>
    have hplan : app.planToken req = .error f := by
      simp only [planToken_of_logsIn hlogs, hcheck]
    obtain ⟨r, hr, hstatus⟩ := refused_of_planToken hunlimited hlogs hplan
    exact ⟨r, hr, hstatus.trans (checkCredentials_error hcheck)⟩

theorem Enrolled.signsIn (h : Enrolled start id email p) (hes : ∀ e ∈ es, e.IsRequest)
    (hinactive : activity? start.store id = some false) (hsecret : start.authority.secret ≠ "")
    (httl : start.authority.ttl < 0x8000000000000000)
    (hcheck : checkCredentials email password = .ok ()) (hverify : p.verify? password = some true) :
    SignsIn start es id email password p := by
  have hlater := h.after hes
  have hauthority := (sameSettings_after es start).2
  have hactive : activity? (start.after es).store id = some true ↔ Activated start es id := by
    rw [activity?_after_iff h hes, hinactive]
    simp
  refine ⟨fun hnot req o hlogs => ?_, fun hactivated req o hlogs hfits => ?_,
    fun q hlo hhi hwrong req o hlogs => ?_, fun q hbounds req o hlogs => ?_⟩
  · exact hlater.refuses hlogs hcheck hverify fun ha => absurd (hactive.1 ha) hnot
  · obtain ⟨c, token, hclaims, -, hsign, hissues⟩ :=
      Authority.issues_of_secret hsecret httl hfits id
    rw [← hauthority] at hclaims hsign hissues
    obtain ⟨r, hr, h201, hbody⟩ :=
      hlater.issues hlogs hcheck hverify (hactive.2 hactivated) hclaims hsign
    refine ⟨r, token, hr, h201, hbody, fun hissued => (hlater.respond req o).standsFor ?_⟩
    rw [(sameSettings_respond req o (start.after es)).2]
    exact hissues hissued
  · have hbounds : checkCredentials email q = .ok () :=
      checkCredentials_eq_ok_iff.2 ⟨(checkCredentials_eq_ok_iff.1 hcheck).1, hlo, hhi⟩
    exact hlater.refuses hlogs hbounds (verify?_eq_some_false hverify hwrong) fun _ => rfl
  · exact refused_of_unbounded hlater.unlimited hlogs hbounds

/-- A registration that succeeds enrols an account that is still inactive. -/
theorem enrolled_of_registration {reg : Registration} {r : Reply} (hreach : app.Reachable)
    (hunlimited : app.config.limits.enabled = false) (hwrites : Writable app.cache)
    (hasks : AsksToRegister req) (hbody : readBody Registration req = .ok reg)
    (hr : (app.respond req o).1 = some r) (h201 : r.status = 201) :
    checkCredentials reg.email reg.password = .ok () ∧ ∃ id expiry, Registers app req o id expiry ∧
      Enrolled (app.respond req o).2 id reg.email (.make o.salt reg.password) ∧
      activity? (app.respond req o).2.store id = some false := by
  have hs := hreach.store.numbered
  have hcaches := caches_respond req o app
  obtain ⟨hcheck, id, expiry, hregisters, haccount⟩ :=
    account_of_registration hs hunlimited hasks hbody hr h201
  rw [Registration.check, ite_error_eq_ok_iff] at hcheck
  obtain ⟨u, -, hu, hinactive, -⟩ := hregisters.stored
  refine ⟨hcheck.2, id, expiry, hregisters, ⟨?_, numbered_step hs (.request req o), haccount,
    hreach.ownEntries.caches hcaches, hwrites.caches hcaches⟩,
    activity?_eq_some_iff.2 ⟨u, hu, hinactive⟩⟩
  rw [(sameSettings_respond req o app).1, hunlimited]

/-- **Signing in.** After a registration that succeeds, and whatever is asked of the application
from then on, a login with the address and the password is refused until an invitation to the
account is taken up, and then given a token that stands for the new user. Of the hash no more is
asked than that it verifies the password that it was made from. -/
theorem signsIn_of_registration {reg : Registration} {r : Reply} (hreach : app.Reachable)
    (hunlimited : app.config.limits.enabled = false) (hsecret : app.authority.secret ≠ "")
    (httl : app.authority.ttl < 0x8000000000000000) (hwrites : Writable app.cache)
    (hasks : AsksToRegister req) (hbody : readBody Registration req = .ok reg)
    (hr : (app.respond req o).1 = some r) (h201 : r.status = 201)
    (hverify : (Password.make o.salt reg.password).verify? reg.password = some true)
    (hes : ∀ e ∈ es, e.IsRequest) :
    ∃ id expiry, Registers app req o id expiry ∧
      SignsIn (app.respond req o).2 es id reg.email reg.password (.make o.salt reg.password) := by
  obtain ⟨hcheck, id, expiry, hregisters, henrolled, hinactive⟩ :=
    enrolled_of_registration hreach hunlimited hwrites hasks hbody hr h201
  rw [← (sameSettings_respond req o app).2] at hsecret httl
  exact ⟨id, expiry, hregisters, henrolled.signsIn hes hinactive hsecret httl hcheck hverify⟩

/-- An occasion with a salt of the usual length. -/
def saltedOccasion : Occasion := ⟨.ofUnix 2000000000, 0, "second", List.replicate 16 7⟩

theorem verify?_saltedOccasion :
    (Password.make saltedOccasion.salt "secret").verify? "secret" = some true :=
  Password.verify?_make (by decide) (by decide) "secret"

theorem readBody_sampleRegistration :
    readBody Registration sampleRegistration = .ok ⟨"bob", "bob@example.com", "secret"⟩ :=
  toOption_eq_some_iff.1 (by decide +kernel)

theorem writable_sampleStart : Writable sampleStart.cache := by
  rintro _ ⟨⟩

theorem respond_sampleRegistration :
    ∃ r, (sampleStart.respond sampleRegistration saltedOccasion).1 = some r ∧ r.status = 201 :=
  Option.map_eq_some_iff.1 (by decide +kernel)

/-- The invitation is taken up between the registration and the login. -/
theorem signsIn_sampleRegistration :
    sampleStart.Reachable ∧ Writable sampleStart.cache ∧ AsksToRegister sampleRegistration ∧
      (Password.make saltedOccasion.salt "secret").verify? "secret" = some true ∧
      ∃ id expiry, Registers sampleStart sampleRegistration saltedOccasion id expiry ∧
        SignsIn (sampleStart.respond sampleRegistration saltedOccasion).2
          [.request sampleActivation saltedOccasion] id "bob@example.com" "secret"
          (.make saltedOccasion.salt "secret") := by
  have hreach : sampleStart.Reachable := reachable_after_sampleStart []
  obtain ⟨r, hr, h201⟩ := respond_sampleRegistration
  have hes : ∀ e ∈ [.request sampleActivation saltedOccasion], Event.IsRequest e := by
    intro e he
    cases List.mem_singleton.1 he
    trivial
  have h := signsIn_of_registration hreach rfl (by decide) (by decide) writable_sampleStart
    ⟨rfl, rfl⟩ readBody_sampleRegistration hr h201 verify?_saltedOccasion hes
  exact ⟨hreach, writable_sampleStart, ⟨rfl, rfl⟩, verify?_saltedOccasion, h⟩

/-- The application after a registration whose invitation has been taken up. -/
def activatedApp : App := sampleStart.after
  [.request sampleRegistration saltedOccasion, .request sampleActivation saltedOccasion]

theorem enrolled_activatedApp : ∃ id, activity? activatedApp.store id = some true ∧
    Enrolled activatedApp id "bob@example.com" (.make saltedOccasion.salt "secret") := by
  obtain ⟨r, hr, h201⟩ := respond_sampleRegistration
  obtain ⟨-, id, -, -, hregistered, -⟩ := enrolled_of_registration (reachable_after_sampleStart [])
    rfl writable_sampleStart ⟨rfl, rfl⟩ readBody_sampleRegistration hr h201
  have henrolled : Enrolled activatedApp id "bob@example.com" (.make saltedOccasion.salt "secret") :=
    hregistered.respond sampleActivation saltedOccasion
  have hfound : (activatedApp.store.getUserByEmail "bob@example.com").toOption.isSome = true := by
    decide +kernel
  refine ⟨id, Classical.byContradiction fun hinactive => ?_, henrolled⟩
  rw [henrolled.account.getUserByEmail_inactive hinactive] at hfound
  cases hfound

/-- A login to the account. -/
def sampleLogin (password : String) : Request where
  method := "POST"
  path := "/v1/authentication/token"
  query := none
  headers := [("content-type", "application/json")]
  peer := none
  body := Text.Utf8.encode
    ("\x7b\x22email\x22:\x22bob@example.com\x22,\x22password\x22:\x22" ++ password ++ "\x22\x7d")

theorem logsIn_sampleLogin {password : String} (h : password ∈ ["ab", "secret"]) :
    LogsIn (sampleLogin password) "bob@example.com" password := by
  refine ⟨rfl, rfl, toOption_eq_some_iff.1 ?_⟩
  exact (by decide +kernel : ∀ password ∈ ["ab", "secret"],
    (readBody Login (sampleLogin password)).toOption = some ⟨"bob@example.com", password⟩) _ h

/-- The clock shows a time before the year 1970. -/
def earlyOccasion : Occasion := ⟨.ofUnix (-100), 0, "third", []⟩

/-- A short password is refused as a body that breaks its bounds. A token that is issued before the
year 1970 is refused at all times, although it has an end. -/
theorem signing_in_has_bounds :
    (Password.make saltedOccasion.salt "secret").verify? "secret" = some true ∧
      LogsIn (sampleLogin "ab") "bob@example.com" "ab" ∧
      (activatedApp.respond (sampleLogin "ab") saltedOccasion).1.map Reply.status = some 400 ∧
      LogsIn (sampleLogin "secret") "bob@example.com" "secret" ∧
      ∃ r token, (activatedApp.respond (sampleLogin "secret") earlyOccasion).1 = some r ∧
        r.status = 201 ∧ r.body = .json (.string token) ∧
        ∀ (req : Request) (o : Occasion),
          req.headers.lookup "authorization" = some ("Bearer " ++ token) →
            (activatedApp.authenticate req.headers o).1 = .error .unauthorized := by
  have hlogs := @logsIn_sampleLogin "secret" (by simp)
  have hcheck : checkCredentials "bob@example.com" "secret" = .ok () :=
    checkCredentials_eq_ok_iff.2 (by decide +kernel)
  obtain ⟨id, hactive, henrolled⟩ := enrolled_activatedApp
  have hauthority : activatedApp.authority = sampleStart.authority := (sameSettings_after _ _).2
  obtain ⟨c, token, hclaims, hnbf, hsign, -⟩ := @Authority.issues_of_secret sampleStart.authority
    earlyOccasion.unix (by decide) (by decide) (by decide) id
  rw [← hauthority] at hclaims hsign
  obtain ⟨r, hr, h201, hbody⟩ :=
    henrolled.issues hlogs hcheck verify?_saltedOccasion hactive hclaims hsign
  have hshort := @logsIn_sampleLogin "ab" (by simp)
  have h400 := Option.map_eq_some_iff.2
    (refused_of_unbounded (o := saltedOccasion) henrolled.unlimited hshort (by decide))
  refine ⟨verify?_saltedOccasion, hshort, h400, hlogs, r, token, hr, h201, hbody,
    fun req o hheader => ?_⟩
  have hnone : activatedApp.bearer? req.headers o = none := by
    rw [Option.eq_none_iff_forall_ne_some]
    intro j hj
    obtain ⟨token', d, htoken, hd, -⟩ := bearer?_eq_some_iff.1 hj
    cases htoken.symm.trans (authorization_of_visible hheader (Authority.isVisible_of_sign hsign))
    exact Authority.verify_sign_ne_ok hsign (by rw [hnbf]; decide) _ d hd
  rw [App.authenticate, hnone]

end Microblog.Service
