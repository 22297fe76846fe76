import Microblog.Proofs.Account.Issuing
import Microblog.Proofs.Bytes.Canonical
import Microblog.Proofs.Service.Authorisation
import Microblog.Proofs.Service.Undertakings

/-!
# The operators' page

The page with the state of the application is shown to a request whose
authorization header is one text, made of the configured name and password
(`basicCredentials`), and to no other: base64 and UTF-8 are read from their
written form alone, and a name without a colon ends at the first one. Where name
or password is not configured, or the name has a colon, no header will do
(`operators_page_shown_iff`).
-/

namespace Microblog.Service

open Account Http Text Bytes

variable {app : App} {req : Request} {o : Occasion} {headers : Headers}
  {user password text : String}

/-- The authorization header for a name and a password. -/
def basicCredentials (user password : String) : String :=
  "Basic " ++ String.ofList (Base64.encodePadded .standard (Utf8.encode (user ++ ":" ++ password)))

/-- The header is that of the configured name and password, of which neither is empty. -/
structure IsOperator (basic : Config.BasicAuth) (headers : Headers) : Prop where
  named : basic.user ≠ ""
  secured : basic.password ≠ ""
  /-- A name with a colon would end at it. -/
  whole : ':' ∉ basic.user.toList
  header : Headers.text? headers "authorization" =
    some (basicCredentials basic.user basic.password)

/-! ## Credentials -/

theorem space_not_mem_encodePadded (bs : List UInt8) :
    ' ' ∉ Base64.encodePadded .standard bs := by
  intro hmem
  rcases List.mem_append.1 hmem with hsymbol | hpadding
  · obtain ⟨n, hn⟩ := Base64.mem_encode hsymbol
    obtain ⟨m, hm, he⟩ := exists_symbol_lt .standard n
    exact (by decide : ∀ m < 64, ' ' ≠ Alphabet.standard.symbol m) m hm (hn.trans he)
  · exact absurd (List.eq_of_mem_replicate hpadding) (by decide)

theorem read_eq_some_iff {encoded : String} :
    (Base64.decodePadded? .standard encoded.toList).bind Utf8.decode? = some text ↔
      encoded = String.ofList (Base64.encodePadded .standard (Utf8.encode text)) := by
  rw [Option.bind_eq_some_iff, ← String.toList_inj, String.toList_ofList]
  constructor
  · rintro ⟨bs, hencoded, htext⟩
    rw [decodePadded?_eq_some_iff] at hencoded
    rw [Utf8.decode?_eq_some_iff] at htext
    rw [hencoded, htext]
  · intro hencoded
    exact ⟨_, decodePadded?_eq_some_iff.2 hencoded, Utf8.decode?_encode text⟩

/-- **Credentials.** A text is found in the header that is written for it, and in no other. -/
theorem basicText?_eq_some_iff : App.basicText? headers = some text ↔
    Headers.text? headers "authorization" =
      some ("Basic " ++ String.ofList (Base64.encodePadded .standard (Utf8.encode text))) := by
  unfold App.basicText?
  constructor
  · intro h
    split at h
    · cases h
    rename_i encoded hok
    rw [read_eq_some_iff] at h
    rw [h] at hok
    exact (authorization_eq_ok_iff.1 hok).1
  · intro htext
    have hspace : ' ' ∉ (String.ofList
        (Base64.encodePadded .standard (Utf8.encode text))).toList := by
      rw [String.toList_ofList]
      exact space_not_mem_encodePadded _
    rw [authorization_eq_ok_iff.2 ⟨htext, by decide, hspace⟩]
    exact read_eq_some_iff.2 rfl

/-- The name goes up to the first colon. -/
theorem isPair_iff : App.isPair user password text = true ↔
    ':' ∉ user.toList ∧ text = user ++ ":" ++ password := by
  unfold App.isPair
  constructor
  · intro h
    split at h
    · cases h
    rename_i u p hcut
    obtain ⟨c, hc, htext, hu⟩ := eq_of_cutAt hcut
    obtain rfl : c = ':' := by simpa using hc
    simp only [Bool.and_eq_true, beq_iff_eq] at h
    obtain ⟨rfl, rfl⟩ := h
    refine ⟨fun hmem => absurd (hu ':' hmem) (by decide), ?_⟩
    rw [← String.toList_inj, htext]
    simp
  · rintro ⟨hcolon, rfl⟩
    have hcut : cutAt (· == ':') (user ++ ":" ++ password).toList =
        some (user.toList, password.toList) := by
      rw [show (user ++ ":" ++ password).toList = user.toList ++ ':' :: password.toList by simp]
      refine cutAt_append (by rfl) fun c hc => beq_false_of_ne ?_
      rintro rfl
      exact hcolon hc
    rw [hcut]
    simp

/-- **Operators.** Nobody else is let in. -/
theorem demandOperator_eq_ok_iff :
    app.demandOperator headers = .ok () ↔ IsOperator app.config.basicAuth headers := by
  unfold App.demandOperator
  dsimp only
  constructor
  · intro h
    split at h
    · cases h
    rename_i text htext
    rw [ite_error_eq_ok_iff] at h
    obtain ⟨hset, h⟩ := h
    rw [not_or] at hset
    split at h
    · rename_i hpair
      obtain ⟨hcolon, rfl⟩ := isPair_iff.1 hpair
      exact ⟨hset.1, hset.2, hcolon, basicText?_eq_some_iff.1 htext⟩
    · cases h
  · intro h
    have htext := basicText?_eq_some_iff.2 h.header
    have hset : ¬ (app.config.basicAuth.user = "" ∨ app.config.basicAuth.password = "") :=
      not_or.2 ⟨h.named, h.secured⟩
    simp only [htext, hset, if_false, isPair_iff.2 ⟨h.whole, rfl⟩, if_true]

theorem demandOperator_error {f : Refusal} (h : app.demandOperator headers = .error f) :
    f = .unauthorizedBasic ∨ f = .internal := by
  unfold App.demandOperator at h
  dsimp only at h
  split at h
  · cases h
    exact .inl rfl
  split at h
  · cases h
    exact .inr rfl
  split at h
  · cases h
  · cases h
    exact .inl rfl

/-! ## The page -/

/-- The state of the application is shown. -/
def ShowsState (app : App) (req : Request) (o : Occasion) : Prop :=
  ∃ r, (app.respond req o).1 = some r ∧ r.status = 200 ∧ r.body = .json (app.debugVars o)

/-- The request has been refused by the guard of the page. -/
def TurnsAway (app : App) (req : Request) (o : Occasion) : Prop :=
  ∃ f : Refusal, (f = .unauthorizedBasic ∨ f = .internal) ∧
    (app.respond req o).1 = some (f.reply.withOrigins app.origins)

/-- A request for the page that is admitted is answered as the guard decides. -/
theorem respond_operators (hmethod : req.method = "GET") (hpath : req.path = "/v1/debug/vars")
    (hmeter : (app.meter req o.instant).1 = .ok ()) :
    (app.respond req o).1 = some (match app.demandOperator req.headers with
      | .ok () => (Reply.json 200 (app.debugVars o)).withOrigins app.origins
      | .error f => f.reply.withOrigins app.origins) := by
  have hroute : Route.ofPath? req.path = some (.front .debugVars) :=
    ofPath?_eq_debugVars_iff.2 hpath
  have hnot : req.method ≠ "OPTIONS" := by
    rw [hmethod]
    decide
  obtain ⟨l, hl⟩ := meter_eq req o.instant app
  have hdemand : ({ app with limiter := l } : App).demandOperator req.headers =
      app.demandOperator req.headers := rfl
  have hverb : Verb.ofMethod? req.method = some .get := by
    rw [hmethod]
    rfl
  have hfinish : ∀ r, App.finish (some (.front .debugVars)) req.method r = r := by
    intro r
    rw [hmethod]
    rfl
  rw [respond_of_metered hnot hmeter hroute, hl]
  simp only [App.serve, App.plan, App.planFront, hverb, hfinish, hdemand]
  cases app.demandOperator req.headers with
  | error f => rfl
  | ok u => rfl

/-- **The operators' page.** A request for the page that the limiter admits is shown the state of
the application if and only if its header is that of the operator, and is turned away otherwise. -/
theorem operators_page_shown_iff (hmethod : req.method = "GET")
    (hpath : req.path = "/v1/debug/vars") (hmeter : (app.meter req o.instant).1 = .ok ()) :
    (ShowsState app req o ↔ IsOperator app.config.basicAuth req.headers) ∧
      (TurnsAway app req o ↔ ¬ IsOperator app.config.basicAuth req.headers) := by
  have hrespond := respond_operators hmethod hpath hmeter
  rw [← demandOperator_eq_ok_iff]
  unfold ShowsState TurnsAway
  cases hdemand : app.demandOperator req.headers with
  | ok u =>
    rw [hdemand] at hrespond
    refine ⟨iff_of_true ⟨_, hrespond, rfl, rfl⟩ rfl, iff_of_false ?_ (fun h => h rfl)⟩
    rintro ⟨f, hf, hrefused⟩
    have hreply := Option.some.inj (hrespond.symm.trans hrefused)
    have hstatus : 200 = f.status := congrArg Reply.status hreply
    rcases hf with rfl | rfl <;> cases hstatus
  | error f =>
    rw [hdemand] at hrespond
    have hf := demandOperator_error hdemand
    refine ⟨iff_of_false ?_ (fun h => nomatch h),
      iff_of_true ⟨f, hf, hrespond⟩ (fun h => nomatch h)⟩
    rintro ⟨r, hr, hstatus, -⟩
    cases hrespond.symm.trans hr
    change f.status = 200 at hstatus
    rcases hf with rfl | rfl <;> cases hstatus

/-- An operator with a password that has a colon and a letter beyond ASCII. -/
def operatedApp : App := { sampleStart with
  config := { sampleConfig with basicAuth := ⟨"ops", "p:ä"⟩ } }

/-- The request of that operator. -/
def operatorRequest : Request :=
  ⟨"GET", "/v1/debug/vars", none, [("authorization", "Basic b3BzOnA6w6Q=")], none, []⟩

/-- The operator is shown the page. -/
theorem operators_page_shown_operatorRequest :
    (operatedApp.meter operatorRequest 0).1 = .ok () ∧
      IsOperator operatedApp.config.basicAuth operatorRequest.headers ∧
      ShowsState operatedApp operatorRequest sampleOccasion := by
  have hmeter : (operatedApp.meter operatorRequest 0).1 = .ok () := by
    rw [meter_of_unlimited rfl]
  have hheader : IsOperator operatedApp.config.basicAuth operatorRequest.headers :=
    ⟨by decide, by decide, by decide, by decide +kernel⟩
  exact ⟨hmeter, hheader, (operators_page_shown_iff rfl rfl hmeter).1.2 hheader⟩

end Microblog.Service
