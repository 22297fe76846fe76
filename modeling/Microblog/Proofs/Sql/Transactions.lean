import Microblog.Sql.Row

/-!
# What a session commits

`Session.committed` lists the transactions whose COMMIT the server has
acknowledged, each with its statements. An exchange that sends statements only
adds none (`Session.Extends.committed_of_statements`), a transaction that
succeeds adds itself (`committed_of_transaction_ok`), and one that fails adds
none (`committed_of_transaction_error`).
-/

namespace Microblog.Sql

variable {α β : Type} {s t : Session} {ms : List Sent}

/-! ## Transactions that are kept -/

/-- The statements of the transaction that is open, and the transactions that are kept. -/
structure Effects where
  pending : Option (List Sent)
  committed : List (List Sent)
  deriving DecidableEq

/-- What a message does, to a server that refuses some control statement. -/
def Effects.after (refused : Option Control) (e : Effects) : Sent → Effects
  | .control .begin => ⟨if refused = some .begin then none else some [], e.committed⟩
  | .control .commit =>
    ⟨none, if refused = some .commit then e.committed else e.committed ++ [e.pending.getD []]⟩
  | .control .rollback => ⟨none, e.committed⟩
  | .statement sql binds => ⟨e.pending.map (· ++ [.statement sql binds]), e.committed⟩

namespace Session

def effects (s : Session) : Effects := s.sent.foldl (Effects.after s.refused) ⟨none, []⟩

/-- The transactions that were committed. -/
def committed (s : Session) : List (List Sent) := s.effects.committed

/-- The second session has sent some messages more. -/
structure Extends (s : Session) (ms : List Sent) (t : Session) : Prop where
  sent : t.sent = s.sent ++ ms
  refused : t.refused = s.refused

theorem Extends.refl (s : Session) : s.Extends [] s := ⟨by simp, rfl⟩

theorem Extends.trans {u : Session} {ms' : List Sent} (h : s.Extends ms t) (h' : t.Extends ms' u) :
    s.Extends (ms ++ ms') u :=
  ⟨by rw [h'.sent, h.sent, List.append_assoc], h'.refused.trans h.refused⟩

theorem extends_record (s : Session) (m : Sent) : s.Extends [m] (s.record m) :=
  ⟨by simp [sent, record], rfl⟩

theorem Extends.effects (h : s.Extends ms t) :
    t.effects = ms.foldl (Effects.after s.refused) s.effects := by
  rw [Session.effects, h.sent, h.refused, List.foldl_append]
  rfl

theorem effects_record (s : Session) (m : Sent) :
    (s.record m).effects = s.effects.after s.refused m := (s.extends_record m).effects

/-- Nothing is committed exactly as long as no COMMIT was sent and acknowledged. -/
theorem committed_eq_nil_iff (s : Session) :
    s.committed = [] ↔ s.refused = some .commit ∨ .control .commit ∉ s.sent := by
  have hfold : ∀ (ms : List Sent) (e : Effects),
      (ms.foldl (Effects.after s.refused) e).committed = [] ↔
        e.committed = [] ∧ (s.refused = some .commit ∨ .control .commit ∉ ms) := by
    intro ms
    induction ms with
    | nil => simp
    | cons m ms ih =>
      intro e
      rw [List.foldl_cons, ih]
      rcases m with (_ | _ | _) | ⟨sql, binds⟩
      case control.commit =>
        by_cases hc : s.refused = some .commit <;> simp [Effects.after, hc]
      all_goals simp [Effects.after]
  rw [committed, effects, hfold]
  simp

end Session

/-- A message that begins or ends no transaction. -/
def Sent.IsStatement (m : Sent) : Prop := ∃ sql binds, m = .statement sql binds

theorem effects_of_statements (hms : ∀ m ∈ ms, m.IsStatement) (refused : Option Control)
    (e : Effects) :
    ms.foldl (Effects.after refused) e = ⟨e.pending.map (· ++ ms), e.committed⟩ := by
  induction ms generalizing e with
  | nil => cases e with | mk pending committed => cases pending <;> simp
  | cons m ms ih =>
    obtain ⟨sql, binds, rfl⟩ := hms m List.mem_cons_self
    rw [List.foldl_cons, ih fun m hm => hms m (List.mem_cons_of_mem _ hm)]
    cases e with | mk pending committed => cases pending <;> simp [Effects.after]

theorem Session.Extends.committed_of_statements (h : s.Extends ms t)
    (hms : ∀ m ∈ ms, m.IsStatement) : t.committed = s.committed := by
  rw [Session.committed, h.effects, effects_of_statements hms]
  rfl

/-! ## Running an exchange -/

namespace Exchange

theorem runIn_bind_ok {e : Exchange α} {f : α → Exchange β} {a : α}
    (h : e.runIn s = (.ok a, t)) : (e >>= f).runIn s = (f a).runIn t := by
  unfold runIn at h ⊢
  rw [ExceptT.run_bind, StateT.run_bind, h]
  rfl

theorem runIn_bind_error {e : Exchange α} {f : α → Exchange β} {x : Halt}
    (h : e.runIn s = (.error x, t)) : (e >>= f).runIn s = (.error x, t) := by
  unfold runIn at h ⊢
  rw [ExceptT.run_bind, StateT.run_bind, h]
  rfl

theorem runIn_tryCatch_ok {e : Exchange α} {f : Halt → Exchange α} {a : α}
    (h : e.runIn s = (.ok a, t)) : (tryCatch e f : Exchange α).runIn s = (.ok a, t) := by
  unfold runIn at h ⊢
  change StateT.run (ExceptT.tryCatch e f) s = _
  unfold ExceptT.tryCatch
  change StateT.run (e.run >>= _) s = _
  rw [StateT.run_bind, h]
  rfl

theorem runIn_tryCatch_error {e : Exchange α} {f : Halt → Exchange α} {x : Halt}
    (h : e.runIn s = (.error x, t)) : (tryCatch e f : Exchange α).runIn s = (f x).runIn t := by
  unfold runIn at h ⊢
  change StateT.run (ExceptT.tryCatch e f) s = _
  unfold ExceptT.tryCatch
  change StateT.run (e.run >>= _) s = _
  rw [StateT.run_bind, h]
  rfl

theorem runIn_limited_ok {e : Exchange α} {a : α} (h : e.runIn s = (.ok a, t)) :
    (limited e).runIn s = (.ok a, t) := runIn_tryCatch_ok h

theorem runIn_limited_error {e : Exchange α} {x : Halt} (h : e.runIn s = (.error x, t)) :
    (limited e).runIn s = (.error (if x = .hung then .failed .timeout else x), t) :=
  runIn_tryCatch_error h

theorem runIn_control (c : Control) (s : Session) :
    (control c).runIn s =
      (if s.refused = some c then .error (.failed (Fault.server refusal).failure) else .ok (),
        s.record (.control c)) := by
  refine (runIn_bind_ok (a := ()) (t := s.record (.control c)) rfl).trans ?_
  change (if s.refused = some c then _ else _ : Exchange Unit).runIn _ = _
  split <;> rfl

theorem runIn_control_eq_ok {c : Control} {x : Unit} (h : (control c).runIn s = (.ok x, t)) :
    s.refused ≠ some c ∧ t = s.record (.control c) := by
  rw [runIn_control] at h
  split at h
  · cases h
  · rename_i hc
    cases h
    exact ⟨hc, rfl⟩

theorem runIn_control_eq_error {c : Control} {x : Halt} (h : (control c).runIn s = (.error x, t)) :
    s.refused = some c ∧ t = s.record (.control c) := by
  rw [runIn_control] at h
  split at h
  · rename_i hc
    cases h
    exact ⟨hc, rfl⟩
  · cases h

theorem runIn_bind_eq_ok {e : Exchange α} {f : α → Exchange β} {b : β} {u : Session}
    (h : (e >>= f).runIn s = (.ok b, u)) :
    ∃ a t, e.runIn s = (.ok a, t) ∧ (f a).runIn t = (.ok b, u) := by
  cases hrun : e.runIn s with
  | mk r t =>
    cases r with
    | error x =>
      rw [runIn_bind_error hrun] at h
      cases h
    | ok a =>
      rw [runIn_bind_ok hrun] at h
      exact ⟨a, t, rfl, h⟩

theorem runIn_bind_eq_error {e : Exchange α} {f : α → Exchange β} {x : Halt} {u : Session}
    (h : (e >>= f).runIn s = (.error x, u)) :
    e.runIn s = (.error x, u) ∨ ∃ a t, e.runIn s = (.ok a, t) ∧ (f a).runIn t = (.error x, u) := by
  cases hrun : e.runIn s with
  | mk r t =>
    cases r with
    | error y =>
      rw [runIn_bind_error hrun] at h
      cases h
      exact .inl rfl
    | ok a =>
      rw [runIn_bind_ok hrun] at h
      exact .inr ⟨a, t, rfl, h⟩

/-! ## What an exchange sends -/

/-- An exchange that sends some messages, whatever is answered. -/
def Sends (e : Exchange α) (ms : List Sent) : Prop := ∀ s : Session, s.Extends ms (e.runIn s).2

/-- An exchange that sends nothing but statements. -/
def SendsStatements (e : Exchange α) : Prop :=
  ∀ s : Session, ∃ ms : List Sent, (∀ m ∈ ms, m.IsStatement) ∧ s.Extends ms (e.runIn s).2

theorem sends_pure (a : α) : Sends (pure a) [] := Session.Extends.refl

theorem sends_throw (h : Halt) : Sends (throw h : Exchange α) [] := Session.Extends.refl

theorem sends_statement (sql : String) (binds : List Bind) :
    Sends (statement sql binds) [.statement sql binds] := by
  intro s
  have hrun : ∃ r, (statement sql binds).runIn s =
      (r, { s.record (.statement sql binds) with script := s.script.tail }) := by
    obtain ⟨script, refused, log⟩ := s
    cases script with
    | nil => exact ⟨_, rfl⟩
    | cons r rest => cases r <;> exact ⟨_, rfl⟩
  obtain ⟨r, hr⟩ := hrun
  rw [hr]
  exact ⟨(Session.extends_record s _).sent, rfl⟩

/-- What is done with an answer sends nothing. -/
theorem Sends.bind {e : Exchange α} {f : α → Exchange β} (he : Sends e ms)
    (hf : ∀ a, Sends (f a) []) : Sends (e >>= f) ms := by
  intro s
  have hext := he s
  cases hrun : e.runIn s with
  | mk r t =>
    rw [hrun] at hext
    cases r with
    | error x =>
      rw [runIn_bind_error hrun]
      exact hext
    | ok a =>
      rw [runIn_bind_ok hrun]
      simpa using hext.trans (hf a t)

theorem Sends.limited {e : Exchange α} (he : Sends e ms) : Sends (limited e) ms := by
  intro s
  have hext := he s
  cases hrun : e.runIn s with
  | mk r t =>
    rw [hrun] at hext
    cases r with
    | error x =>
      rw [runIn_limited_error hrun]
      exact hext
    | ok a =>
      rw [runIn_limited_ok hrun]
      exact hext

theorem Sends.statements {e : Exchange α} (he : Sends e ms) (hms : ∀ m ∈ ms, m.IsStatement) :
    SendsStatements e := fun s => ⟨ms, hms, he s⟩

theorem SendsStatements.bind {e : Exchange α} {f : α → Exchange β} (he : SendsStatements e)
    (hf : ∀ a, SendsStatements (f a)) : SendsStatements (e >>= f) := by
  intro s
  obtain ⟨ms, hms, hext⟩ := he s
  cases hrun : e.runIn s with
  | mk r t =>
    rw [hrun] at hext
    cases r with
    | error x =>
      rw [runIn_bind_error hrun]
      exact ⟨ms, hms, hext⟩
    | ok a =>
      obtain ⟨ms', hms', hext'⟩ := hf a t
      rw [runIn_bind_ok hrun]
      refine ⟨ms ++ ms', fun m hm => ?_, hext.trans hext'⟩
      exact (List.mem_append.1 hm).elim (hms m) (hms' m)

theorem sends_query (sql : String) (binds : List Bind) :
    Sends (query sql binds) [.statement sql binds] :=
  (sends_statement sql binds).bind fun r => by cases r <;> exact sends_pure _

theorem sends_execute (sql : String) (binds : List Bind) :
    Sends (execute sql binds) [.statement sql binds] :=
  (sends_statement sql binds).bind fun r => by cases r <;> exact sends_pure _

theorem sends_ofRow (r : RowReader α) (row : List Cell) : Sends (ofRow r row) [] := by
  unfold ofRow
  cases r.run row with
  | ok a => exact sends_pure a
  | error f => exact sends_throw _

theorem sends_queryOptional (sql : String) (binds : List Bind) (r : RowReader α) :
    Sends (queryOptional sql binds r) [.statement sql binds] := by
  refine (sends_query sql binds).bind fun rows => ?_
  cases rows with
  | nil => exact sends_pure _
  | cons row rows => exact (sends_ofRow r row).bind fun _ => sends_pure _

theorem sends_queryOne (sql : String) (binds : List Bind) (r : RowReader α) :
    Sends (queryOne sql binds r) [.statement sql binds] := by
  refine (sends_queryOptional sql binds r).bind fun found => ?_
  cases found with
  | none => exact sends_throw _
  | some a => exact sends_pure a

theorem sends_queryAll (sql : String) (binds : List Bind) (r : RowReader α) :
    Sends (queryAll sql binds r) [.statement sql binds] := by
  refine (sends_query sql binds).bind fun rows => ?_
  induction rows with
  | nil => exact sends_pure _
  | cons row rows ih =>
    rw [List.mapM_cons]
    exact (sends_ofRow r row).bind fun _ => ih.bind fun _ => sends_pure _

theorem sends_bindTime (t : Timestamp) : Sends (bindTime t) [] := by
  unfold bindTime
  cases serverTime? t with
  | none => exact sends_throw _
  | some t => exact sends_pure _

/-! ## Transactions -/

/-- The body of a transaction between its BEGIN and its COMMIT. -/
def bracketed (body : Exchange α) : Exchange α := do
  control .begin
  let a ← body
  control .commit
  return a

theorem runIn_transaction_ok {body : Exchange α} {a : α}
    (h : (bracketed body).runIn s = (.ok a, t)) : (transaction body).runIn s = (.ok a, t) :=
  runIn_tryCatch_ok h

theorem runIn_transaction_error {body : Exchange α} {x : Halt}
    (h : (bracketed body).runIn s = (.error x, t)) :
    (transaction body).runIn s =
      (.error x, if x = .hung then t else t.record (.control .rollback)) := by
  refine (runIn_tryCatch_error h).trans ?_
  by_cases hx : x = .hung
  · simp only [hx, ne_eq, not_true_eq_false, if_false, if_true]
    rfl
  · simp only [hx, ne_eq, not_false_eq_true, if_true, if_false]
    rfl

/-- Where a transaction succeeds, its BEGIN and its COMMIT were accepted. -/
theorem transaction_eq_ok {body : Exchange α} {a : α} (h : (transaction body).runIn s = (.ok a, t)) :
    s.refused ≠ some .begin ∧ ∃ u, body.runIn (s.record (.control .begin)) = (.ok a, u) ∧
      u.refused ≠ some .commit ∧ t = u.record (.control .commit) := by
  cases hrun : (bracketed body).runIn s with
  | mk r u =>
    cases r with
    | error x =>
      rw [runIn_transaction_error hrun] at h
      cases h
    | ok b =>
      rw [runIn_transaction_ok hrun] at h
      cases h
      obtain ⟨_, s₁, hbegin, hrun⟩ := runIn_bind_eq_ok hrun
      obtain ⟨a', s₂, hbody, hrun⟩ := runIn_bind_eq_ok hrun
      obtain ⟨_, s₃, hcommit, hrun⟩ := runIn_bind_eq_ok hrun
      cases hrun
      obtain ⟨hbegun, rfl⟩ := runIn_control_eq_ok hbegin
      obtain ⟨hrefused, rfl⟩ := runIn_control_eq_ok hcommit
      exact ⟨hbegun, s₂, hbody, hrefused, rfl⟩

/-- A transaction that succeeds commits the statements of its body. -/
theorem committed_of_transaction_ok {body : Exchange α} {a : α} (hms : ∀ m ∈ ms, m.IsStatement)
    (hbody : (s.record (.control .begin)).Extends ms (body.runIn (s.record (.control .begin))).2)
    (h : (transaction body).runIn s = (.ok a, t)) : t.committed = s.committed ++ [ms] := by
  obtain ⟨hbegun, u, hrun, hrefused, rfl⟩ := transaction_eq_ok h
  rw [hrun] at hbody
  have heffects : u.effects = ⟨some ms, s.committed⟩ := by
    rw [hbody.effects, effects_of_statements hms, Session.effects_record]
    simp [Effects.after, hbegun, Session.committed]
  rw [Session.committed, Session.effects_record, heffects]
  simp [Effects.after, hrefused]

/-- A control statement commits nothing but by an acknowledged COMMIT. -/
theorem committed_record_control {c : Control} (h : c = .commit → s.refused = some .commit) :
    (s.record (.control c)).committed = s.committed := by
  rw [Session.committed, Session.effects_record]
  cases c with
  | commit => simp [Effects.after, h rfl, Session.committed]
  | begin => rfl
  | rollback => rfl

/-- Where the part between BEGIN and the answer to COMMIT fails, there is no acknowledged COMMIT. -/
theorem committed_of_bracketed_error {body : Exchange α} {x : Halt} (hbody : SendsStatements body)
    (h : (bracketed body).runIn s = (.error x, t)) : t.committed = s.committed := by
  have hbegin : (s.record (.control .begin)).committed = s.committed :=
    committed_record_control (by simp)
  obtain h | ⟨_, s₁, hb, h⟩ := runIn_bind_eq_error h
  -- BEGIN is refused
  · obtain ⟨-, rfl⟩ := runIn_control_eq_error h
    exact hbegin
  obtain ⟨-, rfl⟩ := runIn_control_eq_ok hb
  obtain ⟨ms, hms, hext⟩ := hbody (s.record (.control .begin))
  have hkept := hext.committed_of_statements hms
  obtain h | ⟨a, s₂, hrun, h⟩ := runIn_bind_eq_error h
  -- the body fails
  · rw [h] at hkept
    exact hkept.trans hbegin
  rw [hrun] at hkept
  obtain h | ⟨_, s₃, -, h⟩ := runIn_bind_eq_error h
  -- COMMIT is refused
  · obtain ⟨hrefused, rfl⟩ := runIn_control_eq_error h
    exact (committed_record_control fun _ => hrefused).trans (hkept.trans hbegin)
  · cases h

/-- A transaction that fails commits nothing. -/
theorem committed_of_transaction_error {body : Exchange α} {x : Halt} (hbody : SendsStatements body)
    (h : (transaction body).runIn s = (.error x, t)) : t.committed = s.committed := by
  cases hrun : (bracketed body).runIn s with
  | mk r u =>
    have hkept : ∀ y, r = .error y → u.committed = s.committed := by
      rintro y rfl
      exact committed_of_bracketed_error hbody hrun
    cases r with
    | ok b =>
      rw [runIn_transaction_ok hrun] at h
      cases h
    | error y =>
      rw [runIn_transaction_error hrun] at h
      cases h
      split
      · exact hkept _ rfl
      · exact (committed_record_control (by simp)).trans (hkept _ rfl)

end Exchange

end Microblog.Sql
