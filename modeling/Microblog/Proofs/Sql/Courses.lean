import Microblog.Proofs.Sql.Transactions
import Microblog.Sql.Users

/-!
# The order of a transaction

The operations on users that need more than one statement are transactions of a
few `Step`s, of which each is sent only once the reply to the one before was
accepted. `course` says what is sent of them when a script of replies is given,
and `Follows` that an exchange does send this. It comes to `Orderly`: whatever
the server answers, and wherever it stops to answer, the session has the same
shape (`orderly_operations`).
-/

namespace Microblog.Sql

open Account

variable {α β : Type} {s t : Session} {steps : List Step} {script : List Response}

/-! ## Replies -/

/-- The reply to the statement number `i`, counted from 0. -/
def replyTo (script : List Response) (i : Nat) : Response := script.getD i (.affected 0)

theorem replyTo_tail (script : List Response) (i : Nat) :
    replyTo script.tail i = replyTo script (i + 1) := by
  cases script <;> rfl

/-- Neither an error nor silence. -/
def Response.isAnswer : Response → Bool
  | .error _ => false
  | .hang => false
  | _ => true

/-- The id in the row of a new user, which has the time of creation besides. -/
def insertedId? : Response → Option Int64
  | .rows ((.int id :: .time _ :: _) :: _) => some (.ofInt id)
  | _ => none

/-- The id in the row of an invitation. -/
def invitedId? : Response → Option Int
  | .rows ((.int id :: _) :: _) => some id
  | _ => none

theorem isAnswer_of_insertedId? {r : Response} (h : (insertedId? r).isSome = true) :
    r.isAnswer = true := by
  cases r <;> first | rfl | cases h

theorem isAnswer_of_invitedId? {r : Response} (h : (invitedId? r).isSome = true) :
    r.isAnswer = true := by
  cases r <;> first | rfl | cases h

/-! ## Steps -/

/-- A statement of a transaction, and the replies with which the transaction goes on. The statement
has no values where one of them is out of range, and then it cannot be sent. -/
structure Step where
  sql : String
  binds? : Option (List Bind)
  accepts : Response → Bool
  isAnswer_of_accepts : ∀ r, accepts r = true → r.isAnswer = true

namespace Step

def message? (st : Step) : Option Sent := st.binds?.map (.statement st.sql)

/-- A statement whose rows do not matter. -/
def change (sql : String) (binds? : Option (List Bind)) : Step where
  sql := sql
  binds? := binds?
  accepts := Response.isAnswer
  isAnswer_of_accepts _ h := h

end Step

/-- The user is added, and its row given back. -/
def addUser (u : NewUser) : Step where
  sql := insertUser
  binds? := some [.text u.username, .text u.email, .text u.password.text, .text "user"]
  accepts r := (insertedId? r).isSome
  isAnswer_of_accepts _ := isAnswer_of_insertedId?

/-- The user is added, then the invitation with the id of the user and the digest of the token. -/
def registrationSteps (u : NewUser) (token : String) (ttl : Int) (now : Timestamp)
    (script : List Response) : List Step := [
  addUser u,
  .change insertInvitation <|
    (insertedId? (replyTo script 0)).bind fun id => ((now.add? ttl).bind serverTime?).map
      fun expiry => [.text (Store.tokenKey token), .int id.toInt, .time expiry]]

/-- A live invitation is looked up by the digest of the token. -/
def findInvitation (token : String) (now : Timestamp) : Step where
  sql := selectInvitation
  binds? := (serverTime? now).map fun t => [.text (Store.tokenKey token), .time t]
  accepts r := (invitedId? r).isSome
  isAnswer_of_accepts _ := isAnswer_of_invitedId?

/-- The live invitation is looked up; then its user is activated, and all invitations of the user
are removed. -/
def activationSteps (token : String) (now : Timestamp) (script : List Response) : List Step := [
  findInvitation token now,
  .change activateUser ((invitedId? (replyTo script 0)).map fun id => [.int id]),
  .change deleteInvitations ((invitedId? (replyTo script 0)).map fun id => [.int id])]

/-- The invitations of the user are removed, then the user. -/
def removalSteps (id : Int64) : List Step := [
  .change deleteInvitations (some [.int id.toInt]),
  .change "DELETE FROM users WHERE id = $1" (some [.int id.toInt])]

/-! ## The course of some steps -/

inductive Ending where
  | finished
  | stopped
  /-- A reply never came. -/
  | hung
  deriving DecidableEq

/-- What is sent of the steps, and how they end. -/
def course : List Step → List Response → List Sent × Ending
  | [], _ => ([], .finished)
  | st :: steps, script =>
    match st.message? with
    | none => ([], .stopped)
    | some m =>
      if st.accepts (replyTo script 0) then
        (m :: (course steps script.tail).1, (course steps script.tail).2)
      else ([m], if replyTo script 0 = .hang then .hung else .stopped)

/-- The step can be sent, and the reply to it is accepted. -/
def Succeeds (script : List Response) (i : Nat) (st : Step) : Prop :=
  st.message?.isSome ∧ st.accepts (replyTo script i)

theorem isStatement_of_message? {st : Step} {m : Sent} (h : st.message? = some m) :
    m.IsStatement := by
  obtain ⟨binds, -, rfl⟩ := Option.map_eq_some_iff.1 h
  exact ⟨_, _, rfl⟩

/-- What is sent is a prefix of the steps. -/
theorem prefix_course (steps : List Step) (script : List Response) :
    (course steps script).1.map some <+: steps.map Step.message? := by
  fun_induction course steps script with
  | case1 => exact List.prefix_rfl
  | case2 => exact List.nil_prefix
  | case3 st steps script m hm haccepts ih => simpa [hm] using ih
  | case4 st steps script m hm => simp [hm]

theorem isStatement_of_mem_course {m : Sent} (h : m ∈ (course steps script).1) :
    m.IsStatement := by
  have hmem := (prefix_course steps script).subset (List.mem_map_of_mem h)
  obtain ⟨st, -, hm⟩ := List.mem_map.1 hmem
  exact isStatement_of_message? hm

/-- The steps are finished exactly if each of them succeeds. -/
theorem course_finished_iff (steps : List Step) (script : List Response) :
    (course steps script).2 = .finished ↔
      ∀ i st, steps[i]? = some st → Succeeds script i st := by
  fun_induction course steps script with
  | case1 => simp
  | case2 st steps script hm =>
    refine iff_of_false (by simp) fun h => ?_
    have := (h 0 st rfl).1
    simp [hm] at this
  | case3 st steps script m hm haccepts ih =>
    have hhead : Succeeds script 0 st := ⟨by simp [hm], haccepts⟩
    refine ih.trans ⟨?_, fun h i st' hi => ?_⟩
    · rintro htail (_ | i) st' hi
      · cases hi
        exact hhead
      · exact ⟨(htail i st' hi).1, replyTo_tail script i ▸ (htail i st' hi).2⟩
    · exact ⟨(h (i + 1) st' hi).1, replyTo_tail script i ▸ (h (i + 1) st' hi).2⟩
  | case4 st steps script m hm hno =>
    refine iff_of_false ?_ fun h => hno (h 0 st rfl).2
    split <;> simp

theorem course_of_finished (h : (course steps script).2 = .finished) :
    (course steps script).1.map some = steps.map Step.message? := by
  fun_induction course steps script with
  | case1 => rfl
  | case2 => cases h
  | case3 st steps script m hm haccepts ih => simp [hm, ih h]
  | case4 =>
    dsimp only at h
    split at h <;> cases h

/-- The steps hang exactly if a reply to what was sent of them never came. -/
theorem course_hung_iff (steps : List Step) (script : List Response) :
    (course steps script).2 = .hung ↔
      .hang ∈ script.take (course steps script).1.length := by
  fun_induction course steps script with
  | case1 => simp
  | case2 => simp
  | case3 st steps script m hm haccepts ih =>
    rw [ih]
    cases script with
    | nil => simp
    | cons r rest =>
      have hr : r ≠ .hang := by
        rintro rfl
        cases st.isAnswer_of_accepts _ haccepts
      simp [hr.symm]
  | case4 st steps script =>
    cases script with
    | nil => simp [replyTo]
    | cons r rest => by_cases hr : r = .hang <;> simp [replyTo, hr, eq_comm]

/-- A step that is sent and whose reply is not accepted is the last one. -/
theorem course_stops {i : Nat} {st : Step} (hst : steps[i]? = some st)
    (hi : i < (course steps script).1.length) (hno : ¬ st.accepts (replyTo script i)) :
    (course steps script).1.length = i + 1 ∧ (course steps script).2 ≠ .finished := by
  refine ⟨?_, fun hfinished => hno ((course_finished_iff steps script).1 hfinished i st hst).2⟩
  fun_induction course steps script generalizing i with
  | case1 => cases hst
  | case2 => cases hi
  | case3 st' steps script m hm haccepts ih =>
    cases i with
    | zero =>
      cases hst
      exact absurd haccepts hno
    | succ i =>
      rw [← replyTo_tail] at hno
      exact congrArg (· + 1) (ih hst (Nat.lt_of_succ_lt_succ hi) hno)
  | case4 => simpa using hi

/-- The same behind a BEGIN, which may be refused. -/
def begun (steps : List Step) (script : List Response) (refused : Option Control) :
    List Sent × Ending :=
  if refused = some .begin then ([], .stopped) else course steps script

/-- What is sent behind the statements of a transaction, and once it is committed. -/
def closing (refused : Option Control) (behind : List Sent) : Ending → List Sent
  | .finished =>
    if refused = some .commit then [.control .commit, .control .rollback]
    else .control .commit :: behind
  | .stopped => [.control .rollback]
  | .hung => []

/-- All that is sent for a transaction of the steps. -/
def transcript (steps : List Step) (behind : List Sent) (script : List Response)
    (refused : Option Control) : List Sent :=
  .control .begin :: (begun steps script refused).1 ++
    closing refused behind (begun steps script refused).2

/-! ## Exchanges that follow a course -/

/-- How an exchange ends. -/
def ending : Except Halt α → Ending
  | .ok _ => .finished
  | .error .hung => .hung
  | .error _ => .stopped

theorem ending_eq_finished {r : Except Halt α} : ending r = .finished ↔ ∃ a, r = .ok a := by
  rcases r with (_ | _ | _) | a <;> simp [ending]

/-- What the replies to the statement of a step are taken for. -/
def Response.ending (accepted : Bool) (r : Response) : Ending :=
  if accepted then .finished else if r = .hang then .hung else .stopped

/-- The session with one more statement, and without the reply to it. -/
def Session.advance (m : Sent) (s : Session) : Session :=
  { s.record m with script := s.script.tail }

theorem Session.extends_advance (s : Session) (m : Sent) : s.Extends [m] (s.advance m) :=
  ⟨(s.extends_record m).sent, rfl⟩

namespace Exchange

/-- From the session on, the exchange sends what is sent of the steps, and ends as they do. -/
structure Follows (e : Exchange α) (steps : List Step) (s : Session) : Prop where
  sends : s.Extends (course steps s.script).1 (e.runIn s).2
  ends : ending (e.runIn s).1 = (course steps s.script).2

theorem follows_pure (a : α) (s : Session) : Follows (pure a) [] s := ⟨.refl s, rfl⟩

/-- Where the values of a statement are out of range, nothing is sent. -/
theorem follows_overflow {st : Step} (hm : st.message? = none) (steps : List Step) (s : Session) :
    Follows (throw .overflow : Exchange α) (st :: steps) s := by
  have hcourse : course (st :: steps) s.script = ([], .stopped) := by
    rw [course, hm]
  constructor <;> rw [hcourse]
  · exact .refl s
  · rfl

/-- The exchange sends one statement, and ends as the reply to it is taken. -/
structure Asks (e : Exchange α) (st : Step) (m : Sent) (s : Session) : Prop where
  message : st.message? = some m
  sends : (e.runIn s).2 = s.advance m
  ends : ending (e.runIn s).1 = (replyTo s.script 0).ending (st.accepts (replyTo s.script 0))

/-- A step, and the others with what it has given. -/
theorem Asks.follows {e : Exchange α} {f : α → Exchange β} {st : Step} {m : Sent}
    (he : Asks e st m s)
    (hf : ∀ a, e.runIn s = (.ok a, s.advance m) → Follows (f a) steps (s.advance m)) :
    Follows (e >>= f) (st :: steps) s := by
  obtain ⟨hmessage, hsends, hends⟩ := he
  cases hrun : e.runIn s with
  | mk r t =>
    rw [hrun] at hsends hends
    change t = _ at hsends
    subst hsends
    cases haccepts : st.accepts (replyTo s.script 0) with
    | true =>
      rw [haccepts] at hends
      obtain ⟨a, rfl⟩ := ending_eq_finished.1 hends
      have hcourse : course (st :: steps) s.script =
          (m :: (course steps s.script.tail).1, (course steps s.script.tail).2) := by
        rw [course, hmessage]
        exact if_pos haccepts
      obtain ⟨hrest, hend⟩ := hf a hrun
      constructor <;> rw [runIn_bind_ok hrun, hcourse]
      · exact (s.extends_advance m).trans hrest
      · exact hend
    | false =>
      rw [haccepts] at hends
      have hcourse : course (st :: steps) s.script =
          ([m], if replyTo s.script 0 = .hang then .hung else .stopped) := by
        rw [course, hmessage]
        exact if_neg (by simp [haccepts])
      cases r with
      | ok a =>
        change Ending.finished = if replyTo s.script 0 = .hang then .hung else .stopped at hends
        split at hends <;> cases hends
      | error x =>
        constructor <;> rw [runIn_bind_error hrun, hcourse]
        · exact s.extends_advance m
        · cases x <;> exact hends

/-! ## Statements and their replies -/

theorem asks_execute (sql : String) (binds : List Bind) (s : Session) :
    Asks (execute sql binds) (.change sql (some binds)) (.statement sql binds) s := by
  obtain ⟨script, refused, log⟩ := s
  rcases script with _ | ⟨_ | _ | _ | _, rest⟩ <;> exact ⟨rfl, rfl, rfl⟩

/-- What a reply gives to a query for one row. -/
def firstOf (r : RowReader α) : Response → Except Halt α
  | .rows (row :: _) => (r.run row).mapError fun f => .failed f.failure
  | .error e => .error (.failed (Fault.server e).failure)
  | .hang => .error .hung
  | _ => .error (.failed Fault.noRow.failure)

theorem runIn_queryOne (sql : String) (binds : List Bind) (r : RowReader α) (s : Session) :
    (queryOne sql binds r).runIn s =
      (firstOf r (replyTo s.script 0), s.advance (.statement sql binds)) := by
  obtain ⟨script, refused, log⟩ := s
  rcases script with _ | ⟨(_ | ⟨row, rows⟩) | _ | _ | _, rest⟩
  case cons.rows.cons =>
    have hquery : (query sql binds).runIn ⟨.rows (row :: rows) :: rest, refused, log⟩ =
      (.ok (row :: rows), ⟨rest, refused, .statement sql binds :: log⟩) := rfl
    have hoptional : (queryOptional sql binds r).runIn ⟨.rows (row :: rows) :: rest, refused, log⟩ =
        (ofRow r row >>= fun a => pure (some a)).runIn
          ⟨rest, refused, .statement sql binds :: log⟩ := runIn_bind_ok hquery
    change _ = ((r.run row).mapError _, _)
    unfold ofRow at hoptional
    cases hrow : r.run row with
    | ok a =>
      rw [hrow] at hoptional
      exact runIn_bind_ok hoptional
    | error f =>
      rw [hrow] at hoptional
      exact runIn_bind_error hoptional
  all_goals rfl

theorem asks_queryOne (st : Step) (r : RowReader α) {binds : List Bind}
    (hbinds : st.binds? = some binds)
    (hreads : ∀ reply, st.accepts reply = (firstOf r reply).toOption.isSome) (s : Session) :
    Asks (queryOne st.sql binds r) st (.statement st.sql binds) s := by
  refine ⟨by rw [Step.message?, hbinds]; rfl, by rw [runIn_queryOne], ?_⟩
  rw [runIn_queryOne, hreads]
  rcases replyTo s.script 0 with (_ | ⟨row, rows⟩) | _ | _ | _
  case rows.cons =>
    change ending ((r.run row).mapError _) =
      Response.ending ((r.run row).mapError _).toOption.isSome _
    cases r.run row <;> rfl
  all_goals rfl

/-- The user is taken from the first row, if both of its columns have a value. -/
theorem firstOf_newUserRow (reply : Response) :
    (firstOf newUserRow reply).toOption.map (·.1) = insertedId? reply := by
  rcases reply with (_ | ⟨_ | ⟨_ | _ | _ | _ | _ | _, _ | ⟨_ | _ | _ | _ | _ | _, _⟩⟩, _⟩) |
    _ | _ | _ <;> rfl

/-- The user of an invitation is taken from the first row, if its column has a value. -/
theorem firstOf_invited (reply : Response) :
    (firstOf (.int (.numbered 0)) reply).toOption = invitedId? reply := by
  rcases reply with (_ | ⟨_ | ⟨_ | _ | _ | _ | _ | _, _⟩, _⟩) | _ | _ | _ <;> rfl

/-! ## The operations on users -/

theorem follows_insertWithInvitation (u : NewUser) (token : String) (ttl : Int) (now : Timestamp)
    (s : Session) :
    Follows (insertWithInvitation u token ttl now)
      (registrationSteps u token ttl now s.script) s := by
  have hasks := asks_queryOne (addUser u) newUserRow rfl
    (fun reply => by rw [← Option.isSome_map, firstOf_newUserRow]; rfl) s
  refine hasks.follows fun (id, createdAt) hrun => ?_
  have hid : insertedId? (replyTo s.script 0) = some id := by
    rw [runIn_queryOne] at hrun
    rw [← firstOf_newUserRow, (Prod.mk.inj hrun).1]
    rfl
  rw [hid]
  cases now.add? ttl with
  | none => exact follows_overflow rfl [] _
  | some e =>
    change Follows (bindTime e >>= _) [.change _ ((serverTime? e).map _)] _
    unfold bindTime
    cases serverTime? e with
    | none => exact follows_overflow rfl [] _
    | some expiry => exact (asks_execute insertInvitation _ _).follows fun _ _ => follows_pure id _

/-- What an activation does between its BEGIN and its COMMIT. -/
def activation (token : String) (now : Timestamp) : Exchange Unit := do
  let now ← bindTime now
  let id ← queryOne selectInvitation [.text (Store.tokenKey token), now] (.int (.numbered 0))
  let _ ← execute activateUser [.int id]
  let _ ← execute deleteInvitations [.int id]

theorem activate_eq (token : String) (now : Timestamp) :
    activate token now = limited (transaction (activation token now)) := by
  unfold activate activation queryOne
  simp only [bind_assoc]
  congr 2
  refine congrArg _ (funext fun b => congrArg _ (funext fun found => ?_))
  cases found <;> rfl

theorem follows_activation (token : String) (now : Timestamp) (s : Session) :
    Follows (activation token now) (activationSteps token now s.script) s := by
  unfold activation bindTime
  cases htime : serverTime? now with
  | none =>
    refine follows_overflow ?_ _ s
    rw [Step.message?, findInvitation, htime]
    rfl
  | some t =>
    have hasks := asks_queryOne (findInvitation token now) (.int (.numbered 0))
      (by rw [findInvitation, htime]; rfl) (fun reply => by rw [firstOf_invited]; rfl) s
    refine hasks.follows fun id hrun => ?_
    have hid : invitedId? (replyTo s.script 0) = some id := by
      rw [runIn_queryOne] at hrun
      rw [← firstOf_invited, (Prod.mk.inj hrun).1]
      rfl
    rw [hid]
    refine (asks_execute activateUser _ _).follows fun _ _ => ?_
    exact (asks_execute deleteInvitations _ _).follows fun _ _ => follows_pure () _

/-- What a removal does between its BEGIN and its COMMIT. -/
def removal (id : Int64) : Exchange Unit := do
  let _ ← execute deleteInvitations [.int id.toInt]
  let _ ← execute "DELETE FROM users WHERE id = $1" [.int id.toInt]

theorem follows_removal (id : Int64) (s : Session) :
    Follows (removal id) (removalSteps id) s := by
  have hfirst := asks_execute deleteInvitations [.int id.toInt] s
  refine hfirst.follows fun _ _ => ?_
  exact (asks_execute _ _ _).follows fun _ _ => follows_pure () _

/-! ## Transactions -/

/-- A transaction sends what is sent of its steps, and succeeds exactly if it is committed. -/
theorem Follows.transaction {body : Exchange α}
    (h : Follows body steps (s.record (.control .begin))) :
    s.Extends (transcript steps [] s.script s.refused) ((transaction body).runIn s).2 ∧
      ((∃ a, ((transaction body).runIn s).1 = .ok a) ↔
        (begun steps s.script s.refused).2 = .finished ∧ s.refused ≠ some .commit) := by
  have hbegin := s.extends_record (.control .begin)
  have hcontrol := runIn_control .begin s
  unfold transcript begun
  by_cases hb : s.refused = some .begin
  · rw [if_pos hb] at hcontrol ⊢
    rw [runIn_transaction_error (runIn_bind_error hcontrol), if_neg (by simp)]
    exact ⟨hbegin.trans (Session.extends_record _ _), by simp⟩
  rw [if_neg hb] at hcontrol ⊢
  obtain ⟨hsends, hends⟩ := h
  cases hrun : body.runIn (s.record (.control .begin)) with
  | mk r t =>
    rw [hrun] at hsends hends
    have ht : s.Extends (.control .begin :: (course steps s.script).1) t := hbegin.trans hsends
    change ending r = (course steps s.script).2 at hends
    rw [← hends]
    cases r with
    | error x =>
      have hrest := runIn_transaction_error
        ((runIn_bind_ok hcontrol).trans (runIn_bind_error hrun))
      rw [hrest]
      cases x with
      | hung => exact ⟨by simpa [closing, ending] using ht, by simp [ending]⟩
      | _ => exact ⟨ht.trans (Session.extends_record _ _), by simp [ending]⟩
    | ok a =>
      have hcommit := runIn_control .commit t
      have ht' := ht.trans (Session.extends_record t (.control .commit))
      unfold closing ending
      by_cases hc : s.refused = some .commit
      · rw [if_pos (ht.refused.trans hc)] at hcommit
        have hrest := runIn_transaction_error ((runIn_bind_ok hcontrol).trans
          ((runIn_bind_ok hrun).trans (runIn_bind_error hcommit)))
        rw [hrest]
        exact ⟨by simpa [hc] using ht'.trans (Session.extends_record _ (.control .rollback)),
          by simp [hc]⟩
      · rw [if_neg (by rw [ht.refused]; exact hc)] at hcommit
        have hrest := runIn_transaction_ok ((runIn_bind_ok hcontrol).trans
          ((runIn_bind_ok hrun).trans ((runIn_bind_ok hcommit).trans rfl)))
        rw [hrest]
        exact ⟨by simpa [hc] using ht', by simp [hc]⟩

end Exchange

/-! ## The shape of a session -/

instance (m : Sent) : Decidable m.IsStatement :=
  match m with
  | .control _ => isFalse fun ⟨_, _, h⟩ => nomatch h
  | .statement sql binds => isTrue ⟨sql, binds, rfl⟩

/-- The statements between BEGIN and the next control statement. -/
def inside (log : List Sent) : List Sent := log.tail.takeWhile fun m => m.IsStatement

/-- What a session is like that has run a transaction of some steps from its start, and sends some
statements more behind it. -/
structure Orderly (steps : List Step) (behind : List Sent) (script : List Response) (t : Session) :
    Prop where
  /-- BEGIN comes first, and the statements are followed by nothing, by ROLLBACK, by COMMIT and
  ROLLBACK, or by COMMIT and what is sent behind it. -/
  begins : ∃ tail ∈ [[], [.control .rollback], [.control .commit, .control .rollback],
    .control .commit :: behind], t.sent = .control .begin :: inside t.sent ++ tail
  /-- The statements of the transaction are a prefix of its sequence. -/
  inSequence : (inside t.sent).map some <+: steps.map Step.message?
  /-- Behind a statement that fails no more is sent than ROLLBACK. -/
  stops : ∀ i st, steps[i]? = some st → i < (inside t.sent).length →
    ¬ st.accepts (replyTo script i) →
      t.sent.drop (i + 2) = [] ∨ t.sent.drop (i + 2) = [.control .rollback]
  /-- COMMIT is sent exactly if BEGIN is not refused and every statement succeeds. -/
  commits : .control .commit ∈ t.sent ↔ t.refused ≠ some .begin ∧
    ∀ i st, steps[i]? = some st → Succeeds script i st
  /-- Before COMMIT all the statements are sent. -/
  complete : .control .commit ∈ t.sent → (inside t.sent).map some = steps.map Step.message?
  /-- ROLLBACK is the last message exactly if nothing is committed and no reply is missing. -/
  rollsBack : t.sent.getLast? = some (.control .rollback) ↔
    t.committed = [] ∧ .hang ∉ script.take (inside t.sent).length

theorem inside_of_statements {c tail : List Sent} (hc : ∀ m ∈ c, m.IsStatement)
    (htail : ∀ m ∈ tail.head?, ¬ m.IsStatement) : inside (.control .begin :: c ++ tail) = c := by
  have hnone : tail.takeWhile (fun m => decide m.IsStatement) = [] := by
    cases tail with
    | nil => rfl
    | cons m tail => simp [htail m rfl]
  rw [inside, List.cons_append, List.tail_cons,
    List.takeWhile_append_of_pos fun m hm => decide_eq_true (hc m hm), hnone, List.append_nil]

theorem not_isStatement_control (c : Control) : ¬ (Sent.control c).IsStatement := by
  rintro ⟨_, _, h⟩
  cases h

theorem head?_closing (refused : Option Control) (behind : List Sent) (e : Ending) :
    ∀ m ∈ (closing refused behind e).head?, ¬ m.IsStatement := by
  intro m hm
  unfold closing at hm
  split at hm
  · split at hm <;> cases hm <;> exact not_isStatement_control _
  · cases hm
    exact not_isStatement_control _
  · cases hm

/-- ROLLBACK ends the log of a transaction that stops, and of one whose COMMIT is refused. -/
theorem getLast?_closing {log behind : List Sent} {e : Ending} {refused : Option Control}
    (hlog : .control .rollback ∉ log) (hbehind : ∀ m ∈ behind, m.IsStatement) :
    (log ++ closing refused behind e).getLast? = some (.control .rollback) ↔
      e = .stopped ∨ (e = .finished ∧ refused = some .commit) := by
  have hnot : .control .rollback ∉ behind := fun hm => not_isStatement_control _ (hbehind _ hm)
  unfold closing
  cases e with
  | finished =>
    by_cases hc : refused = some .commit
    · simp [hc]
    · have hlast : (log ++ .control .commit :: behind).getLast? ≠ some (.control .rollback) :=
        fun h => by simpa [hlog, hnot] using List.mem_of_getLast? h
      simpa [hc] using hlast
  | stopped => simp
  | hung =>
    have hlast : log.getLast? ≠ some (.control .rollback) := fun h => hlog (List.mem_of_getLast? h)
    simpa using hlast

theorem orderly_of_refused {behind : List Sent} (hrefused : t.refused = some .begin)
    (hsent : t.sent = [.control .begin, .control .rollback]) :
    Orderly steps behind script t := by
  have hinside : inside [.control .begin, .control .rollback] = [] := rfl
  have hcommitted : t.committed = [] := (Session.committed_eq_nil_iff t).2 (by simp [hsent])
  constructor
  · exact ⟨[.control .rollback], by simp, by rw [hsent, hinside]; rfl⟩
  all_goals simp [hsent, hinside, hrefused, hcommitted]

theorem transcript_of_begun {behind : List Sent} {refused : Option Control}
    (hb : refused ≠ some .begin) : transcript steps behind script refused =
      .control .begin :: (course steps script).1 ++
        closing refused behind (course steps script).2 := by
  rw [transcript, begun, if_neg hb]

theorem control_not_mem_course (c : Control) : .control c ∉ (course steps script).1 :=
  fun h => not_isStatement_control c (isStatement_of_mem_course h)

/-- What stands between BEGIN and the next control statement is what is sent of the steps. -/
theorem inside_transcript {behind : List Sent} {refused : Option Control}
    (hb : refused ≠ some .begin) :
    inside (transcript steps behind script refused) = (course steps script).1 := by
  rw [transcript_of_begun hb]
  exact inside_of_statements (fun _ => isStatement_of_mem_course) (head?_closing _ _ _)

theorem commit_mem_transcript_iff {behind : List Sent} {refused : Option Control}
    (hb : refused ≠ some .begin) :
    .control .commit ∈ transcript steps behind script refused ↔
      (course steps script).2 = .finished := by
  have hcourse := @control_not_mem_course steps script .commit
  rw [transcript_of_begun hb]
  unfold closing
  cases (course steps script).2 with
  | finished => by_cases hc : refused = some .commit <;> simp [hc]
  | stopped => simpa using hcourse
  | hung => simpa using hcourse

/-- What is sent for a transaction has the shape. -/
theorem orderly_of_transcript {behind : List Sent} (hbehind : ∀ m ∈ behind, m.IsStatement)
    (hsent : t.sent = transcript steps behind script t.refused) :
    Orderly steps behind script t := by
  by_cases hb : t.refused = some .begin
  · refine orderly_of_refused hb (hsent.trans ?_)
    rw [transcript, begun, if_pos hb]
    rfl
  have hinside : inside t.sent = (course steps script).1 := by rw [hsent, inside_transcript hb]
  have hcommit : .control .commit ∈ t.sent ↔ (course steps script).2 = .finished := by
    rw [hsent, commit_mem_transcript_iff hb]
  rw [transcript_of_begun hb] at hsent
  constructor
  · refine ⟨closing t.refused behind (course steps script).2, ?_, by rw [hinside, hsent]⟩
    unfold closing
    cases (course steps script).2 with
    | finished => by_cases hc : t.refused = some .commit <;> simp [hc]
    | stopped => simp
    | hung => simp
  · rw [hinside]
    exact prefix_course steps script
  · rw [hinside]
    intro i st hst hi hno
    obtain ⟨hlength, hend⟩ := course_stops hst hi hno
    have hrest : t.sent.drop (i + 2) = closing t.refused behind (course steps script).2 := by
      rw [hsent]
      exact List.drop_left' (congrArg (· + 1) hlength)
    rw [hrest]
    cases h : (course steps script).2 with
    | finished => exact absurd h hend
    | stopped => exact .inr rfl
    | hung => exact .inl rfl
  · rw [hcommit, course_finished_iff]
    exact (and_iff_right hb).symm
  · rw [hcommit, hinside]
    exact course_of_finished
  · rw [Session.committed_eq_nil_iff, hcommit, hinside, ← course_hung_iff, hsent,
      getLast?_closing (by simpa using control_not_mem_course .rollback) hbehind]
    cases (course steps script).2 <;> simp

/-! ## The operations from a start -/

theorem transcript_of_kept (behind : List Sent) {refused : Option Control}
    (h : (begun steps script refused).2 = .finished ∧ refused ≠ some .commit) :
    transcript steps behind script refused = transcript steps [] script refused ++ behind := by
  simp [transcript, closing, h.1, h.2]

theorem transcript_of_lost (behind : List Sent) {refused : Option Control}
    (h : ¬ ((begun steps script refused).2 = .finished ∧ refused ≠ some .commit)) :
    transcript steps behind script refused = transcript steps [] script refused := by
  unfold transcript closing
  cases hend : (begun steps script refused).2 with
  | finished => simp [Classical.not_not.1 fun hc => h ⟨hend, hc⟩]
  | _ => rfl

theorem runIn_limited_snd (e : Exchange α) (s : Session) :
    ((Exchange.limited e).runIn s).2 = (e.runIn s).2 := by
  cases hrun : e.runIn s with
  | mk r t =>
    cases r with
    | ok a => rw [Exchange.runIn_limited_ok hrun]
    | error x => rw [Exchange.runIn_limited_error hrun]

/-- An operation that is one transaction. -/
theorem orderly_limited {body : Exchange α} {refused : Option Control}
    (h : body.Follows steps ((Session.start script refused).record (.control .begin))) :
    Orderly steps [] script
      ((Exchange.limited (Exchange.transaction body)).runIn (.start script refused)).2 := by
  obtain ⟨⟨hsent, hrefused⟩, -⟩ := h.transaction
  rw [runIn_limited_snd]
  exact orderly_of_transcript (by simp) (by rw [hsent, hrefused]; rfl)

/-- The statement with which a new user is read back. -/
def readBack (script : List Response) : List Sent :=
  ((insertedId? (replyTo script 0)).map fun id =>
    Sent.statement (selectUser ++ " WHERE u.id = $1") [.int id.toInt]).toList

theorem insertedId?_of_insertWithInvitation {u : NewUser} {token : String} {ttl : Int}
    {now : Timestamp} {id : Int64}
    (h : (insertWithInvitation u token ttl now).runIn s = (.ok id, t)) :
    insertedId? (replyTo s.script 0) = some id := by
  obtain ⟨⟨newId, createdAt⟩, s₁, huser, hrest⟩ := Exchange.runIn_bind_eq_ok h
  rw [Exchange.runIn_queryOne] at huser
  have hid : insertedId? (replyTo s.script 0) = some newId := by
    rw [← Exchange.firstOf_newUserRow, (Prod.mk.inj huser).1]
    rfl
  dsimp only at hrest
  cases hadd : now.add? ttl with
  | none =>
    rw [hadd] at hrest
    cases hrest
  | some e =>
    rw [hadd] at hrest
    obtain ⟨b, s₂, -, hrest'⟩ := Exchange.runIn_bind_eq_ok hrest
    obtain ⟨n, s₃, -, hend⟩ := Exchange.runIn_bind_eq_ok hrest'
    cases hend
    exact hid

theorem orderly_createAndInvite (u : NewUser) (token : String) (ttl : Int) (now : Timestamp)
    (script : List Response) (refused : Option Control) :
    Orderly (registrationSteps u token ttl now script) (readBack script) script
      ((createAndInvite u token ttl now).runIn (.start script refused)).2 := by
  have hbehind : ∀ m ∈ readBack script, m.IsStatement := fun m hm => by
    obtain ⟨id, -, rfl⟩ := Option.map_eq_some_iff.1 (Option.mem_toList.1 hm)
    exact ⟨_, _, rfl⟩
  have hfollows := Exchange.follows_insertWithInvitation u token ttl now
    ((Session.start script refused).record (.control .begin))
  obtain ⟨⟨hsent, hrefused⟩, hkept⟩ := hfollows.transaction
  cases hrun : (Exchange.transaction (insertWithInvitation u token ttl now)).runIn
      (.start script refused) with
  | mk r s =>
    rw [hrun] at hsent hrefused hkept
    change s.sent = transcript (registrationSteps u token ttl now script) [] script refused at hsent
    change _ ↔ (begun (registrationSteps u token ttl now script) script refused).2 = .finished ∧
      refused ≠ some .commit at hkept
    change s.refused = refused at hrefused
    subst hrefused
    -- the user is read back only once the transaction is committed, with a statement of its own
    cases r with
    | error x =>
      have hlost := transcript_of_lost (readBack script) fun h => by
        obtain ⟨a, ha⟩ := hkept.2 h
        cases ha
      rw [createAndInvite,
        Exchange.runIn_bind_error (Exchange.runIn_limited_error hrun)]
      exact orderly_of_transcript hbehind (hsent.trans hlost.symm)
    | ok id =>
      obtain ⟨-, s', hbody, -, -⟩ := Exchange.transaction_eq_ok hrun
      have hid : insertedId? (replyTo script 0) = some id :=
        insertedId?_of_insertWithInvitation hbody
      have hread : s.Extends (readBack script) ((getUser id).runIn s).2 := by
        rw [readBack, hid]
        exact (Exchange.sends_queryOne _ _ _).limited s
      rw [createAndInvite, Exchange.runIn_bind_ok (Exchange.runIn_limited_ok hrun)]
      refine orderly_of_transcript hbehind ?_
      rw [hread.sent, hread.refused, hsent,
        transcript_of_kept (readBack script) (hkept.1 ⟨id, rfl⟩)]

/-- No more is looked at of a token than its digest. -/
def OfDigest (f : String → α) : Prop :=
  ∀ token token', Digest.Sha256.hexDigest token = Digest.Sha256.hexDigest token' →
    f token = f token'

/-- **Transactions.** Whatever the server answers, and wherever it falls silent or refuses to begin
or to commit, the session of each operation on users has the shape of a transaction of its steps,
and of a token no more is sent than its digest. -/
theorem orderly_operations (script : List Response) (refused : Option Control) :
    (∀ (u : NewUser) (token : String) (ttl : Int) (now : Timestamp),
      Orderly (registrationSteps u token ttl now script) (readBack script) script
        ((createAndInvite u token ttl now).runIn (.start script refused)).2) ∧
      (∀ (token : String) (now : Timestamp),
        Orderly (activationSteps token now script) [] script
          ((activate token now).runIn (.start script refused)).2) ∧
      (∀ id : Int64, Orderly (removalSteps id) [] script
        ((deleteUser id).runIn (.start script refused)).2) ∧
      (∀ (u : NewUser) (ttl : Int) (now : Timestamp), OfDigest (createAndInvite u · ttl now)) ∧
      ∀ now : Timestamp, OfDigest (activate · now) := by
  refine ⟨fun u token ttl now => orderly_createAndInvite u token ttl now script refused,
    fun token now => ?_, fun id => ?_, fun u ttl now token token' h => ?_,
    fun now token token' h => ?_⟩
  · have hfollows := Exchange.follows_activation token now
      ((Session.start script refused).record (.control .begin))
    rw [Exchange.activate_eq]
    exact orderly_limited hfollows
  · exact orderly_limited (Exchange.follows_removal id _)
  · simp only [createAndInvite, insertWithInvitation, Store.tokenKey, h]
  · simp only [activate, Store.tokenKey, h]

end Microblog.Sql
