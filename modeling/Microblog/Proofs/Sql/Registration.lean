import Microblog.Proofs.Sql.Transactions
import Microblog.Sql.Users

/-!
# What a failed registration leaves in the database

A registration commits either nothing, and then it fails, or its user together
with the invitation. The new user is read back behind the COMMIT, so a failure
does not tell which of the two it was: `createAndInvite_committed` says that a
registration that has committed ends exactly as the reading of its user does.
-/

namespace Microblog.Sql

open Account Exchange

variable {s t : Session} {u : NewUser} {token : String} {ttl : Int} {now : Timestamp} {id : Int64}

/-- The statements of a registration: the user, then the invitation. -/
def registration (u : NewUser) (token : String) (id : Int64) (expiry : Timestamp) : List Sent :=
  [.statement insertUser [.text u.username, .text u.email, .text u.password.text, .text "user"],
    .statement insertInvitation [.text (Store.tokenKey token), .int id.toInt, .time expiry]]

theorem isStatement_of_mem_registration {expiry : Timestamp} {m : Sent}
    (h : m ∈ registration u token id expiry) : m.IsStatement := by
  simp only [registration, List.mem_cons, List.not_mem_nil, or_false] at h
  rcases h with rfl | rfl <;> exact ⟨_, _, rfl⟩

theorem bindTime_eq_ok {b : Bind} (h : (bindTime now).runIn s = (.ok b, t)) :
    ∃ expiry, serverTime? now = some expiry ∧ b = .time expiry ∧ t = s := by
  unfold bindTime at h
  cases htime : serverTime? now with
  | none =>
    rw [htime] at h
    cases h
  | some expiry =>
    rw [htime] at h
    cases h
    exact ⟨expiry, rfl, rfl, rfl⟩

theorem sendsStatements_insertWithInvitation (u : NewUser) (token : String) (ttl : Int)
    (now : Timestamp) : SendsStatements (insertWithInvitation u token ttl now) := by
  have hone : ∀ {sql : String} {binds : List Bind} {m : Sent},
      m ∈ [Sent.statement sql binds] → m.IsStatement :=
    fun hm => ⟨_, _, List.mem_singleton.1 hm⟩
  have hnone : ∀ m ∈ ([] : List Sent), m.IsStatement := by simp
  refine ((sends_queryOne _ _ _).statements fun _ => hone).bind fun (id, _) => ?_
  cases now.add? ttl with
  | none => exact (sends_throw _).statements hnone
  | some expiry =>
    refine ((sends_bindTime expiry).statements hnone).bind fun b => ?_
    exact ((sends_execute _ _).bind fun _ => sends_pure _).statements fun _ => hone

/-- Where both rows are added, nothing else was sent. -/
theorem insertWithInvitation_eq_ok (h : (insertWithInvitation u token ttl now).runIn s = (.ok id, t)) :
    ∃ e expiry, now.add? ttl = some e ∧ serverTime? e = some expiry ∧
      s.Extends (registration u token id expiry) t := by
  obtain ⟨⟨newId, createdAt⟩, s₁, huser, hrest⟩ := runIn_bind_eq_ok h
  have hsent := sends_queryOne insertUser
    [.text u.username, .text u.email, .text u.password.text, .text "user"] newUserRow s
  rw [huser] at hsent
  dsimp only at hrest
  cases hadd : now.add? ttl with
  | none =>
    rw [hadd] at hrest
    cases hrest
  | some e =>
    rw [hadd] at hrest
    obtain ⟨b, s₂, htime, hrest'⟩ := runIn_bind_eq_ok hrest
    obtain ⟨expiry, hexpiry, rfl, rfl⟩ := bindTime_eq_ok htime
    obtain ⟨n, s₃, hinvitation, hend⟩ := runIn_bind_eq_ok hrest'
    have hsent' := sends_execute insertInvitation
      [.text (Store.tokenKey token), .int newId.toInt, .time expiry] s₂
    rw [hinvitation] at hsent'
    cases hend
    exact ⟨e, expiry, rfl, hexpiry, hsent.trans hsent'⟩

/-- Reading a user back commits nothing. -/
theorem committed_getUser (id : Int64) (s : Session) :
    ((getUser id).runIn s).2.committed = s.committed := by
  refine Session.Extends.committed_of_statements ((sends_queryOne _ _ _).limited s) fun m hm => ?_
  exact ⟨_, _, List.mem_singleton.1 hm⟩

/-- Whatever the server answers, a registration either fails with nothing committed, or commits its
user together with the invitation and then ends as the reading of that user does. -/
theorem createAndInvite_committed (u : NewUser) (token : String) (ttl : Int) (now : Timestamp)
    (script : List Response) (refused : Option Control) :
    let r := (createAndInvite u token ttl now).runIn (.start script refused)
    ((∃ x, r.1 = .error x) ∧ r.2.committed = []) ∨
      ∃ id e expiry s, now.add? ttl = some e ∧ serverTime? e = some expiry ∧
        s.committed = [registration u token id expiry] ∧ r = (getUser id).runIn s ∧
        r.2.committed = [registration u token id expiry] := by
  intro r
  have hstart : (Session.start script refused).committed = [] := rfl
  cases hrun : (transaction (insertWithInvitation u token ttl now)).runIn (.start script refused) with
  | mk a s =>
    cases a with
    | error x =>
      have hr : r = (.error (if x = .hung then .failed .timeout else x), s) :=
        runIn_bind_error (runIn_limited_error hrun)
      have hkept := committed_of_transaction_error
        (sendsStatements_insertWithInvitation u token ttl now) hrun
      exact .inl ⟨⟨_, by rw [hr]⟩, by rw [hr]; exact hkept.trans hstart⟩
    | ok id =>
      have hr : r = (getUser id).runIn s := runIn_bind_ok (runIn_limited_ok hrun)
      obtain ⟨-, t, hbody, -, -⟩ := transaction_eq_ok hrun
      obtain ⟨e, expiry, hadd, hexpiry, hsent⟩ := insertWithInvitation_eq_ok hbody
      have hcommitted : s.committed = [registration u token id expiry] := by
        refine (committed_of_transaction_ok (fun _ => isStatement_of_mem_registration) ?_ hrun).trans
          (by rw [hstart, List.nil_append])
        rw [hbody]
        exact hsent
      exact .inr ⟨id, e, expiry, s, hadd, hexpiry, hcommitted, hr,
        by rw [hr, committed_getUser, hcommitted]⟩

/-- A registration whose user cannot be read back fails although it is committed. -/
theorem createAndInvite_fails_committed :
    let r := (createAndInvite ⟨"al", "a@b.c", ⟨"$hash$"⟩⟩ "tok" 3600000000000 ⟨0, 0⟩).runIn
      (.start [.rows [[.int 5, .time ⟨0, 0⟩]], .affected 1, .error refusal] none)
    (∃ x, r.1 = .error x) ∧ .control .commit ∈ r.2.sent ∧ r.2.committed ≠ [] := by
  refine ⟨⟨_, rfl⟩, ?_, ?_⟩
  · decide
  · decide

end Microblog.Sql
