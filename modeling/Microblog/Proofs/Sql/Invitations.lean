import Microblog.Proofs.Sql.Courses
import Microblog.Proofs.Sql.Registration

/-!
# How long an invitation in the database holds

A registration counts the end of its invitation when the user is added already.
An end without a date stops it there, but within the transaction: whatever is
committed is a user together with the invitation (`registration_of_committed`).
Where there is a date, no other time goes out of range, and the invitation ends
then (`invitesUntil_iff`).
-/

namespace Microblog.Sql

open Account

variable {α β : Type} {e : Exchange α} {u : NewUser} {token : String} {ttl : Int}
  {now expiry : Timestamp} {script : List Response} {refused : Option Control}

/-! ## Times in range -/

namespace Exchange

/-- Whatever is answered, the exchange meets no time that is out of range. -/
def KeepsInRange (e : Exchange α) : Prop := ∀ s : Session, (e.runIn s).1 ≠ .error .overflow

theorem keepsInRange_pure (a : α) : KeepsInRange (pure a) := nofun

theorem keepsInRange_throw {h : Halt} (hh : h ≠ .overflow) : KeepsInRange (throw h : Exchange α) :=
  fun _ hrun => hh (Except.error.inj hrun)

theorem KeepsInRange.bind {f : α → Exchange β} (he : KeepsInRange e)
    (hf : ∀ a, KeepsInRange (f a)) : KeepsInRange (e >>= f) := by
  intro s
  have hkeeps := he s
  cases hrun : e.runIn s with
  | mk r t =>
    rw [hrun] at hkeeps
    cases r with
    | error x =>
      rw [runIn_bind_error hrun]
      exact fun hx => hkeeps (congrArg _ (Except.error.inj hx))
    | ok a =>
      rw [runIn_bind_ok hrun]
      exact hf a t

theorem KeepsInRange.tryCatch {f : Halt → Exchange α} (he : KeepsInRange e)
    (hf : ∀ h, h ≠ .overflow → KeepsInRange (f h)) : KeepsInRange (tryCatch e f) := by
  intro s
  have hkeeps := he s
  cases hrun : e.runIn s with
  | mk r t =>
    rw [hrun] at hkeeps
    cases r with
    | error x =>
      rw [runIn_tryCatch_error hrun]
      exact hf x (fun hx => hkeeps (congrArg _ hx)) t
    | ok a =>
      rw [runIn_tryCatch_ok hrun]
      exact keepsInRange_pure a t

theorem keepsInRange_control (c : Control) : KeepsInRange (control c) := by
  intro s
  rw [runIn_control]
  split <;> nofun

theorem keepsInRange_queryOne (sql : String) (binds : List Bind) (r : RowReader α) :
    KeepsInRange (queryOne sql binds r) := by
  intro s
  rw [runIn_queryOne]
  rcases replyTo s.script 0 with (_ | ⟨row, rows⟩) | _ | _ | _
  case rows.cons =>
    change (r.run row).mapError _ ≠ _
    cases r.run row <;> nofun
  all_goals nofun

theorem keepsInRange_execute (sql : String) (binds : List Bind) :
    KeepsInRange (execute sql binds) := by
  rintro ⟨script, refused, log⟩
  rcases script with _ | ⟨_ | _ | _ | _, rest⟩ <;> nofun

theorem KeepsInRange.limited (he : KeepsInRange e) : KeepsInRange (limited e) :=
  he.tryCatch fun h hh => keepsInRange_throw (by split <;> simp_all)

theorem KeepsInRange.transaction (he : KeepsInRange e) : KeepsInRange (transaction e) := by
  have hwhole : KeepsInRange (bracketed e) :=
    (keepsInRange_control _).bind fun _ => he.bind fun a =>
      (keepsInRange_control _).bind fun _ => keepsInRange_pure a
  refine hwhole.tryCatch fun h hh => ?_
  split
  · exact KeepsInRange.bind (fun _ => nofun) fun _ => keepsInRange_throw hh
  · exact keepsInRange_throw hh

end Exchange

open Exchange

/-! ## Registrations -/

/-- The end of the invitation as the server takes it, if it has a date. -/
def invitationEnd? (ttl : Int) (now : Timestamp) : Option Timestamp :=
  (now.add? ttl).bind serverTime?

theorem keepsInRange_createAndInvite (h : invitationEnd? ttl now = some expiry) (u : NewUser)
    (token : String) : KeepsInRange (createAndInvite u token ttl now) := by
  obtain ⟨e, hadd, hexpiry⟩ := Option.bind_eq_some_iff.1 h
  have hinsert : KeepsInRange (insertWithInvitation u token ttl now) := by
    refine (keepsInRange_queryOne _ _ _).bind fun (id, _) => ?_
    rw [hadd]
    refine KeepsInRange.bind ?_ fun _ => (keepsInRange_execute _ _).bind fun _ =>
      keepsInRange_pure _
    rw [bindTime, hexpiry]
    exact keepsInRange_pure _
  exact hinsert.transaction.limited.bind fun id => (keepsInRange_queryOne _ _ _).limited

/-- Whatever the server answers, each transaction that is committed adds a user together with an
invitation that ends when it should. -/
theorem registration_of_committed {ms : List Sent} (h : ms ∈
      ((createAndInvite u token ttl now).runIn (.start script refused)).2.committed) :
    ∃ id expiry, invitationEnd? ttl now = some expiry ∧ ms = registration u token id expiry := by
  have hstart : (Session.start script refused).committed = [] := rfl
  cases hrun : (transaction (insertWithInvitation u token ttl now)).runIn (.start script refused) with
  | mk a s =>
    cases a with
    | error x =>
      have hkept := committed_of_transaction_error
        (sendsStatements_insertWithInvitation u token ttl now) hrun
      rw [createAndInvite, runIn_bind_error (runIn_limited_error hrun), hkept, hstart] at h
      cases h
    | ok id =>
      obtain ⟨-, t, hbody, -, -⟩ := transaction_eq_ok hrun
      obtain ⟨e, expiry, hadd, hexpiry, hsent⟩ := insertWithInvitation_eq_ok hbody
      have hcommitted := committed_of_transaction_ok (fun _ => isStatement_of_mem_registration)
        (by rw [hbody]; exact hsent) hrun
      rw [createAndInvite, runIn_bind_ok (runIn_limited_ok hrun), committed_getUser, hcommitted,
        hstart, List.nil_append, List.mem_singleton] at h
      exact ⟨id, expiry, Option.bind_eq_some_iff.2 ⟨e, hadd, hexpiry⟩, h⟩

/-- Whatever the server answers, a registration meets no time that is out of range, and commits
nothing but the user together with an invitation until some time. -/
def InvitesUntil (ttl : Int) (now expiry : Timestamp) : Prop :=
  ∀ (u : NewUser) (token : String) (script : List Response) (refused : Option Control),
    let r := (createAndInvite u token ttl now).runIn (.start script refused)
    r.1 ≠ .error .overflow ∧ ∀ ms ∈ r.2.committed, ∃ id, ms = registration u token id expiry

/-- The replies of a server that adds the user, and the invitation. -/
def addsBoth : List Response := [.rows [[.int 1, .time .epoch]], .affected 1]

theorem overflows_of_addsBoth (h : invitationEnd? ttl now = none) (u : NewUser) (token : String) :
    ((createAndInvite u token ttl now).runIn (.start addsBoth none)).1 = .error .overflow := by
  unfold createAndInvite insertWithInvitation bindTime
  unfold invitationEnd? at h
  cases hadd : now.add? ttl with
  | none => rfl
  | some e =>
    rw [hadd, Option.bind_some] at h
    simp only [h]
    rfl

theorem committed_of_addsBoth (h : invitationEnd? ttl now = some expiry) (u : NewUser)
    (token : String) :
    ((createAndInvite u token ttl now).runIn (.start addsBoth none)).2.committed =
      [registration u token 1 expiry] := by
  obtain ⟨e, hadd, hexpiry⟩ := Option.bind_eq_some_iff.1 h
  unfold createAndInvite insertWithInvitation bindTime
  simp only [hadd, hexpiry]
  rfl

theorem expiry_of_registration {id id' : Int64} {expiry' : Timestamp}
    (h : registration u token id expiry = registration u token id' expiry') : expiry = expiry' := by
  have hinvitation := (List.cons.inj (List.cons.inj h).2).1
  simp only [Sent.statement.injEq, List.cons.injEq, Bind.time.injEq] at hinvitation
  exact hinvitation.2.2.2.1

theorem invitesUntil_iff : InvitesUntil ttl now expiry ↔ invitationEnd? ttl now = some expiry := by
  constructor
  · intro h
    obtain ⟨hrange, hcommits⟩ := h ⟨"al", "al@example.com", ⟨""⟩⟩ "tok" addsBoth none
    cases hend : invitationEnd? ttl now with
    | none => exact absurd (overflows_of_addsBoth hend _ _) hrange
    | some t =>
      rw [committed_of_addsBoth hend] at hcommits
      obtain ⟨id, hsent⟩ := hcommits _ List.mem_cons_self
      rw [expiry_of_registration hsent]
  · intro h u token script refused
    refine ⟨keepsInRange_createAndInvite h u token _, fun ms hms => ?_⟩
    obtain ⟨id, t, hend, rfl⟩ := registration_of_committed hms
    obtain rfl : expiry = t := Option.some.inj (h.symm.trans hend)
    exact ⟨id, rfl⟩

end Microblog.Sql
