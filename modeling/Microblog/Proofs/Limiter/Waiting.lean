import Mathlib.Order.Bounds.Basic
import Microblog.Proofs.Limiter.Budgets

/-!
# Waiting

A refused client is told the time that is left of its window. That time is
exact: all its calls before the end are refused, and the first one from then on
is admitted, whatever other clients do (`waiting_is_exact`). The seconds that it
is told are the least that are enough.

That a refused client never waits longer than a window holds of calls in any
order. So the seconds of a window that has a 64-bit number of them do not
overflow. In the longest window of all they do (`longest_wait_has_no_seconds`),
but no configuration makes one: it gives a window whole seconds.
-/

namespace Microblog

/-! ## Whole seconds -/

/-- At least one second, and not less than the time that is left. -/
def WaitsFor (left secs : Nat) : Prop := 1 ≤ secs ∧ left ≤ secs * 1000000000

theorem retryAfter?_eq_some_iff {left secs : Nat} :
    retryAfter? left = some secs ↔
      IsLeast {n | WaitsFor left n} secs ∧ secs < 0x10000000000000000 := by
  have hleast : IsLeast {n | WaitsFor left n} (max 1 ((left + 999999999) / 1000000000)) := by
    constructor
    · show 1 ≤ _ ∧ left ≤ _
      omega
    · rintro n ⟨hone, hleft⟩
      omega
  unfold retryAfter?
  dsimp only
  constructor
  · intro h
    split at h
    · cases h
      exact ⟨hleast, by assumption⟩
    · cases h
  · rintro ⟨h, hlt⟩
    rw [h.unique hleast] at hlt ⊢
    exact if_pos hlt

/-- The seconds of a window are enough for all that can be left of it. -/
theorem exists_retryAfter? {left secs : Nat} (hsecs : secs < 0x10000000000000000)
    (hle : left ≤ secs * 1000000000) :
    ∃ n, retryAfter? left = some n ∧ n ≤ max 1 secs := by
  refine ⟨max 1 ((left + 999999999) / 1000000000), ?_, by omega⟩
  exact if_pos (by omega)

namespace Counter

open Limiter

variable {limit length left : Nat} {client : String} {now : Int} {last : Option Window} {w : Window}
  {ts : List Int} {e : Entry} {before after waiting rest : List Entry}

/-! ## Behind a refusal -/

/-- A refusal tells when the window is over, and the window is full. -/
theorem window_of_refusal (hlimit : 1 ≤ limit)
    (h : (call limit length now last).1 = .error left) :
    (call limit length now last).2.start + length = now + left ∧
      limit ≤ (call limit length now last).2.count := by
  cases hnew : restarts length now last with
  | true =>
    have hok := isOk_call limit length now last
    rw [current_of_restarts hnew, h] at hok
    exact absurd (of_decide_eq_false hok.symm) (by show ¬ ¬ 0 < limit - 0; omega)
  | false =>
    cases last with
    | none => cases hnew
    | some w =>
      obtain ⟨hcurrent, hlasts⟩ := current_of_not_restarts hnew
      unfold call at h ⊢
      rw [hcurrent] at h ⊢
      dsimp only at h ⊢
      split at h
      · cases h
      · rename_i hfull
        rw [if_neg hfull]
        cases h
        exact ⟨by dsimp only; omega, Nat.not_lt.1 hfull⟩

theorem call_of_full (hfull : limit ≤ w.count) (hlasts : now < w.start + length) :
    call limit length now (some w) = (.error (w.start + length - now).toNat, w) := by
  have hcurrent : current length now (some w) = w := if_pos hlasts
  unfold call
  rw [hcurrent]
  exact if_neg (Nat.not_lt.2 hfull)

/-- A full window refuses calls until it is over, and the first call then is counted in a new one. -/
theorem answer_of_full (hfull : limit ≤ w.count)
    (h : log client limit length (some w) ts = waiting ++ e :: rest)
    (hwaiting : ∀ e' ∈ waiting, e'.instant < w.start + length) :
    (e.instant < w.start + length → e.answer = .error (w.start + length - e.instant).toNat) ∧
      (1 ≤ limit → w.start + length ≤ e.instant → e.answer = .ok ()) := by
  induction waiting generalizing ts with
  | nil =>
    cases ts with
    | nil => cases h
    | cons now ts =>
      obtain ⟨rfl, -⟩ := List.cons.inj h
      refine ⟨fun hlasts => congrArg Prod.fst (call_of_full hfull hlasts), fun hlimit hover => ?_⟩
      have hnew : restarts length now (some w) = true := decide_eq_true hover
      show (call limit length now (some w)).1 = .ok ()
      unfold call
      rw [current_of_restarts hnew]
      exact congrArg Prod.fst (if_pos hlimit)
  | cons first waiting ih =>
    cases ts with
    | nil => cases h
    | cons now ts =>
      obtain ⟨rfl, htail⟩ := List.cons.inj h
      have hlasts : now < w.start + length := hwaiting _ List.mem_cons_self
      rw [call_of_full hfull hlasts] at htail
      exact ih htail fun e' he' => hwaiting e' (List.mem_cons_of_mem _ he')

/-- What a refusal tells about the calls behind it. -/
theorem answers_of_refusal (hlimit : 1 ≤ limit) (hts : ts.Pairwise (· ≤ ·))
    (h : log client limit length last ts = before ++ e :: after) (hrefused : e.answer = .error left) :
    (∀ e' ∈ after, e'.instant < e.instant + left →
        e'.answer = .error (e.instant + left - e'.instant).toNat) ∧
      ∀ waiting e' rest, after = waiting ++ e' :: rest →
        (∀ w ∈ waiting, w.instant < e.instant + left) → e.instant + left ≤ e'.instant →
          e'.answer = .ok () := by
  obtain ⟨last, ts, hsuffix, h⟩ := log_suffix h
  have hordered := @pairwise_log limit length client ts (hts.sublist hsuffix.sublist) last
  rw [← h] at hordered
  cases ts with
  | nil => cases h
  | cons now ts =>
    obtain ⟨rfl, rfl⟩ := List.cons.inj h
    obtain ⟨hend, hfull⟩ := window_of_refusal hlimit hrefused
    rw [← hend]
    refine ⟨fun e' he' hbefore => ?_, fun waiting e' rest hafter hwaiting hover => ?_⟩
    · obtain ⟨waiting, rest, hafter⟩ := List.append_of_mem he'
      refine (answer_of_full hfull hafter fun w hw => ?_).1 hbefore
      have hsorted := (List.pairwise_cons.1 hordered).2
      rw [hafter] at hsorted
      exact Int.lt_of_le_of_lt ((List.pairwise_append.1 hsorted).2.2 w hw e' List.mem_cons_self) hbefore
    · exact (answer_of_full hfull hafter hwaiting).2 hlimit hover

end Counter

namespace Limiter

variable {limit length left : Nat} {l : Limiter} {as : List Arrival} {e : Entry}

/-! ## Calls in any order -/

theorem length_sweep (l : Limiter) (now : Int) : (l.sweep now).length = l.length := by
  unfold sweep
  split <;> rfl

theorem length_allow (l : Limiter) (client : String) (now : Int) :
    (l.allow client now).2.length = l.length := by
  unfold allow
  dsimp only
  split
  · exact length_sweep l now
  · exact length_sweep l now

theorem left_le_length {client : String} {now : Int} (h : (l.allow client now).1 = .error left) :
    left ≤ l.length := by
  unfold allow at h
  dsimp only at h
  split at h
  · cases h
  · cases h
    rw [length_sweep]
    exact Nat.sub_le _ _

/-- No refusal is for longer than a window, whatever the order of the calls. -/
theorem left_le_of_mem_log (he : e ∈ l.log as) (hrefused : e.answer = .error left) :
    left ≤ l.length := by
  induction as generalizing l with
  | nil => cases he
  | cons a as ih =>
    rcases List.mem_cons.1 he with rfl | he
    · exact left_le_length hrefused
    · have hle := ih he
      rw [length_allow] at hle
      exact hle

/-- The time that a refused client is told, with the calls behind the refusal. -/
structure Exact (e : Entry) (left : Nat) (after : List Entry) : Prop where
  /-- Before that time has passed, every call is refused and told the rest of it. -/
  refused : ∀ e' ∈ after, e'.client = e.client → e'.instant < e.instant + left →
    e'.answer = .error (e.instant + left - e'.instant).toNat
  /-- The first call from then on is admitted, whatever other clients do in between. -/
  admitted : ∀ waiting e' rest, after = waiting ++ e' :: rest →
    (∀ w ∈ waiting, w.client = e.client → w.instant < e.instant + left) →
      e'.client = e.client → e.instant + left ≤ e'.instant → e'.answer = .ok ()
  /-- The seconds for it are the least that are enough, and there are none only where these have no
  64-bit number. -/
  seconds : ∀ secs, retryAfter? left = some secs ↔
    IsLeast {n | WaitsFor left n} secs ∧ secs < 0x10000000000000000
  /-- There are, up to the greatest 64-bit number of seconds. -/
  told : left ≤ 0xffffffffffffffff * 1000000000 → ∃ secs, retryAfter? left = some secs

/-- **Waiting.** If calls come in order of time, from any clients, each refusal tells the exact time
to wait. Even for calls in any order no refusal is for longer than a window, and if a window is a
64-bit number of seconds, there are seconds for each refusal, not more than the window has, or one. -/
theorem waiting_is_exact (limit length : Nat) (made : Int) (as : List Arrival) :
    (1 ≤ limit → Ordered as → ∀ before e after left,
        (new limit length made).log as = before ++ e :: after → e.answer = .error left →
          Exact e left after) ∧
      (∀ e ∈ (new limit length made).log as, ∀ left, e.answer = .error left → left ≤ length) ∧
      ∀ secs : UInt64, ∀ e ∈ (new limit (secs.toNat * 1000000000) made).log as, ∀ left,
        e.answer = .error left → ∃ n, retryAfter? left = some n ∧ n ≤ max 1 secs.toNat := by
  refine ⟨fun hlimit hordered before e after left hsplit hrefused => ?_,
    fun e he left hrefused => left_le_of_mem_log he hrefused,
    fun secs e he left hrefused => exists_retryAfter? secs.toNat_lt (left_le_of_mem_log he hrefused)⟩
  have hlog := @entriesOf_log limit length made as hordered e.client
  rw [hsplit, entriesOf_append, entriesOf_cons rfl] at hlog
  obtain ⟨hrefusals, hadmission⟩ := Counter.answers_of_refusal hlimit
    (ordered_callsOf hordered e.client) hlog.symm hrefused
  refine ⟨?_, ?_, fun secs => retryAfter?_eq_some_iff, fun hle => ?_⟩
  · intro e' he' hclient hbefore
    exact hrefusals e' (mem_entriesOf.2 ⟨he', hclient⟩) hbefore
  · intro waiting e' rest hafter hwaiting hclient hover
    rw [hafter, entriesOf_append, entriesOf_cons hclient] at hadmission
    refine hadmission _ _ _ rfl (fun w hw => ?_) hover
    obtain ⟨hmem, hsame⟩ := mem_entriesOf.1 hw
    exact hwaiting w hmem hsame
  · obtain ⟨secs, htold, -⟩ := exists_retryAfter? (by decide) hle
    exact ⟨secs, htold⟩

/-- In a window of 5 seconds `a` is refused after a tenth of a second, and once more just before the
end, when `b` calls and what is over is swept. -/
def waitingArrivals : List Arrival :=
  [⟨"a", 0⟩, ⟨"a", 100000000⟩, ⟨"a", 4999999999⟩, ⟨"b", 5000000000⟩, ⟨"a", 5000000000⟩]

/-- What becomes of them behind the first refusal. -/
def waitingEntries : List Entry := [
  ⟨"a", 4999999999, false, .error 1⟩, ⟨"b", 5000000000, true, .ok ()⟩,
  ⟨"a", 5000000000, true, .ok ()⟩]

/-- With 4.9 seconds left `a` is told to wait for 5, and is admitted when the window is over. -/
theorem waiting_waitingArrivals :
    1 ≤ 1 ∧ Ordered waitingArrivals ∧
      (new 1 5000000000 0).log waitingArrivals = [⟨"a", 0, true, .ok ()⟩] ++
        ⟨"a", 100000000, false, .error 4900000000⟩ :: waitingEntries ∧
      (waitingEntries[0].answer = .error 1 ∧ waitingEntries[2].answer = .ok ()) ∧
      IsLeast {n | WaitsFor 4900000000 n} 5 ∧
      (∃ secs, retryAfter? 4900000000 = some secs) ∧
      4900000000 ≤ 5000000000 ∧
      ∃ n, retryAfter? 4900000000 = some n ∧ n ≤ max 1 5 := by
  have hordered : Ordered waitingArrivals := by
    unfold Ordered
    decide
  have hlog : (new 1 5000000000 0).log waitingArrivals = [⟨"a", 0, true, .ok ()⟩] ++
      ⟨"a", 100000000, false, .error 4900000000⟩ :: waitingEntries := rfl
  have hmem : ⟨"a", 100000000, false, .error 4900000000⟩ ∈
      (new 1 5000000000 0).log waitingArrivals := by
    rw [hlog]
    exact List.mem_append_right _ List.mem_cons_self
  obtain ⟨hexact, hbound, hseconds⟩ := waiting_is_exact 1 5000000000 0 waitingArrivals
  have htold := hexact (Nat.le_refl 1) hordered _ _ _ 4900000000 hlog rfl
  have hfirst := htold.refused waitingEntries[0] (by decide) rfl (by decide)
  have hlast := htold.admitted (waitingEntries.take 2) waitingEntries[2] [] rfl (by decide) rfl
    (by decide)
  exact ⟨Nat.le_refl 1, hordered, hlog, ⟨hfirst, hlast⟩, ((htold.seconds 5).1 rfl).1,
    htold.told (by decide), hbound _ hmem 4900000000 rfl, hseconds 5 _ hmem 4900000000 rfl⟩

/-- The longest time that a duration can be, which is not a whole number of seconds. -/
def longestLeft : Nat := 18446744073709551615999999999

/-- In a window of that length, a client that is refused at once is to wait for all of it, and the
least seconds that are enough have no 64-bit number. -/
theorem longest_wait_has_no_seconds :
    (new 1 longestLeft 0).log [⟨"a", 0⟩, ⟨"a", 0⟩] =
        [⟨"a", 0, true, .ok ()⟩, ⟨"a", 0, false, .error longestLeft⟩] ∧
      IsLeast {n | WaitsFor longestLeft n} 18446744073709551616 ∧
      retryAfter? longestLeft = none := by
  refine ⟨rfl, ⟨⟨by decide, by decide⟩, ?_⟩, by decide⟩
  rintro n ⟨-, hleft⟩
  unfold longestLeft at hleft
  omega

end Limiter

end Microblog
