import Mathlib.Data.Finset.Card
import Mathlib.Data.List.Induction
import Microblog.Proofs.Limiter.Budgets
import Microblog.Proofs.Store.Tables

/-!
# Sweeping

A limiter sweeps during the calls that it answers, and at most once in the
length of a window, so windows that are over stay in its memory for a while. But
not for long: a window that was over at the last sweep is gone, and the last
sweep is less than a window ago. So what is left began less than two windows
ago, with a call of its client, and there are no more clients than have called
since then, however many there were before (`memory_of_arrivals`).

The invariant (`Swept`) says just which windows a limiter holds: of the counters
that are never swept, those that were not over at its last sweep.
-/

namespace Microblog

/-! ## Windows of counters -/

namespace Counter

variable {limit length : Nat} {now : Int} {last : Option Window} {ts : List Int} {w : Window}

/-- The window of a new counter after calls at some instants. -/
def after (limit length : Nat) (ts : List Int) : Option Window :=
  ts.foldl (fun last now => some (call limit length now last).2) none

theorem after_append (limit length : Nat) (ts : List Int) (now : Int) :
    after limit length (ts ++ [now]) = some (call limit length now (after limit length ts)).2 :=
  List.foldl_concat ..

/-- The window in which a call falls is not over. -/
theorem lt_end_call (hlength : 0 < length) :
    now < (call limit length now last).2.start + length := by
  rw [start_call]
  unfold current
  split
  · dsimp only
    omega
  · split
    · assumption
    · dsimp only
      omega

/-- A window begins with a call. -/
theorem start_mem_of_after (h : after limit length ts = some w) : w.start ∈ ts := by
  induction ts using List.reverseRecOn generalizing w with
  | nil => cases h
  | append_singleton ts now ih =>
    rw [after_append] at h
    cases h
    rw [start_call, List.mem_append, List.mem_singleton]
    unfold current
    split
    · exact .inr rfl
    · rename_i v hv
      split
      · exact .inl (ih hv)
      · exact .inr rfl

end Counter

namespace Limiter

open Store (Table)

variable {limit length : Nat} {made now : Int} {l : Limiter} {windows : String → Option Window}
  {as : List Arrival} {client : String} {w : Window}

/-- The window of a client after some calls, were there no sweeping. -/
def windowOf (limit length : Nat) (as : List Arrival) (client : String) : Option Window :=
  Counter.after limit length ((callsOf client as).map Arrival.instant)

theorem windowOf_append (limit length : Nat) (as : List Arrival) (a : Arrival) :
    windowOf limit length (as ++ [a]) = Function.update (windowOf limit length as) a.client
      (some (Counter.call limit length a.instant (windowOf limit length as a.client)).2) := by
  funext client
  unfold windowOf callsOf
  rw [List.filter_append]
  by_cases ha : a.client = client
  · subst ha
    rw [Function.update_self, List.filter_cons_of_pos (by simp), List.filter_nil, List.map_append]
    exact Counter.after_append ..
  · rw [Function.update_of_ne (Ne.symm ha), List.filter_cons_of_neg (by simpa), List.filter_nil,
      List.append_nil]

/-- A window begins with a call of its client. -/
theorem mem_of_windowOf (h : windowOf limit length as client = some w) :
    ⟨client, w.start⟩ ∈ as := by
  obtain ⟨a, ha, hstart⟩ := List.mem_map.1 (Counter.start_mem_of_after h)
  obtain ⟨hmem, hclient⟩ := List.mem_filter.1 ha
  rw [← hstart, ← beq_iff_eq.1 hclient]
  exact hmem

/-! ## What is swept -/

/-- The last sweep is less than a window ago when a call is answered. -/
theorem lt_lastSweep_sweep (l : Limiter) (now : Int) (hlength : 0 < l.length) :
    now < (l.sweep now).lastSweep + l.length := by
  unfold sweep elapsed
  split
  · dsimp only
    omega
  · omega

theorem lastSweep_sweep_le (h : l.lastSweep ≤ now) : (l.sweep now).lastSweep ≤ now := by
  unfold sweep
  split
  · exact Int.le_refl now
  · exact h

theorem lastSweep_allow (l : Limiter) (client : String) (now : Int) :
    (l.allow client now).2.lastSweep = (l.sweep now).lastSweep := by
  unfold allow
  dsimp only
  split <;> rfl

/-- What a sweep leaves are the windows that are not over. -/
theorem Tracks.lasts_iff (h : Tracks limit length l now windows) (hw : windows client = some w) :
    l.ended now w = false ↔ now < w.start + length := by
  rw [← Bool.not_eq_true, @ended_iff now l w (h.begun client w hw), h.lasting, Int.not_le]

/-- After a call the limiter has the client's window as the counter has it, and all else as swept. -/
theorem Tracks.state_allow (h : Tracks limit length l now windows) (client : String) :
    (l.allow client now).2 =
      { l.sweep now with
        clients := (l.sweep now).clients.insert client
          (Counter.call limit length now (windows client)).2 } := by
  unfold Limiter.allow Counter.call
  dsimp only
  rw [h.sweep.current client, h.sweep.limited]
  split <;> rfl

/-- At some instant, behind some calls, a limiter has the windows of the counters that were not over
at its last sweep, and no others. -/
structure Swept (limit length : Nat) (l : Limiter) (now : Int) (as : List Arrival) : Prop
    extends Tracks limit length l now (windowOf limit length as) where
  past : l.lastSweep ≤ now
  held : ∀ client w, l.clients.get? client = some w ↔
    windowOf limit length as client = some w ∧ l.lastSweep < w.start + length

theorem swept_new (limit length : Nat) (made : Int) :
    Swept limit length (new limit length made) made [] where
  toTracks := tracks_new limit length made made
  past := Int.le_refl made
  held client w := by
    constructor
    · intro h
      cases h
    · rintro ⟨h, -⟩
      cases h

theorem Swept.later {later : Int} (h : Swept limit length l now as) (hle : now ≤ later) :
    Swept limit length l later as where
  toTracks := h.toTracks.later hle
  past := Int.le_trans h.past hle
  held := h.held

theorem Swept.sweep (h : Swept limit length l now as) : Swept limit length (l.sweep now) now as where
  toTracks := h.toTracks.sweep
  past := lastSweep_sweep_le h.past
  held client w := by
    unfold Limiter.sweep
    by_cases hdue : l.length ≤ elapsed l.lastSweep now
    · rw [if_pos hdue]
      dsimp only
      rw [Table.get?_filter, Option.filter_eq_some_iff, h.held, Bool.not_eq_true']
      constructor
      · rintro ⟨⟨hw, -⟩, hlasts⟩
        exact ⟨hw, (h.lasts_iff hw).1 hlasts⟩
      · -- a window that is not over now was not over at any sweep before
        rintro ⟨hw, hlasts⟩
        exact ⟨⟨hw, Int.lt_of_le_of_lt h.past hlasts⟩, (h.lasts_iff hw).2 hlasts⟩
    · rw [if_neg hdue]
      exact h.held client w

/-- **One call.** -/
theorem Swept.allow (hlength : 0 < length) (h : Swept limit length l now as) (client : String) :
    Swept limit length (l.allow client now).2 now (as ++ [⟨client, now⟩]) := by
  have hswept := h.sweep
  have htracks := (h.toTracks.allow client).2
  have hstate := h.toTracks.state_allow client
  rw [← windowOf_append limit length as ⟨client, now⟩] at htracks
  refine ⟨htracks, ?_, fun other w => ?_⟩
  · rw [lastSweep_allow]
    exact hswept.past
  · rw [hstate, windowOf_append, Table.get?_insert]
    dsimp only
    by_cases hother : other = client
    · -- the window of the caller lasts beyond this instant, and so beyond any sweep up to it
      subst hother
      have hlasts := @Counter.lt_end_call limit length now (windowOf limit length as other) hlength
      rw [if_pos rfl, Function.update_self]
      refine ⟨fun hw => ⟨hw, ?_⟩, fun hw => hw.1⟩
      cases hw
      exact Int.lt_of_le_of_lt hswept.past hlasts
    · rw [if_neg hother, Function.update_of_ne hother]
      exact hswept.held other w

/-! ## Runs -/

/-- A limiter after some calls, one after the other. -/
def after (l : Limiter) (as : List Arrival) : Limiter :=
  as.foldl (fun l a => (l.allow a.client a.instant).2) l

theorem after_append (l : Limiter) (as : List Arrival) (a : Arrival) :
    l.after (as ++ [a]) = ((l.after as).allow a.client a.instant).2 :=
  List.foldl_concat ..

/-- What comes before a call, comes in order of time and not after it. -/
theorem Ordered.before {a : Arrival} {rest : List Arrival} (h : Ordered (as ++ a :: rest)) :
    Ordered as ∧ ∀ b ∈ as, b.instant ≤ a.instant := by
  obtain ⟨hbefore, -, hlast⟩ := List.pairwise_append.1 h
  exact ⟨hbefore, fun b hb => hlast b hb a List.mem_cons_self⟩

/-- **Runs.** -/
theorem swept_after (hlength : 0 < length) (hordered : Ordered as) (hmade : made ≤ now)
    (hwithin : ∀ a ∈ as, made ≤ a.instant ∧ a.instant ≤ now) :
    Swept limit length ((new limit length made).after as) now as := by
  -- by the last call, whose instant is the one at which the limiter behind the others is looked at
  induction as using List.reverseRecOn generalizing now with
  | nil => exact (swept_new limit length made).later hmade
  | append_singleton as a ih =>
    obtain ⟨hbefore, hlast⟩ := hordered.before
    obtain ⟨hfrom, hto⟩ := hwithin a (List.mem_append_right as List.mem_cons_self)
    have hswept := ih hbefore hfrom fun b hb =>
      ⟨(hwithin b (List.mem_append_left [a] hb)).1, hlast b hb⟩
    rw [after_append]
    exact (hswept.allow hlength a.client).later hto

/-! ## Memory -/

/-- The clients that called after an instant and not after another. -/
def callers (since now : Int) (as : List Arrival) : Finset String :=
  ((as.filter fun a => since < a.instant && a.instant ≤ now).map Arrival.client).toFinset

theorem mem_callers {since : Int} :
    client ∈ callers since now as ↔
      ∃ a ∈ as, a.client = client ∧ since < a.instant ∧ a.instant ≤ now := by
  simp only [callers, List.mem_toFinset, List.mem_map, List.mem_filter, Bool.and_eq_true,
    decide_eq_true_eq]
  constructor
  · rintro ⟨a, ⟨ha, hspan⟩, hclient⟩
    exact ⟨a, ha, hclient, hspan⟩
  · rintro ⟨a, ha, hclient, hspan⟩
    exact ⟨a, ⟨ha, hspan⟩, hclient⟩

/-- Clients that are all in a set are not more than it has. -/
theorem tracked_le_card {clients : Finset String}
    (h : ∀ client w, l.clients.get? client = some w → client ∈ clients) :
    l.tracked ≤ clients.card := by
  have hsubset : (l.clients.entries.map Prod.fst).toFinset ⊆ clients := by
    intro client hclient
    obtain ⟨e, he, rfl⟩ := List.mem_map.1 (List.mem_toFinset.1 hclient)
    exact h e.1 e.2 (Table.get?_eq_some_iff.2 he)
  have hcard := Finset.card_le_card hsubset
  rw [List.toFinset_card_of_nodup l.clients.nodup, List.length_map] at hcard
  exact hcard

/-- What a limiter remembers at some instant, behind some calls. -/
structure Bounded (limit length : Nat) (l : Limiter) (now : Int) (as : List Arrival) : Prop where
  /-- Every window began less than two windows ago. -/
  recent : ∀ client w, l.clients.get? client = some w →
    now - 2 * length < w.start ∧ w.start ≤ now
  /-- The last sweep is less than one window ago. -/
  swept : l.lastSweep ≤ now ∧ now - l.lastSweep < length
  /-- There are no more clients than have called less than two windows ago. -/
  few : l.tracked ≤ (callers (now - 2 * length) now as).card
  /-- And no window is forgotten but those that were over at the last sweep. -/
  held : ∀ client w, l.clients.get? client = some w ↔
    windowOf limit length as client = some w ∧ l.lastSweep < w.start + length

theorem Swept.bounded (h : Swept limit length l now as) (hlate : now < l.lastSweep + length) :
    Bounded limit length l now as := by
  have hrecent : ∀ client w, l.clients.get? client = some w →
      now - 2 * length < w.start ∧ w.start ≤ now := by
    intro client w hget
    obtain ⟨hw, hlasts⟩ := (h.held client w).1 hget
    exact ⟨by omega, h.begun client w hw⟩
  refine ⟨hrecent, ⟨h.past, by omega⟩, tracked_le_card fun client w hget => ?_, h.held⟩
  have hcalled := mem_of_windowOf ((h.held client w).1 hget).1
  exact mem_callers.2 ⟨_, hcalled, rfl, hrecent client w hget⟩

/-- **Memory.** Calls come in order of time, from any clients, and none before the limiter was made.
After each of them the limiter remembers only windows that began less than two windows ago, and only
clients that have called since then. -/
theorem memory_of_arrivals (limit length : Nat) (made : Int) (as : List Arrival)
    (hlength : 0 < length) (hordered : Ordered as) (hlater : ∀ a ∈ as, made ≤ a.instant) :
    ∀ before a rest, as = before ++ a :: rest →
      Bounded limit length ((new limit length made).after (before ++ [a])) a.instant
        (before ++ [a]) := by
  rintro before a rest rfl
  obtain ⟨hbefore, hlast⟩ := hordered.before
  have hswept := @swept_after limit length made a.instant before hlength hbefore
    (hlater a (List.mem_append_right before List.mem_cons_self)) fun b hb =>
      ⟨hlater b (List.mem_append_left _ hb), hlast b hb⟩
  have hlate := lt_lastSweep_sweep ((new limit length made).after before) a.instant
    (by rwa [hswept.lasting])
  rw [← lastSweep_allow _ a.client, hswept.lasting] at hlate
  rw [after_append]
  exact (hswept.allow hlength a.client).bounded hlate

/-- In windows of 5 the first sweep, at 5, comes too early for `a` and `b`, and the next one, at 10,
finds all windows over but that of `d`. -/
def passingArrivals : List Arrival := [⟨"a", 1⟩, ⟨"b", 4⟩, ⟨"c", 5⟩, ⟨"d", 9⟩, ⟨"e", 10⟩]

/-- At 9 all four that have called are remembered, and at 10 two of five. -/
theorem memory_passingArrivals :
    (0 < 5 ∧ Ordered passingArrivals ∧ ∀ a ∈ passingArrivals, 0 ≤ a.instant) ∧
      (passingArrivals = passingArrivals.take 3 ++ ⟨"d", 9⟩ :: [⟨"e", 10⟩] ∧
        Bounded 1 5 ((new 1 5 0).after (passingArrivals.take 4)) 9 (passingArrivals.take 4) ∧
        ((new 1 5 0).after (passingArrivals.take 4)).tracked = 4 ∧
        (callers (9 - 2 * 5) 9 (passingArrivals.take 4)).card = 4) ∧
      passingArrivals = passingArrivals.take 4 ++ ⟨"e", 10⟩ :: [] ∧
        Bounded 1 5 ((new 1 5 0).after passingArrivals) 10 passingArrivals ∧
        ((new 1 5 0).after passingArrivals).tracked = 2 ∧
        (callers (10 - 2 * 5) 10 passingArrivals).card = 5 := by
  have hordered : Ordered passingArrivals := by
    unfold Ordered
    decide
  have hlater : ∀ a ∈ passingArrivals, 0 ≤ a.instant := by decide
  have hbounds := memory_of_arrivals 1 5 0 passingArrivals (by decide) hordered hlater
  exact ⟨⟨by decide, hordered, hlater⟩,
    ⟨rfl, hbounds (passingArrivals.take 3) ⟨"d", 9⟩ [⟨"e", 10⟩] rfl, rfl, rfl⟩,
    rfl, hbounds (passingArrivals.take 4) ⟨"e", 10⟩ [] rfl, rfl, rfl⟩

end Limiter

end Microblog
