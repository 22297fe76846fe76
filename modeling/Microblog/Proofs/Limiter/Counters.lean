import Mathlib.Logic.Function.Basic
import Microblog.Limiter

/-!
# Limits without sweeping

A `Counter` is the limit of one client alone: a window that begins anew when it
is over, and is never swept away. A limiter answers calls that come in order of
time as a family of counters does, one for each client (`answers_eq_counters`).
So no client can tell whether and when windows are swept, and none can tell what
other clients do.

A window that the limiter has swept is over, and stays over as time goes on.
That is all that the two sides differ in (`Tracks`).
-/

namespace Microblog

namespace Limiter

/-- A call of a client at some instant. -/
structure Arrival where
  client : String
  instant : Int
  deriving DecidableEq

/-- No call comes before an earlier one. -/
def Ordered (as : List Arrival) : Prop := as.Pairwise fun a b => a.instant ≤ b.instant

/-- What a limiter answers to some calls. -/
def answers (l : Limiter) : List Arrival → List (Except Nat Unit)
  | [] => []
  | a :: as => (l.allow a.client a.instant).1 :: (l.allow a.client a.instant).2.answers as

/-- The calls of a client. -/
def callsOf (client : String) (as : List Arrival) : List Arrival :=
  as.filter fun a => a.client == client

/-- The answers to the calls of a client, among the answers to all calls. -/
def answersTo (client : String) : List Arrival → List (Except Nat Unit) → List (Except Nat Unit)
  | a :: as, r :: rs =>
    if a.client = client then r :: answersTo client as rs else answersTo client as rs
  | _, _ => []

end Limiter

/-! ## Counters -/

namespace Counter

/-- The window in which a call falls: the last one, or a new one if that is over. -/
def current (length : Nat) (now : Int) : Option Window → Window
  | none => ⟨now, 0⟩
  | some w => if now < w.start + length then w else ⟨now, 0⟩

/-- Counts a call, or refuses it with the time up to the end of the window. -/
def call (limit length : Nat) (now : Int) (last : Option Window) : Except Nat Unit × Window :=
  let w := current length now last
  if w.count < limit then (.ok (), { w with count := w.count + 1 })
  else (.error (w.start + length - now).toNat, w)

/-- What one counter answers to calls at some instants. -/
def answers (limit length : Nat) (last : Option Window) : List Int → List (Except Nat Unit)
  | [] => []
  | now :: rest =>
    (call limit length now last).1 :: answers limit length (some (call limit length now last).2) rest

/-- What a family of counters answers to calls: each call is counted for its client alone. -/
def familyAnswers (limit length : Nat) (windows : String → Option Window) :
    List Limiter.Arrival → List (Except Nat Unit)
  | [] => []
  | a :: as =>
    (call limit length a.instant (windows a.client)).1 ::
      familyAnswers limit length (Function.update windows a.client
        (some (call limit length a.instant (windows a.client)).2)) as

end Counter

namespace Limiter

variable {limit length : Nat} {made now : Int} {l : Limiter} {windows : String → Option Window}
  {as bs : List Arrival} {client : String} {w : Window}

/-- **Counters.** A client of a family is answered as by a counter alone. -/
theorem answersTo_familyAnswers (client : String) (as : List Arrival)
    (windows : String → Option Window) :
    answersTo client as (Counter.familyAnswers limit length windows as) =
      Counter.answers limit length (windows client) ((callsOf client as).map Arrival.instant) := by
  induction as generalizing windows with
  | nil => rfl
  | cons a as ih =>
    unfold Counter.familyAnswers answersTo callsOf
    by_cases ha : a.client = client
    · subst ha
      rw [if_pos rfl, ih, Function.update_self, List.filter_cons_of_pos (by simp)]
      rfl
    · rw [if_neg ha, ih, Function.update_of_ne (Ne.symm ha), List.filter_cons_of_neg (by simpa)]
      rfl

/-! ## A limiter beside its counters -/

/-- The limiter has the windows of the counters at some instant, but for some that are over. -/
structure Tracks (limit length : Nat) (l : Limiter) (now : Int)
    (windows : String → Option Window) : Prop where
  limited : l.limit = limit
  lasting : l.length = length
  kept : ∀ client w, l.clients.get? client = some w → windows client = some w
  missed : ∀ client w, windows client = some w → l.clients.get? client = none →
    w.start + length ≤ now
  begun : ∀ client w, windows client = some w → w.start ≤ now

theorem tracks_new (limit length : Nat) (made now : Int) :
    Tracks limit length (new limit length made) now fun _ => none where
  limited := rfl
  lasting := rfl
  kept client w h := by cases h
  missed client w h := by cases h
  begun client w h := by cases h

theorem Tracks.later {later : Int} (h : Tracks limit length l now windows) (hle : now ≤ later) :
    Tracks limit length l later windows where
  limited := h.limited
  lasting := h.lasting
  kept := h.kept
  missed client w hw hnone := by
    have hover := h.missed client w hw hnone
    omega
  begun client w hw := by
    have hstart := h.begun client w hw
    omega

/-- Nothing has ended for the limiter that is not over. -/
theorem ended_iff (hw : w.start ≤ now) : l.ended now w = true ↔ w.start + l.length ≤ now := by
  unfold ended elapsed
  rw [decide_eq_true_eq]
  omega

theorem Tracks.sweep (h : Tracks limit length l now windows) :
    Tracks limit length (l.sweep now) now windows := by
  unfold Limiter.sweep
  by_cases hdue : l.length ≤ elapsed l.lastSweep now
  · rw [if_pos hdue]
    refine ⟨h.limited, h.lasting, fun client w hw => ?_, fun client w hw hnone => ?_, h.begun⟩
    · rw [Store.Table.get?_filter] at hw
      exact h.kept client w (Option.filter_eq_some_iff.1 hw).1
    · rw [Store.Table.get?_filter] at hnone
      cases hget : l.clients.get? client with
      | none => exact h.missed client w hw hget
      | some v =>
        have hv := h.kept client v hget
        rw [hw] at hv
        cases hv
        rw [hget] at hnone
        have hended : l.ended now w = true := by simpa [Option.filter] using hnone
        rw [ended_iff (h.begun client w hw), h.lasting] at hended
        exact hended
  · rw [if_neg hdue]
    exact h

/-- A call falls in the same window on both sides. -/
theorem Tracks.current (h : Tracks limit length l now windows) (client : String) :
    l.current now (l.clients.get? client) = Counter.current length now (windows client) := by
  unfold Limiter.current Counter.current
  cases hget : l.clients.get? client with
  | some w =>
    have hw := h.kept client w hget
    have hended := @ended_iff now l w (h.begun client w hw)
    rw [h.lasting] at hended
    rw [hw]
    show (if l.ended now w = true then _ else w) = if now < w.start + length then w else _
    by_cases hover : w.start + length ≤ now
    · rw [if_pos (hended.2 hover), if_neg (by omega)]
    · rw [if_neg (mt hended.1 hover), if_pos (by omega)]
  | none =>
    cases hw : windows client with
    | none => rfl
    | some w =>
      have hover := h.missed client w hw hget
      show _ = if now < w.start + length then w else _
      rw [if_neg (by omega)]

theorem start_current (h : ∀ w, windows client = some w → w.start ≤ now) :
    (Counter.current length now (windows client)).start ≤ now := by
  unfold Counter.current
  cases hw : windows client with
  | none => exact Int.le_refl now
  | some w =>
    show (if now < w.start + length then w else _).start ≤ now
    split
    · exact h w hw
    · exact Int.le_refl now

/-- To set the window of a client on both sides. -/
theorem Tracks.insert (h : Tracks limit length l now windows) (client : String)
    (hw : w.start ≤ now) :
    Tracks limit length { l with clients := l.clients.insert client w } now
      (Function.update windows client (some w)) := by
  refine ⟨h.limited, h.lasting, fun other v hv => ?_, fun other v hv hnone => ?_,
    fun other v hv => ?_⟩
  · rw [Store.Table.get?_insert] at hv
    by_cases hother : other = client
    · subst hother
      rw [if_pos rfl] at hv
      rw [Function.update_self]
      exact hv
    · rw [if_neg hother] at hv
      rw [Function.update_of_ne hother]
      exact h.kept other v hv
  · rw [Store.Table.get?_insert] at hnone
    by_cases hother : other = client
    · rw [if_pos hother] at hnone
      cases hnone
    · rw [if_neg hother] at hnone
      rw [Function.update_of_ne hother] at hv
      exact h.missed other v hv hnone
  · by_cases hother : other = client
    · subst hother
      rw [Function.update_self] at hv
      cases hv
      exact hw
    · rw [Function.update_of_ne hother] at hv
      exact h.begun other v hv

/-- **One call.** It is answered as by the client's counter, and the two sides stay together. -/
theorem Tracks.allow (h : Tracks limit length l now windows) (client : String) :
    (l.allow client now).1 = (Counter.call limit length now (windows client)).1 ∧
      Tracks limit length (l.allow client now).2 now (Function.update windows client
        (some (Counter.call limit length now (windows client)).2)) := by
  have hswept := h.sweep
  have hcurrent := hswept.current client
  have hstart := @start_current length now windows client (h.begun client)
  unfold Limiter.allow Counter.call
  dsimp only
  rw [hcurrent]
  by_cases hroom : (Counter.current length now (windows client)).count < limit
  · rw [if_pos (hswept.limited.symm ▸ hroom), if_pos hroom]
    exact ⟨rfl, hswept.insert client hstart⟩
  · rw [if_neg (hswept.limited.symm ▸ hroom), if_neg hroom]
    refine ⟨congrArg Except.error ?_, hswept.insert client hstart⟩
    rw [hswept.lasting]
    unfold elapsed
    omega

/-- **Runs.** -/
theorem Tracks.answers (h : Tracks limit length l now windows) (hordered : Ordered as)
    (hlater : ∀ a ∈ as, now ≤ a.instant) :
    l.answers as = Counter.familyAnswers limit length windows as := by
  induction as generalizing l now windows with
  | nil => rfl
  | cons a as ih =>
    obtain ⟨hafter, hrest⟩ := List.pairwise_cons.1 hordered
    obtain ⟨hanswer, hnext⟩ := (h.later (hlater a List.mem_cons_self)).allow a.client
    unfold Limiter.answers Counter.familyAnswers
    rw [hanswer, ih hnext hrest hafter]

/-- **Limits.** Calls that come in order of time are answered as by one counter for each client,
none of which is ever swept. So the answers to a client are those of the client's own counter, and
are the same whatever the other clients do and whenever the limiter was made. -/
theorem answers_eq_counters (limit length : Nat) (made : Int) (as : List Arrival)
    (hordered : Ordered as) :
    (new limit length made).answers as =
        Counter.familyAnswers limit length (fun _ => none) as ∧
      ∀ client, answersTo client as ((new limit length made).answers as) =
          Counter.answers limit length none ((callsOf client as).map Arrival.instant) ∧
        ∀ made' bs, Ordered bs → callsOf client bs = callsOf client as →
          answersTo client bs ((new limit length made').answers bs) =
            answersTo client as ((new limit length made).answers as) := by
  have hfamily : ∀ made as, Ordered as → (new limit length made).answers as =
      Counter.familyAnswers limit length (fun _ => none) as := by
    intro made as hordered
    cases as with
    | nil => rfl
    | cons a as =>
      have hafter := (List.pairwise_cons.1 hordered).1
      refine (tracks_new limit length made a.instant).answers hordered fun b hb => ?_
      rcases List.mem_cons.1 hb with rfl | hb
      · exact Int.le_refl _
      · exact hafter b hb
  refine ⟨hfamily made as hordered, fun client => ⟨?_, fun made' bs hbs hsame => ?_⟩⟩
  · rw [hfamily made as hordered, answersTo_familyAnswers]
  · rw [hfamily made as hordered, hfamily made' bs hbs, answersTo_familyAnswers,
      answersTo_familyAnswers, hsame]

/-- Someone calls at 6, when the window of `a` is over and is swept, and that of `b` is not. -/
def sampleArrivals : List Arrival := [⟨"a", 0⟩, ⟨"b", 2⟩, ⟨"c", 6⟩, ⟨"b", 6⟩, ⟨"a", 6⟩]

/-- After the sweep `a` has a new window, and `b` is told to wait for the end of the old one. -/
theorem answers_eq_counters_sampleArrivals :
    Ordered sampleArrivals ∧
      (new 1 5 0).answers sampleArrivals =
        Counter.familyAnswers 1 5 (fun _ => none) sampleArrivals ∧
      answersTo "b" sampleArrivals ((new 1 5 0).answers sampleArrivals) = [.ok (), .error 1] ∧
      answersTo "b" [⟨"b", 2⟩, ⟨"b", 6⟩] ((new 1 5 1).answers [⟨"b", 2⟩, ⟨"b", 6⟩]) =
        [.ok (), .error 1] := by
  have hordered : Ordered sampleArrivals := by
    unfold Ordered
    decide
  obtain ⟨hfamily, hclients⟩ := answers_eq_counters 1 5 0 sampleArrivals hordered
  obtain ⟨hown, halone⟩ := hclients "b"
  have hb : answersTo "b" sampleArrivals ((new 1 5 0).answers sampleArrivals) =
      [.ok (), .error 1] := hown.trans rfl
  have hbs : Ordered [⟨"b", 2⟩, ⟨"b", 6⟩] := by
    unfold Ordered
    decide
  exact ⟨hordered, hfamily, hb, (halone 1 _ hbs (by decide)).trans hb⟩

end Limiter

end Microblog
