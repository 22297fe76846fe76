import Mathlib.Data.List.TakeWhile
import Microblog.Proofs.Limiter.Counters

/-!
# Budgets

The `log` of a limiter says of each call whether a window began anew with it and
how it was answered. The entries of one client are those of the client's own
counter (`Tracks.log`), so what holds of the log of a counter holds of each
client, whatever is swept in between.

Between two restarts of its window a client is admitted as often as the limit
says at most. Two restarts are a window apart (`Counter.restarts_apart`), so a
span of time as long as a window sees one at most, and in it a client is
admitted twice as often at most (`budget_of_arrivals`).
-/

namespace Microblog

namespace Limiter

/-- A call, and what became of it. -/
structure Entry where
  client : String
  instant : Int
  /-- Whether the window of the client began anew with the call. -/
  restarts : Bool
  answer : Except Nat Unit
  deriving DecidableEq

/-- Whether the call was counted. -/
def Entry.admitted (e : Entry) : Bool := e.answer.isOk

/-- Whether the call was made in the span of time from `t` to before `u`. -/
def Entry.within (t u : Int) (e : Entry) : Bool := t ≤ e.instant && e.instant < u

/-- Whether a call finds no window of its client, or one that has ended. -/
def restarts (l : Limiter) (client : String) (now : Int) : Bool :=
  ((l.sweep now).clients.get? client).all ((l.sweep now).ended now)

/-- What becomes of some calls, one after the other. -/
def log (l : Limiter) : List Arrival → List Entry
  | [] => []
  | a :: as =>
    ⟨a.client, a.instant, l.restarts a.client a.instant, (l.allow a.client a.instant).1⟩ ::
      (l.allow a.client a.instant).2.log as

/-- The entries of a client. -/
def entriesOf (client : String) (es : List Entry) : List Entry :=
  es.filter fun e => e.client == client

theorem entriesOf_append (client : String) (es fs : List Entry) :
    entriesOf client (es ++ fs) = entriesOf client es ++ entriesOf client fs :=
  List.filter_append es fs

theorem entriesOf_cons {client : String} {e : Entry} (he : e.client = client) (es : List Entry) :
    entriesOf client (e :: es) = e :: entriesOf client es :=
  List.filter_cons_of_pos (by simpa using he)

theorem mem_entriesOf {client : String} {e : Entry} {es : List Entry} :
    e ∈ entriesOf client es ↔ e ∈ es ∧ e.client = client := by
  unfold entriesOf
  rw [List.mem_filter, beq_iff_eq]

end Limiter

/-! ## The log of one counter -/

namespace Counter

open Limiter

variable {limit length : Nat} {client : String} {now : Int} {last : Option Window} {w : Window}
  {ts : List Int} {e : Entry} {before after stretch : List Entry}

/-- Whether a call finds no window, or one that is over. -/
def restarts (length : Nat) (now : Int) (last : Option Window) : Bool :=
  last.all fun w => w.start + length ≤ now

/-- What becomes of calls of one client at some instants. -/
def log (client : String) (limit length : Nat) (last : Option Window) : List Int → List Entry
  | [] => []
  | now :: rest =>
    ⟨client, now, restarts length now last, (call limit length now last).1⟩ ::
      log client limit length (some (call limit length now last).2) rest

theorem current_of_restarts (h : restarts length now last = true) :
    current length now last = ⟨now, 0⟩ := by
  cases last with
  | none => rfl
  | some w =>
    have hover : w.start + length ≤ now := of_decide_eq_true h
    exact if_neg (by omega)

theorem current_of_not_restarts (h : restarts length now (some w) = false) :
    current length now (some w) = w ∧ now < w.start + length := by
  have hover : ¬ w.start + length ≤ now := of_decide_eq_false h
  exact ⟨if_pos (by omega), by omega⟩

theorem start_call : (call limit length now last).2.start = (current length now last).start := by
  unfold call
  dsimp only
  split <;> rfl

/-- Any part of a log behind some entries is the log of later calls. -/
theorem log_suffix (h : log client limit length last ts = before ++ after) :
    ∃ last' ts', ts' <:+ ts ∧ after = log client limit length last' ts' := by
  induction before generalizing last ts with
  | nil => exact ⟨last, ts, List.suffix_rfl, h.symm⟩
  | cons e before ih =>
    cases ts with
    | nil => cases h
    | cons now rest =>
      obtain ⟨last', ts', hts, hafter⟩ := ih (List.cons.inj h).2
      exact ⟨last', ts', hts.trans (List.suffix_cons now rest), hafter⟩

theorem map_instant_log (last : Option Window) (ts : List Int) :
    (log client limit length last ts).map Entry.instant = ts := by
  induction ts generalizing last with
  | nil => rfl
  | cons now rest ih => exact congrArg (now :: ·) (ih _)

/-- Calls in order of time make entries in order of time. -/
theorem pairwise_log (hts : ts.Pairwise (· ≤ ·)) (last : Option Window) :
    (log client limit length last ts).Pairwise fun a b => a.instant ≤ b.instant := by
  rw [← @map_instant_log limit length client last ts] at hts
  exact List.pairwise_map.1 hts

/-! ## Budgets -/

/-- How many calls a window can still count. -/
def room (limit : Nat) (w : Window) : Nat := limit - w.count

/-- What a call takes of the room. -/
theorem room_call (limit length : Nat) (now : Int) (last : Option Window) :
    room limit (current length now last) =
      room limit (call limit length now last).2 + (call limit length now last).1.isOk.toNat := by
  unfold call room
  dsimp only
  split
  · rename_i hroom
    show _ = limit - (_ + 1) + 1
    omega
  · rfl

/-- A call is counted if there is room for it. -/
theorem isOk_call (limit length : Nat) (now : Int) (last : Option Window) :
    (call limit length now last).1.isOk = decide (0 < room limit (current length now last)) := by
  unfold call room
  dsimp only
  split
  · rename_i hroom
    exact (decide_eq_true (by omega)).symm
  · rename_i hroom
    exact (decide_eq_false (by omega)).symm

/-- As long as a window lasts, its calls are counted while there is room. -/
theorem countP_of_window (h : log client limit length (some w) ts = stretch ++ after)
    (hlasts : ∀ e ∈ stretch, e.restarts = false) :
    stretch.countP Entry.admitted = min (room limit w) stretch.length := by
  induction stretch generalizing w ts with
  | nil => simp
  | cons e stretch ih =>
    cases ts with
    | nil => cases h
    | cons now rest =>
      obtain ⟨rfl, htail⟩ := List.cons.inj h
      have hcurrent := (current_of_not_restarts (hlasts _ List.mem_cons_self)).1
      have hrest := ih htail fun e he => hlasts e (List.mem_cons_of_mem _ he)
      have htaken := room_call limit length now (some w)
      have hcounted := isOk_call limit length now (some w)
      rw [hcurrent] at htaken hcounted
      rw [List.countP_cons, hrest, List.length_cons]
      show _ + (if (call limit length now (some w)).1.isOk = true then 1 else 0) = _
      rw [hcounted] at htaken ⊢
      by_cases hroom : 0 < room limit w <;> simp [hroom] at htaken ⊢ <;> omega

/-- Entries of which the first one alone may begin a window: of a window that begins with them as
many are admitted as the limit says, and of one that has begun before them not more. -/
theorem countP_of_stretch (h : log client limit length last ts = before ++ stretch ++ after)
    (hlasts : ∀ e ∈ stretch.tail, e.restarts = false) :
    stretch.countP Entry.admitted ≤ limit ∧
      ∀ e ∈ stretch.head?, e.restarts = true →
        stretch.countP Entry.admitted = min limit stretch.length := by
  rw [List.append_assoc] at h
  obtain ⟨last, ts, -, h⟩ := log_suffix h
  cases stretch with
  | nil => simp
  | cons e stretch =>
    cases ts with
    | nil => cases h
    | cons now rest =>
      obtain ⟨rfl, htail⟩ := List.cons.inj h
      have hrest := countP_of_window htail.symm hlasts
      have htaken := room_call limit length now last
      have hcounted := isOk_call limit length now last
      have hroom : room limit (current length now last) ≤ limit := Nat.sub_le _ _
      have hcount : (⟨client, now, restarts length now last, (call limit length now last).1⟩ ::
          stretch : List Entry).countP Entry.admitted =
            min (room limit (call limit length now last).2) stretch.length +
              (call limit length now last).1.isOk.toNat := by
        rw [List.countP_cons, hrest]
        cases hok : (call limit length now last).1.isOk <;> simp [Entry.admitted, hok]
      rw [hcount]
      refine ⟨by omega, fun e he hrestarts => ?_⟩
      cases he
      have hnew : room limit (current length now last) = limit := by
        rw [current_of_restarts hrestarts]
        rfl
      rw [hnew] at htaken hcounted
      rw [hcounted] at htaken ⊢
      rw [List.length_cons]
      by_cases hlimit : 0 < limit <;> simp [hlimit] at htaken ⊢ <;> omega

/-! ## Restarts -/

theorem restarts_after (he : e ∈ log client limit length (some w) ts) (hrestarts : e.restarts = true) :
    w.start + length ≤ e.instant := by
  induction ts generalizing w with
  | nil => cases he
  | cons now rest ih =>
    rcases List.mem_cons.1 he with rfl | he
    · exact of_decide_eq_true hrestarts
    · have hlater := ih he
      rw [start_call] at hlater
      cases hover : restarts length now (some w) with
      | true =>
        have hend : w.start + length ≤ now := of_decide_eq_true hover
        rw [current_of_restarts hover] at hlater
        dsimp only at hlater
        omega
      | false =>
        rw [(current_of_not_restarts hover).1] at hlater
        exact hlater

/-- Two restarts are a window apart. -/
theorem restarts_apart (h : log client limit length last ts = before ++ e :: after)
    (he : e.restarts = true) : ∀ e' ∈ after, e'.restarts = true → e.instant + length ≤ e'.instant := by
  obtain ⟨last, ts, -, h⟩ := log_suffix h
  cases ts with
  | nil => cases h
  | cons now rest =>
    obtain ⟨rfl, rfl⟩ := List.cons.inj h
    intro e' he' hrestarts
    have hlater := restarts_after he' hrestarts
    rw [start_call, current_of_restarts he] at hlater
    exact hlater

/-! ## Spans of time -/

/-- Of entries in order of time, those before an instant come first. -/
theorem filter_of_ordered {es : List Entry} (h : es.Pairwise fun a b => a.instant ≤ b.instant)
    (t : Int) : es.filter (fun e => e.instant < t) = es.takeWhile (fun e => e.instant < t) ∧
      es.filter (fun e => t ≤ e.instant) = es.dropWhile (fun e => e.instant < t) := by
  induction es with
  | nil => exact ⟨rfl, rfl⟩
  | cons e es ih =>
    obtain ⟨hafter, hrest⟩ := List.pairwise_cons.1 h
    by_cases he : e.instant < t
    · have hnot : ¬ t ≤ e.instant := by omega
      simp [he, hnot, ih hrest]
    · have hnot : t ≤ e.instant := Int.not_lt.1 he
      have hall : ∀ e' ∈ es, t ≤ e'.instant := fun e' he' => Int.le_trans hnot (hafter e' he')
      simpa [he, hnot] using hall

/-- The entries in a span of time stand together. -/
theorem exists_span {es : List Entry} (h : es.Pairwise fun a b => a.instant ≤ b.instant)
    (t u : Int) : ∃ before after, es = before ++ es.filter (Entry.within t u) ++ after := by
  obtain ⟨-, hfrom⟩ := filter_of_ordered h t
  obtain ⟨hbefore, -⟩ := filter_of_ordered (h.filter fun e => decide (t ≤ e.instant)) u
  have hspan : es.filter (Entry.within t u) =
      (es.filter fun e => t ≤ e.instant).filter fun e => e.instant < u := by
    rw [List.filter_filter]
    exact List.filter_congr fun e _ => Bool.and_comm _ _
  refine ⟨es.takeWhile fun e => e.instant < t,
    (es.dropWhile fun e => e.instant < t).dropWhile fun e => e.instant < u, ?_⟩
  rw [hspan, hbefore, hfrom, List.append_assoc, List.takeWhile_append_dropWhile,
    List.takeWhile_append_dropWhile]

/-- Entries are cut where a window first begins anew. -/
theorem exists_cut (es : List Entry) : ∃ old new, es = old ++ new ∧
    (∀ e ∈ old, e.restarts = false) ∧ ∀ e ∈ new.head?, e.restarts = true := by
  refine ⟨es.takeWhile fun e => !e.restarts, es.dropWhile fun e => !e.restarts,
    List.takeWhile_append_dropWhile.symm, fun e he => ?_, fun e he => ?_⟩
  · simpa using List.mem_takeWhile_imp he
  · have hhead := List.head?_dropWhile_not (fun e : Entry => !e.restarts) es
    rw [Option.mem_def.1 he] at hhead
    simpa using hhead

/-- In a span of time as long as a window, no window begins anew behind one that does. -/
theorem lasts_of_span {first : Entry} {t : Int}
    (h : log client limit length last ts = before ++ first :: stretch ++ after)
    (hwithin : ∀ e ∈ first :: stretch, t ≤ e.instant ∧ e.instant < t + length)
    (hfirst : first.restarts = true) : ∀ e ∈ stretch, e.restarts = false := by
  intro e he
  rw [List.append_assoc] at h
  have hapart := restarts_apart h hfirst e (List.mem_append_left after he)
  have hstart := hwithin first List.mem_cons_self
  have hlate := hwithin e (List.mem_cons_of_mem _ he)
  cases hrestarts : e.restarts with
  | false => rfl
  | true =>
    have hend := hapart hrestarts
    omega

/-- A span of time as long as a window sees one restart at most, so there are two windows in it. -/
theorem countP_of_span (hts : ts.Pairwise (· ≤ ·)) (last : Option Window) (t : Int) :
    ((log client limit length last ts).filter (Entry.within t (t + length))).countP Entry.admitted ≤
      2 * limit := by
  obtain ⟨before, after, hlog⟩ :=
    exists_span (@pairwise_log limit length client ts hts last) t (t + length)
  generalize hspan : (log client limit length last ts).filter (Entry.within t (t + length)) = span
    at hlog
  have hwithin : ∀ e ∈ span, t ≤ e.instant ∧ e.instant < t + length := by
    intro e he
    rw [← hspan] at he
    simpa [Entry.within] using (List.mem_filter.1 he).2
  obtain ⟨old, new, rfl, hold, hfirst⟩ := exists_cut span
  have hold_le : old.countP Entry.admitted ≤ limit := by
    have hlog' : log client limit length last ts = before ++ old ++ (new ++ after) := by
      rw [hlog]
      simp
    exact (countP_of_stretch hlog' fun e he => hold e (List.mem_of_mem_tail he)).1
  have hnew_le : new.countP Entry.admitted ≤ limit := by
    have hlog' : log client limit length last ts = before ++ old ++ new ++ after := by
      rw [hlog]
      simp
    refine (countP_of_stretch hlog' ?_).1
    cases new with
    | nil => exact List.forall_mem_nil _
    | cons first new =>
      exact lasts_of_span hlog' (fun e he => hwithin e (List.mem_append_right old he))
        (hfirst first rfl)
  rw [List.countP_append]
  omega

end Counter

/-! ## The log of a limiter -/

namespace Limiter

variable {limit length : Nat} {made now : Int} {l : Limiter} {windows : String → Option Window}
  {as : List Arrival} {client : String}

/-- A window begins anew on both sides. -/
theorem Tracks.restarts (h : Tracks limit length l now windows) (client : String) :
    l.restarts client now = Counter.restarts length now (windows client) := by
  have hswept := h.sweep
  unfold Limiter.restarts Counter.restarts
  cases hget : (l.sweep now).clients.get? client with
  | some w =>
    have hw := hswept.kept client w hget
    rw [hw]
    show (l.sweep now).ended now w = decide (w.start + length ≤ now)
    have hended := @ended_iff now (l.sweep now) w (hswept.begun client w hw)
    rw [hswept.lasting] at hended
    exact Bool.eq_iff_iff.2 (hended.trans decide_eq_true_iff.symm)
  | none =>
    cases hw : windows client with
    | none => rfl
    | some w => exact (decide_eq_true (hswept.missed client w hw hget)).symm

/-- The entries of a client are those of the client's counter. -/
theorem Tracks.log (h : Tracks limit length l now windows) (hordered : Ordered as)
    (hlater : ∀ a ∈ as, now ≤ a.instant) (client : String) :
    entriesOf client (l.log as) =
      Counter.log client limit length (windows client) ((callsOf client as).map Arrival.instant) := by
  induction as generalizing l now windows with
  | nil => rfl
  | cons a as ih =>
    obtain ⟨hafter, hrest⟩ := List.pairwise_cons.1 hordered
    have hnow := h.later (hlater a List.mem_cons_self)
    obtain ⟨hanswer, hnext⟩ := hnow.allow a.client
    have htail := ih hnext hrest hafter
    unfold entriesOf callsOf at htail ⊢
    unfold Limiter.log
    by_cases ha : a.client = client
    · subst ha
      rw [Function.update_self] at htail
      rw [List.filter_cons_of_pos (by simp), List.filter_cons_of_pos (by simp), List.map_cons, htail,
        hnow.restarts, hanswer]
      rfl
    · rw [Function.update_of_ne (Ne.symm ha)] at htail
      rw [List.filter_cons_of_neg (by simpa), List.filter_cons_of_neg (by simpa), htail]

/-- **Logs.** -/
theorem entriesOf_log (hordered : Ordered as) (client : String) :
    entriesOf client ((new limit length made).log as) =
      Counter.log client limit length none ((callsOf client as).map Arrival.instant) := by
  cases as with
  | nil => rfl
  | cons a as =>
    have hafter := (List.pairwise_cons.1 hordered).1
    refine (tracks_new limit length made a.instant).log hordered (fun b hb => ?_) client
    rcases List.mem_cons.1 hb with rfl | hb
    · exact Int.le_refl _
    · exact hafter b hb

theorem ordered_callsOf (hordered : Ordered as) (client : String) :
    ((callsOf client as).map Arrival.instant).Pairwise (· ≤ ·) :=
  List.pairwise_map.2 (hordered.filter _)

/-- **Budgets.** Calls come in order of time, from any clients. Among calls of which the first one
of a client alone may restart the client's window, the client is admitted as often as the limit says
at most; and if that call does restart it, exactly so often, or as often as the client calls. In any
span of time as long as a window the client is admitted twice as often as the limit says at most.
(Instants being whole numbers, a span without its first instant is one without its last.) -/
theorem budget_of_arrivals (limit length : Nat) (made : Int) (as : List Arrival)
    (hordered : Ordered as) (client : String) :
    (∀ before stretch after, (new limit length made).log as = before ++ stretch ++ after →
        (∀ e ∈ (entriesOf client stretch).tail, e.restarts = false) →
          (entriesOf client stretch).countP Entry.admitted ≤ limit ∧
            ∀ e ∈ (entriesOf client stretch).head?, e.restarts = true →
              (entriesOf client stretch).countP Entry.admitted =
                min limit (entriesOf client stretch).length) ∧
      ∀ t, ((entriesOf client ((new limit length made).log as)).filter
          (Entry.within t (t + length))).countP Entry.admitted ≤ 2 * limit := by
  have hlog := @entriesOf_log limit length made as hordered client
  refine ⟨fun before stretch after hsplit hlasts => ?_, fun t => ?_⟩
  · rw [hsplit, entriesOf_append, entriesOf_append] at hlog
    exact Counter.countP_of_stretch hlog.symm hlasts
  · rw [hlog]
    exact Counter.countP_of_span (ordered_callsOf hordered client) none t

/-- The window of `a` is over at 5, when a call of `b` sweeps it away. -/
def busyArrivals : List Arrival :=
  [⟨"a", 0⟩, ⟨"a", 4⟩, ⟨"b", 5⟩, ⟨"a", 5⟩, ⟨"a", 8⟩, ⟨"a", 8⟩]

/-- From 5 on `a` is admitted twice and then refused, and three times from 4 to before 9. -/
theorem budget_busyArrivals :
    Ordered busyArrivals ∧
      (entriesOf "a" (((new 2 5 0).log busyArrivals).drop 3)).map Entry.admitted =
        [true, true, false] ∧
      (entriesOf "a" (((new 2 5 0).log busyArrivals).drop 3)).countP Entry.admitted ≤ 2 ∧
      ((entriesOf "a" ((new 2 5 0).log busyArrivals)).filter
        (Entry.within 4 9)).countP Entry.admitted = 3 ∧
      ((entriesOf "a" ((new 2 5 0).log busyArrivals)).filter
        (Entry.within 4 9)).countP Entry.admitted ≤ 2 * 2 := by
  have hordered : Ordered busyArrivals := by
    unfold Ordered
    decide
  obtain ⟨hstretch, hspan⟩ := budget_of_arrivals 2 5 0 busyArrivals hordered "a"
  have hsplit : (new 2 5 0).log busyArrivals =
      ((new 2 5 0).log busyArrivals).take 3 ++ ((new 2 5 0).log busyArrivals).drop 3 ++ [] := by
    rw [List.append_nil, List.take_append_drop]
  have hlasts : ∀ e ∈ (entriesOf "a" (((new 2 5 0).log busyArrivals).drop 3)).tail,
      e.restarts = false := by decide
  exact ⟨hordered, rfl, (hstretch _ _ _ hsplit hlasts).1, rfl, hspan 4⟩

end Limiter

end Microblog
