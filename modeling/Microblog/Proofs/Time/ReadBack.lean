import Microblog.Proofs.Text.ReadBack
import Microblog.Proofs.Time.Calendar

/-!
# Times that are read back

A timestamp that RFC 3339 has a text for is read from its text
(`Rfc3339.parse_write`), with its offset and to the nanosecond: each component
is a numeral of a fixed width, and the zeros that are cut off a fraction count
for nothing.
-/

namespace Microblog

open Text

namespace Time

/-! ## What has a text -/

/-- RFC 3339 has a text for the timestamp: the year under the offset lies between 0 and 9999, and
the offset is of whole minutes, less than a day of them. -/
structure Representable (t : Timestamp) : Prop where
  year : 0 ≤ (Date.ofDays t.localDay).year ∧ (Date.ofDays t.localDay).year ≤ 9999
  minutes : t.offset % 60 = 0
  belowDay : t.offset.natAbs < 86400

instance (t : Timestamp) : Decidable (Representable t) :=
  decidable_of_iff
    ((0 ≤ (Date.ofDays t.localDay).year ∧ (Date.ofDays t.localDay).year ≤ 9999) ∧
      t.offset % 60 = 0 ∧ t.offset.natAbs < 86400)
    ⟨fun ⟨hyear, hminutes, hday⟩ => ⟨hyear, hminutes, hday⟩,
      fun ⟨hyear, hminutes, hday⟩ => ⟨hyear, hminutes, hday⟩⟩

/-- Every component has the digits that are kept for it. -/
structure Moment.Fits (m : Moment) : Prop where
  year : 0 ≤ m.date.year ∧ m.date.year ≤ 9999
  date : m.date.Valid
  hour : m.hour < 24
  minute : m.minute < 60
  second : m.second < 60
  nanos : m.nanos < 1000000000
  minutes : m.offset % 60 = 0
  belowDay : m.offset.natAbs < 86400

theorem Moment.fits_ofTimestamp {t : Timestamp} (h : Representable t) :
    (Moment.ofTimestamp t).Fits := by
  obtain ⟨hhour, hminute, hsecond, hnanos⟩ := Moment.ofTimestamp_spec t
  exact ⟨h.year, Date.valid_ofDays _, hhour, hminute, hsecond, hnanos, h.minutes, h.belowDay⟩

namespace Rfc3339

/-! ## Numerals of a fixed width -/

theorem isDigit_of_mem_padded {w n : Nat} {c : Char} (h : c ∈ padded w n) : c.isDigit := by
  rcases List.mem_append.1 h with h | h
  · rw [List.eq_of_mem_replicate h]
    rfl
  · exact isDigit_of_mem_decimal h

theorem ofDigitChars_padded (w n : Nat) : Nat.ofDigitChars 10 (padded w n) 0 = n := by
  simp only [padded, decimal, Nat.ofDigitChars_append, Nat.ofDigitChars_replicate_zero,
    Nat.mul_zero, Nat.ofDigitChars_ten_toDigits]

theorem length_padded {w n : Nat} (hw : 0 < w) (hn : n < Nat.pow 10 w) : (padded w n).length = w := by
  have hle : (decimal n).length ≤ w := (Nat.length_toDigits_le_iff (by decide) hw).2 hn
  rw [padded, List.length_append, List.length_replicate]
  omega

theorem digits?_append {ds : List Char} (hds : ∀ c ∈ ds, c.isDigit) (acc : Nat)
    (rest : List Char) :
    digits? ds.length acc (ds ++ rest) = some (Nat.ofDigitChars 10 ds acc, rest) := by
  induction ds generalizing acc with
  | nil => rfl
  | cons d ds ih =>
    rw [List.length_cons, List.cons_append, digits?, digit?_of_isDigit (hds d List.mem_cons_self),
      Option.bind_some, ih fun c hc => hds c (List.mem_cons_of_mem d hc), Nat.ofDigitChars_cons,
      Nat.mul_comm]

/-- **Components.** -/
theorem number_padded (name : String) {w n : Nat} (hw : 0 < w) (hn : n < Nat.pow 10 w)
    (rest : List Char) : number name w (padded w n ++ rest) = .ok (n, rest) := by
  have hread := digits?_append (fun c hc => isDigit_of_mem_padded (w := w) (n := n) hc) 0 rest
  rw [length_padded hw hn, ofDigitChars_padded] at hread
  rw [number, hread]

/-! ## Fractions of a second -/

/-- Some digits without the zeros at their end. -/
def trimmed (ds : List Char) : List Char := (ds.reverse.dropWhile (· == '0')).reverse

theorem trimmed_append (ds : List Char) : ∃ k, trimmed ds ++ List.replicate k '0' = ds := by
  have hzeros : ∀ c ∈ ds.reverse.takeWhile (· == '0'), c = '0' := fun c hc => by
    simpa using List.all_eq_true.1 List.all_takeWhile c hc
  refine ⟨(ds.reverse.takeWhile (· == '0')).length, ?_⟩
  have hcut := congrArg List.reverse
    (List.takeWhile_append_dropWhile (p := (· == '0')) (l := ds.reverse))
  rw [List.reverse_append, List.reverse_reverse, List.eq_replicate_of_mem hzeros,
    List.reverse_replicate] at hcut
  exact hcut

/-- What cannot follow the digits of a fraction: another digit, or a second point. -/
def Ends (cs : List Char) : Prop := ∀ c ∈ cs.head?, digit? c = none ∧ c ≠ '.'

theorem nanosOf_append {ds rest : List Char} (hds : ∀ c ∈ ds, c.isDigit) (hlen : ds.length ≤ 9)
    (hrest : Ends rest) :
    nanosOf (ds ++ rest) = (Nat.ofDigitChars 10 ds 0 * Nat.pow 10 (9 - ds.length), rest) := by
  have hdigit : ∀ c ∈ ds, (digit? c).isSome = true := fun c hc => by
    rw [digit?_of_isDigit (hds c hc)]
    rfl
  have hstop : rest.takeWhile (fun c => (digit? c).isSome) = [] ∧
      rest.dropWhile (fun c => (digit? c).isSome) = rest := by
    cases rest with
    | nil => exact ⟨rfl, rfl⟩
    | cons c cs =>
      have hc : ¬ (digit? c).isSome = true := by simp [(hrest c rfl).1]
      exact ⟨List.takeWhile_cons_of_neg hc, List.dropWhile_cons_of_neg hc⟩
  simp only [nanosOf, List.takeWhile_append_of_pos hdigit, List.dropWhile_append_of_pos hdigit,
    hstop.1, hstop.2, List.append_nil, List.take_of_length_le hlen, digits?_of_isDigit hds,
    Option.getD_some]

/-- **Fractions.** -/
theorem parseFraction_fraction {nanos : Nat} (hnanos : nanos < 1000000000) {rest : List Char}
    (hrest : Ends rest) : parseFraction (fraction nanos ++ rest) = .ok (nanos, rest) := by
  by_cases hzero : nanos = 0
  · rw [fraction, if_pos hzero, List.nil_append, hzero]
    unfold parseFraction
    split
    · exact absurd rfl (hrest '.' rfl).2
    · rfl
  · obtain ⟨k, hk⟩ := trimmed_append (padded 9 nanos)
    have hds : ∀ c ∈ trimmed (padded 9 nanos), c.isDigit := fun c hc =>
      isDigit_of_mem_padded (hk ▸ List.mem_append_left _ hc)
    have hlen : (trimmed (padded 9 nanos)).length + k = 9 := by
      have h := congrArg List.length hk
      rwa [List.length_append, List.length_replicate, length_padded (by decide) hnanos] at h
    have hvalue : Nat.ofDigitChars 10 (trimmed (padded 9 nanos)) 0 * Nat.pow 10 k = nanos := by
      have h := congrArg (Nat.ofDigitChars 10 · 0) hk
      simp only [Nat.ofDigitChars_append, Nat.ofDigitChars_replicate_zero,
        ofDigitChars_padded] at h
      rw [Nat.mul_comm]
      exact h
    have hread := nanosOf_append hds (by omega) hrest
    rw [show 9 - (trimmed (padded 9 nanos)).length = k by omega, hvalue] at hread
    rw [fraction, if_neg hzero, List.cons_append]
    change parseFraction ('.' :: (trimmed (padded 9 nanos) ++ rest)) = _
    -- without a digit the fraction would be zero
    obtain ⟨d, ds, hcons⟩ : ∃ d ds, trimmed (padded 9 nanos) = d :: ds := by
      refine List.exists_cons_of_ne_nil fun hnil => hzero ?_
      rw [← hvalue, hnil, Nat.ofDigitChars_nil, Nat.zero_mul]
    rw [hcons] at hread hds ⊢
    rw [List.cons_append, parseFraction, if_pos, ← List.cons_append, hread]
    rw [digit?_of_isDigit (hds d List.mem_cons_self)]
    rfl

/-! ## Offsets -/

theorem ends_writeOffset (offset : Int) : Ends (writeOffset offset) := by
  unfold writeOffset
  split
  · rintro c ⟨⟩
    decide
  · dsimp only
    split <;>
    · rintro c ⟨⟩
      decide

/-- **Offsets.** -/
theorem parseOffset_writeOffset {offset : Int} (hminutes : offset % 60 = 0)
    (hday : offset.natAbs < 86400) : parseOffset (writeOffset offset) = .ok (offset, []) := by
  by_cases hzero : offset = 0
  · rw [writeOffset, if_pos hzero, hzero]
    rfl
  have hhours : offset.natAbs / 60 / 60 < Nat.pow 10 2 := by
    change _ < 100
    omega
  have hminute : offset.natAbs / 60 % 60 < Nat.pow 10 2 := by
    change _ < 100
    omega
  have hlimit : ¬ 23 < offset.natAbs / 60 / 60 := by omega
  have hlimit' : ¬ 59 < offset.natAbs / 60 % 60 := by omega
  have hnumber := number_padded "offset minute" (by decide) hminute []
  rw [List.append_nil] at hnumber
  rw [writeOffset, if_neg hzero]
  -- hours, a colon and minutes, whichever the sign
  have hread : ∀ sign : Char, sign = '+' ∨ sign = '-' → parseOffset (sign ::
      (padded 2 (offset.natAbs / 60 / 60) ++ ':' :: padded 2 (offset.natAbs / 60 % 60))) =
        .ok (if sign = '-' then -offset.natAbs else offset.natAbs, []) := by
    intro sign hsign
    have hutc : ¬ (sign = 'Z' ∨ sign = 'z') := by rcases hsign with rfl | rfl <;> decide
    have hwhole : (((offset.natAbs / 60 / 60 : Nat) : Int) * 60 +
        ((offset.natAbs / 60 % 60 : Nat) : Int)) * 60 = offset.natAbs := by omega
    simp only [parseOffset, hutc, if_false, hsign, if_true, number_padded _ (by decide) hhours,
      literal, hnumber, hlimit, hlimit', bind, Except.bind, pure, Except.pure, hwhole]
  by_cases hsign : offset < 0
  · rw [if_pos hsign, hread '-' (.inr rfl), if_pos rfl, Int.ofNat_natAbs_of_nonpos (by omega),
      Int.neg_neg]
  · rw [if_neg hsign, hread '+' (.inl rfl), if_neg (by decide), Int.natAbs_of_nonneg (by omega)]

/-! ## Dates and times -/

theorem check_eq_ok {m : Moment} (h : m.Fits) : check m = .ok m.toTimestamp := by
  have hmonth : ¬ 12 < m.date.month := Nat.not_lt.2 h.date.2.1
  have hhour : ¬ 23 < m.hour := Nat.not_lt.2 (Nat.le_of_lt_succ h.hour)
  have hminute : ¬ 59 < m.minute := Nat.not_lt.2 (Nat.le_of_lt_succ h.minute)
  have hleap : m.second ≠ 60 := Nat.ne_of_lt h.second
  have hsecond : ¬ 60 < m.second := Nat.not_lt.2 (Nat.le_of_lt h.second)
  simp only [check, hmonth, h.date, hhour, hminute, hleap, hsecond, not_true_eq_false, if_false]
  rfl

theorem parseChars_writeMoment {m : Moment} (h : m.Fits) :
    parseChars (writeMoment m) = .ok m.toTimestamp := by
  obtain ⟨hmonth, hmonth', -, hday⟩ := h.date
  have hyear : m.date.year.toNat < Nat.pow 10 4 := by
    change _ < 10000
    have := h.year
    omega
  have htwo {n : Nat} (name : String) (hn : n < 100) (rest : List Char) :
      number name 2 (padded 2 n ++ rest) = .ok (n, rest) := number_padded name (by decide) hn rest
  have hdays : m.date.day < 100 := by
    have := daysInMonth_le m.date.year m.date.month
    omega
  have hsep : ∀ cs, separator ('T' :: cs) = .ok cs := fun cs => rfl
  have hnonzero : m.date.month ≠ 0 := by omega
  simp only [parseChars, writeMoment, List.append_assoc, List.cons_append, literal, if_true, hsep,
    number_padded _ (by decide) hyear, htwo _ (show m.date.month < 100 by omega), htwo _ hdays,
    htwo _ (Nat.lt_trans h.hour (by decide)), htwo _ (Nat.lt_trans h.minute (by decide)),
    htwo _ (Nat.lt_trans h.second (by decide)), parseFraction_fraction h.nanos (ends_writeOffset _),
    parseOffset_writeOffset h.minutes h.belowDay, bind, Except.bind, hnonzero, if_false,
    Int.toNat_of_nonneg h.year.1]
  exact check_eq_ok h

/-- **Timestamps.** What has a text is read from it, offset and nanoseconds included. -/
theorem parse_write {t : Timestamp} (h : Representable t) : parse (write t) = .ok t := by
  rw [parse, write, String.toList_ofList, parseChars_writeMoment (Moment.fits_ofTimestamp h),
    Moment.toTimestamp_ofTimestamp]

/-- The first moment of the year 0, a hundredth of a microsecond on, half a day behind UTC. -/
example : write ⟨-62167175999999999990, -43200⟩ = "0000-01-01T00:00:00.00000001-12:00" := by
  decide

end Rfc3339

end Time

end Microblog
