import Microblog.Time.Rfc3339

/-!
# Days and dates

The date of a day is valid, and its number is that of the day again
(`Date.toDays_ofDays`). With the time of day it makes a moment that stands for
the very timestamp that it was taken from (`Moment.toTimestamp_ofTimestamp`).
-/

namespace Microblog.Time

/-! ## Years -/

/-- The days of a year. -/
def yearLength (y : Int) : Nat := if isLeap y then 366 else 365

theorem isLeap_iff {y : Int} : isLeap y = true ↔ y % 4 = 0 ∧ (y % 100 ≠ 0 ∨ y % 400 = 0) := by
  simp [isLeap]

theorem yearStart_succ (y : Int) : yearStart (y + 1) = yearStart y + yearLength y := by
  unfold yearStart yearLength
  by_cases hleap : isLeap y = true
  · rw [if_pos hleap]
    rw [isLeap_iff] at hleap
    omega
  · rw [if_neg hleap]
    rw [isLeap_iff] at hleap
    omega

/-- A day lies in the year that is given for it. -/
theorem yearOfDays_spec (n : Int) :
    yearStart (Date.yearOfDays n) ≤ n ∧ n < yearStart (Date.yearOfDays n + 1) := by
  -- the guess is at most one year off
  have hguess : yearStart (n * 400 / 146097 - 1) ≤ n ∧ n < yearStart (n * 400 / 146097 + 2) := by
    unfold yearStart
    omega
  unfold Date.yearOfDays
  dsimp only
  split
  · rename_i hlate
    rw [Int.sub_add_cancel]
    exact ⟨hguess.1, hlate⟩
  · rename_i hstarted
    split
    · rename_i hover
      rw [Int.add_assoc]
      exact ⟨hover, hguess.2⟩
    · rename_i hnext
      exact ⟨Int.not_lt.1 hstarted, Int.not_le.1 hnext⟩

/-! ## Months -/

/-- The sum of some lengths. -/
def total (ks : List Nat) : Nat := ks.foldl (· + ·) 0

theorem total_cons (k : Nat) (ks : List Nat) : total (k :: ks) = k + total ks := by
  have h : ks.foldl (· + ·) (k + 0) = k + ks.foldl (· + ·) 0 := List.foldl_assoc
  simpa [total] using h

theorem total_monthLengths (y : Int) : total (monthLengths y) = yearLength y := by
  unfold total monthLengths yearLength
  cases isLeap y <;> rfl

theorem daysInMonth_le (y : Int) (month : Nat) : daysInMonth y month ≤ 31 := by
  have hle : ∀ k ∈ monthLengths y, k ≤ 31 := by
    unfold monthLengths
    cases isLeap y <;> decide
  rw [daysInMonth]
  split
  · omega
  · rw [List.getD_eq_getElem?_getD]
    cases hget : (monthLengths y)[month - 1]? with
    | none => exact Nat.zero_le 31
    | some k => exact hle k (List.mem_of_getElem? hget)

/-- What is found `n` days on: a month, a day of it, and `n` days before them. -/
theorem monthAndDay_spec (ks : List Nat) (month n : Nat) (hn : n < total ks) :
    ∃ i d, i < ks.length ∧ Date.monthAndDay month ks n = (month + i, d + 1) ∧
      d < ks.getD i 0 ∧ total (ks.take i) + d = n := by
  induction ks generalizing month n with
  | nil => exact absurd hn (Nat.not_lt_zero n)
  | cons k ks ih =>
    rw [total_cons] at hn
    cases ks with
    | nil => exact ⟨0, n, Nat.one_pos, rfl, hn, Nat.zero_add n⟩
    | cons k' ks =>
      by_cases hhere : n < k
      · exact ⟨0, n, Nat.succ_pos _, if_pos hhere, hhere, Nat.zero_add n⟩
      · obtain ⟨i, d, hi, hfound, hd, hbefore⟩ := ih (month + 1) (n - k) (by omega)
        refine ⟨i + 1, d, Nat.succ_lt_succ hi, ?_, hd, ?_⟩
        · rw [Date.monthAndDay, if_neg hhere, hfound, Nat.add_assoc, Nat.add_comm 1 i]
          exact List.cons_ne_nil k' ks
        · rw [List.take_succ_cons, total_cons]
          omega

/-! ## Dates -/

/-- The date of a day, taken apart. -/
theorem ofDays_spec (n : Int) :
    ∃ i d, i < 12 ∧ Date.ofDays n = ⟨Date.yearOfDays n, i + 1, d + 1⟩ ∧
      d < (monthLengths (Date.yearOfDays n)).getD i 0 ∧
      yearStart (Date.yearOfDays n) + total ((monthLengths (Date.yearOfDays n)).take i) + d = n := by
  obtain ⟨hlo, hhi⟩ := yearOfDays_spec n
  rw [yearStart_succ] at hhi
  obtain ⟨i, d, hi, hfound, hd, hbefore⟩ := monthAndDay_spec (monthLengths (Date.yearOfDays n)) 1
    (n - yearStart (Date.yearOfDays n)).toNat (by rw [total_monthLengths]; omega)
  refine ⟨i, d, hi, ?_, hd, by omega⟩
  simp only [Date.ofDays, hfound, Nat.add_comm 1 i]

theorem Date.valid_ofDays (n : Int) : (Date.ofDays n).Valid := by
  obtain ⟨i, d, hi, he, hd, -⟩ := ofDays_spec n
  rw [he]
  refine ⟨Nat.succ_pos i, Nat.succ_le_of_lt hi, Nat.succ_pos d, ?_⟩
  rw [daysInMonth, if_neg (Nat.succ_ne_zero i)]
  exact hd

/-- **Dates.** A day is the day of its date. -/
theorem Date.toDays_ofDays (n : Int) : (Date.ofDays n).toDays = n := by
  obtain ⟨i, d, -, he, -, hn⟩ := ofDays_spec n
  rw [he, Date.toDays]
  simp only [Nat.add_sub_cancel]
  change yearStart _ + (total _ : Int) + _ = n
  omega

/-! ## Moments -/

/-- The time of day and the fraction of a second are in their ranges. -/
theorem Moment.ofTimestamp_spec (t : Timestamp) :
    (Moment.ofTimestamp t).hour < 24 ∧ (Moment.ofTimestamp t).minute < 60 ∧
      (Moment.ofTimestamp t).second < 60 ∧ (Moment.ofTimestamp t).nanos < 1000000000 := by
  simp only [Moment.ofTimestamp, Timestamp.day, Timestamp.second, Timestamp.subsecond]
  omega

/-- **Moments.** What a clock under the offset shows stands for the timestamp. -/
theorem Moment.toTimestamp_ofTimestamp (t : Timestamp) :
    (Moment.ofTimestamp t).toTimestamp = t := by
  obtain ⟨nanos, offset⟩ := t
  simp only [Moment.toTimestamp, Moment.ofTimestamp, Date.toDays_ofDays, Timestamp.localDay,
    Timestamp.localNanos, Timestamp.subsecond, Timestamp.day, Timestamp.second,
    Timestamp.mk.injEq, and_true]
  omega

end Microblog.Time
