import Microblog.Proofs.Text.ReadBack
import Microblog.Text.Blank

/-!
# Fields of a text

What is left of a text without the blanks around it begins and ends with another
character (`bare_trimChars`), and a text that does so is left as it is. An integer
is read from its numerals and from nothing else (`int64?_eq_some_iff`).
-/

namespace Microblog.Text

variable {c : Char} {cs ds : List Char} {n : Nat} {i : Int}

/-! ## Blanks around a text -/

/-- No blank stands at the front or at the end. -/
structure Bare (cs : List Char) : Prop where
  front : ∀ c ∈ cs.head?, isBlank c = false
  back : ∀ c ∈ cs.getLast?, isBlank c = false

theorem bare_iff : Bare cs ↔ cs.head?.all (!isBlank ·) ∧ cs.getLast?.all (!isBlank ·) := by
  simp only [Option.all_eq_true, Bool.not_eq_true']
  exact ⟨fun h => ⟨h.front, h.back⟩, fun h => ⟨h.1, h.2⟩⟩

instance (cs : List Char) : Decidable (Bare cs) :=
  decidable_of_iff' _ bare_iff

theorem front_trimStart (cs : List Char) : ∀ c ∈ (trimStart cs).head?, isBlank c = false := by
  intro c hc
  have hnot := List.head?_dropWhile_not isBlank cs
  rw [trimStart] at hc
  rw [Option.mem_def.1 hc] at hnot
  exact hnot

theorem trimStart_of_front (h : ∀ c ∈ cs.head?, isBlank c = false) : trimStart cs = cs := by
  cases cs with
  | nil => rfl
  | cons c cs =>
    have hc : ¬ isBlank c = true := by simp [h c rfl]
    exact List.dropWhile_cons_of_neg hc

theorem trimEnd_begins (cs : List Char) : trimEnd cs <+: cs := by
  have hsuffix : trimStart cs.reverse <:+ cs.reverse := List.dropWhile_suffix isBlank
  have hprefix := List.reverse_prefix.2 hsuffix
  rwa [List.reverse_reverse] at hprefix

theorem bare_trimChars (cs : List Char) : Bare (trimChars cs) where
  front := by
    intro c hc
    obtain ⟨ws, hws⟩ := trimEnd_begins (trimStart cs)
    apply front_trimStart cs
    rw [← hws, List.head?_append]
    rw [trimChars] at hc
    rw [Option.mem_def.1 hc]
    rfl
  back := by
    intro c hc
    rw [trimChars, trimEnd, List.getLast?_reverse] at hc
    exact front_trimStart _ c hc

theorem trimChars_of_bare (h : Bare cs) : trimChars cs = cs := by
  have hback : ∀ c ∈ cs.reverse.head?, isBlank c = false := by
    rw [List.head?_reverse]
    exact h.back
  rw [trimChars, trimStart_of_front h.front, trimEnd, trimStart_of_front hback,
    List.reverse_reverse]

theorem mem_of_mem_trimChars (h : c ∈ trimChars cs) : c ∈ cs :=
  (List.dropWhile_suffix isBlank).subset ((trimEnd_begins (trimStart cs)).subset h)

/-! ## Numerals -/

/-- Some decimal digits. -/
structure Digits (cs : List Char) (n : Nat) : Prop where
  some : cs ≠ []
  digits : ∀ c ∈ cs, c.isDigit
  value : n = Nat.ofDigitChars 10 cs 0

/-- Some decimal digits, with a sign in front or without. -/
inductive Numeral : List Char → Int → Prop
  | plain {cs : List Char} {n : Nat} (h : Digits cs n) : Numeral cs n
  | plus {cs : List Char} {n : Nat} (h : Digits cs n) : Numeral ('+' :: cs) n
  | minus {cs : List Char} {n : Nat} (h : Digits cs n) : Numeral ('-' :: cs) (-n)

theorem isDigit_of_digit? {d : Nat} (h : digit? c = some d) : c.isDigit := by
  obtain ⟨hrange, -⟩ := Option.ite_none_right_eq_some.1 h
  simp only [Char.isDigit, Bool.and_eq_true, decide_eq_true_eq]
  exact hrange

theorem isDigit_of_digits? {acc : Nat} (h : digits? acc cs = some n) : ∀ c ∈ cs, c.isDigit := by
  induction cs generalizing acc with
  | nil => simp
  | cons d cs ih =>
    rw [digits?, Option.bind_eq_some_iff] at h
    obtain ⟨v, hv, hrest⟩ := h
    intro c hc
    rcases List.mem_cons.1 hc with rfl | hc
    · exact isDigit_of_digit? hv
    · exact ih hrest c hc

theorem natural?_eq_some_iff : natural? cs = some n ↔ Digits cs n := by
  cases cs with
  | nil => exact iff_of_false (fun h => nomatch h) (fun h => h.some rfl)
  | cons c cs =>
    show digits? 0 (c :: cs) = some n ↔ _
    constructor
    · intro h
      have hdigits := isDigit_of_digits? h
      rw [digits?_of_isDigit hdigits] at h
      exact ⟨by simp, hdigits, (Option.some.inj h).symm⟩
    · intro h
      rw [digits?_of_isDigit h.digits, h.value]

theorem Digits.ne_sign (h : Digits (c :: cs) n) : c ≠ '+' ∧ c ≠ '-' := by
  have hdigit := h.digits c List.mem_cons_self
  constructor
  · rintro rfl
    exact absurd hdigit (by decide)
  · rintro rfl
    exact absurd hdigit (by decide)

theorem cast_natural?_eq_some_iff :
    ((natural? cs).bind fun n => some (n : Int)) = some i ↔ ∃ n, Digits cs n ∧ (n : Int) = i := by
  simp [Option.bind_eq_some_iff, natural?_eq_some_iff]

theorem integer?_eq_some_iff : integer? cs = some i ↔ Numeral cs i := by
  constructor
  · intro h
    unfold integer? at h
    split at h
    · obtain ⟨j, hj, rfl⟩ := Option.map_eq_some_iff.1 h
      obtain ⟨n, hn, rfl⟩ := cast_natural?_eq_some_iff.1 hj
      exact .minus hn
    · obtain ⟨j, hj, rfl⟩ := Option.map_eq_some_iff.1 h
      obtain ⟨n, hn, rfl⟩ := cast_natural?_eq_some_iff.1 hj
      exact .plus hn
    · obtain ⟨j, hj, rfl⟩ := Option.map_eq_some_iff.1 h
      obtain ⟨n, hn, rfl⟩ := cast_natural?_eq_some_iff.1 hj
      exact .plain hn
  · intro h
    cases h with
    | plain hn =>
      unfold integer?
      split
      · exact absurd rfl hn.ne_sign.2
      · exact absurd rfl hn.ne_sign.1
      · rw [natural?_eq_some_iff.2 hn]
        rfl
    | plus hn =>
      rw [integer?, natural?_eq_some_iff.2 hn]
      rfl
    | minus hn =>
      rw [integer?, natural?_eq_some_iff.2 hn]
      rfl

theorem isBlank_of_isDigit (h : c.isDigit) : isBlank c = false := by
  have hascii : ∀ n < 58, 48 ≤ n → isBlank (Char.ofNat n) = false := by decide
  simp only [Char.isDigit, Bool.and_eq_true, decide_eq_true_eq] at h
  have hlo : 48 ≤ c.toNat := h.1
  have hhi : c.toNat ≤ 57 := h.2
  have hc := hascii c.toNat (by omega) hlo
  rwa [Char.ofNat_toNat] at hc

theorem Digits.bare_cons (h : Digits cs n) (hc : isBlank c = false) : Bare (c :: cs) where
  front := by
    rintro d ⟨⟩
    exact hc
  back := by
    intro d hd
    rw [List.getLast?_cons, Option.mem_def, Option.some.injEq] at hd
    rw [← hd, List.getLast?_eq_some_getLast h.some, Option.getD_some]
    exact isBlank_of_isDigit (h.digits _ (List.getLast_mem h.some))

theorem Numeral.bare (h : Numeral cs i) : Bare cs := by
  cases h with
  | plain h =>
    refine ⟨fun d hd => ?_, fun d hd => ?_⟩
    · exact isBlank_of_isDigit (h.digits d (List.mem_of_mem_head? hd))
    · exact isBlank_of_isDigit (h.digits d (List.mem_of_mem_getLast? hd))
  | plus h => exact h.bare_cons (by decide)
  | minus h => exact h.bare_cons (by decide)

/-- **Numerals.** A number of 64 bits is read from its numerals alone. -/
theorem int64?_eq_some_iff {s : String} {n : Int64} :
    int64? s = some n ↔ Numeral s.toList n.toInt := by
  have hlo := n.le_toInt
  have hhi := n.toInt_lt
  rw [int64?, Option.bind_eq_some_iff]
  constructor
  · rintro ⟨i, hi, h⟩
    obtain ⟨hrange, h⟩ := Option.ite_none_right_eq_some.1 h
    cases h
    rw [Int64.toInt_ofInt_of_le hrange.1 hrange.2]
    exact integer?_eq_some_iff.1 hi
  · intro h
    refine ⟨n.toInt, integer?_eq_some_iff.2 h, ?_⟩
    rw [if_pos ⟨by omega, by omega⟩, Int64.ofInt_toInt]

end Microblog.Text
