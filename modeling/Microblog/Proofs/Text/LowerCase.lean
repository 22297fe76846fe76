import Mathlib.Data.List.Basic
import Microblog.Text.Lower

/-!
# Lower case and ASCII

An ASCII text is mapped to lower case letter by letter (`lower_of_ascii`). Of
all other characters only the Kelvin sign has its lower-case form in ASCII, so
a text comes out in ASCII exactly where it consists of ASCII characters and
Kelvin signs (`ascii_lower_iff`).
-/

namespace Microblog.Text

variable {c : Char} {cs : List Char}

/-- A text of ASCII characters. -/
def Ascii (cs : List Char) : Prop := ∀ c ∈ cs, c.toNat < 0x80

instance (cs : List Char) : Decidable (Ascii cs) :=
  List.decidableBAll (fun c : Char => c.toNat < 0x80) cs

/-- The Kelvin sign. -/
def kelvin : Char := '\u212a'

theorem ascii_cons : Ascii (c :: cs) ↔ c.toNat < 0x80 ∧ Ascii cs := List.forall_mem_cons

theorem ascii_append {ds : List Char} : Ascii (cs ++ ds) ↔ Ascii cs ∧ Ascii ds :=
  List.forall_mem_append

/-- What holds of the first 128 characters holds of every ASCII character. -/
theorem of_ascii {p : Char → Prop} (h : ∀ n < 0x80, p (Char.ofNat n)) (hc : c.toNat < 0x80) :
    p c := by
  have hp := h c.toNat hc
  rwa [Char.ofNat_toNat] at hp

/-! ## Letters of ASCII -/

theorem toLower_of_le (h : 0x80 ≤ c.toNat) : c.toLower = c := by
  unfold Char.toLower
  split
  · rename_i hupper
    simp only [UInt32.le_iff_toNat_le, ge_iff_le, Char.toNat_val] at hupper
    have hlast : 'Z'.toNat = 0x5a := rfl
    omega
  · rfl

theorem toLower_ascii (h : c.toNat < 0x80) :
    c.toLower.toNat < 0x80 ∧ c.toLower.toLower = c.toLower :=
  of_ascii (p := fun c => c.toLower.toNat < 0x80 ∧ c.toLower.toLower = c.toLower) (by decide) h

theorem lowerAfter_cons_of_lt (hc : c.toNat < 0x80) (before : List Char) :
    lowerAfter before (c :: cs) = c.toLower :: lowerAfter (c :: before) cs := by
  have hsigma : c ≠ 'Σ' := by
    rintro rfl
    exact absurd hc (by decide)
  rw [lowerAfter, if_neg hsigma, lowerChar, if_pos hc]
  rfl

theorem lowerAfter_of_ascii (h : Ascii cs) (before : List Char) :
    lowerAfter before cs = cs.map Char.toLower := by
  induction cs generalizing before with
  | nil => rfl
  | cons c cs ih =>
    obtain ⟨hc, hcs⟩ := ascii_cons.1 h
    rw [lowerAfter_cons_of_lt hc, ih hcs, List.map_cons]

theorem lower_of_ascii (h : Ascii cs) : lower cs = cs.map Char.toLower := lowerAfter_of_ascii h []

/-! ## Other characters -/

set_option maxRecDepth 2000 in
/-- A range of the table is one of ASCII, or the Kelvin sign, or is mapped out of ASCII. -/
theorem bounds_of_mem_lowerRanges : ∀ r ∈ lowerRanges, r.last < 0x80 ∨
    (r.first = kelvin.toNat ∧ r.last = kelvin.toNat) ∨
    (0x80 ≤ r.first + r.delta ∧ r.last + r.delta < 0xd800) ∨
    (0xe000 ≤ r.first + r.delta ∧ r.last + r.delta < 0x110000) := by
  decide

theorem toNat_ofNat_of_bounds {n : Nat} (h : n < 0xd800 ∨ (0xe000 ≤ n ∧ n < 0x110000)) :
    (Char.ofNat n).toNat = n := by
  have hvalid : n.isValidChar := by
    unfold Nat.isValidChar
    omega
  have hofNat : Char.ofNat n = Char.ofNatAux n hvalid := dif_pos hvalid
  exact congrArg Char.toNat hofNat

theorem le_of_mem_lowerRanges {r : CaseRange} {n : Nat} (hr : r ∈ lowerRanges)
    (hcontains : r.contains n = true) (hn : 0x80 ≤ n) (hkelvin : n ≠ kelvin.toNat) :
    0x80 ≤ (Char.ofNat (n + r.delta).toNat).toNat := by
  simp only [CaseRange.contains, Bool.and_eq_true, decide_eq_true_eq] at hcontains
  obtain ⟨⟨hfirst, hlast⟩, -⟩ := hcontains
  have hbounds := bounds_of_mem_lowerRanges r hr
  rw [toNat_ofNat_of_bounds (by omega)]
  omega

theorem ascii_lowerChar_iff : Ascii (lowerChar c) ↔ c.toNat < 0x80 ∨ c = kelvin := by
  by_cases hascii : c.toNat < 0x80
  · have hlower := (toLower_ascii hascii).1
    rw [lowerChar, if_pos hascii]
    simp [Ascii, hascii, hlower]
  by_cases hkelvin : c = kelvin
  · subst hkelvin
    exact iff_of_true (by decide) (.inr rfl)
  by_cases hdot : c = '\u0130'
  · subst hdot
    exact iff_of_false (by decide) (by decide)
  have hne : c.toNat ≠ kelvin.toNat := fun h => hkelvin (Char.toNat_inj.1 h)
  rw [lowerChar, if_neg hascii, if_neg hdot]
  cases hfind : lowerRanges.find? (·.contains c.toNat) with
  | none => simp [Ascii, hascii, hkelvin]
  | some r =>
    have hcontains := List.find?_some hfind
    have hle := le_of_mem_lowerRanges (List.mem_of_find?_eq_some hfind) hcontains (by omega) hne
    simp [Ascii, hascii, hkelvin, hle]

theorem ascii_lowerAfter_iff (before : List Char) :
    Ascii (lowerAfter before cs) ↔ ∀ c ∈ cs, c.toNat < 0x80 ∨ c = kelvin := by
  induction cs generalizing before with
  | nil => simp [lowerAfter, Ascii]
  | cons c cs ih =>
    rw [lowerAfter, ascii_append, ih, List.forall_mem_cons]
    refine and_congr_left' ?_
    split
    case isTrue hsigma =>
      subst hsigma
      refine iff_of_false ?_ (by decide)
      unfold lowerSigma
      split <;> decide
    case isFalse => exact ascii_lowerChar_iff

/-- A text comes out in ASCII exactly where it has no other characters than those of ASCII and
Kelvin signs. -/
theorem ascii_lower_iff : Ascii (lower cs) ↔ ∀ c ∈ cs, c.toNat < 0x80 ∨ c = kelvin :=
  ascii_lowerAfter_iff []

theorem toLower_of_mem_lowerAfter (h : ∀ c ∈ cs, c.toNat < 0x80 ∨ c = kelvin)
    (before : List Char) : ∀ d ∈ lowerAfter before cs, d.toLower = d := by
  induction cs generalizing before with
  | nil => simp [lowerAfter]
  | cons c cs ih =>
    obtain ⟨hascii | rfl, hcs⟩ := List.forall_mem_cons.1 h
    · rw [lowerAfter_cons_of_lt hascii, List.forall_mem_cons]
      exact ⟨(toLower_ascii hascii).2, ih hcs _⟩
    · have hsigma : kelvin ≠ 'Σ' := by decide
      have hlower : lowerChar kelvin = ['k'] := by decide
      rw [lowerAfter, if_neg hsigma, hlower, List.forall_mem_append, List.forall_mem_singleton]
      exact ⟨rfl, ih hcs _⟩

/-- What has come out in ASCII is in lower case. -/
theorem lower_lower_of_ascii (h : Ascii (lower cs)) : lower (lower cs) = lower cs := by
  have hletters := toLower_of_mem_lowerAfter (ascii_lower_iff.1 h) []
  rw [lower_of_ascii h]
  exact (List.map_congr_left hletters).trans (List.map_id _)

end Microblog.Text
