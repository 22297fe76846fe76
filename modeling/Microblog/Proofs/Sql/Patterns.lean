import Mathlib.Data.List.Infix
import Microblog.Proofs.Store.Feeds
import Microblog.Proofs.Text.LowerCase

/-!
# Patterns of ILIKE

In a pattern `%` stands for any text, `_` for any character and a backslash
quotes what follows it; letters of ASCII are compared without their case. A
search that is put between two `%` as it is finds in an ASCII text what a
comparison without case finds there, if it is `Plain` (`ilike_of_plain`), and
nothing, as that does, if it is `Foreign`. For every other search there is an
ASCII text on which the two differ (`exists_ilike_ne_found`).
-/

namespace Microblog.Sql

open Feed
open Text (Ascii kelvin)

/-- A part of a pattern. -/
inductive Part where
  /-- Any text, be it empty. -/
  | any
  /-- Any character. -/
  | one
  /-- A certain character, a letter of ASCII in either case. -/
  | char (c : Char)
  deriving DecidableEq, Repr

namespace Part

/-- The parts of a pattern. A lone backslash at the end, which the server refuses, is read as itself;
none stands behind the text that is searched, where a `%` follows. -/
def parse : List Char → List Part
  | [] => []
  | '%' :: cs => any :: parse cs
  | '_' :: cs => one :: parse cs
  | '\\' :: c :: cs => char c :: parse cs
  | c :: cs => char c :: parse cs

/-- Whether a whole text fits the parts, one after the other. -/
def fits : List Part → List Char → Bool
  | [], cs => cs.isEmpty
  | any :: ps, cs => cs.tails.any (fits ps)
  | one :: _, [] => false
  | one :: ps, _ :: cs => fits ps cs
  | char _ :: _, [] => false
  | char d :: ps, c :: cs => d.toLower == c.toLower && fits ps cs

variable {ps : List Part} {cs w : List Char} {c d : Char}

theorem fits_any_iff : fits (any :: ps) cs = true ↔ ∃ rest, rest <:+ cs ∧ fits ps rest = true := by
  simp [fits]

theorem fits_char_iff : fits (char d :: ps) cs = true ↔
    ∃ c rest, cs = c :: rest ∧ d.toLower = c.toLower ∧ fits ps rest = true := by
  cases cs <;> simp [fits]

/-- A character that means itself in a pattern. -/
def IsPlain (c : Char) : Prop := c ≠ '%' ∧ c ≠ '_' ∧ c ≠ '\\'

theorem parse_cons (hc : IsPlain c) (cs : List Char) : parse (c :: cs) = char c :: parse cs := by
  obtain ⟨hany, hone, hquote⟩ := hc
  rw [parse]
  · exact hany
  · exact hone
  · exact fun _ _ h => absurd h hquote

theorem parse_append (hw : ∀ c ∈ w, IsPlain c) (cs : List Char) :
    parse (w ++ cs) = w.map char ++ parse cs := by
  induction w with
  | nil => rfl
  | cons c w ih =>
    obtain ⟨hc, hw⟩ := List.forall_mem_cons.1 hw
    rw [List.cons_append, parse_cons hc, ih hw, List.map_cons, List.cons_append]

/-! ## Containment -/

theorem fits_map_char (w : List Char) : fits (w.map char ++ ps) cs = true ↔
    ∃ a b, cs = a ++ b ∧ a.map Char.toLower = w.map Char.toLower ∧ fits ps b = true := by
  induction w generalizing cs with
  | nil =>
    constructor
    · exact fun h => ⟨[], cs, rfl, rfl, h⟩
    · rintro ⟨a, b, rfl, ha, hb⟩
      rwa [List.map_eq_nil_iff.1 ha]
  | cons d w ih =>
    rw [List.map_cons, List.cons_append, fits_char_iff]
    constructor
    · rintro ⟨c, rest, rfl, hcase, hrest⟩
      obtain ⟨a, b, rfl, ha, hb⟩ := ih.1 hrest
      exact ⟨c :: a, b, rfl, by rw [List.map_cons, List.map_cons, hcase, ha], hb⟩
    · rintro ⟨a, b, rfl, ha, hb⟩
      obtain ⟨c, a, rfl, hcase, ha⟩ := List.map_eq_cons_iff.1 ha
      exact ⟨c, a ++ b, rfl, hcase.symm, ih.2 ⟨a, b, rfl, ha, hb⟩⟩

/-- Some characters between two gaps fit the texts in which they stand, letter case aside. -/
theorem fits_between_iff (w : List Char) : fits (any :: (w.map char ++ [any])) cs = true ↔
    w.map Char.toLower <:+: cs.map Char.toLower := by
  rw [fits_any_iff]
  constructor
  · rintro ⟨rest, ⟨before, rfl⟩, hrest⟩
    obtain ⟨a, b, rfl, ha, -⟩ := (fits_map_char w).1 hrest
    refine ⟨before.map Char.toLower, b.map Char.toLower, ?_⟩
    rw [List.map_append, List.map_append, ha, List.append_assoc]
  · rintro ⟨before, behind, h⟩
    obtain ⟨front, b, rfl, hfront, -⟩ := List.map_eq_append_iff.1 h.symm
    obtain ⟨s, a, rfl, -, ha⟩ := List.map_eq_append_iff.1 hfront
    refine ⟨a ++ b, ⟨s, (List.append_assoc ..).symm⟩, (fits_map_char w).2 ⟨a, b, rfl, ha, ?_⟩⟩
    exact fits_any_iff.2 ⟨[], List.nil_suffix, rfl⟩

/-! ## Characters that a text must hold -/

/-- A text that fits holds each character of the parts, letter case aside. -/
theorem exists_of_fits (h : fits ps cs = true) (hd : char d ∈ ps) :
    ∃ c ∈ cs, d.toLower = c.toLower := by
  induction ps generalizing cs with
  | nil => cases hd
  | cons p ps ih =>
    cases p with
    | any =>
      obtain ⟨rest, hrest, hfits⟩ := fits_any_iff.1 h
      obtain ⟨c, hc, hcase⟩ := ih hfits (by simpa using hd)
      exact ⟨c, hrest.subset hc, hcase⟩
    | one =>
      cases cs with
      | nil => cases h
      | cons e cs =>
        have hfits : fits ps cs = true := h
        obtain ⟨c, hc, hcase⟩ := ih hfits (by simpa using hd)
        exact ⟨c, List.mem_cons_of_mem _ hc, hcase⟩
    | char e =>
      obtain ⟨c, rest, rfl, hcase, hfits⟩ := fits_char_iff.1 h
      obtain heq | hd := List.mem_cons.1 hd
      · cases heq
        exact ⟨c, List.mem_cons_self, hcase⟩
      · obtain ⟨c', hc, hcase'⟩ := ih hfits hd
        exact ⟨c', List.mem_cons_of_mem _ hc, hcase'⟩

theorem lt_of_fits (h : fits ps cs = true) (hcs : Ascii cs) (hd : char d ∈ ps) : d.toNat < 0x80 := by
  obtain ⟨c, hc, hcase⟩ := exists_of_fits h hd
  have hlower := (Text.toLower_ascii (hcs c hc)).1
  by_contra hforeign
  rw [← hcase, Text.toLower_of_le (by omega)] at hlower
  exact hforeign hlower

theorem char_mem_parse (hc : c ∈ w) (hforeign : 0x80 ≤ c.toNat) : char c ∈ parse w := by
  fun_induction parse w with
  | case1 => cases hc
  | case2 cs ih | case3 cs ih =>
    obtain rfl | hc := List.mem_cons.1 hc
    · exact absurd hforeign (by decide)
    · exact List.mem_cons_of_mem _ (ih hc)
  | case4 d cs ih =>
    obtain rfl | hc := List.mem_cons.1 hc
    · exact absurd hforeign (by decide)
    · obtain rfl | hc := List.mem_cons.1 hc
      · exact List.mem_cons_self
      · exact List.mem_cons_of_mem _ (ih hc)
  | case5 d cs _ _ _ ih =>
    obtain rfl | hc := List.mem_cons.1 hc
    · exact List.mem_cons_self
    · exact List.mem_cons_of_mem _ (ih hc)

/-! ## A text that fits -/

/-- A shortest text that fits. -/
def sample : List Part → List Char
  | [] => []
  | any :: ps => sample ps
  | one :: ps => 'x' :: sample ps
  | char c :: ps => c :: sample ps

theorem fits_sample (ps : List Part) : fits ps (sample ps) = true := by
  induction ps with
  | nil => rfl
  | cons p ps ih =>
    cases p with
    | any => exact fits_any_iff.2 ⟨_, List.suffix_rfl, ih⟩
    | one => exact ih
    | char c => exact fits_char_iff.2 ⟨c, _, rfl, rfl, ih⟩

theorem ascii_sample_parse (h : Ascii w) : Ascii (sample (parse w)) := by
  fun_induction parse w with
  | case1 => exact h
  | case2 cs ih => exact ih (Text.ascii_cons.1 h).2
  | case3 cs ih => exact Text.ascii_cons.2 ⟨by decide, ih (Text.ascii_cons.1 h).2⟩
  | case4 c cs ih =>
    obtain ⟨hc, hcs⟩ := Text.ascii_cons.1 (Text.ascii_cons.1 h).2
    exact Text.ascii_cons.2 ⟨hc, ih hcs⟩
  | case5 c cs _ _ _ ih =>
    obtain ⟨hc, hcs⟩ := Text.ascii_cons.1 h
    exact Text.ascii_cons.2 ⟨hc, ih hcs⟩

/-- The sample of what stands behind the first gap of a search is no longer than the text that is
searched; where it is that text, letter case aside, every character meant itself. -/
theorem sample_search (w : List Char) : (sample (parse (w ++ ['%']))).length ≤ w.length ∧
    ((sample (parse (w ++ ['%']))).map Char.toLower = w.map Char.toLower → ∀ c ∈ w, IsPlain c) := by
  have hshort : ∀ {a b : List Char}, a.length < b.length →
      a.map Char.toLower ≠ b.map Char.toLower := by
    intro a b hlt heq
    have hlength := congrArg List.length heq
    rw [List.length_map, List.length_map] at hlength
    omega
  induction w using parse.induct with
  | case1 => exact ⟨Nat.le_refl 0, fun _ => List.forall_mem_nil _⟩
  | case2 cs ih =>
    have hlt : (sample (parse ('%' :: cs ++ ['%']))).length < ('%' :: cs).length :=
      Nat.lt_succ_of_le ih.1
    exact ⟨hlt.le, fun h => absurd h (hshort hlt)⟩
  | case3 cs ih =>
    exact ⟨Nat.succ_le_succ ih.1, fun h => absurd (List.cons.inj h).1 (by decide)⟩
  | case4 c cs ih =>
    have hlt : (sample (parse ('\\' :: c :: cs ++ ['%']))).length < ('\\' :: c :: cs).length :=
      Nat.succ_lt_succ (Nat.lt_succ_of_le ih.1)
    exact ⟨hlt.le, fun h => absurd h (hshort hlt)⟩
  | case5 c cs hany hone hquote ih =>
    by_cases hc : c = '\\'
    · cases cs with
      | nil =>
        -- the backslash quotes the second gap
        subst hc
        exact ⟨le_rfl, fun h => absurd h (by decide)⟩
      | cons d cs => exact (hquote d cs hc rfl).elim
    · have hplain : IsPlain c := ⟨hany, hone, hc⟩
      rw [List.cons_append, parse_cons hplain, sample]
      refine ⟨Nat.succ_le_succ ih.1, fun h => List.forall_mem_cons.2 ⟨hplain, ih.2 ?_⟩⟩
      exact (List.cons.inj h).2

end Part

/-! ## Searches -/

/-- The operator ILIKE. -/
def ilike (text pattern : String) : Bool := Part.fits (Part.parse pattern.toList) text.toList

/-- The pattern that a search is sent with. -/
def searchPattern (search : String) : String := "%" ++ search ++ "%"

theorem parse_searchPattern (search : String) :
    Part.parse (searchPattern search).toList = .any :: Part.parse (search.toList ++ ['%']) := by
  unfold searchPattern
  rw [String.toList_append, String.toList_append]
  rfl

/-- A search that the pattern finds exactly where the text stands. -/
structure Plain (search : String) : Prop where
  ascii : Ascii search.toList
  plain : ∀ c ∈ search.toList, Part.IsPlain c

/-- A search for what is in no ASCII text, not even in another letter case. -/
def Foreign (search : String) : Prop := ∃ c ∈ search.toList, 0x80 ≤ c.toNat ∧ c ≠ kelvin

variable {search text : String}

theorem found_iff : found search text = true ↔
    Text.lower search.toList <:+: Text.lower text.toList := occurs_iff

theorem ilike_of_plain (hsearch : Plain search) (htext : Ascii text.toList) :
    ilike text (searchPattern search) = found search text := by
  rw [Bool.eq_iff_iff, found_iff, Text.lower_of_ascii hsearch.ascii, Text.lower_of_ascii htext,
    ilike, parse_searchPattern, Part.parse_append hsearch.plain]
  exact Part.fits_between_iff _

theorem ilike_eq_false {c : Char} (hc : c ∈ search.toList) (hforeign : 0x80 ≤ c.toNat)
    (htext : Ascii text.toList) : ilike text (searchPattern search) = false := by
  rw [Bool.eq_false_iff]
  intro h
  rw [ilike, parse_searchPattern] at h
  have hmem := Part.char_mem_parse (List.mem_append_left ['%'] hc) hforeign
  exact absurd (Part.lt_of_fits h htext (List.mem_cons_of_mem _ hmem)) (by omega)

theorem found_eq_false (hsearch : Foreign search) (htext : Ascii text.toList) :
    found search text = false := by
  rw [Bool.eq_false_iff, ne_eq, found_iff]
  intro hstands
  have hlower : Ascii (Text.lower text.toList) := Text.ascii_lower_iff.2 fun c hc => .inl (htext c hc)
  obtain ⟨c, hc, hforeign, hkelvin⟩ := hsearch
  obtain hascii | rfl := Text.ascii_lower_iff.1 (fun d hd => hlower d (hstands.subset hd)) c hc
  · omega
  · exact hkelvin rfl

/-! ## Where the two differ -/

/-- A text that the pattern of a search finds. -/
def sampleText (search : String) : String :=
  String.ofList (Part.sample (Part.parse (search.toList ++ ['%'])))

theorem ilike_sampleText (search : String) :
    ilike (sampleText search) (searchPattern search) = true := by
  rw [ilike, parse_searchPattern, sampleText, String.toList_ofList]
  exact Part.fits_any_iff.2 ⟨_, List.suffix_rfl, Part.fits_sample _⟩

theorem ascii_sampleText (h : Ascii search.toList) : Ascii (sampleText search).toList := by
  rw [sampleText, String.toList_ofList]
  exact Part.ascii_sample_parse (Text.ascii_append.2 ⟨h, by decide⟩)

theorem plain_of_found_sampleText (hascii : Ascii search.toList)
    (h : found search (sampleText search) = true) : Plain search := by
  obtain ⟨hlength, hplain⟩ := Part.sample_search search.toList
  rw [found_iff, Text.lower_of_ascii hascii, Text.lower_of_ascii (ascii_sampleText hascii),
    sampleText, String.toList_ofList] at h
  have heq := h.eq_of_length_le (by rwa [List.length_map, List.length_map])
  exact ⟨hascii, hplain heq.symm⟩

theorem found_lower (h : Ascii (Text.lower search.toList)) :
    found search (String.ofList (Text.lower search.toList)) = true := by
  rw [found_iff, String.toList_ofList, Text.lower_lower_of_ascii h]

/-- A search that is neither plain nor foreign is answered wrongly for some text. -/
theorem exists_ilike_ne_found (hplain : ¬ Plain search) (hforeign : ¬ Foreign search) :
    ∃ text : String, Ascii text.toList ∧ ilike text (searchPattern search) ≠ found search text := by
  by_cases hascii : Ascii search.toList
  · refine ⟨sampleText search, ascii_sampleText hascii, fun h => hplain ?_⟩
    rw [ilike_sampleText] at h
    exact plain_of_found_sampleText hascii h.symm
  · -- Kelvin signs, which are found where the text has a letter k
    have hlower : Ascii (Text.lower search.toList) := Text.ascii_lower_iff.2 fun c hc => by
      by_contra h
      exact hforeign ⟨c, hc, by omega, fun hkelvin => h (.inr hkelvin)⟩
    obtain ⟨c, hc, hle⟩ : ∃ c ∈ search.toList, ¬ c.toNat < 0x80 := by
      by_contra h
      exact hascii fun c hc => by_contra fun hle => h ⟨c, hc, hle⟩
    have htext : Ascii (String.ofList (Text.lower search.toList)).toList := by
      rwa [String.toList_ofList]
    refine ⟨_, htext, ?_⟩
    rw [found_lower hlower, ilike_eq_false hc (by omega) htext]
    exact Bool.false_ne_true

end Microblog.Sql
