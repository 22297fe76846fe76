import Microblog.Json.Reader
import Microblog.Proofs.Text.ReadBack

/-!
# Tokens that are read back

A string is read as what it was written from, whatever characters it holds
(`stringBody_writeString`), and so is an integer between the bounds of its reader, where what
follows does not go on with it (`readInteger_writeInt`).
-/

namespace Microblog.Json

open Text

/-! ## What has been read -/

section Reads

variable {α β : Type} {m n : Nat} {a : α} {b : β} {rest rest' : Bytes}

/-- A value has been read, and the rest follows it. -/
def Reads (r : Except Fault (Read α n)) (a : α) (rest : Bytes) : Prop :=
  ∃ h, r = .ok ⟨a, rest, h⟩

theorem Reads.map {r : Except Fault (Read α n)} (h : Reads r a rest) (f : α → β) :
    Reads (r.map (·.map f)) (f a) rest := by
  obtain ⟨hlt, rfl⟩ := h
  exact ⟨hlt, rfl⟩

theorem Reads.mono {r : Except Fault (Read α n)} (h : Reads r a rest) (hle : n ≤ m) :
    Reads (r.map (Read.mono hle)) a rest := by
  obtain ⟨hlt, rfl⟩ := h
  exact ⟨Nat.lt_of_lt_of_le hlt hle, rfl⟩

theorem Reads.bind {r : Except Fault (Read α n)} {k : Read α n → Except Fault (Read β m)}
    (h : Reads r a rest) (hk : ∀ hlt, Reads (k ⟨a, rest, hlt⟩) b rest') :
    Reads (r >>= k) b rest' := by
  obtain ⟨hlt, rfl⟩ := h
  exact hk hlt

theorem skipSpace_cons {c : UInt8} {bs : Bytes} (h : isSpace c = false) :
    skipSpace (c :: bs) = c :: bs := List.dropWhile_cons_of_neg (by simp [h])

theorem Reads.afterSpace {c : UInt8} {bs : Bytes}
    {read : (b : UInt8) → (rest : Bytes) → Except Fault (Read α (rest.length + 1))}
    (h : Reads (read c bs) a rest) (hc : isSpace c = false) :
    Reads (afterSpace read (c :: bs)) a rest := by
  unfold Json.afterSpace
  split
  · rename_i hnil
    rw [skipSpace_cons hc] at hnil
    cases hnil
  · rename_i c' bs' hcons
    rw [skipSpace_cons hc] at hcons
    cases hcons
    exact h.mono _

end Reads

/-! ## Bytes of characters -/

/-- The bytes of some characters. -/
def utf8 (cs : List Char) : Bytes := cs.flatMap String.utf8EncodeChar

@[simp] theorem utf8_nil : utf8 [] = [] := rfl

@[simp] theorem utf8_append (cs ds : List Char) : utf8 (cs ++ ds) = utf8 cs ++ utf8 ds :=
  List.flatMap_append

theorem utf8_cons (c : Char) (cs : List Char) :
    utf8 (c :: cs) = String.utf8EncodeChar c ++ utf8 cs := List.flatMap_cons

theorem utf8_cons_of_lt {c : Char} (h : c.toNat < 0x80) (cs : List Char) :
    utf8 (c :: cs) = UInt8.ofNat c.toNat :: utf8 cs := by
  rw [utf8_cons, Utf8.utf8EncodeChar_of_lt h]
  rfl

/-! ## Strings -/

/-- A byte that stands for itself in a string. -/
def IsPlain (b : UInt8) : Prop := 0x20 ≤ b.toNat ∧ b ≠ 0x22 ∧ b ≠ 0x5c

theorem stringFrom_congr {n : Nat} {acc bs bs' : Bytes} (hbs : bs = bs') (h : bs.length < n) :
    ∃ h', stringFrom acc bs h = stringFrom acc bs' (n := n) h' := by
  subst hbs
  exact ⟨h, rfl⟩

theorem stringFrom_plain {n : Nat} {bs tail : Bytes} (hbs : ∀ b ∈ bs, IsPlain b) (acc : Bytes)
    (h : (bs ++ tail).length < n) :
    ∃ h', stringFrom acc (bs ++ tail) h = stringFrom (bs.reverse ++ acc) tail (n := n) h' := by
  induction bs generalizing acc with
  | nil => exact ⟨h, rfl⟩
  | cons b bs ih =>
    obtain ⟨hb, hquote, hslash⟩ := hbs b List.mem_cons_self
    have hcontrol : ¬ b < 0x20 := UInt8.not_lt.2 hb
    obtain ⟨h', he⟩ := ih (fun d hd => hbs d (List.mem_cons_of_mem b hd)) (b :: acc)
      (shorter_of_cons h)
    refine ⟨h', ?_⟩
    change stringFrom acc (b :: (bs ++ tail)) h = _
    rw [stringFrom, if_neg hquote, if_neg hslash, if_neg hcontrol, he]
    simp

theorem stringFrom_escaped {n : Nat} {c : Char} {bs tail : Bytes}
    (hc : Reads (escapeSequence (bs ++ tail)) c tail) (acc : Bytes)
    (h : (0x5c :: bs ++ tail).length < n) :
    ∃ h', stringFrom acc (0x5c :: bs ++ tail) h =
      stringFrom ((String.utf8EncodeChar c).reverse ++ acc) tail (n := n) h' := by
  obtain ⟨hlt, he⟩ := hc
  refine ⟨shorter_of_cons_of_read hlt h, ?_⟩
  change stringFrom acc (0x5c :: (bs ++ tail)) h = _
  rw [stringFrom, if_neg (by decide), if_pos rfl]
  simp only [he]

/-- The escape of a character by one letter. -/
theorem escapeSequence_letter {b : UInt8} {c : Char} (h : escaped? b = some c) (tail : Bytes) :
    Reads (escapeSequence (b :: tail)) c tail := by
  refine ⟨Nat.lt_succ_of_lt (Nat.lt_succ_self _), ?_⟩
  simp only [escapeSequence]
  split
  · rename_i c' hc'
    cases h.symm.trans hc'
    rfl
  · rename_i hnone
    cases h.symm.trans hnone

theorem hexDigit?_hexDigit {n : Nat} (hn : n < 16) :
    hexDigit? (UInt8.ofNat (Bytes.hexDigit n).toNat) = some n :=
  (by decide : ∀ n < 16, hexDigit? (UInt8.ofNat (Bytes.hexDigit n).toNat) = some n) n hn

theorem hexDigit_lt {n : Nat} (hn : n < 16) : (Bytes.hexDigit n).toNat < 0x80 :=
  (by decide : ∀ n < 16, (Bytes.hexDigit n).toNat < 0x80) n hn

/-- The escape of a control character by its number. -/
theorem escapeSequence_number {c : Char} (hc : c.toNat < 0x20) (tail : Bytes) :
    Reads (escapeSequence (utf8 ('u' :: '0' :: '0' ::
      Bytes.hexOfByte (UInt8.ofNat c.toNat)) ++ tail)) c tail := by
  have hbyte : (UInt8.ofNat c.toNat).toNat = c.toNat := by
    rw [UInt8.toNat_ofNat']
    omega
  have hbytes : utf8 ('u' :: '0' :: '0' :: Bytes.hexOfByte (UInt8.ofNat c.toNat)) =
      [0x75, 0x30, 0x30, UInt8.ofNat (Bytes.hexDigit (c.toNat / 16)).toNat,
        UInt8.ofNat (Bytes.hexDigit (c.toNat % 16)).toNat] := by
    rw [Bytes.hexOfByte, hbyte, utf8_cons_of_lt (by decide), utf8_cons_of_lt (by decide),
      utf8_cons_of_lt (by decide), utf8_cons_of_lt (hexDigit_lt (by omega)),
      utf8_cons_of_lt (hexDigit_lt (by omega))]
    rfl
  have hzero : hexDigit? 0x30 = some 0 := by decide
  have hhex : Reads (hex4 (0x30 :: 0x30 :: UInt8.ofNat (Bytes.hexDigit (c.toNat / 16)).toNat ::
      UInt8.ofNat (Bytes.hexDigit (c.toNat % 16)).toNat :: tail)) c.toNat tail := by
    refine ⟨by simp only [List.length_cons]; omega, ?_⟩
    simp only [hex4, hzero, hexDigit?_hexDigit (show c.toNat / 16 < 16 by omega),
      hexDigit?_hexDigit (show c.toNat % 16 < 16 by omega)]
    congr 2
    omega
  have hcode : Reads (codePoint (0x30 :: 0x30 ::
      UInt8.ofNat (Bytes.hexDigit (c.toNat / 16)).toNat ::
      UInt8.ofNat (Bytes.hexDigit (c.toNat % 16)).toNat :: tail)) c tail := by
    refine hhex.bind fun hlt => ⟨hlt, ?_⟩
    have hlow : isLowSurrogate c.toNat = false := by
      simp only [isLowSurrogate, Bool.and_eq_false_iff, decide_eq_false_iff_not]
      omega
    have hhigh : isHighSurrogate c.toNat = false := by
      simp only [isHighSurrogate, Bool.and_eq_false_iff, decide_eq_false_iff_not]
      omega
    simp only [hlow, hhigh, Bool.false_eq_true, if_false, Char.ofNat_toNat]
    rfl
  rw [hbytes]
  simp only [List.cons_append, List.nil_append, escapeSequence]
  have hletter : escaped? 0x75 = none := by decide
  rw [hletter]
  simp only [if_true]
  exact hcode.mono _

theorem isPlain_of_mem {c : Char} (hcontrol : 0x20 ≤ c.toNat) (hquote : c ≠ '"')
    (hslash : c ≠ '\\') {b : UInt8} (hb : b ∈ String.utf8EncodeChar c) : IsPlain b := by
  by_cases hascii : c.toNat < 0x80
  · rw [Utf8.utf8EncodeChar_of_lt hascii, List.mem_singleton] at hb
    have hnat : b.toNat = c.toNat := by
      rw [hb, UInt8.toNat_ofNat']
      omega
    refine ⟨by omega, ?_, ?_⟩
    · rintro rfl
      exact hquote (Char.toNat_inj.1 hnat.symm)
    · rintro rfl
      exact hslash (Char.toNat_inj.1 hnat.symm)
  · have hle := Utf8.le_of_mem_utf8EncodeChar (Nat.not_lt.1 hascii) hb
    refine ⟨by omega, ?_, ?_⟩ <;>
    · rintro rfl
      revert hle
      decide

/-- **Characters.** Each is read from what it is written as. -/
theorem stringFrom_escape {n : Nat} (c : Char) (acc tail : Bytes)
    (h : (utf8 (escape c) ++ tail).length < n) :
    ∃ h', stringFrom acc (utf8 (escape c) ++ tail) h =
      stringFrom ((String.utf8EncodeChar c).reverse ++ acc) tail (n := n) h' := by
  revert h
  unfold escape
  split
  case h_8 hquote hslash _ _ _ _ _ =>
    by_cases hcontrol : c.toNat < 0x20
    · simp only [hcontrol, if_true]
      exact stringFrom_escaped (escapeSequence_number hcontrol tail) acc
    · simp only [hcontrol, if_false]
      intro h
      have hbytes : utf8 [c] ++ tail = String.utf8EncodeChar c ++ tail := by
        rw [utf8_cons, utf8_nil, List.append_nil]
      obtain ⟨h₁, he₁⟩ := stringFrom_congr hbytes h
      rw [he₁]
      refine stringFrom_plain (fun b hb => isPlain_of_mem ?_ hquote hslash hb) acc h₁
      omega
  all_goals exact stringFrom_escaped (escapeSequence_letter (by decide) tail) acc

theorem stringFrom_escapes {n : Nat} (cs : List Char) (acc tail : Bytes)
    (h : (utf8 (cs.flatMap escape) ++ tail).length < n) :
    ∃ h', stringFrom acc (utf8 (cs.flatMap escape) ++ tail) h =
      stringFrom ((utf8 cs).reverse ++ acc) tail (n := n) h' := by
  induction cs generalizing acc with
  | nil => exact ⟨h, rfl⟩
  | cons c cs ih =>
    have hbytes : utf8 ((c :: cs).flatMap escape) ++ tail =
        utf8 (escape c) ++ (utf8 (cs.flatMap escape) ++ tail) := by
      rw [List.flatMap_cons, utf8_append, List.append_assoc]
    obtain ⟨h₁, he₁⟩ := stringFrom_congr hbytes h
    obtain ⟨h₂, he₂⟩ := stringFrom_escape c acc _ h₁
    obtain ⟨h₃, he₃⟩ := ih ((String.utf8EncodeChar c).reverse ++ acc) h₂
    refine ⟨h₃, ?_⟩
    rw [he₁, he₂, he₃, utf8_cons]
    simp

/-- **Strings.** -/
theorem stringBody_writeString (s : String) (rest : Bytes) :
    ∃ bs, utf8 (writeString s) ++ rest = 0x22 :: bs ∧ Reads (stringBody bs) s rest := by
  refine ⟨utf8 (s.toList.flatMap escape) ++ 0x22 :: rest, ?_, ?_⟩
  · rw [writeString, List.cons_append, utf8_cons_of_lt (by decide), utf8_append]
    simp [utf8, String.utf8EncodeChar]
  · obtain ⟨h, he⟩ := stringFrom_escapes s.toList [] (0x22 :: rest) (length_lt_succ _)
    rw [stringBody, he, stringFrom, if_pos rfl]
    have hdecode : Utf8.decode? ((utf8 s.toList).reverse ++ []).reverse = some s := by
      rw [List.append_nil, List.reverse_reverse]
      exact Utf8.decode?_encode s
    refine ⟨shorter_of_cons h, ?_⟩
    simp only [hdecode]

theorem readString_writeString (expected s : String) (rest : Bytes) :
    Reads (readString expected (utf8 (writeString s) ++ rest)) s rest := by
  obtain ⟨bs, hbs, hreads⟩ := stringBody_writeString s rest
  rw [hbs]
  refine Reads.afterSpace ?_ (by decide)
  rw [if_pos rfl]
  exact hreads

/-! ## Integers -/

/-- What does not go on with an integer. -/
def Stops (rest : Bytes) : Prop :=
  ∀ b ∈ rest.head?, isDigit b = false ∧ b ≠ 0x2e ∧ b ≠ 0x65 ∧ b ≠ 0x45

theorem startsWithDigit_of_stops {rest : Bytes} (h : Stops rest) : startsWithDigit rest = false := by
  cases rest with
  | nil => rfl
  | cons b bs => exact (h b rfl).1

theorem afterInteger_of_stops {rest : Bytes} (h : Stops rest) (negative : Bool) (n : Nat) :
    Reads (afterInteger negative n rest) (integer negative n) rest := by
  cases rest with
  | nil => exact ⟨_, rfl⟩
  | cons b bs =>
    obtain ⟨-, hpoint, he, hE⟩ := h b rfl
    refine ⟨Nat.lt_succ_self _, ?_⟩
    rw [afterInteger, if_neg hpoint, if_neg (by simp [he, hE])]

/-- The byte of a digit. -/
theorem byte_of_isDigit {c : Char} (h : c.isDigit) :
    c.toNat < 0x80 ∧ isDigit (UInt8.ofNat c.toNat) = true ∧
      (UInt8.ofNat c.toNat).toNat - 0x30 = c.toNat - '0'.toNat := by
  simp only [Char.isDigit, Bool.and_eq_true, decide_eq_true_eq] at h
  have hlo : 48 ≤ c.toNat := h.1
  have hhi : c.toNat ≤ 57 := h.2
  have hnat : (UInt8.ofNat c.toNat).toNat = c.toNat := by
    rw [UInt8.toNat_ofNat']
    omega
  refine ⟨by omega, ?_, by rw [hnat]; rfl⟩
  simp only [isDigit, Bool.and_eq_true, decide_eq_true_eq, UInt8.le_iff_toNat_le, hnat]
  exact ⟨hlo, hhi⟩

theorem le_ofDigitChars (cs : List Char) (acc : Nat) : acc ≤ Nat.ofDigitChars 10 cs acc := by
  induction cs generalizing acc with
  | nil => exact Nat.le_refl acc
  | cons c cs ih =>
    rw [Nat.ofDigitChars_cons]
    have hle := ih (10 * acc + (c.toNat - '0'.toNat))
    omega

theorem digitsBelow_of_isDigit {limit : Nat} {cs : List Char} {rest : Bytes}
    (hcs : ∀ c ∈ cs, c.isDigit) (hrest : Stops rest) {acc : Nat} (count : Nat)
    (hlimit : Nat.ofDigitChars 10 cs acc < limit) :
    digitsBelow limit acc count (utf8 cs ++ rest) =
      (Nat.ofDigitChars 10 cs acc, count + cs.length, rest) := by
  induction cs generalizing acc count with
  | nil =>
    cases rest with
    | nil => rfl
    | cons b bs =>
      rw [utf8_nil, List.nil_append, digitsBelow, (hrest b rfl).1]
      rfl
  | cons c cs ih =>
    obtain ⟨hascii, hdigit, hvalue⟩ := byte_of_isDigit (hcs c List.mem_cons_self)
    rw [Nat.ofDigitChars_cons] at hlimit ⊢
    have hnext := le_ofDigitChars cs (10 * acc + (c.toNat - '0'.toNat))
    rw [utf8_cons_of_lt hascii, List.cons_append, digitsBelow, if_pos hdigit]
    dsimp only
    rw [hvalue, Nat.mul_comm acc, if_pos (Nat.lt_of_le_of_lt hnext hlimit),
      ih (fun d hd => hcs d (List.mem_cons_of_mem c hd)) (count + 1) hlimit, List.length_cons]
    congr 2
    omega

/-- The numeral of a positive number begins with none of its zeros. -/
theorem decimal_eq_cons {n : Nat} (hn : 0 < n) : ∃ c cs, decimal n = c :: cs ∧ c ≠ '0' := by
  induction n using Nat.strongRecOn with
  | ind n ih =>
    by_cases hsmall : n < 10
    · refine ⟨n.digitChar, [], Nat.toDigits_of_lt_base hsmall, ?_⟩
      exact (by decide : ∀ n < 10, 0 < n → n.digitChar ≠ '0') n hsmall hn
    · obtain ⟨c, cs, hcs, hc⟩ := ih (n / 10) (by omega) (by omega)
      refine ⟨c, cs ++ [(n % 10).digitChar], ?_, hc⟩
      rw [decimal, Nat.toDigits_of_base_le (by decide) (by omega)]
      exact congrArg (· ++ [(n % 10).digitChar]) hcs

theorem numberFrom_decimal {n : Nat} {rest : Bytes} (hn : n < wordLimit) (hrest : Stops rest)
    (negative : Bool) :
    ∃ b bs, utf8 (decimal n) ++ rest = b :: bs ∧ isDigit b = true ∧
      Reads (numberFrom negative b bs) (integer negative n) rest := by
  have hstop := startsWithDigit_of_stops hrest
  by_cases hzero : n = 0
  · subst hzero
    refine ⟨0x30, rest, rfl, rfl, ?_⟩
    rw [numberFrom, if_pos rfl, hstop]
    exact afterInteger_of_stops hrest negative 0
  · obtain ⟨c, cs, hcs, hc⟩ := decimal_eq_cons (Nat.pos_of_ne_zero hzero)
    have hdigits : ∀ d ∈ c :: cs, d.isDigit := fun d hd => isDigit_of_mem_decimal (hcs ▸ hd)
    obtain ⟨hascii, hdigit, hvalue⟩ := byte_of_isDigit (hdigits c List.mem_cons_self)
    have hnumber : Nat.ofDigitChars 10 cs ((UInt8.ofNat c.toNat).toNat - 0x30) = n := by
      have htotal : Nat.ofDigitChars 10 (decimal n) 0 = n := Nat.ofDigitChars_ten_toDigits
      rw [hcs, Nat.ofDigitChars_cons] at htotal
      rw [hvalue]
      simpa using htotal
    have hread := @digitsBelow_of_isDigit wordLimit cs rest
      (fun d hd => hdigits d (List.mem_cons_of_mem c hd)) hrest
      ((UInt8.ofNat c.toNat).toNat - 0x30) 0 (hnumber ▸ hn)
    rw [hnumber] at hread
    refine ⟨UInt8.ofNat c.toNat, utf8 cs ++ rest, ?_, hdigit, ?_⟩
    · rw [hcs, utf8_cons_of_lt hascii, List.cons_append]
    · have hfirst : UInt8.ofNat c.toNat ≠ 0x30 := by
        intro heq
        have hnat : (UInt8.ofNat c.toNat).toNat = 48 := by rw [heq]; rfl
        rw [UInt8.toNat_ofNat', Nat.mod_eq_of_lt (by omega)] at hnat
        exact hc (Char.toNat_inj.1 hnat)
      have hafter : ∀ r : Nat × Nat × Bytes, r = (n, 0 + cs.length, rest) →
          Reads (afterInteger negative r.1 r.2.2) (integer negative n) rest := by
        rintro _ rfl
        exact afterInteger_of_stops hrest negative n
      unfold numberFrom
      rw [if_neg hfirst]
      dsimp only
      split
      · rename_i hmore
        rw [hread, hstop] at hmore
        cases hmore
      · exact (hafter _ hread).mono _

/-- **Integers.** -/
theorem readInteger_writeInt {lo hi i : Int} (expected : String) {rest : Bytes} (hlo : lo ≤ i)
    (hhi : i ≤ hi) (hword : -0x8000000000000000 ≤ i) (hword' : i < 0x8000000000000000)
    (hrest : Stops rest) :
    Reads (readInteger lo hi expected (utf8 (writeInt i) ++ rest)) i rest := by
  have hof : ∀ {n : Nat} (hlt : rest.length < n),
      Reads (integerOf lo hi expected ⟨.int i, rest, hlt⟩) i rest := by
    intro n hlt
    refine ⟨hlt, ?_⟩
    rw [integerOf]
    simp only [hlo, hhi, and_self, if_true]
  have hspace : ∀ b : UInt8, isDigit b = true → isSpace b = false ∧ b ≠ 0x2d := by
    intro b hb
    have hne : ∀ c : UInt8, isDigit c = false → b ≠ c := by
      rintro c hc rfl
      rw [hb] at hc
      cases hc
    refine ⟨?_, hne _ (by decide)⟩
    simp [isSpace, hne 0x20 (by decide), hne 0x0a (by decide), hne 0x09 (by decide),
      hne 0x0d (by decide)]
  cases i with
  | ofNat n =>
    rw [Int.ofNat_eq_natCast] at hword'
    obtain ⟨b, bs, hbs, hdigit, hreads⟩ :=
      numberFrom_decimal (n := n) (by simp only [wordLimit]; omega) hrest false
    rw [writeInt, hbs]
    refine Reads.afterSpace ?_ (hspace b hdigit).1
    rw [if_neg (hspace b hdigit).2, if_pos hdigit]
    exact hreads.bind hof
  | negSucc n =>
    obtain ⟨b, bs, hbs, hdigit, hreads⟩ :=
      numberFrom_decimal (n := n + 1) (by simp only [wordLimit]; omega) hrest true
    rw [writeInt, utf8_cons_of_lt (by decide), List.cons_append, hbs]
    refine Reads.afterSpace ?_ (by decide)
    rw [if_pos (by rfl)]
    have hnumber : Reads (number true (b :: bs)) (integer true (n + 1)) rest := by
      rw [number, if_pos hdigit]
      exact hreads.mono _
    have hinteger : integer true (n + 1) = .int (.negSucc n) := by
      simp only [integer, Bool.not_true, Bool.false_eq_true, if_false]
      rw [if_pos (by omega)]
      rfl
    rw [hinteger] at hnumber
    exact hnumber.bind hof

end Microblog.Json
