import Microblog.Bytes.Base64
import Microblog.Json.Value
import Microblog.Text.Utf8

/-!
# Texts that are read back

UTF-8, base64 and decimal numerals are read as what they were written from.
-/

namespace Microblog

open Text Bytes

/-! ## UTF-8 -/

namespace Text.Utf8

theorem toByteArray_eq (bs : List UInt8) : bs.toByteArray = ⟨bs.toArray⟩ := by
  apply ByteArray.ext
  simp

theorem toByteArray_encode (s : String) : (⟨(encode s).toArray⟩ : ByteArray) = s.toByteArray := by
  rw [← String.utf8Encode_toList, List.utf8Encode, toByteArray_eq, encode]

theorem decode?_encode (s : String) : decode? (encode s) = some s := by
  have hvalid : s.toByteArray.IsValidUTF8 := s.isValidUTF8
  rw [decode?, toByteArray_encode, String.fromUTF8?, dif_pos hvalid]
  rfl

theorem encode_ofList (cs : List Char) :
    encode (String.ofList cs) = cs.flatMap String.utf8EncodeChar := by
  rw [encode, String.toList_ofList]

theorem utf8EncodeChar_of_lt {c : Char} (h : c.toNat < 0x80) :
    String.utf8EncodeChar c = [UInt8.ofNat c.toNat] := by
  have hle : c.val.toNat ≤ 127 := Nat.le_of_lt_succ h
  simp only [String.utf8EncodeChar, hle, if_true]
  rfl

/-- Beyond ASCII no byte of a character is in ASCII. -/
theorem le_of_mem_utf8EncodeChar {c : Char} (hc : 0x80 ≤ c.toNat) {b : UInt8}
    (hb : b ∈ String.utf8EncodeChar c) : 0x80 ≤ b.toNat := by
  have hascii : ¬ c.val.toNat ≤ 127 := Nat.not_le.2 hc
  simp only [String.utf8EncodeChar, hascii, if_false] at hb
  split at hb
  · simp only [List.mem_cons, List.not_mem_nil, or_false] at hb
    rcases hb with rfl | rfl <;> rw [UInt8.toNat_ofNat'] <;> omega
  split at hb
  · simp only [List.mem_cons, List.not_mem_nil, or_false] at hb
    rcases hb with rfl | rfl | rfl <;> rw [UInt8.toNat_ofNat'] <;> omega
  · simp only [List.mem_cons, List.not_mem_nil, or_false] at hb
    rcases hb with rfl | rfl | rfl | rfl <;> rw [UInt8.toNat_ofNat'] <;> omega

end Text.Utf8

/-! ## Base64 -/

namespace Bytes

theorem symbol_value (a : Alphabet) {n : Nat} (hn : n < 64) : a.value? (a.symbol n) = some n := by
  cases a
  · exact (by decide : ∀ n < 64, Alphabet.standard.value? (Alphabet.standard.symbol n) = some n) n hn
  · exact (by decide : ∀ n < 64, Alphabet.urlSafe.value? (Alphabet.urlSafe.symbol n) = some n) n hn

/-- A symbol stands for a number below 64. -/
theorem exists_symbol_lt (a : Alphabet) (n : Nat) : ∃ m < 64, a.symbol n = a.symbol m := by
  by_cases hn : n < 64
  · exact ⟨n, hn, rfl⟩
  · refine ⟨63, by omega, ?_⟩
    have h₁ : ¬ n < 26 := by omega
    have h₂ : ¬ n < 52 := by omega
    have h₃ : ¬ n < 62 := by omega
    have h₄ : n ≠ 62 := by omega
    simp [Alphabet.symbol, h₁, h₂, h₃, h₄]

theorem ofNat_toNat_of_eq {n : Nat} {x : UInt8} (h : n = x.toNat) : UInt8.ofNat n = x := by
  rw [h, UInt8.ofNat_toNat]

theorem decode?_encode (a : Alphabet) (bs : List UInt8) :
    Base64.decode? a (Base64.encode a bs) = some bs := by
  fun_induction Base64.encode a bs with
  | case1 => rfl
  | case2 x v =>
    have hx := x.toNat_lt
    simp only [Base64.decode?]
    rw [symbol_value a (by omega), symbol_value a (by omega)]
    simp only [bind, Option.bind_some]
    rw [if_pos (by omega), ofNat_toNat_of_eq (x := x) (by omega)]
  | case3 x y v =>
    have hx := x.toNat_lt
    have hy := y.toNat_lt
    simp only [Base64.decode?]
    rw [symbol_value a (by omega), symbol_value a (by omega), symbol_value a (by omega)]
    simp only [bind, Option.bind_some]
    rw [if_pos (by omega), ofNat_toNat_of_eq (x := x) (by omega),
      ofNat_toNat_of_eq (x := y) (by omega)]
  | case4 x y z bs v ih =>
    have hx := x.toNat_lt
    have hy := y.toNat_lt
    have hz := z.toNat_lt
    simp only [Base64.decode?]
    rw [symbol_value a (by omega), symbol_value a (by omega), symbol_value a (by omega),
      symbol_value a (by omega), ih]
    simp only [bind, Option.bind_some]
    rw [ofNat_toNat_of_eq (x := x) (by omega), ofNat_toNat_of_eq (x := y) (by omega),
      ofNat_toNat_of_eq (x := z) (by omega)]
    rfl

theorem length_encode (a : Alphabet) (bs : List UInt8) :
    (Base64.encode a bs).length = (4 * bs.length + 2) / 3 := by
  fun_induction Base64.encode a bs with
  | case1 => simp
  | case2 => simp
  | case3 => simp
  | case4 x y z bs v ih =>
    simp only [List.length_cons, ih]
    omega

end Bytes

/-! ## Decimal numerals -/

namespace Text

theorem digit?_of_isDigit {c : Char} (h : c.isDigit) : digit? c = some (c.toNat - '0'.toNat) := by
  simp only [Char.isDigit, Bool.and_eq_true, decide_eq_true_eq] at h
  rw [digit?, if_pos ⟨h.1, h.2⟩]

theorem digits?_of_isDigit {cs : List Char} (h : ∀ c ∈ cs, c.isDigit) (acc : Nat) :
    digits? acc cs = some (Nat.ofDigitChars 10 cs acc) := by
  induction cs generalizing acc with
  | nil => rfl
  | cons c cs ih =>
    rw [digits?, digit?_of_isDigit (h c List.mem_cons_self), Option.bind_some,
      ih fun d hd => h d (List.mem_cons_of_mem c hd), Nat.ofDigitChars_cons, Nat.mul_comm]

theorem isDigit_of_mem_decimal {n : Nat} {c : Char} (h : c ∈ decimal n) : c.isDigit :=
  Nat.isDigit_of_mem_toDigits (by decide) (by decide) h

theorem natural?_decimal (n : Nat) : natural? (decimal n) = some n := by
  have hdigits := digits?_of_isDigit (fun c hc => @isDigit_of_mem_decimal n c hc) 0
  rw [decimal, Nat.ofDigitChars_ten_toDigits] at hdigits
  unfold natural?
  split
  · rename_i h
    exact absurd h Nat.toDigits_ne_nil
  · exact hdigits

theorem integer?_writeInt (i : Int) : integer? (Json.writeInt i) = some i := by
  cases i with
  | ofNat n =>
    rw [Json.writeInt]
    unfold integer?
    split
    · rename_i cs h
      have hsign : '-' ∈ decimal n := h ▸ List.mem_cons_self
      exact absurd (isDigit_of_mem_decimal hsign) (by decide)
    · rename_i cs h
      have hsign : '+' ∈ decimal n := h ▸ List.mem_cons_self
      exact absurd (isDigit_of_mem_decimal hsign) (by decide)
    · rw [natural?_decimal]
      rfl
  | negSucc n =>
    rw [Json.writeInt, integer?, natural?_decimal]
    rfl

theorem int64?_writeInt (i : Int64) :
    int64? (String.ofList (Json.writeInt i.toInt)) = some i := by
  have hlo := i.le_toInt
  have hhi := i.toInt_lt
  rw [int64?, String.toList_ofList, integer?_writeInt, Option.bind_some, if_pos (by omega),
    Int64.ofInt_toInt]

end Text

end Microblog
