import Microblog.Proofs.Text.ReadBack

/-!
# Texts with one written form

Base64 and UTF-8 are read from nothing but what is written for them
(`Base64.decodePadded?_eq_some_iff`, `Text.Utf8.decode?_eq_some_iff`), so two
texts that are read as the same bytes are the same text.
-/

namespace Microblog

/-! ## Base64 -/

namespace Bytes

variable {a : Alphabet} {c : Char} {n : Nat} {cs : List Char} {bs : List UInt8}

theorem lt_of_value? (h : a.value? c = some n) : c.toNat < 128 := by
  unfold Alphabet.value? at h
  split at h
  · rename_i hupper
    have hhi : c.toNat ≤ 90 := hupper.2
    omega
  split at h
  · rename_i hlower
    have hhi : c.toNat ≤ 122 := hlower.2
    omega
  split at h
  · rename_i hdigit
    have hhi : c.toNat ≤ 57 := hdigit.2
    omega
  split at h
  · rename_i hlast
    rw [hlast]
    cases a <;> decide
  split at h
  · rename_i hlast
    rw [hlast]
    cases a <;> decide
  · cases h

/-- The symbol of a number is the only character that stands for it. -/
theorem symbol_of_value? (h : a.value? c = some n) : n < 64 ∧ a.symbol n = c := by
  have hall : ∀ k < 128, (a.value? (Char.ofNat k)).all
      (fun m => decide (m < 64 ∧ a.symbol m = Char.ofNat k)) = true := by
    cases a <;> decide
  have hc := hall c.toNat (lt_of_value? h)
  rw [Char.ofNat_toNat, h] at hc
  exact of_decide_eq_true hc

theorem encode_of_decode? (h : Base64.decode? a cs = some bs) : Base64.encode a bs = cs := by
  fun_induction Base64.decode? a cs generalizing bs with
  | case1 =>
    cases h
    rfl
  | case2 => cases h
  | case3 p q =>
    simp only [bind, Option.bind_eq_some_iff] at h
    obtain ⟨i, hp, j, hq, h⟩ := h
    obtain ⟨hi, rfl⟩ := symbol_of_value? hp
    obtain ⟨hj, rfl⟩ := symbol_of_value? hq
    obtain ⟨hspare, h⟩ := Option.ite_none_right_eq_some.1 h
    cases h
    have hx : (UInt8.ofNat ((i * 64 + j) / 16)).toNat = (i * 64 + j) / 16 := by
      rw [UInt8.toNat_ofNat']
      omega
    simp only [Base64.encode, hx]
    rw [show (i * 64 + j) / 16 * 16 / 64 = i by omega,
      show (i * 64 + j) / 16 * 16 % 64 = j by omega]
  | case4 p q r =>
    simp only [bind, Option.bind_eq_some_iff] at h
    obtain ⟨i, hp, j, hq, k, hr, h⟩ := h
    obtain ⟨hi, rfl⟩ := symbol_of_value? hp
    obtain ⟨hj, rfl⟩ := symbol_of_value? hq
    obtain ⟨hk, rfl⟩ := symbol_of_value? hr
    obtain ⟨hspare, h⟩ := Option.ite_none_right_eq_some.1 h
    cases h
    have hx : (UInt8.ofNat (((i * 64 + j) * 64 + k) / 1024)).toNat =
        ((i * 64 + j) * 64 + k) / 1024 := by
      rw [UInt8.toNat_ofNat']
      omega
    have hy : (UInt8.ofNat (((i * 64 + j) * 64 + k) / 4 % 256)).toNat =
        ((i * 64 + j) * 64 + k) / 4 % 256 := by
      rw [UInt8.toNat_ofNat']
      omega
    simp only [Base64.encode, hx, hy]
    rw [show ((i * 64 + j) * 64 + k) / 1024 * 256 + ((i * 64 + j) * 64 + k) / 4 % 256 =
        ((i * 64 + j) * 64 + k) / 4 by omega]
    rw [show ((i * 64 + j) * 64 + k) / 4 * 4 / 4096 = i by omega,
      show ((i * 64 + j) * 64 + k) / 4 * 4 / 64 % 64 = j by omega,
      show ((i * 64 + j) * 64 + k) / 4 * 4 % 64 = k by omega]
  | case5 p q r s cs ih =>
    simp only [bind, Option.bind_eq_some_iff] at h
    obtain ⟨i, hp, j, hq, k, hr, l, hs, ds, hds, h⟩ := h
    obtain ⟨hi, rfl⟩ := symbol_of_value? hp
    obtain ⟨hj, rfl⟩ := symbol_of_value? hq
    obtain ⟨hk, rfl⟩ := symbol_of_value? hr
    obtain ⟨hl, rfl⟩ := symbol_of_value? hs
    cases h
    have hx : (UInt8.ofNat ((((i * 64 + j) * 64 + k) * 64 + l) / 65536)).toNat =
        (((i * 64 + j) * 64 + k) * 64 + l) / 65536 := by
      rw [UInt8.toNat_ofNat']
      omega
    have hy : (UInt8.ofNat ((((i * 64 + j) * 64 + k) * 64 + l) / 256 % 256)).toNat =
        (((i * 64 + j) * 64 + k) * 64 + l) / 256 % 256 := by
      rw [UInt8.toNat_ofNat']
      omega
    have hz : (UInt8.ofNat ((((i * 64 + j) * 64 + k) * 64 + l) % 256)).toNat =
        (((i * 64 + j) * 64 + k) * 64 + l) % 256 := by
      rw [UInt8.toNat_ofNat']
      omega
    simp only [Base64.encode, hx, hy, hz, ih hds]
    have hv : ((((i * 64 + j) * 64 + k) * 64 + l) / 65536 * 256 +
        (((i * 64 + j) * 64 + k) * 64 + l) / 256 % 256) * 256 +
        (((i * 64 + j) * 64 + k) * 64 + l) % 256 = ((i * 64 + j) * 64 + k) * 64 + l := by
      omega
    rw [hv, show (((i * 64 + j) * 64 + k) * 64 + l) / 262144 = i by omega,
      show (((i * 64 + j) * 64 + k) * 64 + l) / 4096 % 64 = j by omega,
      show (((i * 64 + j) * 64 + k) * 64 + l) / 64 % 64 = k by omega,
      show (((i * 64 + j) * 64 + k) * 64 + l) % 64 = l by omega]

theorem decode?_eq_some_iff : Base64.decode? a cs = some bs ↔ cs = Base64.encode a bs :=
  ⟨fun h => (encode_of_decode? h).symm, fun h => h ▸ decode?_encode a bs⟩

theorem ne_padding_of_mem_encode (h : c ∈ Base64.encode a bs) : c ≠ '=' := by
  obtain ⟨n, rfl⟩ := Base64.mem_encode h
  obtain ⟨m, hm, he⟩ := exists_symbol_lt a n
  rw [he]
  cases a
  · exact (by decide : ∀ m < 64, Alphabet.standard.symbol m ≠ '=') m hm
  · exact (by decide : ∀ m < 64, Alphabet.urlSafe.symbol m ≠ '=') m hm

theorem takeWhile_encodePadded (a : Alphabet) (bs : List UInt8) :
    (Base64.encodePadded a bs).takeWhile (· != '=') = Base64.encode a bs := by
  have hsymbols : ∀ c ∈ Base64.encode a bs, (c != '=') = true := by
    intro c hc
    exact bne_iff_ne.2 (ne_padding_of_mem_encode hc)
  have hpadding : ∀ k, (List.replicate k '=').takeWhile (· != '=') = [] := by
    intro k
    cases k <;> rfl
  rw [Base64.encodePadded, List.takeWhile_append_of_pos hsymbols, Base64.padding, hpadding,
    List.append_nil]

/-- **Base64.** With its padding too, a text is read only if it is what is written for the bytes. -/
theorem decodePadded?_eq_some_iff :
    Base64.decodePadded? a cs = some bs ↔ cs = Base64.encodePadded a bs := by
  constructor
  · intro h
    obtain ⟨hpadded, h⟩ := Option.ite_none_right_eq_some.1 h
    rw [decode?_eq_some_iff] at h
    rw [h] at hpadded
    exact hpadded
  · rintro rfl
    rw [Base64.decodePadded?]
    simp only [takeWhile_encodePadded]
    rw [if_pos (by rfl), decode?_encode]

end Bytes

/-! ## UTF-8 -/

namespace Text.Utf8

/-- **UTF-8.** Bytes are read only if they are what is written for the text. -/
theorem decode?_eq_some_iff {bs : List UInt8} {s : String} :
    decode? bs = some s ↔ bs = encode s := by
  constructor
  · intro h
    rw [decode?, String.fromUTF8?] at h
    split at h
    · cases h
      have hbytes := congrArg ByteArray.data (toByteArray_encode (String.fromUTF8 ⟨bs.toArray⟩ ‹_›))
      exact (List.toArray_inj hbytes).symm
    · cases h
  · rintro rfl
    exact decode?_encode s

end Text.Utf8

end Microblog
