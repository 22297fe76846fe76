import Mathlib.Data.String.Basic
import Microblog.Proofs.Content.Checks

/-!
# Addresses and the bounds of credentials

The pattern of addresses has three open stretches, and a point may fall in two of
them. What it accepts can be said without a pattern nevertheless (`isEmail_iff`):
no blank, one at sign with something in front of it, and behind it a point that
is neither the first nor the last character.

Addresses and passwords are measured in bytes, where everything else is measured
in characters. For which of them that makes a difference is said by
`bounds_count_characters_iff`.
-/

namespace Microblog

/-! ## Patterns -/

namespace Text

variable {ps : List Piece} {cs : List Char} {c d : Char} {p : Char → Bool}

theorem Fits.nil_iff : Fits [] cs ↔ cs = [] := by
  constructor
  · rintro ⟨⟩
    rfl
  · rintro rfl
    exact .nil

theorem Fits.char_iff : Fits (.char d :: ps) cs ↔ ∃ rest, cs = d :: rest ∧ Fits ps rest := by
  constructor
  · rintro ⟨⟩
    rename_i rest h
    exact ⟨rest, rfl, h⟩
  · rintro ⟨rest, rfl, h⟩
    exact .char d h

theorem Fits.some_iff : Fits (.some p :: ps) cs ↔
    ∃ w rest, cs = w ++ rest ∧ (w ≠ [] ∧ ∀ c ∈ w, p c = true) ∧ Fits ps rest := by
  constructor
  · rintro ⟨⟩
    rename_i rest w hw hp h
    exact ⟨w, rest, rfl, ⟨hw, hp⟩, h⟩
  · rintro ⟨w, rest, rfl, ⟨hw, hp⟩, h⟩
    exact .some hw hp h

/-- The code points with the property White_Space. -/
def whiteSpace : List Nat := [
  0x9, 0xa, 0xb, 0xc, 0xd, 0x20, 0x85, 0xa0, 0x1680, 0x2000, 0x2001, 0x2002, 0x2003, 0x2004,
  0x2005, 0x2006, 0x2007, 0x2008, 0x2009, 0x200a, 0x2028, 0x2029, 0x202f, 0x205f, 0x3000]

theorem isBlank_iff : isBlank c = true ↔ c.toNat ∈ whiteSpace := by
  simp only [isBlank, whiteSpace, Bool.or_eq_true, Bool.and_eq_true, decide_eq_true_eq, beq_iff_eq,
    List.mem_cons, List.not_mem_nil, or_false]
  omega

end Text

namespace Account

open Content

variable {s email password : String} {cs name host zone : List Char}

/-! ## Addresses -/

/-- A stretch of an address between its at sign and its points. -/
def IsStretch (w : List Char) : Prop := w ≠ [] ∧ ∀ c ∈ w, isAddressChar c = true

theorem isAddressChar_iff {c : Char} :
    isAddressChar c = true ↔ c ≠ '@' ∧ c.toNat ∉ Text.whiteSpace := by
  rw [isAddressChar, Bool.and_eq_true, bne_iff_ne, Bool.not_eq_true', ← Bool.not_eq_true,
    Text.isBlank_iff]

/-- The texts that match are cut at the at sign and at some point behind it. -/
theorem fits_emailPattern_iff : Text.fits emailPattern cs = true ↔ ∃ name host zone,
    cs = name ++ '@' :: (host ++ '.' :: zone) ∧ IsStretch name ∧ IsStretch host ∧
      IsStretch zone := by
  rw [Text.fits_iff, emailPattern, Text.Fits.some_iff]
  constructor
  · rintro ⟨name, rest, rfl, hname, hrest⟩
    obtain ⟨domain, rfl, hdomain⟩ := Text.Fits.char_iff.1 hrest
    obtain ⟨host, rest, rfl, hhost, hrest⟩ := Text.Fits.some_iff.1 hdomain
    obtain ⟨last, rfl, hlast⟩ := Text.Fits.char_iff.1 hrest
    obtain ⟨zone, rest, rfl, hzone, hrest⟩ := Text.Fits.some_iff.1 hlast
    obtain rfl := Text.Fits.nil_iff.1 hrest
    exact ⟨name, host, zone, by rw [List.append_nil], hname, hhost, hzone⟩
  · rintro ⟨name, host, zone, rfl, hname, hhost, hzone⟩
    refine ⟨name, _, rfl, hname, .char '@' (Text.Fits.some_iff.2 ⟨host, _, rfl, hhost, .char '.' ?_⟩)⟩
    exact Text.Fits.some_iff.2 ⟨zone, [], (List.append_nil zone).symm, hzone, .nil⟩

/-- What stands in front of the first at sign. -/
def localPart (s : String) : List Char := s.toList.takeWhile (· != '@')

/-- What stands behind the first at sign. -/
def domain (s : String) : List Char := (s.toList.dropWhile (· != '@')).tail

/-- A text that is an address. -/
structure IsAddress (s : String) : Prop where
  unspaced : ∀ c ∈ s.toList, c.toNat ∉ Text.whiteSpace
  oneAt : s.toList.count '@' = 1
  named : localPart s ≠ []
  /-- A point of the domain is neither its first nor its last character. -/
  pointed : ∃ i, 0 < i ∧ i + 1 < (domain s).length ∧ (domain s)[i]? = some '.'

theorem localPart_of_cut (hs : s.toList = name ++ '@' :: cs) (h : '@' ∉ name) :
    localPart s = name ∧ domain s = cs := by
  have hname : ∀ c ∈ name, (c != '@') = true := fun c hc => bne_iff_ne.2 (ne_of_mem_of_not_mem hc h)
  rw [localPart, domain, hs, List.takeWhile_append_of_pos hname, List.dropWhile_append_of_pos hname]
  exact ⟨by simp, by simp⟩

theorem IsStretch.count (h : IsStretch cs) : cs.count '@' = 0 :=
  List.count_eq_zero_of_not_mem fun hmem => (isAddressChar_iff.1 (h.2 _ hmem)).1 rfl

theorem IsStretch.unspaced (h : IsStretch cs) : ∀ c ∈ cs, c.toNat ∉ Text.whiteSpace :=
  fun c hc => (isAddressChar_iff.1 (h.2 c hc)).2

theorem isAddress_of_cut (hs : s.toList = name ++ '@' :: (host ++ '.' :: zone))
    (hname : IsStretch name) (hhost : IsStretch host) (hzone : IsStretch zone) : IsAddress s := by
  obtain ⟨hlocal, hdomain⟩ := localPart_of_cut hs (List.count_eq_zero.1 hname.count)
  refine ⟨?_, ?_, hlocal ▸ hname.1, host.length, List.length_pos_iff.2 hhost.1, ?_, ?_⟩
  · rw [hs]
    simp only [List.forall_mem_append, List.forall_mem_cons]
    exact ⟨hname.unspaced, by decide, hhost.unspaced, by decide, hzone.unspaced⟩
  · simp [hs, hname.count, hhost.count, hzone.count]
  · have hlength := List.length_pos_iff.2 hzone.1
    rw [hdomain, List.length_append, List.length_cons]
    omega
  · simp [hdomain]

theorem isStretch_of_unspaced (hne : cs ≠ []) (hat : cs.count '@' = 0)
    (h : ∀ c ∈ cs, c.toNat ∉ Text.whiteSpace) : IsStretch cs :=
  ⟨hne, fun c hc => isAddressChar_iff.2
    ⟨ne_of_mem_of_not_mem hc (List.count_eq_zero.1 hat), h c hc⟩⟩

/-- A point inside a text cuts it in two. -/
theorem exists_cut_of_getElem? {i : Nat} {c : Char} (hfirst : 0 < i) (hlast : i + 1 < cs.length)
    (hi : cs[i]? = some c) : ∃ host zone, cs = host ++ c :: zone ∧ host ≠ [] ∧ zone ≠ [] := by
  obtain ⟨hlt, rfl⟩ := List.getElem?_eq_some_iff.1 hi
  refine ⟨cs.take i, cs.drop (i + 1), ?_, ?_, ?_⟩
  · rw [List.getElem_cons_drop, List.take_append_drop]
  · rw [← List.length_pos_iff, List.length_take]
    omega
  · rw [← List.length_pos_iff, List.length_drop]
    omega

theorem IsAddress.exists_cut (h : IsAddress s) : ∃ name host zone,
    s.toList = name ++ '@' :: (host ++ '.' :: zone) ∧ IsStretch name ∧ IsStretch host ∧
      IsStretch zone := by
  obtain ⟨hunspaced, hat, hnamed, i, hfirst, hlast, hpoint⟩ := h
  have hmem : '@' ∈ s.toList := List.count_pos_iff.1 (by omega)
  obtain ⟨name, rest, hs, hnot⟩ := List.eq_append_cons_of_mem hmem
  obtain ⟨hlocal, hdomain⟩ := localPart_of_cut hs hnot
  rw [hdomain] at hlast hpoint
  obtain ⟨host, zone, rfl, hhost, hzone⟩ := exists_cut_of_getElem? hfirst hlast hpoint
  rw [hs] at hunspaced hat
  simp only [List.forall_mem_append, List.forall_mem_cons] at hunspaced
  obtain ⟨hname, -, hhostUnspaced, -, hzoneUnspaced⟩ := hunspaced
  have hcounts : name.count '@' = 0 ∧ host.count '@' = 0 ∧ zone.count '@' = 0 := by
    simp only [List.count_append, List.count_cons_self, List.count_cons_of_ne, ne_eq,
      Char.reduceEq, not_false_eq_true] at hat
    omega
  exact ⟨name, host, zone, hs, isStretch_of_unspaced (hlocal ▸ hnamed) hcounts.1 hname,
    isStretch_of_unspaced hhost hcounts.2.1 hhostUnspaced,
    isStretch_of_unspaced hzone hcounts.2.2 hzoneUnspaced⟩

/-- **Addresses.** The pattern accepts the addresses and no other text. -/
theorem isEmail_iff (s : String) : isEmail s = true ↔ IsAddress s := by
  rw [isEmail, fits_emailPattern_iff]
  constructor
  · rintro ⟨name, host, zone, hs, hname, hhost, hzone⟩
    exact isAddress_of_cut hs hname hhost hzone
  · exact IsAddress.exists_cut

/-! ## Characters and bytes -/

theorem length_le_utf8ByteSize (s : String) : s.length ≤ s.utf8ByteSize := by
  rw [← String.length_toList, ← String.utf8Len_toList]
  induction s.toList with
  | nil => exact Nat.le_refl 0
  | cons c cs ih =>
    have hpos := c.utf8Size_pos
    rw [String.utf8Len_cons, List.length_cons]
    omega

theorem utf8ByteSize_le (s : String) : s.utf8ByteSize ≤ 4 * s.length := by
  rw [← String.length_toList, ← String.utf8Len_toList]
  induction s.toList with
  | nil => exact Nat.le_refl 0
  | cons c cs ih =>
    have hfour := c.utf8Size_le_four
    rw [String.utf8Len_cons, List.length_cons]
    omega

/-! ## Bounds -/

/-- Credentials within their bounds, by some measure of texts. -/
structure Within (size : String → Nat) (email password : String) : Prop where
  address : isEmail email
  email : size email ≤ 255
  password : 3 ≤ size password ∧ size password ≤ 72

theorem checkCredentials_eq_ok_iff_within :
    checkCredentials email password = .ok () ↔ Within String.utf8ByteSize email password := by
  rw [checkCredentials_eq_ok_iff]
  constructor
  · rintro ⟨⟨-, hsize, haddress⟩, hpassword⟩
    exact ⟨haddress, hsize, hpassword⟩
  · intro h
    refine ⟨⟨?_, h.email, h.address⟩, h.password⟩
    rintro rfl
    exact absurd h.address (by decide)

/-- Credentials on which the count of bytes and the count of characters decide differently. -/
inductive Misjudged (email password : String) : Prop
  /-- One or two characters are accepted as a password, since they have three bytes. -/
  | accepted (address : isEmail email) (size : email.utf8ByteSize ≤ 255)
    (short : password.length < 3) (bytes : 3 ≤ password.utf8ByteSize)
  /-- There are too many bytes, but not too many characters. -/
  | refused (within : Within String.length email password)
    (bytes : 255 < email.utf8ByteSize ∨ 72 < password.utf8ByteSize)

theorem within_iff_of_not_misjudged (h : ¬ Misjudged email password) :
    Within String.utf8ByteSize email password ↔ Within String.length email password := by
  have hemail := length_le_utf8ByteSize email
  have hpassword := length_le_utf8ByteSize password
  constructor
  · intro hbytes
    obtain ⟨haddress, hsize, hlong, hshort⟩ := hbytes
    have hcharacters : ¬ password.length < 3 := fun hfew =>
      h (.accepted haddress hsize hfew hlong)
    exact ⟨haddress, by omega, by omega, by omega⟩
  · intro hcharacters
    have hsizes : ¬ (255 < email.utf8ByteSize ∨ 72 < password.utf8ByteSize) := fun hmany =>
      h (.refused hcharacters hmany)
    obtain ⟨haddress, -, hlong, -⟩ := hcharacters
    exact ⟨haddress, by omega, by omega, by omega⟩

theorem not_within_iff_of_misjudged (h : Misjudged email password) :
    ¬ (Within String.utf8ByteSize email password ↔ Within String.length email password) := by
  intro hiff
  cases h with
  | accepted address size short bytes =>
    have hfour := utf8ByteSize_le password
    have hwithin := hiff.1 ⟨address, size, bytes, by omega⟩
    exact absurd hwithin.password.1 (by omega)
  | refused within bytes =>
    have hwithin := hiff.2 within
    have hsize := hwithin.email
    have hpassword := hwithin.password.2
    omega

theorem within_iff : (Within String.utf8ByteSize email password ↔
    Within String.length email password) ↔ ¬ Misjudged email password :=
  ⟨fun hiff h => not_within_iff_of_misjudged h hiff, within_iff_of_not_misjudged⟩

/-- **Bounds.** The checks count the characters of an address and a password exactly if these are
not misjudged, or, where there is a name, if the name is refused before. -/
theorem bounds_count_characters_iff (username email password : String) :
    ((Registration.check ⟨username, email, password⟩ = .ok () ↔
        Bounded 100 username ∧ Within String.length email password) ↔
      (Bounded 100 username → ¬ Misjudged email password)) ∧
    ((Login.check ⟨email, password⟩ = .ok () ↔ Within String.length email password) ↔
      ¬ Misjudged email password) := by
  constructor
  · rw [Registration.check_eq_ok_iff, checkCredentials_eq_ok_iff_within, and_congr_right_iff,
      within_iff]
  · rw [Login.check, checkCredentials_eq_ok_iff_within, within_iff]

/-- Two characters are a password if one of them takes two bytes, and 37 such characters are none. -/
theorem accented_passwords_are_misjudged :
    Registration.check ⟨"alice", "alice@example.com", "éa"⟩ = .ok () ∧
      ¬ Within String.length "alice@example.com" "éa" ∧
      Login.check ⟨"alice@example.com", "яяяяяяяяяяяяяяяяяяяяяяяяяяяяяяяяяяяяя"⟩ ≠ .ok () ∧
      Within String.length "alice@example.com" "яяяяяяяяяяяяяяяяяяяяяяяяяяяяяяяяяяяяя" := by
  refine ⟨by decide, fun h => absurd h.password (by decide), by decide, by decide, by decide,
    by decide⟩

end Account

end Microblog
