import Microblog.Http.Headers
import Microblog.Proofs.Account.Verification
import Microblog.Proofs.Json.Shapes

/-!
# Tokens that are issued

What an authority with a secret has signed it accepts as long as the claims hold
(`verify_sign_eq_ok_iff`), whatever the texts in the claims are. The token of a
user holds from the time of its issue to its end (`issues_of_secret`), and it
comes through a header unchanged (`authorization_of_visible`).
-/

namespace Microblog.Account

open Bytes Text Http

/-! ## Claims are read back -/

theorem unarmor?_armor (bs : List UInt8) : unarmor? (armor bs) = some bs := decode?_encode .urlSafe bs

theorem readsBack_claims (c : Claims) :
    Json.ReadsBack (Json.Shaped.shape Claims) (Json.Shaped.toVal c) :=
  Json.readsBack_record "Claims" (by decide)
    ⟨Json.readsBack_string _, Json.readsBack_string _, Json.readsBack_string _,
      Json.readsBack_int64 _, Json.readsBack_int64 _, Json.readsBack_int64 _, trivial⟩

theorem encode_claims_eq_cons (c : Claims) :
    ∃ bs, Utf8.encode (Json.encode c).render = 0x7b :: bs := by
  rw [Json.Value.render, Utf8.encode_ofList]
  exact ⟨_, Json.utf8_cons_of_lt (by decide) _⟩

/-- **Claims.** Whatever they say, they are found in the payload that is written for them. -/
theorem payload?_armor (c : Claims) :
    payload? (armor (Utf8.encode (Json.encode c).render)) = some c := by
  obtain ⟨bs, hbs⟩ := encode_claims_eq_cons c
  have hread := Json.read_encode (readsBack_claims c)
  rw [payload?, unarmor?_armor]
  dsimp only
  rw [hread, hbs, Json.skipSpace_cons (by decide)]
  rfl

/-! ## The characters of a token -/

/-- A character of ASCII that is seen. -/
def IsVisible (c : Char) : Prop := 0x20 < c.toNat ∧ c.toNat < 0x7f

instance (c : Char) : Decidable (IsVisible c) := inferInstanceAs (Decidable (_ ∧ _))

theorem isVisible_of_mem_armor {bs : List UInt8} {c : Char} (h : c ∈ armor bs) : IsVisible c := by
  obtain ⟨n, rfl⟩ := Base64.mem_encode h
  obtain ⟨m, hm, he⟩ := exists_symbol_lt .urlSafe n
  rw [he]
  exact (by decide : ∀ m < 64, IsVisible (Alphabet.urlSafe.symbol m)) m hm

/-! ## The header with a token -/

theorem splitOn_space_eq_iff {s : String} {name value : List Char} :
    splitOn (· == ' ') s.toList = [name, value] ↔
      ' ' ∉ name ∧ ' ' ∉ value ∧ s = String.ofList name ++ " " ++ String.ofList value := by
  rw [splitOn_eq_iff, ← String.toList_inj, eq_comm (a := s.toList)]
  simp [List.intercalate, and_assoc]

/-- Credentials are found exactly if the header is the scheme, a space and the credentials. -/
theorem authorization_eq_ok_iff {headers : Headers} {scheme token : String} :
    authorization headers scheme = .ok token ↔
      Headers.text? headers "authorization" = some (scheme ++ " " ++ token) ∧
        ' ' ∉ scheme.toList ∧ ' ' ∉ token.toList := by
  unfold authorization
  constructor
  · intro h
    split at h
    · cases h
    rename_i s hs
    split at h
    · rename_i name value hsplit
      obtain ⟨hname, hvalue, rfl⟩ := splitOn_space_eq_iff.1 hsplit
      split at h
      · rename_i hscheme
        cases h
        subst hscheme
        exact ⟨(Option.filter_eq_some_iff.1 hs).1, by simpa using hname, by simpa using hvalue⟩
      · cases h
    · cases h
  · rintro ⟨htext, hscheme, htoken⟩
    have hne : scheme ++ " " ++ token ≠ "" := by
      rw [ne_eq, ← String.toList_inj]
      simp
    have hsplit : splitOn (· == ' ') (scheme ++ " " ++ token).toList =
        [scheme.toList, token.toList] := by
      rw [splitOn_space_eq_iff]
      exact ⟨hscheme, htoken, by simp⟩
    simp only [htext, Option.filter, bne_iff_ne.2 hne, if_true, hsplit, String.ofList_toList]

/-- What follows the scheme of a header, if it can be seen. -/
theorem authorization_of_visible {headers : Headers} {token : String}
    (h : headers.lookup "authorization" = some ("Bearer " ++ token))
    (htoken : ∀ c ∈ token.toList, IsVisible c) : authorization headers "Bearer" = .ok token := by
  have htext : Headers.isText ("Bearer " ++ token) = true := by
    rw [Headers.isText, String.toList_append, List.all_append, Bool.and_eq_true]
    refine ⟨by decide, List.all_eq_true.2 fun c hc => ?_⟩
    obtain ⟨hlo, hhi⟩ := htoken c hc
    simp only [Bool.or_eq_true, Bool.and_eq_true, decide_eq_true_eq]
    exact .inr ⟨by omega, hhi⟩
  have hspace : ' ' ∉ token.toList := fun hc => absurd (htoken _ hc) (by decide)
  refine authorization_eq_ok_iff.2 ⟨?_, by decide, hspace⟩
  rw [Headers.text?, h, Option.filter, if_pos htext]
  rfl

namespace Authority

variable {a : Authority} {now issued : Int64} {c : Claims} {token : String}

/-! ## Signed tokens are accepted -/

theorem algorithm?_own : TokenHeader.algorithm? TokenHeader.own = some .hs256 := by decide +kernel

theorem sign_eq_ok_iff : a.sign c = .ok token ↔ a.secret ≠ "" ∧
    token = String.ofList (TokenHeader.own ++ '.' ::
      armor (Utf8.encode (Json.encode c).render) ++ '.' ::
        a.signature (TokenHeader.own ++ '.' :: armor (Utf8.encode (Json.encode c).render))) := by
  simp only [sign, ite_error_eq_ok_iff, Except.ok.injEq, eq_comm (a := token), ne_eq]

/-- A signed token is opened with the secret that it was signed with, whoever holds it, and its
claims are checked. -/
theorem verify_sign (hsign : a.sign c = .ok token) {b : Authority} (hsecret : b.secret = a.secret)
    (now : Int64) : b.verify now token = (b.check now c).map fun _ => c := by
  obtain ⟨-, rfl⟩ := sign_eq_ok_iff.1 hsign
  have hsame (message : List Char) : b.signature message = a.signature message := by
    rw [signature, signature, hsecret]
  have hcut (message : List Char) :
      cutAtLast (· == '.') (message ++ '.' :: a.signature message) =
        some (message, a.signature message) :=
    cut_of_not_mem (point_not_mem_armor _) rfl
  have hcut' (bs : List UInt8) : cutAtLast (· == '.') (TokenHeader.own ++ '.' :: armor bs) =
      some (TokenHeader.own, armor bs) :=
    cut_of_not_mem (point_not_mem_armor _) rfl
  simp only [verify, String.toList_ofList, hcut, hcut', algorithm?_own, payload?_armor, hsame,
    ne_eq, not_true_eq_false, if_false]

/-- **Signing.** A signed token is accepted with its claims and no others, as long as they hold. -/
theorem verify_sign_eq_ok_iff (hsign : a.sign c = .ok token) {d : Claims} :
    a.verify now token = .ok d ↔ d = c ∧ a.Holds now c := by
  rw [verify_sign hsign rfl, map_eq_ok_iff]
  constructor
  · rintro ⟨⟨⟩, hcheck, rfl⟩
    exact ⟨rfl, check_eq_ok_iff.1 hcheck⟩
  · rintro ⟨rfl, hholds⟩
    exact ⟨(), check_eq_ok_iff.2 hholds, rfl⟩

/-- Claims that begin before the year 1970 are signed, but never accepted. -/
theorem verify_sign_ne_ok (hsign : a.sign c = .ok token) (hnbf : c.nbf < 0) (now : Int64)
    (d : Claims) : a.verify now token ≠ .ok d := fun h =>
  Int64.not_le.2 hnbf ((verify_sign_eq_ok_iff hsign).1 h).2.nonneg

theorem isVisible_of_sign (hsign : a.sign c = .ok token) : ∀ d ∈ token.toList, IsVisible d := by
  obtain ⟨-, rfl⟩ := sign_eq_ok_iff.1 hsign
  intro d hd
  rw [String.toList_ofList] at hd
  simp only [List.mem_append, List.mem_cons] at hd
  have hpoint : IsVisible '.' := by decide
  rcases hd with (hd | rfl | hd) | rfl | hd
  · exact isVisible_of_mem_armor hd
  · exact hpoint
  · exact isVisible_of_mem_armor hd
  · exact hpoint
  · exact isVisible_of_mem_armor hd

/-! ## Tokens for users -/

/-- A token is accepted for a user from the time of its issue to the end of its time, and comes
through a header. -/
structure Issues (a : Authority) (issued : Int64) (id : Int64) (token : String) : Prop where
  visible : ∀ d ∈ token.toList, IsVisible d
  accepted : ∀ now : Int64, issued ≤ now → now.toInt ≤ issued.toInt + a.ttl →
    ∃ c, a.verify now token = .ok c ∧ c.userId = .ok id

/-- **Issuing.** With a secret, and if the end of its time has a number, there is a token for
every user. It is of use if it is issued after the year 1970 has begun. -/
theorem issues_of_secret (hsecret : a.secret ≠ "") (httl : a.ttl < 0x8000000000000000)
    (hfits : issued.toInt + a.ttl < 0x8000000000000000) (id : Int64) :
    ∃ c token, a.claimsFor? issued id = some c ∧ c.nbf = issued ∧ a.sign c = .ok token ∧
      (0 ≤ issued → a.Issues issued id token) := by
  have hlo := issued.le_toInt
  have hend := Int64.toInt_ofNat_of_lt httl
  have hexp : (Int64.ofInt (issued.toInt + a.ttl)).toInt = issued.toInt + a.ttl :=
    Int64.toInt_ofInt_of_le (by omega) hfits
  refine ⟨⟨String.ofList (Json.writeInt id.toInt), a.issuer, a.audience, issued, issued,
    Int64.ofInt (issued.toInt + a.ttl)⟩, _, ?_, rfl, sign_eq_ok_iff.2 ⟨hsecret, rfl⟩,
    fun hissued => ⟨?_, fun now hnow hle => ?_⟩⟩
  · rw [claimsFor?, hend]
    exact if_pos ⟨by omega, hfits⟩
  · exact isVisible_of_sign (sign_eq_ok_iff.2 ⟨hsecret, rfl⟩)
  · rw [← hexp] at hle
    refine ⟨_, (verify_sign_eq_ok_iff (sign_eq_ok_iff.2 ⟨hsecret, rfl⟩)).2
      ⟨rfl, rfl, rfl, hissued, hnow, Int64.le_iff_toInt_le.2 hle⟩, ?_⟩
    rw [Claims.userId, int64?_writeInt]

end Authority

end Microblog.Account
