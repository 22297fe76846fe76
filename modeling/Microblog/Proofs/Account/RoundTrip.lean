import Microblog.Proofs.Account.Issuing

/-!
# What becomes of claims in a token

Signed by an authority that can sign, claims come through a header and are read
back as they were, between their times (`Carries`); to another issuer or audience
with the same secret they are of no use. The one thing that can fail is the making
of claims for a user: the end of their time is added up in 64 bits, and whether it
has a number is all that it takes (`carries_and_names_user`).
-/

namespace Microblog.Account.Authority

open Http

variable {a b : Authority} {secret issuer audience : String} {hours now id : Int64} {c : Claims}
  {token : String}

/-! ## Refusals of claims -/

theorem check_eq_expired (hnbf : 0 ≤ c.nbf) (hexp : 0 ≤ c.exp) (hnow : c.exp < now) :
    a.check now c = .error .expired := by
  rw [check, if_neg (Int64.not_lt.2 hexp), if_neg (Int64.not_lt.2 hnbf), if_pos hnow]

/-- Of claims that hold at the time, the names are looked at: first the issuer, then the
audience. -/
theorem check_eq_of_lasts (hnbf : 0 ≤ c.nbf) (hbegun : c.nbf ≤ now) (hlasts : now ≤ c.exp) :
    a.check now c =
      if c.iss ≠ a.issuer then .error (.rejected .invalidIssuer)
      else if c.aud ≠ a.audience then .error (.rejected .invalidAudience)
      else .ok () := by
  have hexp : 0 ≤ c.exp := Int64.le_trans hnbf (Int64.le_trans hbegun hlasts)
  rw [check, if_neg (Int64.not_lt.2 hexp), if_neg (Int64.not_lt.2 hnbf),
    if_neg (Int64.not_lt.2 hlasts), if_neg (Int64.not_lt.2 hbegun)]

/-! ## Claims in a token -/

/-- A token carries the claims of an authority to whoever presents it in time. -/
structure Carries (a : Authority) (c : Claims) (token : String) : Prop where
  spaceless : ' ' ∉ token.toList
  extracted : ∀ headers : Headers,
    headers.lookup "authorization" = some ("Bearer " ++ token) →
      authorization headers "Bearer" = .ok token
  /-- The last second counts. -/
  accepted : ∀ now, c.nbf ≤ now → now ≤ c.exp → a.verify now token = .ok c
  expired : ∀ now, c.exp < now → a.verify now token = .error .expired
  /-- Others with the same secret turn the token away for the name that is not theirs. -/
  foreign : ∀ (b : Authority) (now : Int64), b.secret = a.secret →
    b.issuer ≠ a.issuer ∨ b.audience ≠ a.audience → c.nbf ≤ now → now ≤ c.exp →
      b.verify now token = .error (.rejected
        (if b.issuer ≠ a.issuer then .invalidIssuer else .invalidAudience))

theorem verify_foreign (hsign : a.sign c = .ok token) (hiss : c.iss = a.issuer)
    (haud : c.aud = a.audience) (hnbf : 0 ≤ c.nbf) (hsecret : b.secret = a.secret)
    (hother : b.issuer ≠ a.issuer ∨ b.audience ≠ a.audience) (hbegun : c.nbf ≤ now)
    (hlasts : now ≤ c.exp) :
    b.verify now token = .error (.rejected
      (if b.issuer ≠ a.issuer then .invalidIssuer else .invalidAudience)) := by
  rw [verify_sign hsign hsecret, check_eq_of_lasts hnbf hbegun hlasts, hiss, haud]
  by_cases hissuer : b.issuer = a.issuer
  · have haudience : a.audience ≠ b.audience :=
      (hother.resolve_left (not_not_intro hissuer)).symm
    rw [if_neg (not_not_intro hissuer.symm), if_pos haudience, if_neg (not_not_intro hissuer)]
    rfl
  · rw [if_pos (Ne.symm hissuer), if_pos hissuer]
    rfl

theorem carries_of_sign (hsign : a.sign c = .ok token) (hiss : c.iss = a.issuer)
    (haud : c.aud = a.audience) (hnbf : 0 ≤ c.nbf) (hexp : c.nbf ≤ c.exp) :
    a.Carries c token where
  spaceless := by
    intro hspace
    exact absurd (isVisible_of_sign hsign _ hspace) (by decide)
  extracted := fun _ h => authorization_of_visible h (isVisible_of_sign hsign)
  accepted := fun _ hbegun hlasts =>
    (verify_sign_eq_ok_iff hsign).2 ⟨rfl, hiss, haud, hnbf, hbegun, hlasts⟩
  expired := by
    intro now hnow
    rw [verify_sign hsign rfl, check_eq_expired hnbf (Int64.le_trans hnbf hexp) hnow]
    rfl
  foreign := fun _ _ hsecret hother => verify_foreign hsign hiss haud hnbf hsecret hother

/-! ## Claims for a user -/

theorem of?_eq_some (h : of? secret issuer audience hours = some a) :
    a.secret = secret ∧ a.issuer = issuer ∧ a.audience = audience ∧
      a.ttl < 0x10000000000000000 := by
  unfold of? at h
  dsimp only at h
  split at h
  · rename_i hfits
    cases h
    exact ⟨rfl, rfl, rfl, hfits⟩
  · cases h

/-- The time of a token as it is added: past 63 bits it counts as negative. -/
theorem toInt_ofNat_ttl {ttl : Nat} (h : ttl < 0x10000000000000000) :
    (Int64.ofNat ttl).toInt =
      if ttl < 0x8000000000000000 then (ttl : Int) else ttl - 0x10000000000000000 := by
  rw [Int64.toInt_ofNat', Int.bmod_def, show Int64.size = 0x10000000000000000 from rfl]
  split <;> omega

theorem userId_of_claimsFor? (h : a.claimsFor? now id = some c) : c.userId = .ok id := by
  unfold claimsFor? at h
  dsimp only at h
  split at h
  · cases h
    rw [Claims.userId, Text.int64?_writeInt]
  · cases h

/-- Claims for a user are made exactly if the clock does not carry the time that a token holds
over the bound of 63 bits, from below or from above. -/
theorem exists_claimsFor?_iff (h : a.ttl < 0x10000000000000000) :
    (∃ c, a.claimsFor? now id = some c) ↔
      (a.ttl < 0x8000000000000000 ↔ now.toInt + a.ttl < 0x8000000000000000) := by
  have hlo := now.le_toInt
  have hhi := now.toInt_lt
  have hsome : (∃ c, a.claimsFor? now id = some c) ↔
      -0x8000000000000000 ≤ now.toInt + (Int64.ofNat a.ttl).toInt ∧
        now.toInt + (Int64.ofNat a.ttl).toInt < 0x8000000000000000 := by
    unfold claimsFor?
    dsimp only
    split
    · rename_i hfits
      exact ⟨fun _ => hfits, fun _ => ⟨_, rfl⟩⟩
    · rename_i hfits
      refine ⟨?_, fun hc => absurd hc hfits⟩
      rintro ⟨c, hc⟩
      cases hc
  rw [hsome, toInt_ofNat_ttl h]
  split <;> omega

/-- **Round trip.** For every authority that has been given a secret, every claims of its issuer
and audience with times in order are carried by the token signed for them. Claims for a user
name that user, and they are made exactly if the clock does not carry the time that a token holds
over the bound of 63 bits. -/
theorem carries_and_names_user (hsecret : secret ≠ "")
    (ha : of? secret issuer audience hours = some a) :
    (∀ c : Claims, c.iss = issuer → c.aud = audience → 0 ≤ c.nbf → c.nbf ≤ c.exp →
      ∃ token, a.sign c = .ok token ∧ a.Carries c token) ∧
    ∀ now id : Int64,
      (∃ c, a.claimsFor? now id = some c ∧ c.userId = .ok id) ↔
        (a.ttl < 0x8000000000000000 ↔ now.toInt + a.ttl < 0x8000000000000000) := by
  obtain ⟨rfl, rfl, rfl, hfits⟩ := of?_eq_some ha
  refine ⟨fun c hiss haud hnbf hexp => ?_, fun now id => ?_⟩
  · have hsign : a.sign c = .ok _ := sign_eq_ok_iff.2 ⟨hsecret, rfl⟩
    exact ⟨_, hsign, carries_of_sign hsign hiss haud hnbf hexp⟩
  · rw [← exists_claimsFor?_iff hfits]
    exact ⟨fun ⟨c, hc, _⟩ => ⟨c, hc⟩, fun ⟨c, hc⟩ => ⟨c, hc, userId_of_claimsFor? hc⟩⟩

/-- An authority whose tokens hold for three days. -/
def threeDays : Authority := ⟨"s3cret", "iss", "aud", 259200⟩

/-- Claims with a subject that needs escapes, and the extremes of the times. -/
def farClaims : Claims :=
  ⟨"\"snow\"\n☃", "iss", "aud", -0x8000000000000000, 0, 0x7fffffffffffffff⟩

theorem carries_farClaims :
    (∃ token, threeDays.sign farClaims = .ok token ∧ threeDays.Carries farClaims token) ∧
      ∃ c, threeDays.claimsFor? 1700000000 (-7) = some c ∧ c.userId = .ok (-7) := by
  have hcarries := carries_and_names_user (show "s3cret" ≠ "" by decide)
    (show of? "s3cret" "iss" "aud" 72 = some threeDays by decide)
  exact ⟨hcarries.1 farClaims rfl rfl (by decide) (by decide),
    (hcarries.2 1700000000 (-7)).2 (by decide)⟩

/-- Tokens may be given so many hours that no claims are made for any user: the end of their time
has no number. -/
theorem no_claims_for_ages : ∃ a, of? "s3cret" "iss" "aud" 2562047788015215 = some a ∧
    a.secret ≠ "" ∧ ¬ ∃ c, a.claimsFor? 1700000000 7 = some c ∧ c.userId = .ok 7 := by
  refine ⟨⟨"s3cret", "iss", "aud", 9223372036854774000⟩, by decide, by decide, ?_⟩
  rintro ⟨c, hc, -⟩
  have hnone : (claimsFor? ⟨"s3cret", "iss", "aud", 9223372036854774000⟩ 1700000000 7) = none := by
    decide
  rw [hnone] at hc
  cases hc

end Microblog.Account.Authority
