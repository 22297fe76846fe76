import Microblog.Account.Token
import Microblog.Proofs.Chains

/-!
# Which tokens are accepted

`verify` accepts a token exactly if it has three parts, the last of them is the
signature of the first two, the header names HS256, and the claims name the
issuer and the audience and hold at the time. A secret is not asked for: an
authority without one, which does not sign, accepts whatever is signed with no
key.
-/

namespace Microblog.Account

open Bytes Text

/-! ## A point stands in no part of a token -/

theorem symbol_ne_point (a : Alphabet) (n : Nat) : a.symbol n ≠ '.' := by
  unfold Alphabet.symbol
  split
  · rename_i h
    exact (by decide : ∀ n < 26, Char.ofNat ('A'.toNat + n) ≠ '.') n h
  split
  · rename_i h
    exact (by decide : ∀ n < 26, Char.ofNat ('a'.toNat + n) ≠ '.') (n - 26) (by omega)
  split
  · rename_i h
    exact (by decide : ∀ n < 10, Char.ofNat ('0'.toNat + n) ≠ '.') (n - 52) (by omega)
  split <;> cases a <;> decide

theorem point_not_mem_armor (bs : List UInt8) : '.' ∉ armor bs := by
  intro h
  obtain ⟨n, hn⟩ := Base64.mem_encode h
  exact symbol_ne_point .urlSafe n hn.symm

theorem point_not_mem_of_unarmor {cs : List Char} {bs : List UInt8} (h : unarmor? cs = some bs) :
    '.' ∉ cs := by
  intro hpoint
  have hvalue := Base64.isSome_value?_of_mem h hpoint
  revert hvalue
  decide

theorem point_not_mem_of_algorithm {header : List Char} {alg : Algorithm}
    (h : TokenHeader.algorithm? header = some alg) : '.' ∉ header := by
  unfold TokenHeader.algorithm? at h
  split at h
  · cases h
  · rename_i bs hbs
    exact point_not_mem_of_unarmor hbs

namespace Authority

variable {a : Authority} {now : Int64} {c : Claims}

/-- The claims are those of the authority and hold at the time. -/
structure Holds (a : Authority) (now : Int64) (c : Claims) : Prop where
  issuer : c.iss = a.issuer
  audience : c.aud = a.audience
  nonneg : 0 ≤ c.nbf
  begun : c.nbf ≤ now
  lasts : now ≤ c.exp

theorem check_eq_ok_iff : a.check now c = .ok () ↔ a.Holds now c := by
  simp only [check, ite_error_eq_ok_iff, Int64.not_lt, Classical.not_not, and_true]
  constructor
  · rintro ⟨-, hnbf0, hexp, hnbf, hiss, haud⟩
    exact ⟨hiss, haud, hnbf0, hnbf, hexp⟩
  · rintro ⟨hiss, haud, hnbf0, hnbf, hexp⟩
    exact ⟨Int64.le_trans hnbf0 (Int64.le_trans hnbf hexp), hnbf0, hexp, hnbf, hiss, haud⟩

/-- The parts of a token that is accepted. -/
structure Accepts (a : Authority) (now : Int64) (token : String) (header payload : List Char)
    (c : Claims) : Prop where
  /-- The third part signs the first two with the point between them. -/
  parts : splitOn (· == '.') token.toList = [header, payload,
    armor (Digest.Hmac.sign (Utf8.encode a.secret)
      (Utf8.encode (String.ofList (header ++ '.' :: payload))))]
  algorithm : TokenHeader.algorithm? header = some .hs256
  claims : payload? payload = some c
  holds : a.Holds now c

theorem message_of_cut {message header payload : List Char}
    (h : cutAtLast (· == '.') message = some (header, payload)) :
    message = header ++ '.' :: payload ∧ '.' ∉ payload := by
  obtain ⟨p, hp, hmessage, hpayload⟩ := eq_of_cutAtLast h
  have hp : p = '.' := by simpa using hp
  refine ⟨by rw [hmessage, hp], fun hmem => ?_⟩
  exact absurd (hpayload '.' hmem) (by decide)

theorem cut_of_not_mem {message header payload : List Char} (h : '.' ∉ payload)
    (hmessage : header ++ '.' :: payload = message) :
    cutAtLast (· == '.') message = some (header, payload) := by
  rw [← hmessage]
  refine cutAtLast_append (by rfl) fun b hb => beq_false_of_ne ?_
  rintro rfl
  exact h hb

/-- Cut twice from its end, a token has three parts, if there is no point in the first. -/
theorem splitOn_of_cuts {token message header payload signature : List Char}
    (h : cutAtLast (· == '.') token = some (message, signature))
    (h' : cutAtLast (· == '.') message = some (header, payload)) (hheader : '.' ∉ header) :
    splitOn (· == '.') token = [header, payload, signature] := by
  obtain ⟨htoken, hsignature⟩ := message_of_cut h
  obtain ⟨hmessage, hpayload⟩ := message_of_cut h'
  rw [splitOn_eq_iff]
  refine ⟨by simp, by simp [hheader, hpayload, hsignature], ?_⟩
  rw [htoken, hmessage]
  simp [List.intercalate]

theorem verify_of_accepts {token : String} {header payload : List Char}
    (h : a.Accepts now token header payload c) : a.verify now token = .ok c := by
  obtain ⟨-, hnot, htoken⟩ := splitOn_eq_iff.1 h.parts
  have hcut : cutAtLast (· == '.') token.toList =
      some (header ++ '.' :: payload, a.signature (header ++ '.' :: payload)) :=
    cut_of_not_mem (point_not_mem_armor _) (by rw [← htoken, signature]; simp [List.intercalate])
  have hcut' : cutAtLast (· == '.') (header ++ '.' :: payload) = some (header, payload) :=
    cut_of_not_mem (hnot payload (by simp)) rfl
  simp only [verify, hcut, hcut', h.algorithm, h.claims, check_eq_ok_iff.2 h.holds, ne_eq,
    not_true_eq_false, if_false, Except.map]

theorem accepts_of_verify {token : String} (h : a.verify now token = .ok c) :
    ∃ header payload, a.Accepts now token header payload c := by
  unfold verify at h
  split at h
  · cases h
  · rename_i message signature hcut
    split at h
    · cases h
    · rename_i header payload hcut'
      split at h
      · cases h
      · cases h
      · rename_i halg
        rw [ite_error_eq_ok_iff] at h
        obtain ⟨hsig, h⟩ := h
        split at h
        · cases h
        · rename_i d hd
          obtain ⟨⟨⟩, hcheck, rfl⟩ := map_eq_ok_iff.1 h
          have hsplit := splitOn_of_cuts hcut hcut' (point_not_mem_of_algorithm halg)
          rw [Classical.not_not.1 hsig, (message_of_cut hcut').1] at hsplit
          exact ⟨header, payload, hsplit, halg, hd, check_eq_ok_iff.1 hcheck⟩

/-- **Acceptance.** For every authority, with or without a secret, a token is accepted at a time
exactly if it has three parts, the third one being the HMAC-SHA256 of the first two under the
secret in base64, and its header names HS256 and its claims are those of the authority and hold. -/
theorem verify_eq_ok_iff (a : Authority) (now : Int64) (token : String) (c : Claims) :
    a.verify now token = .ok c ↔ ∃ header payload, a.Accepts now token header payload c :=
  ⟨accepts_of_verify, fun ⟨_, _, h⟩ => verify_of_accepts h⟩

/-- An authority whose secret is empty, as it is where none is configured. -/
def unsecured : Authority := ⟨"", "iss", "aud", 0⟩

/-- A token that is signed with the empty key. -/
def forged : String :=
  "eyJ0eXAiOiJKV1QiLCJhbGciOiJIUzI1NiJ9" ++
  ".eyJzdWIiOiI0MiIsImlzcyI6ImlzcyIsImF1ZCI6ImF1ZCIsImlhdCI6MTAwMDAwMDAwMCwi" ++
  "bmJmIjoxMDAwMDAwMDAwLCJleHAiOjMyNTAzNjgwMDAwfQ" ++
  ".sRHi0GPDNPIr-ApVdby_yfdscTsqCzB327G0-lGrIP8"

/-- An authority without a secret signs nothing, but accepts a token. -/
theorem unsecured_accepts_forged :
    (∀ c, unsecured.sign c = .error .signing) ∧
      ∃ now c, unsecured.secret = "" ∧ unsecured.verify now forged = .ok c ∧ c.userId = .ok 42 := by
  refine ⟨fun c => rfl, 2000000000,
    ⟨"42", "iss", "aud", 1000000000, 1000000000, 32503680000⟩, rfl, ?_, ?_⟩
  · rw [← toOption_eq_some_iff]
    decide +kernel
  · rfl

end Authority

end Microblog.Account
