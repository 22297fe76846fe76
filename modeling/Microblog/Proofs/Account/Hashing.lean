import Microblog.Account.Password
import Microblog.Proofs.Chains
import Microblog.Proofs.Text.ReadBack

/-!
# Hashes that are read back

The text of a hash names the parameters, the salt and the digest that it was made
of, so the password that it was made from has the digest of the text
(`verify?_make`). The salt has 8 to 48 bytes, as the text of one must.
-/

namespace Microblog

open Text

/-! ## Lengths of digests -/

namespace Digest

theorem Blake2b.length_compress (h : List UInt64) (hh : h.length = 8) (block : List UInt8)
    (count : Nat) (last : Bool) : (compress h block count last).length = 8 := by
  have hrow : ∀ r : Row, r.toList.length = 16 := fun _ => rfl
  simp only [compress, List.length_zipWith, List.length_take, List.length_drop, hrow, hh]
  omega

theorem Blake2b.length_absorb (bs : List (List UInt8)) (h : List UInt64) (hh : h.length = 8)
    (count : Nat) : (absorb h count bs).length = 8 := by
  fun_induction absorb h count bs with
  | case1 => exact hh
  | case2 h count b => exact length_compress h hh b _ true
  | case3 h count b bs _ ih => exact ih (length_compress h hh b _ false)

theorem Blake2b.length_digest {size : Nat} (hsize : size ≤ 64) (message : List UInt8) :
    (digest size message).length = size := by
  have hbytes : ∀ ws : List UInt64,
      (ws.flatMap fun w => Bytes.littleEndian 8 w.toNat).length = 8 * ws.length := by
    intro ws
    induction ws with
    | nil => rfl
    | cons w ws ih =>
      rw [List.flatMap_cons, List.length_append, ih, Bytes.length_littleEndian, List.length_cons]
      omega
  rw [digest, List.length_take, hbytes, length_absorb _ _ rfl]
  omega

theorem Argon2.length_digest (variant : Variant) (version : Version) {cost : Cost}
    (hsize : cost.size ≤ 64) (password salt data : List UInt8) :
    (digest variant version cost password salt data).length = cost.size := by
  simp only [digest, longDigest, hsize, if_true]
  exact Blake2b.length_digest hsize _

end Digest

/-! ## Base64 in the text of a hash -/

namespace Account

open Bytes

theorem isValueChar_of_mem_encode {bs : List UInt8} {c : Char}
    (h : c ∈ Base64.encode .standard bs) :
    HashText.isValueChar c = true ∧ c.toNat < 0x80 ∧ c ≠ '$' := by
  obtain ⟨n, rfl⟩ := Base64.mem_encode h
  obtain ⟨m, hm, he⟩ := exists_symbol_lt .standard n
  rw [he]
  exact (by decide : ∀ m < 64, HashText.isValueChar (Alphabet.standard.symbol m) = true ∧
    (Alphabet.standard.symbol m).toNat < 0x80 ∧ Alphabet.standard.symbol m ≠ '$') m hm

namespace HashText

theorem byteLength_of_ascii {cs : List Char} (h : ∀ c ∈ cs, c.toNat < 0x80) :
    byteLength cs = cs.length := by
  rw [byteLength, ← String.size_toByteArray, String.toByteArray_ofList, List.utf8Encode,
    List.size_toByteArray]
  induction cs with
  | nil => rfl
  | cons c cs ih =>
    rw [List.flatMap_cons, List.length_append, ih fun d hd => h d (List.mem_cons_of_mem c hd),
      Utf8.utf8EncodeChar_of_lt (h c List.mem_cons_self), List.length_cons]
    simp only [List.length_cons, List.length_nil]
    omega

theorem saltText_encode {salt : List UInt8} (hlo : 8 ≤ salt.length) (hhi : salt.length ≤ 48) :
    saltText (Base64.encode .standard salt) =
      .ok (String.ofList (Base64.encode .standard salt)) := by
  have hlength := length_encode .standard salt
  have hbytes : byteLength (Base64.encode .standard salt) =
      (Base64.encode .standard salt).length :=
    byteLength_of_ascii fun c hc => (isValueChar_of_mem_encode hc).2.1
  have hfind : (Base64.encode .standard salt).find? (fun c => !isValueChar c) = none := by
    rw [List.find?_eq_none]
    intro c hc
    simp [(isValueChar_of_mem_encode hc).1]
  rw [saltText, hbytes, if_neg (by omega), if_neg (by omega), hfind]

theorem outputBytes_encode {output : List UInt8} (h : output.length = 32) :
    outputBytes (Base64.encode .standard output) = .ok output := by
  have hlength := length_encode .standard output
  have hbytes : byteLength (Base64.encode .standard output) =
      (Base64.encode .standard output).length :=
    byteLength_of_ascii fun c hc => (isValueChar_of_mem_encode hc).2.1
  rw [outputBytes, hbytes, if_neg (by omega), decode?_encode]
  simp [h]

end HashText

/-! ## Passwords -/

namespace Password

/-- The parameters of new hashes as they stand in the text. -/
def standardParams : List (String × String) := [("m", "19456"), ("t", "2"), ("p", "1")]

theorem parse_make {salt output : List UInt8} (hlo : 8 ≤ salt.length) (hhi : salt.length ≤ 48)
    (houtput : output.length = 32) :
    HashText.parse (front .standard ++ "$" ++ String.ofList (Base64.encode .standard salt) ++ "$" ++
        String.ofList (Base64.encode .standard output)) =
      .ok ⟨"argon2id", some 19, standardParams, some (String.ofList (Base64.encode .standard salt)),
        some output⟩ := by
  have hfront : (front .standard).toList =
      ['$'] ++ "argon2id".toList ++ ['$'] ++ "v=19".toList ++ ['$'] ++ "m=19456,t=2,p=1".toList := by
    decide
  have hnot : ∀ bs : List UInt8, '$' ∉ Base64.encode .standard bs := fun bs h =>
    (isValueChar_of_mem_encode h).2.2 rfl
  have hsplit : splitOn (· == '$') (front .standard ++ "$" ++
      String.ofList (Base64.encode .standard salt) ++ "$" ++
        String.ofList (Base64.encode .standard output)).toList =
      [[], "argon2id".toList, "v=19".toList, "m=19456,t=2,p=1".toList,
        Base64.encode .standard salt, Base64.encode .standard output] := by
    rw [splitOn_eq_iff]
    refine ⟨by simp, ?_, ?_⟩
    · intro w hw
      simp only [List.mem_cons, List.not_mem_nil, or_false] at hw
      rcases hw with rfl | rfl | rfl | rfl | rfl | rfl
      · decide
      · decide
      · decide
      · decide
      · exact hnot salt
      · exact hnot output
    · simp only [String.toList_append, hfront, String.toList_ofList]
      simp [List.intercalate]
  have hname : HashText.name "argon2id".toList = .ok "argon2id" := rfl
  have hversion : ∀ rest : List (List Char), HashText.takeVersion ("v=19".toList :: rest) =
      .ok (some 19, rest) := fun _ => rfl
  have hparams : ∀ rest : List (List Char),
      HashText.takeParams ("m=19456,t=2,p=1".toList :: rest) = .ok (standardParams, rest) :=
    fun _ => rfl
  rw [HashText.parse, hsplit]
  simp only [hname, hversion, hparams, HashText.saltText_encode hlo hhi,
    HashText.outputBytes_encode houtput, bind, Except.bind]
  rfl

/-- **Passwords.** A password has the digest of the hash that was made from it. -/
theorem verify?_make {salt : List UInt8} (hlo : 8 ≤ salt.length) (hhi : salt.length ≤ 48)
    (plain : String) : (make salt plain).verify? plain = some true := by
  have hlength : (Digest.Argon2.digest .id .v13 ⟨19456, 2, 1, 32⟩ (Utf8.encode plain) salt
      []).length = 32 := Digest.Argon2.length_digest .id .v13 (by decide) _ _ _
  have hrun : (⟨.id, .v13, ⟨19456, 2, 1, 32⟩, salt, []⟩ : Recipe).run plain =
      Digest.Argon2.digest .id .v13 ⟨19456, 2, 1, 32⟩ (Utf8.encode plain) salt [] := rfl
  have hmake : make salt plain = ⟨front .standard ++ "$" ++
      String.ofList (Base64.encode .standard salt) ++ "$" ++ String.ofList (Base64.encode .standard
        (Digest.Argon2.digest .id .v13 ⟨19456, 2, 1, 32⟩ (Utf8.encode plain) salt []))⟩ := rfl
  -- from here on the digest is a list of 32 bytes, and no step may compute it
  generalize Digest.Argon2.digest .id .v13 ⟨19456, 2, 1, 32⟩ (Utf8.encode plain) salt [] = output
    at hlength hrun hmake
  have hread : Recipe.of? ⟨"argon2id", some 19, standardParams,
      some (String.ofList (Base64.encode .standard salt)), some output⟩ =
        some (⟨.id, .v13, ⟨19456, 2, 1, 32⟩, salt, []⟩, output) := by
    have hparams : Params.ofList? standardParams = some .standard := rfl
    have hadmissible : Params.standard.Admissible := by decide
    simp only [Recipe.of?, hparams, String.toList_ofList, decode?_encode, bind, Option.bind_some,
      Recipe.variant?, Option.getD_some, Recipe.version?, hadmissible, hlo, and_self, if_true,
      hlength]
    rfl
  have hoverflows : HashText.overflows ⟨"argon2id", some 19, standardParams,
      some (String.ofList (Base64.encode .standard salt)), some output⟩ = false := rfl
  rw [verify?, hmake, parse_make hlo hhi hlength]
  simp only [HashText.verify?, hoverflows, hread, hrun, Bool.false_eq_true, if_false, beq_self_eq_true]

end Password

end Account

end Microblog
