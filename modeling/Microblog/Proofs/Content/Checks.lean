import Microblog.Account.Credentials
import Microblog.Content.Draft
import Microblog.Proofs.Chains

/-!
# What passes the checks

A title, a content, a draft or a registration passes its check exactly if its
texts keep their bounds. Lengths of titles, contents and names count characters;
those of addresses and passwords count bytes.
-/

namespace Microblog.Content

open Account

variable {title content email password : String}

/-- Not blank, and at most `n` characters long. -/
structure Bounded (n : Nat) (text : String) : Prop where
  notBlank : Text.allBlank text = false
  short : text.length ≤ n

instance (n : Nat) (text : String) : Decidable (Bounded n text) :=
  decidable_of_iff (Text.allBlank text = false ∧ text.length ≤ n)
    ⟨fun h => ⟨h.1, h.2⟩, fun h => ⟨h.notBlank, h.short⟩⟩

theorem bounded_iff {n : Nat} {text : String} :
    Bounded n text ↔ ¬ (Text.allBlank text = true ∨ n < text.length) := by
  rw [not_or, Bool.not_eq_true, Nat.not_lt]
  exact ⟨fun h => ⟨h.notBlank, h.short⟩, fun h => ⟨h.1, h.2⟩⟩

theorem checkTitle_eq_ok_iff : checkTitle title = .ok () ↔ Bounded 100 title := by
  rw [checkTitle, ite_error_eq_ok_iff, bounded_iff]
  simp

theorem checkContent_eq_ok_iff : checkContent content = .ok () ↔ Bounded 1000 content := by
  rw [checkContent, ite_error_eq_ok_iff, bounded_iff]
  simp

/-! ## Drafts -/

theorem PostDraft.check_eq_ok_iff {d : PostDraft} :
    d.check = .ok () ↔ Bounded 100 d.title ∧ Bounded 1000 d.content := by
  rw [PostDraft.check, check_bind_eq_ok_iff, checkTitle_eq_ok_iff, checkContent_eq_ok_iff]

theorem CommentDraft.check_eq_ok_iff {d : CommentDraft} :
    d.check = .ok () ↔ Bounded 1000 d.content := checkContent_eq_ok_iff

theorem forM_eq_ok_iff {α : Type} {check : α → Except Refusal Unit} {a : Option α} :
    a.forM check = .ok () ↔ ∀ x, a = some x → check x = .ok () := by
  cases a with
  | none => exact iff_of_true rfl nofun
  | some x => simp [Option.forM]

/-- Of a partial change the fields that are there are checked. -/
theorem PostPatch.check_eq_ok_iff {patch : PostPatch} :
    patch.check = .ok () ↔ (∀ title, patch.title = some title → Bounded 100 title) ∧
      ∀ content, patch.content = some content → Bounded 1000 content := by
  simp only [PostPatch.check, check_bind_eq_ok_iff, forM_eq_ok_iff, checkTitle_eq_ok_iff,
    checkContent_eq_ok_iff]

/-! ## Credentials -/

theorem checkCredentials_eq_ok_iff :
    checkCredentials email password = .ok () ↔
      (email ≠ "" ∧ email.utf8ByteSize ≤ 255 ∧ isEmail email) ∧
        3 ≤ password.utf8ByteSize ∧ password.utf8ByteSize ≤ 72 := by
  simp only [checkCredentials, ite_error_eq_ok_iff, not_or, Nat.not_lt, Classical.not_not, ne_eq,
    and_true]

theorem Registration.check_eq_ok_iff {r : Registration} :
    r.check = .ok () ↔ Bounded 100 r.username ∧ checkCredentials r.email r.password = .ok () := by
  rw [Registration.check, ite_error_eq_ok_iff, bounded_iff]

end Microblog.Content
