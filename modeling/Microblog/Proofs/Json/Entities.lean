import Microblog.Account.User
import Microblog.Content.Comment
import Microblog.Content.Post
import Microblog.Proofs.Account.Issuing
import Microblog.Proofs.Json.Arrays
import Microblog.Proofs.Time.ReadBack

/-!
# Entities that are read back

Every role, user, post, comment and set of claims is found in the text that is
written for it (`entities_reread`), if its times have a text at all. The
password of a user is not written, so it is unknown to the reader.
-/

namespace Microblog.Json

open Text Account Content Time

theorem readsBack_time {t : Timestamp} (h : Representable t) : ReadsBack .time t := fun rest _ => by
  rw [Shape.encode, Value.write, Shape.reader]
  refine (readString_writeString _ (Rfc3339.write t) rest).bind fun hlt => ⟨hlt, ?_⟩
  simp only [Rfc3339.parse_write h]
  rfl

theorem readsBack_strings (ss : List String) : ReadsBack (.list .string) ss :=
  readsBack_list fun s _ => ⟨readsBack_string s, begins_writeString s⟩

/-! ## Records -/

theorem readsBack_role (r : Role) : ReadsBack (Shaped.shape Role) (Shaped.toVal r) :=
  readsBack_record "Role" (by decide)
    ⟨readsBack_int64 _, readsBack_string _, readsBack_int32 _, readsBack_string _, trivial⟩

theorem readsBack_user {u : User} (h : Representable u.createdAt) :
    ReadsBack (Shaped.shape User) (Shaped.toVal u) :=
  readsBack_record "User" (by decide)
    ⟨readsBack_int64 _, readsBack_string _, readsBack_string _, readsBack_time h,
      readsBack_bool _, readsBack_int64 _, readsBack_role u.role, trivial⟩

theorem readsBack_post {p : Post} (hcreated : Representable p.createdAt)
    (hupdated : Representable p.updatedAt) : ReadsBack (Shaped.shape Post) (Shaped.toVal p) :=
  readsBack_record "Post" (by decide)
    ⟨readsBack_int64 _, readsBack_int64 _, readsBack_string _, readsBack_string _,
      readsBack_strings _, readsBack_time hcreated, readsBack_time hupdated, readsBack_int32 _,
      trivial⟩

theorem readsBack_comment {c : Comment} (h : Representable c.createdAt) :
    ReadsBack (Shaped.shape Comment) (Shaped.toVal c) :=
  readsBack_record "Comment" (by decide)
    ⟨readsBack_int64 _, readsBack_int64 _, readsBack_int64 _, readsBack_string _,
      readsBack_time h, readsBack_string _, trivial⟩

/-! ## Whole texts -/

/-- What is read from the text that is written for `a`. -/
def reread {α : Type} [Shaped α] (a : α) : Except Fault α :=
  read (Utf8.encode (encode a).render)

/-- **Round trip.** Every entity is read from its own text, whatever its strings and numbers are.
Users who differ in nothing but their passwords have the same text. -/
theorem entities_reread :
    (∀ r : Role, reread r = .ok r) ∧
    (∀ c : Claims, reread c = .ok c) ∧
    (∀ u : User, Representable u.createdAt → reread u = .ok { u with password := .unknown }) ∧
    (∀ (u : User) (p : Password),
      (encode { u with password := p }).render = (encode u).render) ∧
    (∀ p : Post, Representable p.createdAt → Representable p.updatedAt → reread p = .ok p) ∧
    (∀ c : Comment, Representable c.createdAt → reread c = .ok c) :=
  ⟨fun r => read_encode (readsBack_role r), fun c => read_encode (readsBack_claims c),
    fun _ h => read_encode (readsBack_user h), fun _ _ => rfl,
    fun _ hcreated hupdated => read_encode (readsBack_post hcreated hupdated),
    fun _ h => read_encode (readsBack_comment h)⟩

/-- The first moment of the year 0, ten nanoseconds on, half a day behind UTC. -/
def firstMoment : Timestamp := ⟨-62167175999999999990, -43200⟩

/-- The last nanosecond of the year 9999, a minute less than a day ahead of UTC. -/
def lastMoment : Timestamp := ⟨253402214459999999999, 86340⟩

def quotingUser : User where
  id := -0x8000000000000000
  username := "\"quoted\" and \\"
  email := "a\x00\x1f\n\t\x7f\x08@λ😀"
  password := ⟨"$argon2id$"⟩
  createdAt := lastMoment
  isActive := true
  roleId := 0x7fffffffffffffff
  role := ⟨-1, "", -0x80000000, "\x7d"⟩

def quotingPost : Post where
  id := 7
  userId := quotingUser.id
  title := "\\u0041"
  content := "\x0c\r"
  tags := ["", "\"", ",]"]
  createdAt := firstMoment
  updatedAt := lastMoment
  version := 0x7fffffff

def quotingComment : Comment :=
  ⟨0, quotingPost.id, quotingUser.id, "\\", firstMoment, quotingUser.username⟩

theorem entities_reread_quoting :
    (Representable firstMoment ∧ Representable lastMoment) ∧
      reread quotingUser = .ok { quotingUser with password := .unknown } ∧
      reread quotingPost = .ok quotingPost ∧ reread quotingComment = .ok quotingComment :=
  have hfirst : Representable firstMoment := by decide
  have hlast : Representable lastMoment := by decide
  ⟨⟨hfirst, hlast⟩, entities_reread.2.2.1 quotingUser hlast,
    entities_reread.2.2.2.2.1 quotingPost hfirst hlast,
    entities_reread.2.2.2.2.2 quotingComment hfirst⟩

end Microblog.Json
