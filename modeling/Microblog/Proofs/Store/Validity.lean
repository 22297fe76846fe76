import Microblog.Proofs.Content.Checks
import Microblog.Proofs.Store.Calls
import Microblog.Proofs.Store.Tables

/-!
# Valid records

The store itself checks no text. But a call that is given texts within their
bounds leaves every post, comment and user within them (`Valid.call`): a post is
changed to the texts that it is given, and its version only grows.
-/

namespace Microblog.Store

open Account Content

variable {s : Store} {c : Call} {known : Int64 → Prop}

structure ValidPost (p : Post) : Prop where
  title : Bounded 100 p.title
  content : Bounded 1000 p.content
  version : 1 ≤ p.version

def ValidComment (c : Comment) : Prop := Bounded 1000 c.content

/-- What an account is registered with. The length of the address counts bytes. -/
structure ValidAccount (username email : String) (hash : Password) : Prop where
  named : Bounded 100 username
  address : isEmail email
  size : email.utf8ByteSize ≤ 255
  hashed : hash.text ≠ ""

def ValidUser (u : User) : Prop := ValidAccount u.username u.email u.password

/-- All posts and comments are valid, and all users but those that are known. -/
structure Valid (known : Int64 → Prop) (s : Store) : Prop where
  posts : s.posts.All ValidPost
  comments : s.comments.All ValidComment
  users : s.users.All fun u => known u.id ∨ ValidUser u

/-- The texts that the call is given are within their bounds, and no user is stored or named
without a check. -/
def Call.Proper : Call → Prop
  | createAndInvite u .. => ValidAccount u.username u.email u.password
  | createPost d => Bounded 100 d.title ∧ Bounded 1000 d.content
  | updatePost p => Bounded 100 p.title ∧ Bounded 1000 p.content
  | createComment d => Bounded 1000 d.content
  | updateComment d => Bounded 1000 d.content
  | insertUser .. | renameUser .. => False
  | _ => True

theorem one_le_add_one {v : Int32} (h : 1 ≤ v) (hmax : v ≠ Int32.maxValue) : 1 ≤ v + 1 := by
  rw [Int32.le_iff_toInt_le] at h ⊢
  rw [toInt_add_one_of_ne hmax]
  omega

theorem Valid.posts_call (h : Valid known s) (hc : c.Proper) : (c.run s).posts.All ValidPost := by
  rcases Store.posts_call c s with he | ⟨d, id, now, rfl, -, -, he⟩ |
    ⟨p, q, now, rfl, hq, -, hmax, he⟩ | ⟨id, -, he⟩ <;> rw [he]
  · exact h.posts
  · exact h.posts.insert ⟨hc.1, hc.2, Int32.le_refl 1⟩
  · exact h.posts.insert ⟨hc.1, hc.2, one_le_add_one (h.posts _ q hq).version hmax⟩
  · exact h.posts.filter _

theorem Valid.comments_call (h : Valid known s) (hc : c.Proper) :
    (c.run s).comments.All ValidComment := by
  rcases Store.comments_call c s with he | ⟨d, id, now, name, rfl, -, -, -, he⟩ |
    ⟨e, d, rfl, -, he⟩ | ⟨id, -, he⟩ | ⟨id, -, he⟩ <;> rw [he]
  · exact h.comments
  · exact h.comments.insert hc
  · exact h.comments.insert hc
  · exact h.comments.filter _
  · exact h.comments.filter _

theorem Valid.users_call (h : Valid known s) (hc : c.Proper) :
    (c.run s).users.All fun u => known u.id ∨ ValidUser u := by
  cases c with
  | insertUser u roleName active => exact hc.elim
  | renameUser id username => exact hc.elim
  | createAndInvite u token ttl now =>
    simp only [Call.run]
    rcases createAndInvite_cases u token ttl now s with
      ⟨e, he⟩ | ⟨id, at', -, -, ⟨-, he⟩ | ⟨expiry, -, he⟩⟩ <;> rw [he]
    · exact h.users
    · exact h.users.insert (.inr hc)
    · exact h.users.insert (.inr hc)
  | activate token now =>
    simp only [Call.run]
    rcases activate_cases token now s with he | ⟨inv, -, -, he⟩ <;> rw [he]
    · exact h.users
    · exact h.users.modify fun u hu => hu
  | deleteUser id => exact h.users.filter _
  | _ => simpa [Call.run, getUser, deletePost, deleteComment, unfollow] using h.users

/-- **Validity.** A call that is given texts within their bounds leaves all records within them. -/
theorem Valid.call (h : Valid known s) (hc : c.Proper) : Valid known (c.run s) :=
  ⟨h.posts_call hc, h.comments_call hc, h.users_call hc⟩

end Microblog.Store
