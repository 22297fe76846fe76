import Microblog.Store.Comments
import Microblog.Store.Follows
import Microblog.Store.Posts
import Microblog.Store.Users

/-!
# The number of reads

The store counts how often a user is read by id, but no operation looks at the
number: each gives the same outcome whatever it is, and leaves it as it was.
-/

namespace Microblog.Store

open Account Content

/-- The operation does not look at the number of reads, and leaves it. -/
def Oblivious {α : Type} (op : Store → α × Store) : Prop :=
  ∀ s n, op { s with reads := n } = ((op s).1, { (op s).2 with reads := n })

variable {s : Store} {n : Nat}

theorem tick_reads : ({ s with reads := n } : Store).tick =
    s.tick.map fun r => (r.1, { r.2 with reads := n }) := by
  unfold tick
  cases s.clock.add? Timestamp.second <;> rfl

theorem fresh_reads : ({ s with reads := n } : Store).fresh =
    s.fresh.map fun r => (r.1, r.2.1, { r.2.2 with reads := n }) := by
  unfold fresh
  by_cases hmax : s.lastId = Int64.maxValue
  · simp only [hmax, if_true]
    rfl
  · simp only [hmax, if_false]
    have htick := @tick_reads { s with lastId := s.lastId + 1 } n
    dsimp only at htick
    rw [htick]
    cases ({ s with lastId := s.lastId + 1 } : Store).tick <;> rfl

theorem oblivious_createAndInvite (u : NewUser) (token : String) (ttl : Int) (now : Timestamp) :
    Oblivious (createAndInvite u token ttl now) := fun s n => by
  unfold createAndInvite
  rw [fresh_reads]
  split
  · rfl
  split
  · rfl
  cases s.fresh with
  | none => rfl
  | some r => cases now.add? ttl <;> rfl

theorem oblivious_activate (token : String) (now : Timestamp) : Oblivious (activate token now) :=
  fun s n => by
    unfold activate
    cases s.invitations.get? (tokenKey token) with
    | none => rfl
    | some inv =>
      dsimp only
      split <;> rfl

theorem oblivious_createPost (d : NewPost) : Oblivious (createPost d) := fun s n => by
  unfold createPost
  rw [fresh_reads]
  cases s.fresh <;> rfl

theorem oblivious_updatePost (p : Post) : Oblivious (updatePost p) := fun s n => by
  unfold updatePost
  rw [tick_reads]
  cases s.tick with
  | none => rfl
  | some r =>
    dsimp only [Option.map_some]
    cases (r.2.posts.get? p.id).filter fun q => q.version == p.version with
    | none => rfl
    | some q =>
      dsimp only
      split <;> rfl

theorem oblivious_createComment (d : NewComment) : Oblivious (createComment d) := fun s n => by
  unfold createComment
  rw [fresh_reads]
  dsimp only
  split
  · cases s.fresh <;> rfl
  · rfl

theorem oblivious_updateComment (c : Comment) : Oblivious (updateComment c) := fun s n => by
  unfold updateComment
  cases s.comments.get? c.id <;> rfl

theorem oblivious_follow (a b : Int64) : Oblivious (follow a b) := fun s n => by
  unfold follow
  dsimp only
  split
  · rfl
  · unfold isFollowing
    dsimp only
    split <;> rfl

end Microblog.Store
