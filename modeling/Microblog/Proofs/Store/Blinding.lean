import Microblog.Proofs.Store.Tables
import Microblog.Store.Feed
import Microblog.Store.Posts
import Microblog.Store.Users

/-!
# Stores without hashes

Two stores differ at most in the hashes of passwords if they are the same once
the hashes are left out (`Store.blind`). But for the search of a user by address,
no operation looks at a hash: on a store without hashes each gives the same
outcome, and leaves the same but for hashes (`Blindly`).
-/

namespace Microblog.Store.Table

variable {K V W : Type} {f : V → W} {t : Table K V} {k : K}

theorem nodup_map (f : V → W) (t : Table K V) :
    ((t.entries.map fun e => (e.1, f e.2)).map Prod.fst).Nodup := by
  rw [List.map_map]
  exact t.nodup

/-- Changes every value. -/
def map (f : V → W) (t : Table K V) : Table K W where
  entries := t.entries.map fun e => (e.1, f e.2)
  nodup := nodup_map f t

theorem values_map : (t.map f).values = t.values.map f := by
  simp [values, map]

theorem map_map {X : Type} {g : W → X} : (t.map f).map g = t.map (g ∘ f) := by
  apply ext_entries
  simp [map]

variable [DecidableEq K]

theorem get?_map (f : V → W) (t : Table K V) (k : K) : (t.map f).get? k = (t.get? k).map f := by
  obtain ⟨l, hl⟩ := t
  unfold get? map
  dsimp only
  clear hl
  induction l with
  | nil => rfl
  | cons e l ih =>
    obtain ⟨j, v⟩ := e
    by_cases h : k = j
    · simp [h]
    · simp [List.lookup_cons, beq_eq_false_iff_ne.2 h, ih]

theorem contains_map : (t.map f).contains k = t.contains k := by
  rw [contains, contains, get?_map, Option.isSome_map]

theorem map_modify {g : V → V} {g' : W → W} (h : ∀ v, f (g v) = g' (f v)) :
    (t.modify k g).map f = (t.map f).modify k g' := by
  apply ext_entries
  simp only [map, modify, List.map_map]
  refine List.map_congr_left fun e _ => ?_
  by_cases he : e.1 = k
  · simp [he, h]
  · simp [he]

theorem map_insert (f : V → W) (t : Table K V) (k : K) (v : V) :
    (t.insert k v).map f = (t.map f).insert k (f v) := by
  unfold insert
  by_cases h : t.contains k = true
  · rw [dif_pos h, dif_pos (contains_map.trans h)]
    exact map_modify fun _ => rfl
  · rw [dif_neg h, dif_neg (by rw [contains_map]; exact h)]
    rfl

omit [DecidableEq K] in
theorem map_filter {p : K → V → Bool} {p' : K → W → Bool} (h : ∀ k v, p' k (f v) = p k v) :
    (t.filter p).map f = (t.map f).filter p' := by
  apply ext_entries
  simp [map, filter, List.filter_map, Function.comp_def, h]

theorem map_erase (f : V → W) (t : Table K V) (k : K) :
    (t.erase k).map f = (t.map f).erase k := map_filter fun _ _ => rfl

end Microblog.Store.Table

namespace Microblog

open Account Content Store

/-- The user without the hash of the password. -/
def Account.User.blind (u : User) : User := { u with password := .unknown }

/-- The store without the hashes of its users. -/
def Store.blind (s : Store) : Store := { s with users := s.users.map User.blind }

end Microblog

namespace Microblog.Store

open Account Content

variable {α : Type} {s : Store}

theorem map_blind_blind (t : Table Int64 User) :
    (t.map User.blind).map User.blind = t.map User.blind := Table.map_map

@[simp] theorem blind_blind (s : Store) : s.blind.blind = s.blind :=
  congrArg (fun users => ({ s with users } : Store)) (map_blind_blind s.users)

theorem map_blind_insert (t : Table Int64 User) (id : Int64) (u : User) :
    ((t.map User.blind).insert id u).map User.blind = (t.insert id u).map User.blind := by
  rw [Table.map_insert, Table.map_insert, map_blind_blind]

/-! ## Reading -/

theorem getUser_blind (id : Int64) (s : Store) :
    s.blind.getUser id = ((s.getUser id).1.map User.blind, (s.getUser id).2.blind) := by
  unfold getUser blind
  dsimp only
  rw [Table.get?_map]
  cases s.users.get? id <;> rfl

theorem getUserByEmail_blind (email : String) (s : Store) :
    s.blind.getUserByEmail email = (s.getUserByEmail email).map User.blind := by
  have hfind : (fun u => u.email == email && u.isActive) ∘ User.blind =
      fun u => u.email == email && u.isActive := rfl
  unfold getUserByEmail blind
  dsimp only
  rw [Table.values_map, List.find?_map, hfind]
  cases s.users.values.find? fun u => u.email == email && u.isActive <;> rfl

theorem feed_blind (viewer : Int64) (q : Feed.Query) (s : Store) :
    s.blind.feed viewer q = s.feed viewer q := by
  have hitem : ∀ p, s.blind.feedItem p = s.feedItem p := fun p => by
    unfold feedItem blind
    dsimp only
    rw [Table.get?_map, Option.map_map]
    rfl
  exact List.map_congr_left fun p _ => hitem p

/-! ## Changes -/

/-- The operation does the same on a store without hashes, but for the hashes that it leaves. -/
def Blindly (op : Store → α × Store) : Prop :=
  ∀ s, (op s.blind).1 = (op s).1 ∧ (op s.blind).2.blind = (op s).2.blind

theorem tick_blind (s : Store) : s.blind.tick = s.tick.map fun r => (r.1, r.2.blind) := by
  unfold tick blind
  cases s.clock.add? Timestamp.second <;> rfl

theorem fresh_blind (s : Store) :
    s.blind.fresh = s.fresh.map fun r => (r.1, r.2.1, r.2.2.blind) := by
  unfold fresh
  by_cases hmax : s.lastId = Int64.maxValue
  · rw [if_pos hmax, if_pos (show s.blind.lastId = _ from hmax)]
    rfl
  · rw [if_neg hmax, if_neg (show ¬ s.blind.lastId = _ from hmax)]
    change (Store.tick (Store.blind { s with lastId := s.lastId + 1 })).map _ = _
    rw [tick_blind]
    dsimp only
    cases ({ s with lastId := s.lastId + 1 } : Store).tick <;> rfl

theorem any_blind {p : User → Bool} (hp : ∀ u, p u.blind = p u) (s : Store) :
    s.blind.users.values.any p = s.users.values.any p := by
  unfold blind
  rw [Table.values_map, List.any_map]
  exact congrArg (List.any _) (funext hp)

theorem blindly_createAndInvite (u : NewUser) (token : String) (ttl : Int) (now : Timestamp) :
    Blindly (createAndInvite u token ttl now) := fun s => by
  unfold createAndInvite
  rw [any_blind (fun _ => rfl), any_blind (fun _ => rfl), fresh_blind]
  split
  · exact ⟨rfl, blind_blind s⟩
  split
  · exact ⟨rfl, blind_blind s⟩
  rcases s.fresh with _ | ⟨id, createdAt, s'⟩
  · exact ⟨rfl, blind_blind s⟩
  dsimp only [Option.map_some]
  -- the new user is stored with a hash on both sides, so it has to be left out once more
  cases now.add? ttl with
  | none => exact ⟨rfl, by simp only [blind, map_blind_insert]; rfl⟩
  | some expiry => exact ⟨rfl, by simp only [blind, map_blind_insert]; rfl⟩

theorem blindly_activate (token : String) (now : Timestamp) : Blindly (activate token now) :=
  fun s => by
    unfold activate blind
    dsimp only
    cases s.invitations.get? (tokenKey token) with
    | none => exact ⟨rfl, blind_blind s⟩
    | some inv =>
      dsimp only
      have hmodify : ∀ t : Table Int64 User,
          (t.modify inv.userId fun u => { u with isActive := true }).map User.blind =
            (t.map User.blind).modify inv.userId fun u => { u with isActive := true } :=
        fun _ => Table.map_modify fun _ => rfl
      split
      · exact ⟨rfl, blind_blind s⟩
      · exact ⟨rfl, by simp only [hmodify, map_blind_blind]⟩

theorem blind_deleteUser (id : Int64) (s : Store) :
    (s.deleteUser id).blind = s.blind.deleteUser id := by
  unfold deleteUser blind
  simp only [Table.map_erase]

theorem blindly_createPost (d : NewPost) : Blindly (createPost d) := fun s => by
  unfold createPost
  rw [fresh_blind]
  rcases s.fresh with _ | ⟨id, now, s'⟩
  · exact ⟨rfl, blind_blind s⟩
  · exact ⟨rfl, by simp only [Option.map_some, blind, map_blind_blind]⟩

theorem blindly_updatePost (p : Post) : Blindly (updatePost p) := fun s => by
  unfold updatePost
  rw [tick_blind]
  rcases s.tick with _ | ⟨now, s'⟩
  · exact ⟨rfl, blind_blind s⟩
  dsimp only [Option.map_some, blind]
  cases (s'.posts.get? p.id).filter fun q => q.version == p.version with
  | none => exact ⟨rfl, blind_blind s'⟩
  | some q =>
    dsimp only
    split
    · exact ⟨rfl, blind_blind s'⟩
    · exact ⟨rfl, by simp only [map_blind_blind]⟩

theorem blindly_createComment (d : NewComment) : Blindly (createComment d) := fun s => by
  unfold createComment
  have hposts : s.blind.posts = s.posts := rfl
  rw [fresh_blind, hposts]
  split
  · rcases s.fresh with _ | ⟨id, now, s'⟩
    · exact ⟨rfl, blind_blind s⟩
    · simp only [Option.map_some, blind, Table.get?_map, Option.map_map, map_blind_blind]
      exact ⟨rfl, rfl⟩
  · exact ⟨rfl, blind_blind s⟩

theorem blindly_updateComment (c : Comment) : Blindly (updateComment c) := fun s => by
  unfold updateComment blind
  dsimp only
  cases s.comments.get? c.id with
  | none => exact ⟨rfl, blind_blind s⟩
  | some d => exact ⟨rfl, by simp only [map_blind_blind]⟩

theorem blindly_follow (a b : Int64) : Blindly (follow a b) := fun s => by
  unfold follow isFollowing blind
  dsimp only
  rw [Table.contains_map]
  split
  · exact ⟨rfl, blind_blind s⟩
  split
  · exact ⟨rfl, blind_blind s⟩
  · exact ⟨rfl, by simp only [map_blind_blind]⟩

end Microblog.Store
