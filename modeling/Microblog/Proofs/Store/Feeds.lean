import Mathlib.Data.Int.Interval
import Mathlib.Data.List.Nodup
import Microblog.Proofs.Feed.Queries
import Microblog.Proofs.Store.Records
import Microblog.Proofs.Store.Tables
import Microblog.Store.Feed

/-!
# The sequence behind a feed

What a viewer selects makes one sequence of posts, oldest first, in which every
post that is meant stands once (`Chronicle`). Ids tell stored posts apart, so
the order of the tables has no part in it. A feed is a stretch of this sequence,
or of its reverse, and the feeds for one page after the other make up the whole
(`chronicle_of_reachable`).
-/

namespace Microblog

open Account Content Store

namespace Feed

/-! ## What is selected -/

/-- What a query selects posts by. -/
structure Selection where
  search : String
  tags : List String
  earliest : Option Timestamp
  latest : Option Timestamp
  deriving DecidableEq

/-- The query without its order and its stretch. -/
def Query.selection (q : Query) : Selection := ⟨q.search, q.tags, q.earliest, q.latest⟩

/-- The query for a stretch of what is selected, in some order. -/
def Selection.query (f : Selection) (sort : Direction) (limit offset : Nat) : Query :=
  ⟨.ofNat limit, .ofNat offset, sort, f.search, f.tags, f.earliest, f.latest⟩

/-- The search text stands in the title or in the content, letter case aside, the post has one of
the tags, if there are any, and was created within the bounds. -/
structure Selects (f : Selection) (p : Post) : Prop where
  search : Text.lower f.search.toList <:+: Text.lower p.title.toList ∨
    Text.lower f.search.toList <:+: Text.lower p.content.toList
  tags : f.tags = [] ∨ ∃ t ∈ p.tags, t ∈ f.tags
  earliest : ∀ t, f.earliest = some t → t.nanos ≤ p.createdAt.nanos
  latest : ∀ t, f.latest = some t → p.createdAt.nanos ≤ t.nanos

theorem occurs_iff {w cs : List Char} : occurs w cs = true ↔ w <:+: cs := by
  induction cs with
  | nil => rw [occurs, List.isEmpty_iff, List.infix_nil]
  | cons c cs ih => rw [occurs, Bool.or_eq_true, List.isPrefixOf_iff_prefix, ih, List.infix_cons_iff]

theorem admits_iff {q : Query} {p : Post} : q.admits p = true ↔ Selects q.selection p := by
  have htags : (q.tags.isEmpty || p.tags.any fun t => q.tags.contains t) = true ↔
      q.tags = [] ∨ ∃ t ∈ p.tags, t ∈ q.tags := by simp
  have hbound : ∀ {b : Option Timestamp} {f : Timestamp → Bool},
      b.all f = true ↔ ∀ t, b = some t → f t = true := by
    intro b f
    cases b <;> simp
  unfold Query.admits found
  rw [Bool.and_eq_true, Bool.and_eq_true, Bool.and_eq_true, Bool.or_eq_true, occurs_iff, occurs_iff,
    htags, hbound, hbound]
  constructor
  · rintro ⟨⟨⟨hsearch, htags⟩, hearliest⟩, hlatest⟩
    refine ⟨hsearch, htags, fun t ht => ?_, fun t ht => ?_⟩
    · exact of_decide_eq_true (hearliest t ht)
    · exact of_decide_eq_true (hlatest t ht)
  · intro h
    refine ⟨⟨⟨h.search, h.tags⟩, fun t ht => ?_⟩, fun t ht => ?_⟩
    · exact decide_eq_true (h.earliest t ht)
    · exact decide_eq_true (h.latest t ht)

/-! ## Order of creation -/

/-- Created earlier, or at the same time with a smaller id. -/
def Before (a b : Post) : Prop :=
  a.createdAt.nanos < b.createdAt.nanos ∨ (a.createdAt.nanos = b.createdAt.nanos ∧ a.id < b.id)

theorem inOrder_iff {a b : Post} : inOrder a b = true ↔ a.createdAt.nanos < b.createdAt.nanos ∨
    (a.createdAt.nanos = b.createdAt.nanos ∧ a.id.toInt ≤ b.id.toInt) := by
  simp [inOrder, Int64.le_iff_toInt_le]

theorem inOrder_trans (a b c : Post) (hab : inOrder a b = true) (hbc : inOrder b c = true) :
    inOrder a c = true := by
  rw [inOrder_iff] at *
  omega

theorem inOrder_total (a b : Post) : (inOrder a b || inOrder b a) = true := by
  rw [Bool.or_eq_true, inOrder_iff, inOrder_iff]
  omega

theorem before_of_inOrder {a b : Post} (h : inOrder a b = true) (hne : a.id ≠ b.id) : Before a b := by
  have hne : a.id.toInt ≠ b.id.toInt := mt Int64.toInt_inj.1 hne
  rw [inOrder_iff] at h
  unfold Before
  rw [Int64.lt_iff_toInt_lt]
  omega

theorem before_asymm {a b : Post} (hab : Before a b) (hba : Before b a) : False := by
  unfold Before at hab hba
  rw [Int64.lt_iff_toInt_lt] at hab hba
  omega

theorem count_eq {n : Int64} (h : 0 ≤ n) : count n = n.toInt.toNat := by
  have hnonneg : (0 : Int64).toInt ≤ n.toInt := Int64.le_iff_toInt_le.1 h
  have hcond := BitVec.toInt_eq_toNat_cond n.toBitVec
  rw [Int64.toInt_zero] at hnonneg
  rw [Int64.toInt_toBitVec] at hcond
  unfold count
  rw [← Int64.toNat_toBitVec]
  split at hcond <;> omega

/-- The posts in the order that is asked for, the oldest being first. -/
def Direction.arrange {α : Type} : Direction → List α → List α
  | .asc, l => l
  | .desc, l => l.reverse

theorem bounds_of_check {q : Query} (h : q.check = .ok ()) : 0 ≤ q.limit ∧ 0 ≤ q.offset := by
  obtain ⟨hlimit, hoffset, -⟩ := Query.check_eq_ok_iff.1 h
  exact ⟨Int64.le_trans (by decide) hlimit.1, hoffset⟩

end Feed

namespace Store

open Feed

variable {s t : Store} {viewer : Int64} {f : Selection} {posts posts' : List Post}

/-! ## Stored posts -/

/-- Records that stand under their own ids are told apart by them. -/
theorem Keyed.nodup_values {V : Type} {key : V → Int64} {last : Int64} {t : Table Int64 V}
    (h : Keyed last key t) : (t.values.map key).Nodup := by
  have hkeys : t.values.map key = t.entries.map Prod.fst := by
    unfold Table.values
    rw [List.map_map]
    apply List.map_congr_left
    intro e he
    exact (h e.1 e.2 (Table.get?_eq_some_iff.2 he)).1
  rw [hkeys]
  exact t.nodup

/-- Records under positive ids are not too many to be counted. -/
theorem Keyed.length_lt {V : Type} {key : V → Int64} {last : Int64} {t : Table Int64 V}
    (h : Keyed last key t) (hpositive : ∀ id v, t.get? id = some v → 0 < id.toInt) :
    t.values.length < 0x8000000000000000 := by
  have hnodup : ((t.values.map key).map Int64.toInt).Nodup :=
    h.nodup_values.map fun _ _ => Int64.toInt_inj.1
  have hsubset : ((t.values.map key).map Int64.toInt).toFinset ⊆
      Finset.Icc 1 0x7fffffffffffffff := by
    intro n hn
    obtain ⟨id, hid, rfl⟩ := List.mem_map.1 (List.mem_toFinset.1 hn)
    obtain ⟨v, hv, rfl⟩ := List.mem_map.1 hid
    obtain ⟨k, hk⟩ := Table.mem_values_iff.1 hv
    have hpos := hpositive k v hk
    have hlt := k.toInt_lt
    rw [(h k v hk).1, Finset.mem_Icc]
    omega
  have hcard := Finset.card_le_card hsubset
  rw [List.toFinset_card_of_nodup hnodup, List.length_map, List.length_map, Int.card_Icc] at hcard
  omega

/-- The ids that are given are positive. -/
def PositiveIds (s : Store) : Prop :=
  0 ≤ s.lastId.toInt ∧ ∀ id p, s.posts.get? id = some p → 0 < id.toInt

theorem PositiveIds.call (h : PositiveIds s) (c : Call) : PositiveIds (c.run s) := by
  obtain ⟨hlast, hposts⟩ := h
  refine ⟨Int.le_trans hlast (lastId_call c s), fun id p hp => ?_⟩
  rcases post_of_call hp with hold | ⟨d, now, -, hid, -⟩ | ⟨g, q, now, -, -, hq, -⟩
  · exact hposts id p hold
  · omega
  · exact hposts id q hq

theorem Reachable.positiveIds (h : Reachable s) : PositiveIds s := by
  refine h.keeps ⟨by decide, fun id p hp => ?_⟩ fun s c hs => hs.call c
  cases hp

/-! ## The posts of a feed -/

/-- The viewer sees the post, and it is selected. -/
structure Shows (s : Store) (viewer : Int64) (f : Selection) (p : Post) : Prop where
  stored : ∃ id, s.posts.get? id = some p
  seen : p.userId = viewer ∨ (viewer, p.userId) ∈ s.follows
  selected : Selects f p

/-- Exactly the posts that are shown, in strict order of creation. -/
structure Lists (s : Store) (viewer : Int64) (f : Selection) (posts : List Post) : Prop where
  mem : ∀ p, p ∈ posts ↔ Shows s viewer f p
  increasing : posts.Pairwise Before

theorem Lists.nodup (h : Lists s viewer f posts) : posts.Nodup := by
  refine h.increasing.imp fun {a b} hab heq => ?_
  subst heq
  exact before_asymm hab hab

/-- There is no other such list. -/
theorem Lists.unique (h : Lists s viewer f posts) (h' : Lists s viewer f posts') :
    posts = posts' := by
  have hperm : posts.Perm posts' :=
    (List.perm_ext_iff_of_nodup h.nodup h'.nodup).2 fun p => (h.mem p).trans (h'.mem p).symm
  refine hperm.eq_of_pairwise (fun a b _ _ hab hba => ?_) h.increasing h'.increasing
  exact (before_asymm hab hba).elim

theorem mem_feedPosts {q : Query} {p : Post} :
    p ∈ s.feedPosts viewer q ↔ Shows s viewer q.selection p := by
  unfold feedPosts
  rw [(List.mergeSort_perm _ _).mem_iff, List.mem_filter, Table.mem_values_iff, Bool.and_eq_true,
    admits_iff]
  have hseen : s.follows? viewer p.userId = true ↔
      p.userId = viewer ∨ (viewer, p.userId) ∈ s.follows := by
    simp [follows?, isFollowing]
  rw [hseen]
  constructor
  · rintro ⟨hstored, hseen, hselected⟩
    exact ⟨hstored, hseen, hselected⟩
  · intro h
    exact ⟨h.stored, h.seen, h.selected⟩

/-- Any stored posts are in strict order of creation once they are sorted. -/
theorem pairwise_mergeSort {last : Int64} (hs : Keyed last Post.id s.posts) (p : Post → Bool) :
    ((s.posts.values.filter p).mergeSort inOrder).Pairwise Before := by
  have hsorted : ((s.posts.values.filter p).mergeSort inOrder).Pairwise fun a b =>
      inOrder a b = true := List.pairwise_mergeSort inOrder_trans inOrder_total _
  have hids : (((s.posts.values.filter p).mergeSort inOrder).map Post.id).Nodup := by
    rw [((List.mergeSort_perm _ _).map Post.id).nodup_iff]
    exact hs.nodup_values.sublist ((List.filter_sublist).map _)
  have hdistinct := List.pairwise_map.1 hids
  exact (hsorted.and hdistinct).imp fun ⟨hle, hne⟩ => before_of_inOrder hle hne

theorem lists_feedPosts {last : Int64} (hs : Keyed last Post.id s.posts) (viewer : Int64)
    (q : Query) : Lists s viewer q.selection (s.feedPosts viewer q) :=
  ⟨fun _ => mem_feedPosts, pairwise_mergeSort hs _⟩

/-- A list of stored posts is not too long for offsets. -/
theorem Lists.length_lt (h : Lists s viewer f posts) (hs : Numbered s) (hpositive : PositiveIds s) :
    posts.length < 0x8000000000000000 := by
  have hsubset : posts ⊆ s.posts.values := fun p hp =>
    Table.mem_values_iff.2 ((h.mem p).1 hp).stored
  exact Nat.lt_of_le_of_lt (h.nodup.subperm hsubset).length_le (hs.posts.length_lt hpositive.2)

/-! ## The order of the tables -/

/-- The same users, posts, comments and follow edges, in any order. -/
structure Reordered (s t : Store) : Prop where
  users : t.users.entries.Perm s.users.entries
  posts : t.posts.entries.Perm s.posts.entries
  comments : t.comments.entries.Perm s.comments.entries
  follows : t.follows.Perm s.follows

theorem Reordered.refl (s : Store) : Reordered s s := ⟨.rfl, .rfl, .rfl, .rfl⟩

theorem Reordered.shows_iff (h : Reordered s t) {p : Post} :
    Shows t viewer f p ↔ Shows s viewer f p := by
  have hposts := Table.get?_of_perm h.posts
  have hfollows : ∀ e, e ∈ t.follows ↔ e ∈ s.follows := fun e => h.follows.mem_iff
  constructor
  · intro hp
    exact ⟨by simpa only [hposts] using hp.stored, by simpa only [hfollows] using hp.seen,
      hp.selected⟩
  · intro hp
    exact ⟨by simpa only [hposts] using hp.stored, by simpa only [hfollows] using hp.seen,
      hp.selected⟩

theorem Reordered.feedItem (h : Reordered s t) (p : Post) : t.feedItem p = s.feedItem p := by
  have hcomments : (t.commentsOn p.id).length = (s.commentsOn p.id).length :=
    ((h.comments.map Prod.snd).filter _).length_eq
  unfold Store.feedItem
  rw [hcomments, Table.get?_of_perm h.users]

/-- The order of the tables has no part in the posts of a feed. -/
theorem Reordered.feedPosts (h : Reordered s t) (hs : Numbered s) (viewer : Int64) (q : Query) :
    t.feedPosts viewer q = s.feedPosts viewer q := by
  have hkeyed : Keyed s.lastId Post.id t.posts := by
    intro id p hp
    rw [Table.get?_of_perm h.posts] at hp
    exact hs.posts id p hp
  have ht := lists_feedPosts hkeyed viewer q
  refine Lists.unique ⟨fun p => ?_, ht.increasing⟩ (lists_feedPosts hs.posts viewer q)
  exact (ht.mem p).trans h.shows_iff

/-! ## Stretches -/

/-- Some elements behind some others. -/
def stretch {α : Type} (offset limit : Nat) (l : List α) : List α := (l.drop offset).take limit

theorem flatMap_stretch {α : Type} (l : List α) (n k : Nat) :
    (List.range k).flatMap (fun i => stretch (i * n) n l) = l.take (k * n) := by
  induction k with
  | zero => simp
  | succ k ih =>
    rw [List.range_succ, List.flatMap_append, ih, Nat.succ_mul, List.take_add]
    simp [stretch]

theorem map_stretch {α β : Type} (g : α → β) (offset limit : Nat) (l : List α) :
    (stretch offset limit l).map g = stretch offset limit (l.map g) := by
  unfold stretch
  rw [List.map_take, List.map_drop]

theorem map_arrange {α β : Type} (g : α → β) (sort : Direction) (l : List α) :
    (sort.arrange l).map g = sort.arrange (l.map g) := by
  cases sort with
  | asc => rfl
  | desc => exact List.map_reverse

theorem length_arrange {α : Type} (sort : Direction) (l : List α) :
    (sort.arrange l).length = l.length := by
  cases sort with
  | asc => rfl
  | desc => exact List.length_reverse

theorem feed_eq_stretch {q : Query} (hlimit : 0 ≤ q.limit) (hoffset : 0 ≤ q.offset) :
    s.feed viewer q = stretch q.offset.toInt.toNat q.limit.toInt.toNat
      (q.sort.arrange ((s.feedPosts viewer q).map s.feedItem)) := by
  rw [← map_arrange, ← map_stretch, ← count_eq hlimit, ← count_eq hoffset]
  unfold feed stretch
  cases q.sort <;> rfl

/-- The first pages of `n` posts, one after the other. -/
def pages (s : Store) (viewer : Int64) (f : Selection) (sort : Direction) (n k : Nat) :
    List Item :=
  (List.range k).flatMap fun i => s.feed viewer (f.query sort n (i * n))

/-- How many pages of `n` posts hold some posts. -/
def pageCount (n : Nat) (posts : List Post) : Nat := (posts.length + n - 1) / n

/-- The pages of a feed hold all of it. -/
theorem pages_eq (hs : Numbered s) (hpositive : PositiveIds s) (h : Lists s viewer f posts)
    (sort : Direction) {n : Nat} (hn : 1 ≤ n) (hle : n ≤ 20) :
    s.pages viewer f sort n (pageCount n posts) = (sort.arrange posts).map s.feedItem := by
  have hlength := h.length_lt hs hpositive
  have hpage : ∀ i < pageCount n posts, s.feed viewer (f.query sort n (i * n)) =
      stretch (i * n) n (sort.arrange (posts.map s.feedItem)) := by
    intro i hi
    have hoffset : i * n < posts.length := by
      unfold pageCount at hi
      rw [Nat.lt_div_iff_mul_lt (by omega)] at hi
      omega
    have hn' : (Int64.ofNat n).toInt = n := Int64.toInt_ofNat_of_lt (by omega)
    have hi' : (Int64.ofNat (i * n)).toInt = (i * n : Nat) := Int64.toInt_ofNat_of_lt (by omega)
    have hposts : s.feedPosts viewer (f.query sort n (i * n)) = posts :=
      (lists_feedPosts hs.posts viewer _).unique h
    have hfeed := @feed_eq_stretch s viewer (f.query sort n (i * n))
      (Int64.le_iff_toInt_le.2 (by unfold Selection.query; rw [hn', Int64.toInt_zero]; omega))
      (Int64.le_iff_toInt_le.2 (by unfold Selection.query; rw [hi', Int64.toInt_zero]; omega))
    rw [hposts] at hfeed
    rw [hfeed]
    unfold Selection.query
    rw [hi', hn', Int.toNat_natCast, Int.toNat_natCast]
  have hcover : posts.length ≤ pageCount n posts * n := by
    unfold pageCount
    have hdiv := Nat.div_add_mod (posts.length + n - 1) n
    have hmod := Nat.mod_lt (posts.length + n - 1) (by omega : 0 < n)
    rw [Nat.mul_comm] at hdiv
    omega
  unfold pages
  rw [List.flatMap_congr fun i hi => hpage i (List.mem_range.1 hi), flatMap_stretch, map_arrange]
  apply List.take_of_length_le
  rw [length_arrange, List.length_map]
  exact hcover

/-! ## Feeds -/

/-- The sequence that all feeds of a viewer with one selection are taken from. -/
structure Chronicle (s : Store) (viewer : Int64) (f : Selection) (posts : List Post) : Prop where
  /-- Every post that is shown stands in it once, in strict order of creation. -/
  lists : Lists s viewer f posts
  /-- A feed is a stretch of it or of its reverse, whatever the order of the tables. -/
  feeds : ∀ q, q.check = .ok () → q.selection = f → ∀ t, Reordered s t →
    t.feed viewer q =
      (stretch q.offset.toInt.toNat q.limit.toInt.toNat (q.sort.arrange posts)).map s.feedItem
  /-- Page by page the feeds make up the whole, with no post lost or repeated. -/
  whole : ∀ sort n, 1 ≤ n → n ≤ 20 →
    s.pages viewer f sort n (pageCount n posts) = (sort.arrange posts).map s.feedItem
  /-- Newest first is the reverse of oldest first. -/
  reverse : ∀ n, 1 ≤ n → n ≤ 20 →
    s.pages viewer f .desc n (pageCount n posts) =
      (s.pages viewer f .asc n (pageCount n posts)).reverse

/-- **Feeds.** Whatever has happened to the store, there is one sequence for a viewer and a
selection that all feeds are taken from. -/
theorem chronicle_of_reachable (hs : Reachable s) (viewer : Int64) (f : Selection) :
    ∃! posts, Chronicle s viewer f posts := by
  have hnumbered := hs.numbered
  have hpositive := hs.positiveIds
  have hlists := lists_feedPosts hnumbered.posts viewer (f.query .asc 1 0)
  have hwhole := fun sort n => @pages_eq s viewer f _ hnumbered hpositive hlists sort n
  refine ⟨s.feedPosts viewer (f.query .asc 1 0), ⟨hlists, ?_, hwhole, ?_⟩, ?_⟩
  · intro q hq hf t ht
    obtain ⟨hlimit, hoffset⟩ := bounds_of_check hq
    have hposts : s.feedPosts viewer q = s.feedPosts viewer (f.query .asc 1 0) := by
      have hown := lists_feedPosts hnumbered.posts viewer q
      rw [hf] at hown
      exact hown.unique hlists
    have hitems : t.feedItem = s.feedItem := funext ht.feedItem
    rw [feed_eq_stretch hlimit hoffset, ht.feedPosts hnumbered, hposts, hitems, ← map_arrange,
      ← map_stretch]
  · intro n hn hle
    rw [hwhole .desc n hn hle, hwhole .asc n hn hle, map_arrange, map_arrange]
    rfl
  · intro posts h
    exact h.lists.unique hlists

/-- Two posts of the viewer and one of someone whom the viewer follows. -/
def followedStore : Store := run [
  .insertUser ⟨"ann", "ann@example.com", ⟨""⟩⟩ "user" true,
  .insertUser ⟨"bob", "bob@example.com", ⟨""⟩⟩ "user" true,
  .createPost ⟨101, "first", "draft", ["a"]⟩,
  .createPost ⟨102, "second", "draft", ["a"]⟩,
  .createPost ⟨101, "third", "draft", ["b"]⟩,
  .follow 101 102] initial

/-- Those with the tag are two, whoever has written them. -/
theorem chronicle_followedStore :
    Reachable followedStore ∧ ∃ posts, Chronicle followedStore 101 ⟨"", ["a"], none, none⟩ posts ∧
      (posts.map Post.id).Perm [103, 104] := by
  have hreach : Reachable followedStore := ⟨_, rfl⟩
  obtain ⟨posts, h, -⟩ := chronicle_of_reachable hreach 101 ⟨"", ["a"], none, none⟩
  have hposts := h.lists.unique
    (lists_feedPosts hreach.numbered.posts 101 ⟨1, 0, .asc, "", ["a"], none, none⟩)
  refine ⟨hreach, posts, h, ?_⟩
  rw [hposts]
  unfold feedPosts
  refine ((List.mergeSort_perm _ _).map Post.id).trans ?_
  decide

end Store

end Microblog
