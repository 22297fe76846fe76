import Microblog.Proofs.Store.Feeds

/-!
# Feeds of different users

What others do apart from a viewer leaves the viewer's feed as it is: no post of
an author whom the viewer does not follow, no comment on such a post and no
follow edge of another user has a part in it (`Call.Apart`, `feed_of_apart`).

To follow someone merges the posts of that author into the feed, in its order,
and to stop following takes them out again (`wholeFeed_of_following`). Both are
said of the feed without its pages, of which each feed is a stretch.
-/

namespace Microblog

open Account Content Store

namespace Feed

/-! ## Merging -/

/-- Whether a post may stand before another one in the order that is asked for. -/
def Direction.inOrder : Direction → Post → Post → Bool
  | .asc, a, b => Feed.inOrder a b
  | .desc, a, b => Feed.inOrder b a

theorem Direction.inOrder_trans (sort : Direction) (a b c : Post) (hab : sort.inOrder a b = true)
    (hbc : sort.inOrder b c = true) : sort.inOrder a c = true := by
  cases sort with
  | asc => exact Feed.inOrder_trans a b c hab hbc
  | desc => exact Feed.inOrder_trans c b a hbc hab

theorem Direction.inOrder_total (sort : Direction) (a b : Post) :
    (sort.inOrder a b || sort.inOrder b a) = true := by
  cases sort with
  | asc => exact Feed.inOrder_total a b
  | desc => exact Feed.inOrder_total b a

theorem inOrder_of_before {a b : Post} (h : Before a b) : inOrder a b = true := by
  unfold Before at h
  rw [Int64.lt_iff_toInt_lt] at h
  rw [inOrder_iff]
  omega

theorem Direction.inOrder_antisymm (sort : Direction) {a b : Post} (hab : sort.inOrder a b = true)
    (hba : sort.inOrder b a = true) : ¬ Before a b ∧ ¬ Before b a := by
  have hboth : Feed.inOrder a b = true ∧ Feed.inOrder b a = true := by
    cases sort with
    | asc => exact ⟨hab, hba⟩
    | desc => exact ⟨hba, hab⟩
  obtain ⟨hle, hge⟩ := hboth
  rw [inOrder_iff] at hle hge
  unfold Before
  rw [Int64.lt_iff_toInt_lt, Int64.lt_iff_toInt_lt]
  omega

variable {posts xs ys : List Post}

theorem perm_arrange {α : Type} (sort : Direction) (l : List α) : (sort.arrange l).Perm l := by
  cases sort with
  | asc => exact .rfl
  | desc => exact List.reverse_perm l

theorem pairwise_arrange (h : posts.Pairwise Before) (sort : Direction) :
    (sort.arrange posts).Pairwise fun a b => sort.inOrder a b = true := by
  cases sort with
  | asc => exact h.imp inOrder_of_before
  | desc => exact List.pairwise_reverse.2 (h.imp inOrder_of_before)

/-- In strict order of creation there is one way to put two lists together. -/
theorem arrange_eq_merge (hposts : posts.Pairwise Before) (hxs : xs.Pairwise Before)
    (hys : ys.Pairwise Before) (hperm : posts.Perm (xs ++ ys)) (sort : Direction) :
    sort.arrange posts = (sort.arrange xs).merge (sort.arrange ys) sort.inOrder := by
  have hmerged : (sort.arrange posts).Perm
      ((sort.arrange xs).merge (sort.arrange ys) sort.inOrder) := by
    refine (perm_arrange sort posts).trans (hperm.trans ?_)
    refine ((perm_arrange sort xs).symm.append (perm_arrange sort ys).symm).trans ?_
    exact (List.merge_perm_append _).symm
  refine hmerged.eq_of_pairwise (fun a b ha hb hab hba => ?_) (pairwise_arrange hposts sort)
    (List.pairwise_merge sort.inOrder_trans sort.inOrder_total _ _ (pairwise_arrange hxs sort)
      (pairwise_arrange hys sort))
  obtain ⟨hnot, hnot'⟩ := sort.inOrder_antisymm hab hba
  by_contra hne
  have ha := (perm_arrange sort posts).mem_iff.1 ha
  have hb := (perm_arrange sort posts).mem_iff.1 (hmerged.mem_iff.2 hb)
  have hapart : posts.Pairwise fun a b => Before a b ∨ Before b a := hposts.imp .inl
  have : Std.Symm fun a b : Post => Before a b ∨ Before b a := ⟨fun _ _ h => h.symm⟩
  rcases hapart.forall ha hb hne with h | h
  · exact hnot h
  · exact hnot' h

end Feed

namespace Store

open Feed

variable {s t : Store} {viewer author : Int64} {q : Query} {f : Selection} {c : Call} {p : Post}

/-! ## What has no part in a feed -/

/-- The viewer does not see the posts of the author. -/
def Unseen (s : Store) (viewer author : Int64) : Prop := s.follows? viewer author = false

instance : Decidable (s.Unseen viewer author) := inferInstanceAs (Decidable (_ = _))

/-- If a post stands under the id, the viewer does not see it. -/
def Hidden (s : Store) (viewer id : Int64) : Prop :=
  ∀ p ∈ s.posts.get? id, s.Unseen viewer p.userId

instance (id : Int64) : Decidable (s.Hidden viewer id) :=
  inferInstanceAs (Decidable (∀ p ∈ s.posts.get? id, s.Unseen viewer p.userId))

/-- If a comment stands under the id, the viewer does not see its post. -/
def HiddenComment (s : Store) (viewer id : Int64) : Prop :=
  ∀ d ∈ s.comments.get? id, s.Hidden viewer d.postId

instance (id : Int64) : Decidable (s.HiddenComment viewer id) :=
  inferInstanceAs (Decidable (∀ d ∈ s.comments.get? id, s.Hidden viewer d.postId))

/-- A call apart from a viewer: one that creates, changes or deletes a post that the viewer does not
see or a comment on such a post, or one that changes whom someone else follows. -/
def Call.Apart (viewer : Int64) (s : Store) : Call → Prop
  | createPost d => s.Unseen viewer d.userId
  | updatePost p => s.Hidden viewer p.id
  | deletePost id => s.Hidden viewer id
  | createComment d => s.Hidden viewer d.postId
  | updateComment d => s.HiddenComment viewer d.id
  | deleteComment id => s.HiddenComment viewer id
  | follow follower _ => follower ≠ viewer
  | unfollow follower _ => follower ≠ viewer
  | _ => False

/-- Each call of a run is apart from a viewer when it is made. -/
def Apart (viewer : Int64) : Store → List Call → Prop
  | _, [] => True
  | s, c :: cs => c.Apart viewer s ∧ Apart viewer (c.run s) cs

theorem users_of_apart (h : c.Apart viewer s) : (c.run s).users = s.users := by
  cases c <;> first | exact h.elim | simp [Call.run, deletePost, deleteComment, unfollow]

theorem follows?_of_apart (h : c.Apart viewer s) (author : Int64) :
    (c.run s).follows? viewer author = s.follows? viewer author := by
  unfold follows? isFollowing
  apply congrArg
  rcases follows_call c s with he | ⟨a, b, rfl, -, -, he⟩ | ⟨a, b, rfl, he⟩ <;> rw [he]
  · have hne : viewer ≠ a := Ne.symm h
    simp [hne]
  · have hne : viewer ≠ a := Ne.symm h
    simp [List.contains_eq_mem, List.mem_filter, hne]

/-- The posts that the viewer sees are the same, whichever of them are meant. -/
theorem values_of_apart (hs : Numbered s) (h : c.Apart viewer s) (f : Post → Bool) :
    ((c.run s).posts.values.filter fun p => s.follows? viewer p.userId && f p) =
      s.posts.values.filter fun p => s.follows? viewer p.userId && f p := by
  rcases posts_call c s with he | ⟨d, id, now, rfl, hid, -, he⟩ | ⟨e, p, now, rfl, hp, -, -, he⟩ |
    ⟨id, rfl, he⟩ <;> rw [he]
  · refine Table.values_filter_insert (fun w hw => ?_) ?_
    · rw [hs.posts.get?_next hid] at hw
      cases hw
    · have hunseen : s.follows? viewer d.userId = false := h
      simp [hunseen]
  · have hunseen : s.follows? viewer p.userId = false := h p hp
    refine Table.values_filter_insert (fun w hw => ?_) ?_
    · rw [hp] at hw
      cases hw
      simp [hunseen]
    · simp [revised, hunseen]
  · refine Table.values_filter_filter fun k p hp hseen => ?_
    rw [bne_iff_ne]
    rintro rfl
    have hunseen : s.follows? viewer p.userId = false := h p hp
    simp [hunseen] at hseen

/-- The comments on a post that the viewer sees are the same, but for their order. -/
theorem commentsOn_of_apart (hs : Numbered s) (h : c.Apart viewer s)
    (hp : s.posts.get? p.id = some p) (hseen : s.follows? viewer p.userId = true) :
    (c.run s).commentsOn p.id = s.commentsOn p.id := by
  have hother : ∀ id, s.Hidden viewer id → (id == p.id) = false := by
    intro id hhidden
    rw [beq_eq_false_iff_ne]
    rintro rfl
    have hunseen : s.follows? viewer p.userId = false := hhidden p hp
    rw [hseen] at hunseen
    cases hunseen
  unfold commentsOn
  rcases comments_call c s with he | ⟨d, id, now, name, rfl, -, hid, -, he⟩ | ⟨e, d, rfl, hd, he⟩ |
    ⟨id, rfl, he⟩ | ⟨id, rfl, he⟩ <;> rw [he]
  · refine Table.values_filter_insert (fun w hw => ?_) (hother d.postId h)
    rw [hs.comments.get?_next hid] at hw
    cases hw
  · refine Table.values_filter_insert (fun w hw => ?_) (hother d.postId (h d hd))
    rw [hd] at hw
    cases hw
    exact hother d.postId (h d hd)
  · refine Table.values_filter_filter fun k d hd hon => ?_
    rw [bne_iff_ne]
    rintro rfl
    rw [hother d.postId (h d hd)] at hon
    cases hon
  · refine Table.values_filter_filter fun k d hd hon => ?_
    rw [bne_iff_ne]
    intro heq
    rw [heq, hother id h] at hon
    cases hon

theorem feedItem_of_apart (hs : Numbered s) (h : c.Apart viewer s)
    (hp : Shows s viewer f p) : (c.run s).feedItem p = s.feedItem p := by
  have hseen : s.follows? viewer p.userId = true := by
    have hseen := hp.seen
    simpa [follows?, isFollowing] using hseen
  have hid : s.posts.get? p.id = some p := by
    obtain ⟨id, hget⟩ := hp.stored
    rw [(hs.posts id p hget).1]
    exact hget
  unfold feedItem
  rw [commentsOn_of_apart hs h hid hseen, users_of_apart h]

/-- **One call.** -/
theorem feed_of_apart (hs : Numbered s) (h : c.Apart viewer s) (q : Query) :
    (c.run s).feed viewer q = s.feed viewer q := by
  have hposts : (c.run s).feedPosts viewer q = s.feedPosts viewer q := by
    unfold feedPosts
    simp only [follows?_of_apart h]
    rw [values_of_apart hs h q.admits]
  have hitems : ∀ p ∈ s.feedPosts viewer q, (c.run s).feedItem p = s.feedItem p :=
    fun p hp => feedItem_of_apart hs h (mem_feedPosts.1 hp)
  unfold feed
  rw [hposts]
  apply List.map_congr_left
  intro p hp
  have hmem := List.mem_of_mem_drop (List.mem_of_mem_take hp)
  apply hitems
  cases hsort : q.sort with
  | asc =>
    rw [hsort] at hmem
    exact hmem
  | desc =>
    rw [hsort] at hmem
    exact List.mem_reverse.1 hmem

/-- **Runs.** -/
theorem feed_run_of_apart {cs : List Call} (hs : Numbered s) (h : Apart viewer s cs) (q : Query) :
    (run cs s).feed viewer q = s.feed viewer q := by
  induction cs generalizing s with
  | nil => rfl
  | cons c cs ih => exact (ih (hs.call c) h.2).trans (feed_of_apart hs h.1 q)

/-! ## Following and not following any more -/

/-- All of a feed, in the order that a query asks for. -/
def wholeFeed (viewer : Int64) (q : Query) (s : Store) : List Item :=
  (q.sort.arrange (s.feedPosts viewer q)).map s.feedItem

/-- The posts of an author that pass the filters of a query, oldest first. -/
def postsOf (author : Int64) (q : Query) (s : Store) : List Post :=
  (s.posts.values.filter fun p => p.userId == author && q.admits p).mergeSort inOrder

/-- The same in the order that the query asks for, as they are shown in a feed. -/
def feedOf (author : Int64) (q : Query) (s : Store) : List Item :=
  (q.sort.arrange (s.postsOf author q)).map s.feedItem

theorem mem_postsOf {p : Post} : p ∈ s.postsOf author q ↔
    (∃ id, s.posts.get? id = some p) ∧ p.userId = author ∧ Selects q.selection p := by
  unfold postsOf
  rw [(List.mergeSort_perm _ _).mem_iff, List.mem_filter, Table.mem_values_iff, Bool.and_eq_true,
    beq_iff_eq, admits_iff]

theorem follows?_unfollow (hne : author ≠ viewer) (other : Int64) :
    (s.unfollow viewer author).follows? viewer other =
      (s.follows? viewer other && other != author) := by
  by_cases ho : other = author
  · subst ho
    simp [follows?, isFollowing, unfollow, hne]
  · simp [follows?, isFollowing, unfollow, ho]

/-- What the viewer sees of a feed is what it sees without an author whom it follows, and the posts
of that author. -/
theorem perm_feedPosts (hne : author ≠ viewer) (h : (viewer, author) ∈ s.follows) (q : Query) :
    (s.feedPosts viewer q).Perm
      ((s.unfollow viewer author).feedPosts viewer q ++ s.postsOf author q) := by
  have hseen : s.follows? viewer author = true := by simp [follows?, isFollowing, h]
  have hothers : (s.posts.values.filter fun p => s.follows? viewer p.userId && q.admits p).filter
      (fun p => p.userId != author) = s.posts.values.filter fun p =>
        (s.unfollow viewer author).follows? viewer p.userId && q.admits p := by
    rw [List.filter_filter]
    apply List.filter_congr
    intro p _
    rw [follows?_unfollow hne]
    cases s.follows? viewer p.userId <;> cases q.admits p <;> simp
  have hown : (s.posts.values.filter fun p => s.follows? viewer p.userId && q.admits p).filter
      (fun p => !(p.userId != author)) =
        s.posts.values.filter fun p => p.userId == author && q.admits p := by
    rw [List.filter_filter]
    apply List.filter_congr
    intro p _
    by_cases hp : p.userId = author
    · simp [hp, hseen]
    · have hother : (p.userId == author) = false := beq_eq_false_iff_ne.2 hp
      simp [bne, hother]
  have hparts := List.filter_append_perm (fun p : Post => p.userId != author)
    (s.posts.values.filter fun p => s.follows? viewer p.userId && q.admits p)
  rw [hothers, hown] at hparts
  unfold feedPosts postsOf
  refine (List.mergeSort_perm _ _).trans (hparts.symm.trans ?_)
  exact ((List.mergeSort_perm _ _).symm).append (List.mergeSort_perm _ _).symm

/-- **Following.** The feed is the merge of the feed without the author and the author's posts. -/
theorem wholeFeed_of_following (hs : Numbered s) (hne : author ≠ viewer)
    (h : (viewer, author) ∈ s.follows) (q : Query) :
    s.wholeFeed viewer q = ((s.unfollow viewer author).wholeFeed viewer q).merge
      (s.feedOf author q) fun i j => q.sort.inOrder i.post j.post := by
  have hitems : (s.unfollow viewer author).feedItem = s.feedItem := rfl
  have hmerge := arrange_eq_merge (pairwise_mergeSort hs.posts _) (pairwise_mergeSort hs.posts _)
    (pairwise_mergeSort hs.posts _) (perm_feedPosts hne h q) q.sort
  unfold wholeFeed feedOf
  rw [hitems]
  exact (congrArg (List.map s.feedItem) hmerge).trans (List.map_merge fun _ _ _ _ => rfl)

/-- To stop following takes a following back. -/
theorem unfollow_of_follow (h : s.follow viewer author = (.ok (), t)) :
    t.unfollow viewer author = s := by
  rcases follow_cases viewer author s with ⟨e, he⟩ | ⟨-, hnew, he⟩
  · rw [he] at h
    cases h
  · rw [he] at h
    cases h
    have hkept : s.follows.filter (· != (viewer, author)) = s.follows := by
      apply List.filter_eq_self.2
      intro e hmem
      rw [bne_iff_ne]
      rintro rfl
      simp [isFollowing, hmem] at hnew
    unfold unfollow
    rw [List.filter_cons_of_neg (by simp), hkept]

theorem mem_follows_of_follow (h : s.follow viewer author = (.ok (), t)) :
    (viewer, author) ∈ t.follows := by
  rcases follow_cases viewer author s with ⟨e, he⟩ | ⟨-, -, he⟩
  · rw [he] at h
    cases h
  · rw [he] at h
    cases h
    exact List.mem_cons_self

/-- The feed in `t` is the one in `s` with the posts of an author in their places. -/
structure Gains (s t : Store) (viewer author : Int64) (q : Query) : Prop where
  /-- All stored posts of the author that pass the filters, and no others. -/
  mem : ∀ p, p ∈ t.postsOf author q ↔
    (∃ id, t.posts.get? id = some p) ∧ p.userId = author ∧ Selects q.selection p
  /-- Each of them once, and in order. -/
  increasing : (t.postsOf author q).Pairwise Before
  merged : t.wholeFeed viewer q = (s.wholeFeed viewer q).merge (t.feedOf author q)
    fun i j => q.sort.inOrder i.post j.post

theorem gains_of_following (hs : Numbered s) (hne : author ≠ viewer)
    (h : (viewer, author) ∈ s.follows) (q : Query) :
    Gains (s.unfollow viewer author) s viewer author q where
  mem _ := mem_postsOf
  increasing := pairwise_mergeSort hs.posts _
  merged := wholeFeed_of_following hs hne h q

/-- **Isolation.** Whatever has happened to the store, calls apart from a viewer leave its feed as it
is, however many they are. To follow another user merges that user's posts into the feed, and to
stop following takes them out again, at once or at any later time. A feed is a stretch of the whole
that this is said of. -/
theorem feeds_are_isolated (hs : Reachable s) (viewer : Int64) (q : Query) (hq : q.check = .ok ()) :
    (∀ cs, Apart viewer s cs → (run cs s).feed viewer q = s.feed viewer q) ∧
      (∀ author t, author ≠ viewer → s.follow viewer author = (.ok (), t) →
        Gains s t viewer author q ∧ t.unfollow viewer author = s) ∧
      (∀ author, author ≠ viewer → (viewer, author) ∈ s.follows →
        Gains (s.unfollow viewer author) s viewer author q) ∧
      s.feed viewer q =
        stretch q.offset.toInt.toNat q.limit.toInt.toNat (s.wholeFeed viewer q) := by
  refine ⟨fun cs h => feed_run_of_apart hs.numbered h q, fun author t hne hfollow => ?_,
    fun author hne h => gains_of_following hs.numbered hne h q, ?_⟩
  · have hback := unfollow_of_follow hfollow
    have ht : Numbered t := by
      have hcall := hs.numbered.call (.follow viewer author)
      simp only [Call.run, hfollow] at hcall
      exact hcall
    have hgains := gains_of_following ht hne (mem_follows_of_follow hfollow) q
    rw [hback] at hgains
    exact ⟨hgains, hback⟩
  · obtain ⟨hlimit, hoffset⟩ := bounds_of_check hq
    rw [feed_eq_stretch hlimit hoffset, ← map_arrange]
    rfl

/-- Three users with a post each, of whom the first one follows the second one. -/
def sharedStore : Store := run [
  .insertUser ⟨"ann", "ann@example.com", ⟨""⟩⟩ "user" true,
  .insertUser ⟨"bob", "bob@example.com", ⟨""⟩⟩ "user" true,
  .insertUser ⟨"cat", "cat@example.com", ⟨""⟩⟩ "user" true,
  .createPost ⟨101, "first", "draft", ["a"]⟩,
  .createPost ⟨102, "second", "draft", ["a"]⟩,
  .createPost ⟨103, "third", "draft", ["b"]⟩,
  .follow 101 102] initial

/-- The third one writes, is commented on by the second one, follows the first one, and deletes. -/
def othersCalls : List Call := [
  .createPost ⟨103, "fourth", "draft", ["a"]⟩,
  .createComment ⟨106, 102, "well done"⟩,
  .follow 103 101,
  .deletePost 106]

/-- The feed of the first user is the same before and after; it gains the posts of the third one
once that one is followed, and has gained those of the second one. -/
theorem isolated_sharedStore :
    Reachable sharedStore ∧ Query.standard.check = .ok () ∧
      Apart 101 sharedStore othersCalls ∧
      (run othersCalls sharedStore).feed 101 .standard = sharedStore.feed 101 .standard ∧
      (sharedStore.follow 101 103).1 = .ok () ∧
      Gains sharedStore (sharedStore.follow 101 103).2 101 103 .standard ∧
      (101, 102) ∈ sharedStore.follows ∧
      Gains (sharedStore.unfollow 101 102) sharedStore 101 102 .standard := by
  have hreach : Reachable sharedStore := ⟨_, rfl⟩
  have hcheck : Query.standard.check = .ok () := rfl
  have hapart : Apart 101 sharedStore othersCalls := by
    refine ⟨?_, ?_, ?_, ?_, trivial⟩
    · show Unseen sharedStore 101 103
      decide
    · show Hidden _ 101 106
      decide
    · show (103 : Int64) ≠ 101
      decide
    · show Hidden _ 101 106
      decide
  have hfollow : sharedStore.follow 101 103 = (.ok (), (sharedStore.follow 101 103).2) := rfl
  have hfollows : ((101, 102) : Int64 × Int64) ∈ sharedStore.follows := by decide
  obtain ⟨hothers, hfollowing, hfollowed, -⟩ := feeds_are_isolated hreach 101 .standard hcheck
  exact ⟨hreach, hcheck, hapart, hothers _ hapart, rfl, (hfollowing 103 _ (by decide) hfollow).1,
    hfollows, hfollowed 102 (by decide) hfollows⟩

end Store

end Microblog
