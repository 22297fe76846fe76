import Microblog.Proofs.Store.Isolation
import Microblog.Proofs.Text.FinalSigma

/-!
# Searching for what is written

A search compares texts in lower case, so it should find at least the posts in
which the text stands as it was written. It does for every text that is steady,
and for no other: a text with a sigma at its end, say, is missed in a title in
which the word goes on (`findsWritten_iff`).
-/

namespace Microblog.Store

open Account Content Feed
open Text (Steady lower_infix_iff_steady)

variable {s : Store} {viewer : Int64} {q : Query} {p : Post} {search : String}

/-- The viewer sees the post, it passes the filters on tags and times, and the search text stands in
its title or its content, character by character. -/
structure Writes (s : Store) (viewer : Int64) (q : Query) (p : Post) : Prop where
  stored : ∃ id, s.posts.get? id = some p
  seen : p.userId = viewer ∨ (viewer, p.userId) ∈ s.follows
  tags : q.tags = [] ∨ ∃ t ∈ p.tags, t ∈ q.tags
  earliest : ∀ t, q.earliest = some t → t.nanos ≤ p.createdAt.nanos
  latest : ∀ t, q.latest = some t → p.createdAt.nanos ≤ t.nanos
  verbatim : q.search.toList <:+: p.title.toList ∨ q.search.toList <:+: p.content.toList

/-- Whatever has happened to the store, whoever looks for the text finds the posts in which it is
written. -/
def FindsWritten (search : String) : Prop :=
  ∀ (s : Store) (viewer : Int64) (q : Query) (p : Post), Reachable s → q.check = .ok () →
    q.search = search → Writes s viewer q p → s.feedItem p ∈ s.wholeFeed viewer q

theorem mem_wholeFeed_iff :
    s.feedItem p ∈ s.wholeFeed viewer q ↔ Shows s viewer q.selection p := by
  rw [wholeFeed, List.mem_map, ← mem_feedPosts]
  constructor
  · rintro ⟨p', hp', heq⟩
    obtain rfl : p' = p := congrArg Item.post heq
    exact (perm_arrange _ _).mem_iff.1 hp'
  · exact fun hp => ⟨p, (perm_arrange _ _).mem_iff.2 hp, rfl⟩

theorem Writes.shows (h : Writes s viewer q p) (hsteady : Steady q.search.toList) :
    Shows s viewer q.selection p := by
  have hfound := lower_infix_iff_steady.2 hsteady
  exact ⟨h.stored, h.seen, h.verbatim.imp (hfound _) (hfound _), h.tags, h.earliest, h.latest⟩

/-- A user whose only post has the text as its title and as its content. -/
def storeOf (text : String) : Store := run [
  .insertUser ⟨"ann", "ann@example.com", ⟨""⟩⟩ "user" true,
  .createPost ⟨101, text, text, []⟩] initial

/-- The post. -/
def postOf (text : String) : Post :=
  let now : Timestamp := .ofUnix (18250 * 86400 + 2)
  ⟨102, 101, text, text, [], now, now, 1⟩

theorem get?_storeOf (text : String) : (storeOf text).posts.get? 102 = some (postOf text) := rfl

/-- The query for a text and no more. -/
def queryFor (search : String) : Query := { Query.standard with search }

theorem writes_storeOf {text : String} (h : search.toList <:+: text.toList) :
    Writes (storeOf text) 101 (queryFor search) (postOf text) where
  stored := ⟨102, get?_storeOf text⟩
  seen := .inl rfl
  tags := .inl rfl
  earliest := nofun
  latest := nofun
  verbatim := .inl h

theorem not_shows_storeOf {text : String}
    (h : ¬ Text.lower search.toList <:+: Text.lower text.toList) :
    ¬ Shows (storeOf text) 101 (queryFor search).selection (postOf text) :=
  fun hshows => hshows.selected.search.elim h h

theorem check_queryFor (h : search.length ≤ 100) : (queryFor search).check = .ok () :=
  Query.check_eq_ok_iff.2 ⟨⟨(by decide : (1 : Int64) ≤ 20), (by decide : (20 : Int64) ≤ 20)⟩,
    (by decide : (0 : Int64) ≤ 0), (by decide : ([] : List String).length ≤ 5), h⟩

/-- **Search.** A text is found wherever it is written exactly if it is steady, or too long to be
searched for. -/
theorem findsWritten_iff (search : String) :
    FindsWritten search ↔ (search.length ≤ 100 → Steady search.toList) := by
  constructor
  · intro hfinds hlength
    refine lower_infix_iff_steady.1 fun text hwritten => Classical.byContradiction fun hmissed => ?_
    rw [← String.toList_ofList (l := text)] at hwritten hmissed
    have hfound := hfinds _ 101 (queryFor search) (postOf (.ofList text)) ⟨_, rfl⟩
      (check_queryFor hlength) rfl (writes_storeOf hwritten)
    exact not_shows_storeOf hmissed (mem_wholeFeed_iff.1 hfound)
  · intro h s viewer q p _ hcheck hq hwrites
    subst hq
    have hlength := (Query.check_eq_ok_iff.1 hcheck).2.2.2
    exact mem_wholeFeed_iff.2 (hwrites.shows (h hlength))

/-- A word in capitals is not found in a longer one that begins with it, if it ends in a sigma. -/
theorem last_sigma_is_missed :
    Reachable (storeOf "ΟΔΟΣΑ") ∧ (queryFor "ΟΔΟΣ").check = .ok () ∧
      Writes (storeOf "ΟΔΟΣΑ") 101 (queryFor "ΟΔΟΣ") (postOf "ΟΔΟΣΑ") ∧
      (storeOf "ΟΔΟΣΑ").feedItem (postOf "ΟΔΟΣΑ") ∉
        (storeOf "ΟΔΟΣΑ").wholeFeed 101 (queryFor "ΟΔΟΣ") := by
  have hwritten : "ΟΔΟΣ".toList <:+: "ΟΔΟΣΑ".toList := by decide
  have hmissed : ¬ Text.lower "ΟΔΟΣ".toList <:+: Text.lower "ΟΔΟΣΑ".toList := by decide +kernel
  exact ⟨⟨_, rfl⟩, check_queryFor (by decide), writes_storeOf hwritten,
    mt mem_wholeFeed_iff.1 (not_shows_storeOf hmissed)⟩

end Microblog.Store
