import Microblog.Feed.Query
import Microblog.Json.Value
import Microblog.Proofs.Chains
import Microblog.Proofs.Text.Fields
import Microblog.Proofs.Time.ReadBack

/-!
# Queries and their parameters

A query that is read keeps its bounds, and its tags are bare and have no commas.
A number or a time that cannot be read counts for nothing: the parameters mean
what they mean without it. And every query within the bounds has parameters,
`Query.params`, from which it is read again as it was (`queries_are_exact`).
-/

namespace Microblog.Feed

open Text Time

variable {ps qs : Params} {q : Query} {name text : String}

/-! ## Bounds -/

/-- A text between commas, without blanks around it. -/
structure IsTag (t : String) : Prop where
  nonempty : t ≠ ""
  comma : ',' ∉ t.toList
  bare : Bare t.toList

instance (t : String) : Decidable (IsTag t) :=
  decidable_of_iff (t ≠ "" ∧ ',' ∉ t.toList ∧ Bare t.toList)
    ⟨fun h => ⟨h.1, h.2.1, h.2.2⟩, fun h => ⟨h.nonempty, h.comma, h.bare⟩⟩

/-- The query asks for a page of posts with a few tags. -/
structure Query.Bounded (q : Query) : Prop where
  limit : 1 ≤ q.limit ∧ q.limit ≤ 20
  offset : 0 ≤ q.offset
  fewTags : q.tags.length ≤ 5
  tags : ∀ t ∈ q.tags, IsTag t
  search : q.search.length ≤ 100

theorem Query.check_eq_ok_iff : q.check = .ok () ↔
    (1 ≤ q.limit ∧ q.limit ≤ 20) ∧ 0 ≤ q.offset ∧ q.tags.length ≤ 5 ∧ q.search.length ≤ 100 := by
  simp only [Query.check, ite_error_eq_ok_iff, not_or, Nat.not_lt, Int64.not_lt, and_true]

/-! ## Tags -/

theorem isTag_of_mem_tagList {s t : String} (h : t ∈ Query.tagList s) : IsTag t := by
  obtain ⟨cs, hcs, rfl⟩ := List.mem_map.1 h
  obtain ⟨hcs, hne⟩ := List.mem_filter.1 hcs
  obtain ⟨part, hpart, rfl⟩ := List.mem_map.1 hcs
  have hcomma : ',' ∉ trimChars part := by
    intro hc
    exact absurd (not_of_mem_splitOn hpart (mem_of_mem_trimChars hc)) (by decide)
  refine ⟨?_, ?_, ?_⟩
  · intro hempty
    rw [← String.toList_inj, String.toList_ofList] at hempty
    exact absurd hempty (bne_iff_ne.1 hne)
  · rwa [String.toList_ofList]
  · rw [String.toList_ofList]
    exact bare_trimChars part

/-- **Tags.** With commas between them they are read again. -/
theorem tagList_intercalate {tags : List String} (h : ∀ t ∈ tags, IsTag t) :
    Query.tagList (",".intercalate tags) = tags := by
  cases tags with
  | nil => decide
  | cons t ts =>
    have hsplit : splitOn (· == ',') (",".intercalate (t :: ts)).toList =
        (t :: ts).map String.toList := by
      rw [splitOn_eq_iff, String.toList_intercalate]
      refine ⟨by simp, ?_, rfl⟩
      intro w hw
      obtain ⟨u, hu, rfl⟩ := List.mem_map.1 hw
      exact (h u hu).comma
    have htrim : ((t :: ts).map String.toList).map trimChars = (t :: ts).map String.toList := by
      rw [List.map_map]
      apply List.map_congr_left
      intro u hu
      exact trimChars_of_bare (h u hu).bare
    have hfilter : ((t :: ts).map String.toList).filter (· != []) =
        (t :: ts).map String.toList := by
      rw [List.filter_eq_self]
      intro w hw
      obtain ⟨u, hu, rfl⟩ := List.mem_map.1 hw
      apply bne_iff_ne.2
      intro hempty
      exact (h u hu).nonempty (String.toList_inj.1 hempty)
    rw [Query.tagList, hsplit, htrim, hfilter, List.map_map]
    simp

/-! ## What is read -/

/-- The number that a parameter gives. -/
def Params.number? (ps : Params) (name : String) : Option Int64 :=
  (ps.get? name).bind Query.number?

/-- The time that a parameter gives. -/
def Params.time? (ps : Params) (name : String) : Option Timestamp :=
  (ps.get? name).bind Query.time?

/-- The parameters that are read as numbers. -/
def numberNames : List String := ["limit", "offset"]

/-- The parameters that are read as times. -/
def timeNames : List String := ["since", "until"]

/-- The other parameters. -/
def textNames : List String := ["sort", "search", "tags"]

/-- Both lists of parameters ask for the same. -/
structure Params.Same (ps qs : Params) : Prop where
  numbers : ∀ name ∈ numberNames, ps.number? name = qs.number? name
  times : ∀ name ∈ timeNames, ps.time? name = qs.time? name
  texts : ∀ name ∈ textNames, ps.get? name = qs.get? name

theorem Params.same_of_get? (h : ∀ name, ps.get? name = qs.get? name) : ps.Same qs := by
  constructor <;> simp only [Params.number?, Params.time?, h, implies_true]

theorem Params.Same.parse (h : ps.Same qs) : Query.parse ps = Query.parse qs := by
  have hlimit := h.numbers "limit" (by decide)
  have hoffset := h.numbers "offset" (by decide)
  have hearliest := h.times "since" (by decide)
  have hlatest := h.times "until" (by decide)
  have hsort := h.texts "sort" (by decide)
  have hsearch := h.texts "search" (by decide)
  have htags := h.texts "tags" (by decide)
  unfold Params.number? at hlimit hoffset
  unfold Params.time? at hearliest hlatest
  simp only [Query.parse, Query.read, Query.sortOf, hlimit, hoffset, hsort, hsearch, htags,
    hearliest, hlatest]

/-- A query is read if its order is known and it keeps its bounds. -/
theorem parse_eq_ok_iff : Query.parse ps = .ok q ↔ ∃ sort, Query.sortOf ps = .ok sort ∧
    q = ⟨(ps.number? "limit").getD 10, (ps.number? "offset").getD 0, sort,
      (ps.get? "search").getD "", ((ps.get? "tags").map Query.tagList).getD [],
      ps.time? "since", ps.time? "until"⟩ ∧ q.check = .ok () := by
  have hread : ∀ p, Query.read ps = .ok p ↔ ∃ sort, Query.sortOf ps = .ok sort ∧
      p = ⟨(ps.number? "limit").getD 10, (ps.number? "offset").getD 0, sort,
        (ps.get? "search").getD "", ((ps.get? "tags").map Query.tagList).getD [],
        ps.time? "since", ps.time? "until"⟩ := by
    intro p
    rw [Query.read, bind_eq_ok_iff]
    apply exists_congr
    intro sort
    apply and_congr_right
    intro _
    exact ⟨fun h => (Except.ok.inj h).symm, fun h => congrArg Except.ok h.symm⟩
  rw [Query.parse, bind_eq_ok_iff]
  constructor
  · rintro ⟨p, hp, h⟩
    obtain ⟨hcheck, h⟩ := check_bind_eq_ok_iff.1 h
    cases h
    obtain ⟨sort, hsort, hq⟩ := (hread _).1 hp
    exact ⟨sort, hsort, hq, hcheck⟩
  · rintro ⟨sort, hsort, hq, hcheck⟩
    exact ⟨q, (hread q).2 ⟨sort, hsort, hq⟩, check_bind_eq_ok_iff.2 ⟨hcheck, rfl⟩⟩

theorem bounded_of_parse (h : Query.parse ps = .ok q) : q.Bounded := by
  obtain ⟨sort, -, hq, hcheck⟩ := parse_eq_ok_iff.1 h
  obtain ⟨hlimit, hoffset, hfew, hsearch⟩ := Query.check_eq_ok_iff.1 hcheck
  refine ⟨hlimit, hoffset, hfew, ?_, hsearch⟩
  intro t ht
  have htags : q.tags = ((ps.get? "tags").map Query.tagList).getD [] := by rw [hq]
  rw [htags] at ht
  cases hget : ps.get? "tags" with
  | none =>
    rw [hget] at ht
    cases ht
  | some s =>
    rw [hget] at ht
    exact isTag_of_mem_tagList ht

/-! ## What cannot be read -/

/-- The parameters without those of a name. -/
def Params.without (ps : Params) (name : String) : Params := ps.filter fun p => p.1 != name

/-- A text that is no number of 64 bits, or no time, where one is asked for. -/
inductive Unreadable : (name text : String) → Prop
  | number {name text : String} (named : name ∈ numberNames)
    (unread : ∀ n : Int64, ¬ Numeral (trimChars text.toList) n.toInt) : Unreadable name text
  | time {name text : String} (named : name ∈ timeNames)
    (unread : ∀ t, Rfc3339.parse text ≠ .ok t) : Unreadable name text

theorem number?_eq_some_iff {n : Int64} :
    Query.number? text = some n ↔ Numeral (trimChars text.toList) n.toInt := by
  rw [Query.number?, int64?_eq_some_iff, trim, String.toList_ofList]

theorem number?_eq_none (h : ∀ n : Int64, ¬ Numeral (trimChars text.toList) n.toInt) :
    Query.number? text = none := by
  rw [Option.eq_none_iff_forall_ne_some]
  intro n hn
  exact h n (number?_eq_some_iff.1 hn)

theorem time?_eq_none (h : ∀ t, Rfc3339.parse text ≠ .ok t) : Query.time? text = none := by
  rw [Option.eq_none_iff_forall_ne_some]
  intro t ht
  exact h t (toOption_eq_some_iff.1 ht)

theorem lookup_filter_key {β : Type} (keep : String → Bool) (l : List (String × β))
    (other : String) : (l.filter fun p => keep p.1).lookup other =
      if keep other then l.lookup other else none := by
  induction l with
  | nil => simp
  | cons p l ih =>
    obtain ⟨key, value⟩ := p
    by_cases hkey : other = key
    · subst hkey
      cases hkeep : keep other with
      | true => simp [hkeep]
      | false => simp [hkeep, ih]
    · have hne := beq_eq_false_iff_ne.2 hkey
      cases hkeep : keep key with
      | true => simp [hkeep, List.lookup_cons, hne, ih]
      | false => simp [hkeep, List.lookup_cons, hne, ih]

theorem Params.get?_without (ps : Params) (name other : String) :
    (ps.without name).get? other = if other = name then none else ps.get? other := by
  rw [Params.get?, Params.without, ← List.filter_reverse, lookup_filter_key (· != name)]
  by_cases h : other = name
  · simp [h]
  · simp [h, Params.get?]

theorem Params.get?_without_of_ne {other : String} (h : other ≠ name) :
    ps.get? other = (ps.without name).get? other := by
  rw [Params.get?_without, if_neg h]

/-- A text from which nothing is read may be left out. -/
theorem bind_get?_without {α : Type} {read : String → Option α} (hget : ps.get? name = some text)
    (hnone : read text = none) (other : String) :
    (ps.get? other).bind read = ((ps.without name).get? other).bind read := by
  by_cases h : other = name
  · rw [h, hget, Params.get?_without, if_pos rfl]
    exact hnone
  · rw [Params.get?_without_of_ne h]

/-- **Ignored parameters.** What cannot be read asks for nothing. -/
theorem same_without (hget : ps.get? name = some text) (h : Unreadable name text) :
    ps.Same (ps.without name) := by
  cases h with
  | number named unread =>
    refine ⟨fun other _ => bind_get?_without hget (number?_eq_none unread) other, ?_, ?_⟩
    · intro other htime
      have hne : other ≠ name := by
        rintro rfl
        exact (by decide : ∀ n ∈ numberNames, n ∉ timeNames) other named htime
      rw [Params.time?, Params.get?_without_of_ne hne]
      rfl
    · intro other htext
      apply Params.get?_without_of_ne
      rintro rfl
      exact (by decide : ∀ n ∈ numberNames, n ∉ textNames) other named htext
  | time named unread =>
    refine ⟨?_, fun other _ => bind_get?_without hget (time?_eq_none unread) other, ?_⟩
    · intro other hnumber
      have hne : other ≠ name := by
        rintro rfl
        exact (by decide : ∀ n ∈ timeNames, n ∉ numberNames) other named hnumber
      rw [Params.number?, Params.get?_without_of_ne hne]
      rfl
    · intro other htext
      apply Params.get?_without_of_ne
      rintro rfl
      exact (by decide : ∀ n ∈ timeNames, n ∉ textNames) other named htext

/-! ## Parameters of a query -/

/-- The times of the query have a text. -/
structure Query.Writable (q : Query) : Prop where
  earliest : ∀ t, q.earliest = some t → Representable t
  latest : ∀ t, q.latest = some t → Representable t

/-- The parameters that ask for a query. -/
def Query.params (q : Query) : Params :=
  [("limit", String.ofList (Json.writeInt q.limit.toInt)),
    ("offset", String.ofList (Json.writeInt q.offset.toInt)), ("sort", q.sort.name),
    ("search", q.search), ("tags", ",".intercalate q.tags)] ++
  (q.earliest.map fun t => ("since", Rfc3339.write t)).toList ++
  (q.latest.map fun t => ("until", Rfc3339.write t)).toList

theorem number?_writeInt (n : Int64) :
    Query.number? (String.ofList (Json.writeInt n.toInt)) = some n := by
  have hnumeral := integer?_eq_some_iff.1 (integer?_writeInt n.toInt)
  rw [number?_eq_some_iff, String.toList_ofList, trimChars_of_bare hnumeral.bare]
  exact hnumeral

theorem time?_write {t : Timestamp} (h : Representable t) :
    Query.time? (Rfc3339.write t) = some t := by
  rw [Query.time?, Rfc3339.parse_write h]
  rfl

theorem sort_of_name {sort : Direction} (h : ps.get? "sort" = some sort.name) :
    Query.sortOf ps = .ok sort := by
  rw [Query.sortOf, h]
  cases sort <;> rfl

/-- What the parameters of a query give for each name. -/
theorem get?_params (q : Query) :
    q.params.get? "limit" = some (String.ofList (Json.writeInt q.limit.toInt)) ∧
      q.params.get? "offset" = some (String.ofList (Json.writeInt q.offset.toInt)) ∧
      q.params.get? "sort" = some q.sort.name ∧ q.params.get? "search" = some q.search ∧
      q.params.get? "tags" = some (",".intercalate q.tags) ∧
      q.params.get? "since" = q.earliest.map Rfc3339.write ∧
      q.params.get? "until" = q.latest.map Rfc3339.write := by
  obtain ⟨limit, offset, sort, search, tags, earliest, latest⟩ := q
  cases earliest <;> cases latest <;> exact ⟨rfl, rfl, rfl, rfl, rfl, rfl, rfl⟩

/-- **Round trip.** -/
theorem parse_params (hq : q.Bounded) (hw : q.Writable) : Query.parse q.params = .ok q := by
  obtain ⟨hlimit, hoffset, hsort, hsearch, htags, hearliest, hlatest⟩ := get?_params q
  have htime : ∀ {t : Option Timestamp}, (∀ u, t = some u → Representable u) →
      (t.map Rfc3339.write).bind Query.time? = t := by
    intro t ht
    cases t with
    | none => rfl
    | some u =>
      rw [Option.map_some, Option.bind_some]
      exact time?_write (ht u rfl)
  refine parse_eq_ok_iff.2 ⟨q.sort, sort_of_name hsort, ?_,
    Query.check_eq_ok_iff.2 ⟨hq.limit, hq.offset, hq.fewTags, hq.search⟩⟩
  rw [Params.number?, Params.number?, Params.time?, Params.time?, hlimit, hoffset, hsearch, htags,
    hearliest, hlatest, htime hw.earliest, htime hw.latest, Option.bind_some, Option.bind_some,
    number?_writeInt, number?_writeInt, Option.map_some, tagList_intercalate hq.tags]
  rfl

/-- **Queries.** A query that is read keeps its bounds; what cannot be read may be left out; and
from its parameters, in whatever order, a query is read as it was. -/
theorem queries_are_exact :
    (∀ ps q, Query.parse ps = .ok q → q.Bounded) ∧
      (∀ (ps : Params) name text, ps.get? name = some text → Unreadable name text →
        Query.parse ps = Query.parse (ps.without name)) ∧
      ∀ (q : Query) (ps : Params), q.Bounded → q.Writable →
        (∀ name, ps.get? name = q.params.get? name) → Query.parse ps = .ok q := by
  refine ⟨fun ps q h => bounded_of_parse h, fun ps name text hget h => ?_,
    fun q ps hq hw hget => ?_⟩
  · exact (same_without hget h).parse
  · rw [(Params.same_of_get? hget).parse]
    exact parse_params hq hw

/-- A query with a tag of two words, from a time a nanosecond before the hour in the east. -/
def sampleQuery : Query :=
  ⟨20, 9223372036854775807, .asc, " a&b ", ["go", "two words"],
    some ⟨1704063599999999999, 34200⟩, none⟩

/-- It is read from its parameters; a limit of ten in letters is as good as none. -/
theorem queries_are_exact_sampleQuery :
    sampleQuery.Bounded ∧ sampleQuery.Writable ∧ Query.parse sampleQuery.params = .ok sampleQuery ∧
      Unreadable "limit" "ten" ∧
      Query.parse [("tags", " b, ,a "), ("limit", "ten")] = Query.parse [("tags", " b, ,a ")] := by
  have hbounded : sampleQuery.Bounded :=
    ⟨by decide, by decide, by decide, by decide, by decide⟩
  have hwritable : sampleQuery.Writable := by
    constructor
    · rintro t ⟨⟩
      decide
    · rintro t ⟨⟩
  have hunreadable : Unreadable "limit" "ten" := by
    refine .number (by decide) fun n hn => ?_
    have hnone : Query.number? "ten" = none := by decide
    rw [← number?_eq_some_iff, hnone] at hn
    cases hn
  obtain ⟨-, hignored, hround⟩ := queries_are_exact
  exact ⟨hbounded, hwritable, hround _ _ hbounded hwritable fun _ => rfl, hunreadable,
    hignored _ "limit" "ten" (by decide) hunreadable⟩

end Microblog.Feed
