import Microblog.Proofs.Sql.Patterns
import Microblog.Proofs.Sql.Transactions
import Microblog.Sql.Posts

/-!
# The search of a feed

The statement for a feed keeps the posts whose title or content ILIKE matches
against the bound search between two `%`. `Condition` is the part of SQL that
this takes, with its text and with the meaning that the server is trusted to
give it. The search is bound as it was given, so what has a meaning in a
pattern keeps it: `search_is_literal_iff` says for which searches the statement
nevertheless finds, in ASCII texts, what the store in memory finds.
-/

namespace Microblog.Sql

open Content Feed Exchange
open Text (Ascii)

variable {binds : List Bind} {search : String} {viewer : Int64} {q : Query}

/-! ## Conditions -/

/-- A text that a statement computes for a post. -/
inductive Term where
  | title
  | content
  /-- A bound value, counted from 1. -/
  | param (n : Nat)
  | quoted (s : String)
  | concat (a b : Term)
  deriving DecidableEq, Repr

def Term.sql : Term → String
  | title => "p.title"
  | content => "p.content"
  | param n => "$" ++ toString n
  | quoted s => "'" ++ s ++ "'"
  | concat a b => a.sql ++ " || " ++ b.sql

/-- The text for a post; `none` is NULL. -/
def Term.value? (binds : List Bind) (p : Post) : Term → Option String
  | title => some p.title
  | content => some p.content
  | param n =>
    match binds[n - 1]? with
    | some (.text s) => some s
    | _ => none
  | quoted s => some s
  | concat a b => do return (← a.value? binds p) ++ (← b.value? binds p)

/-- A condition of a statement. The operator of texts binds closer than ILIKE. -/
inductive Condition where
  | ilike (text pattern : Term)
  | or (a b : Condition)
  deriving DecidableEq, Repr

def Condition.sql : Condition → String
  | ilike text pattern => text.sql ++ " ILIKE " ++ pattern.sql
  | or a b => "(" ++ a.sql ++ " OR " ++ b.sql ++ ")"

/-- Whether a condition holds of a post. -/
def Condition.holds (binds : List Bind) (p : Post) : Condition → Bool
  | ilike text pattern =>
    match text.value? binds p, pattern.value? binds p with
    | some s, some w => Sql.ilike s w
    | _, _ => false
  | or a b => a.holds binds p || b.holds binds p

/-- The bound search between two gaps. -/
def searchTerm : Term := .concat (.concat (.quoted "%") (.param 4)) (.quoted "%")

/-- The condition on title and content. -/
def searchFilter : Condition := .or (.ilike .title searchTerm) (.ilike .content searchTerm)

theorem sql_searchFilter : searchFilter.sql = searchCondition := by decide

theorem holds_searchFilter (h : binds[3]? = some (.text search)) (p : Post) :
    searchFilter.holds binds p =
      (ilike p.title (searchPattern search) || ilike p.content (searchPattern search)) := by
  have hterm : searchTerm.value? binds p = some (searchPattern search) := by
    simp [searchTerm, Term.value?, h, searchPattern]
  simp only [searchFilter, Condition.holds, hterm, Term.value?]

/-! ## The statement of a feed -/

/-- The value for a bound on the time of creation; `none` if it is out of the server's range. -/
def boundValue? : Option Timestamp → Option Bind
  | none => some .null
  | some t => (serverTime? t).map .time

/-- The values that a feed is asked for with. -/
def feedBinds? (viewer : Int64) (q : Query) : Option (List Bind) := do
  let earliest ← boundValue? q.earliest
  let latest ← boundValue? q.latest
  return [.int viewer.toInt, .int q.limit.toInt, .int q.offset.toInt, .text q.search,
    .texts q.tags, earliest, latest]

theorem bindBound_eq (b : Option Timestamp) : bindBound b =
    match boundValue? b with
    | some v => pure v
    | none => throw .overflow := by
  cases b with
  | none => rfl
  | some t =>
    dsimp only [bindBound, bindTime, boundValue?]
    cases serverTime? t <;> rfl

/-- The condition is part of the statement. -/
theorem exists_feedText_eq (direction : Direction) :
    ∃ before behind, feedText direction = before ++ searchFilter.sql ++ behind := by
  have hjoin : ∀ a b c : String, a ++ searchCondition ++ b ++ c = a ++ searchCondition ++ (b ++ c) :=
    fun _ _ _ => String.append_assoc
  rw [sql_searchFilter]
  unfold feedText
  simp only [hjoin]
  exact ⟨_, _, rfl⟩

/-- For a feed one statement is sent, or nothing if a bound is out of range. -/
theorem sends_feed (viewer : Int64) (q : Query) : Sends (feed viewer q)
    ((feedBinds? viewer q).map (Sent.statement (feedText q.sort))).toList := by
  refine Sends.limited ?_
  unfold feedBinds?
  rw [bindBound_eq, bindBound_eq]
  cases boundValue? q.earliest with
  | none => exact sends_throw _
  | some earliest =>
    cases boundValue? q.latest with
    | none => exact sends_throw _
    | some latest => exact sends_queryAll _ _ _

theorem search_of_feedBinds? (h : feedBinds? viewer q = some binds) :
    binds[3]? = some (.text q.search) := by
  obtain ⟨earliest, -, h⟩ := Option.bind_eq_some_iff.1 h
  obtain ⟨latest, -, h⟩ := Option.bind_eq_some_iff.1 h
  cases h
  rfl

/-! ## Search and store -/

theorem holds_of_literal (hbinds : binds[3]? = some (.text search))
    (hsearch : Plain search ∨ Foreign search) {p : Post} (htitle : Ascii p.title.toList)
    (hcontent : Ascii p.content.toList) :
    searchFilter.holds binds p = (found search p.title || found search p.content) := by
  rw [holds_searchFilter hbinds]
  obtain hplain | hforeign := hsearch
  · rw [ilike_of_plain hplain htitle, ilike_of_plain hplain hcontent]
  · obtain ⟨c, hc, hle, -⟩ := id hforeign
    rw [ilike_eq_false hc hle htitle, ilike_eq_false hc hle hcontent,
      found_eq_false hforeign htitle, found_eq_false hforeign hcontent]

theorem exists_holds_ne (hbinds : binds[3]? = some (.text search)) (hplain : ¬ Plain search)
    (hforeign : ¬ Foreign search) : ∃ p : Post, Ascii p.title.toList ∧ Ascii p.content.toList ∧
      searchFilter.holds binds p ≠ (found search p.title || found search p.content) := by
  obtain ⟨text, htext, hne⟩ := exists_ilike_ne_found hplain hforeign
  refine ⟨⟨1, 1, text, text, [], ⟨0, 0⟩, ⟨0, 0⟩, 1⟩, htext, htext, ?_⟩
  rwa [holds_searchFilter hbinds, Bool.or_self, Bool.or_self]

/-- Whatever the server answers, a feed is asked for by one statement with the search filter, and
the filter keeps exactly the posts of ASCII texts that the store in memory keeps if and only if the
search is plain, or has a character that is in no ASCII text. -/
theorem search_is_literal_iff (viewer : Int64) (q : Query) :
    Sends (feed viewer q) ((feedBinds? viewer q).map (Sent.statement (feedText q.sort))).toList ∧
      (∃ before behind, feedText q.sort = before ++ searchFilter.sql ++ behind) ∧
      ∀ binds ∈ feedBinds? viewer q,
        (∀ p : Post, Ascii p.title.toList → Ascii p.content.toList →
          searchFilter.holds binds p = (found q.search p.title || found q.search p.content)) ↔
        Plain q.search ∨ Foreign q.search := by
  refine ⟨sends_feed viewer q, exists_feedText_eq q.sort, fun binds hbinds => ?_⟩
  have hsearch := search_of_feedBinds? hbinds
  constructor
  · intro h
    by_contra hother
    obtain ⟨hplain, hforeign⟩ := not_or.1 hother
    obtain ⟨p, htitle, hcontent, hne⟩ := exists_holds_ne hsearch hplain hforeign
    exact hne (h p htitle hcontent)
  · exact fun hliteral p htitle hcontent => holds_of_literal hsearch hliteral htitle hcontent

/-- A search for the text `100%`. -/
def percentQuery : Query := { Query.standard with search := "100%" }

def numberedPost : Post := ⟨7, 1, "1000 ways", "", [], ⟨0, 0⟩, ⟨0, 0⟩, 1⟩

/-- A percent sign in a search matches any text, where the store in memory looks for the sign. -/
theorem percent_is_no_literal :
    percentQuery.check = .ok () ∧ Ascii numberedPost.title.toList ∧
      Ascii numberedPost.content.toList ∧
      (∃ binds, feedBinds? 1 percentQuery = some binds ∧
        searchFilter.holds binds numberedPost = true) ∧
      (found percentQuery.search numberedPost.title ||
        found percentQuery.search numberedPost.content) = false :=
  ⟨by decide, by decide, by decide, ⟨_, rfl, by decide⟩, by decide⟩

end Microblog.Sql
