import Microblog.Refusal
import Microblog.Text.Blank
import Microblog.Text.Quoted
import Microblog.Text.Split
import Microblog.Time.Rfc3339

/-!
# Feed queries

A query asks for a stretch of a feed: some posts from a start on, in order of
time, that hold a text, carry one of some tags and were written in a span of
time. `Query.parse` reads it from named parameters. A number or a time that
cannot be read is passed over, an unknown order is not.
-/

namespace Microblog.Feed

/-- Named parameters; the last one of a name counts. -/
abbrev Params := List (String × String)

/-- The value of a parameter. -/
def Params.get? (ps : Params) (name : String) : Option String := ps.reverse.lookup name

inductive Direction where
  /-- Oldest first. -/
  | asc
  /-- Newest first. -/
  | desc
  deriving DecidableEq, Repr

/-- Why a query is not answered. -/
inductive QueryFault where
  | invalidSort (s : String)
  | limitOutOfRange
  | negativeOffset
  | tooManyTags
  | searchTooLong
  deriving DecidableEq, Repr

namespace QueryFault

def message : QueryFault → String
  | invalidSort s => "sort must be one of: asc, desc (got " ++ Text.quoted s ++ ")"
  | limitOutOfRange => "limit must be between 1 and 20"
  | negativeOffset => "offset must not be negative"
  | tooManyTags => "at most 5 tags are allowed"
  | searchTooLong => "search must be at most 100 characters"

def refusal (f : QueryFault) : Refusal := .validation f.message

end QueryFault

namespace Direction

def parse : String → Except QueryFault Direction
  | "asc" => .ok asc
  | "desc" => .ok desc
  | s => .error (.invalidSort s)

/-- The word of a query. -/
def name : Direction → String
  | asc => "asc"
  | desc => "desc"

/-- The word of SQL. -/
def sql : Direction → String
  | asc => "ASC"
  | desc => "DESC"

end Direction

structure Query where
  limit : Int64
  offset : Int64
  sort : Direction
  /-- The text to be found in title or content. -/
  search : String
  /-- A post carries one of these, if there are any. -/
  tags : List String
  earliest : Option Timestamp
  latest : Option Timestamp
  deriving DecidableEq, Repr

namespace Query

/-- The ten newest posts. -/
def standard : Query := ⟨10, 0, .desc, "", [], none, none⟩

/-- Whether the query keeps its bounds. -/
def check (q : Query) : Except QueryFault Unit :=
  if q.limit < 1 ∨ 20 < q.limit then .error .limitOutOfRange
  else if q.offset < 0 then .error .negativeOffset
  else if 5 < q.tags.length then .error .tooManyTags
  else if 100 < q.search.length then .error .searchTooLong
  else .ok ()

/-- A number, with blanks around it. -/
def number? (s : String) : Option Int64 := Text.int64? (Text.trim s)

/-- Tags with commas between them; empty ones do not count. -/
def tagList (s : String) : List String :=
  ((Text.splitOn (· == ',') s.toList).map Text.trimChars).filter (· != []) |>.map String.ofList

def time? (s : String) : Option Timestamp := (Time.Rfc3339.parse s).toOption

/-- The order that the parameters ask for. -/
def sortOf (ps : Params) : Except QueryFault Direction :=
  match ps.get? "sort" with
  | none => .ok standard.sort
  | some "" => .ok standard.sort
  | some s => Direction.parse s

/-- The query that the parameters make, whatever its bounds. -/
def read (ps : Params) : Except QueryFault Query := do
  let sort ← sortOf ps
  return {
    limit := ((ps.get? "limit").bind number?).getD standard.limit
    offset := ((ps.get? "offset").bind number?).getD standard.offset
    sort := sort
    search := (ps.get? "search").getD standard.search
    tags := ((ps.get? "tags").map tagList).getD standard.tags
    earliest := (ps.get? "since").bind time?
    latest := (ps.get? "until").bind time? }

/-- The query that the parameters make. -/
def parse (ps : Params) : Except QueryFault Query := do
  let q ← read ps
  q.check
  return q

end Query

end Microblog.Feed
