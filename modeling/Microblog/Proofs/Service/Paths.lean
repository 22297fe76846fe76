import Microblog.Proofs.Chains
import Microblog.Service.Body
import Microblog.Service.Route

/-!
# Paths of records and accounts

A route has one path (`Route.ofPath?_eq_some_iff`). That of a record is the path
of its collection and one more segment, which stands for the id of the record.
The pages for accounts have one path each, and that for activations has one for
each token.
-/

namespace Microblog.Service

open Http Text

variable {path raw : String}

/-- The path is `/v1`, the collection and a segment that stands for the id. -/
def Names (path collection : String) (id : Int64) : Prop :=
  ∃ raw text, path = "/v1/" ++ collection ++ "/" ++ raw ∧ '/' ∉ raw.toList ∧
    Percent.segment? raw = some text ∧ int64? text = some id

/-- The path is that of a record and the name of a page on it. -/
def NamesPage (path collection : String) (id : Int64) (page : String) : Prop :=
  ∃ raw text, path = "/v1/" ++ collection ++ "/" ++ raw ++ "/" ++ page ∧ '/' ∉ raw.toList ∧
    Percent.segment? raw = some text ∧ int64? text = some id

/-! ## Segments -/

theorem segments_eq_iff {ws : List String} :
    (splitOn (· == '/') path.toList).map String.ofList = ws ↔
      ws ≠ [] ∧ (∀ w ∈ ws, '/' ∉ w.toList) ∧ "/".intercalate ws = path := by
  have hmap : (splitOn (· == '/') path.toList).map String.ofList = ws ↔
      splitOn (· == '/') path.toList = ws.map String.toList := by
    constructor
    · rintro rfl
      simp
    · intro h
      rw [h]
      simp
  rw [hmap, splitOn_eq_iff, ← String.toList_inj, String.toList_intercalate]
  simp

/-! ## Routes -/

namespace Route

/-- The segments behind the version on the path of a route. -/
def segments : Route → List String
  | front .health => ["health"]
  | front .debugVars => ["debug", "vars"]
  | front .registration => ["authentication", "user"]
  | front .token => ["authentication", "token"]
  | front (.activation token) => ["users", "activate", token]
  | member .posts => ["posts"]
  | member .feed => ["users", "feed"]
  | member (.user id) => ["users", id]
  | member (.follow id) => ["users", id, "follow"]
  | member (.unfollow id) => ["users", id, "unfollow"]
  | post id .itself => ["posts", id]
  | post id .comments => ["posts", id, "comments"]
  | comment id => ["comments", id]

/-- No part at the end is empty, and none makes the path that of another route. -/
def Proper : Route → Prop
  | front (.activation token) => token ≠ ""
  | member (.user id) => id ≠ "" ∧ id ≠ "feed"
  | member (.follow id) => id ≠ "activate"
  | member (.unfollow id) => id ≠ "activate"
  | post id .itself => id ≠ ""
  | comment id => id ≠ ""
  | _ => True

variable {r : Route} {ws : List String}

theorem ofSegments?_segments (h : r.Proper) : ofSegments? r.segments = some r := by
  cases r with
  | front page => cases page with
    | activation token => exact if_pos ⟨rfl, h⟩
    | _ => rfl
  | member page => cases page with
    | user id => simp [segments, ofSegments?, h.1, h.2]
    | follow id => simp [segments, ofSegments?, show id ≠ "activate" from h]
    | unfollow id => simp [segments, ofSegments?, show id ≠ "activate" from h]
    | _ => rfl
  | post id page => cases page with
    | itself => exact if_neg h
    | comments => rfl
  | comment id => exact if_neg h

theorem segments_of_ofSegments? (h : ofSegments? ws = some r) : r.Proper ∧ r.segments = ws := by
  revert h
  fun_cases ofSegments? ws
  all_goals
    intro h
    cases h
  case case7 hid => exact ⟨hid, rfl⟩
  case case10 hid => exact ⟨hid, rfl⟩
  case case13 hfeed hid => exact ⟨⟨hid, hfeed⟩, rfl⟩
  case case14 hlast =>
    obtain ⟨rfl, hlast⟩ := hlast
    exact ⟨hlast, rfl⟩
  case case15 hlast => exact ⟨fun hid => hlast ⟨hid, by decide⟩, rfl⟩
  case case16 hlast hfollow => exact ⟨fun hid => hlast ⟨hid, by decide⟩, rfl⟩
  all_goals exact ⟨trivial, rfl⟩

/-- The path of a route. -/
def toPath (r : Route) : String := "/".intercalate ("" :: "v1" :: r.segments)

/-- **Routes.** Each proper route has one path, if its parts have no slash. -/
theorem ofPath?_eq_some_iff : ofPath? path = some r ↔
    r.Proper ∧ (∀ w ∈ r.segments, '/' ∉ w.toList) ∧ path = r.toPath := by
  have hsplit : (splitOn (· == '/') path.toList).map String.ofList = "" :: "v1" :: r.segments ↔
      (∀ w ∈ r.segments, '/' ∉ w.toList) ∧ path = r.toPath := by
    rw [segments_eq_iff, Route.toPath, eq_comm (b := path)]
    simp
  rw [← hsplit]
  unfold ofPath?
  constructor
  · intro h
    split at h
    · rename_i ws hws
      obtain ⟨hproper, rfl⟩ := segments_of_ofSegments? h
      exact ⟨hproper, hws⟩
    · cases h
  · rintro ⟨hproper, hws⟩
    rw [hws]
    exact ofSegments?_segments hproper

theorem ofPath?_eq_some_iff_of_proper (hproper : r.Proper)
    (hslash : ∀ w ∈ r.segments, '/' ∉ w.toList) : ofPath? path = some r ↔ path = r.toPath :=
  ofPath?_eq_some_iff.trans ((and_iff_right hproper).trans (and_iff_right hslash))

end Route

/-! ## Ids -/

theorem orReply_eq_ok_iff {α : Type} {e : Except Refusal α} {a : α} :
    orReply e = .ok a ↔ e = .ok a := mapError_eq_ok_iff

theorem pathText_eq_ok_iff {name text : String} :
    pathText name raw = .ok text ↔ Percent.segment? raw = some text := by
  unfold pathText
  cases Percent.segment? raw <;> simp

theorem pathId_eq_ok_iff {entity : String} {id : Int64} :
    pathId raw entity = .ok id ↔ int64? raw = some id := by
  unfold pathId
  cases int64? raw <;> simp

theorem pathParam_eq_ok_iff {entity : String} {id : Int64} :
    pathParam entity raw = .ok id ↔ ∃ text, Percent.segment? raw = some text ∧
      int64? text = some id := by
  simp only [pathParam, bind_eq_ok_iff, orReply_eq_ok_iff, pathText_eq_ok_iff, pathId_eq_ok_iff]

theorem ne_of_pathParam {entity other : String} {id : Int64} (hid : pathParam entity raw = .ok id)
    (hother : (Percent.segment? other).bind int64? = none) : raw ≠ other := by
  rintro rfl
  obtain ⟨text, htext, hid⟩ := pathParam_eq_ok_iff.1 hid
  rw [htext, Option.bind_some, hid] at hother
  cases hother

/-- A route with one part for an id lies on the paths with such a part only. -/
theorem lies_iff (before after : List String) {entity : String} (route : String → Route)
    {id : Int64} (hslash : ∀ w ∈ before ++ after, '/' ∉ w.toList)
    (hsegments : ∀ raw, (route raw).segments = before ++ raw :: after)
    (hproper : ∀ raw, pathParam entity raw = .ok id → (route raw).Proper) :
    (∃ raw, Route.ofPath? path = some (route raw) ∧ pathParam entity raw = .ok id) ↔
      ∃ raw text, path = (route raw).toPath ∧ '/' ∉ raw.toList ∧
        Percent.segment? raw = some text ∧ int64? text = some id := by
  have hall (raw : String) : (∀ w ∈ (route raw).segments, '/' ∉ w.toList) ↔ '/' ∉ raw.toList := by
    rw [hsegments]
    constructor
    · exact fun h => h raw (by simp)
    · intro hraw w hw
      rcases List.mem_append.1 hw with hw | hw
      · exact hslash w (List.mem_append_left _ hw)
      · rcases List.mem_cons.1 hw with rfl | hw
        · exact hraw
        · exact hslash w (List.mem_append_right _ hw)
  simp only [Route.ofPath?_eq_some_iff, hall]
  constructor
  · rintro ⟨raw, ⟨-, hnot, rfl⟩, hparam⟩
    obtain ⟨text, htext, hid⟩ := pathParam_eq_ok_iff.1 hparam
    exact ⟨raw, text, rfl, hnot, htext, hid⟩
  · rintro ⟨raw, text, rfl, hnot, htext, hid⟩
    have hparam : pathParam entity raw = .ok id := pathParam_eq_ok_iff.2 ⟨text, htext, hid⟩
    exact ⟨raw, ⟨hproper raw hparam, hnot, rfl⟩, hparam⟩

/-- A route of a collection and an id lies on the paths of the records only. -/
theorem names_iff {collection entity : String} (route : String → Route) {id : Int64}
    (hslash : '/' ∉ collection.toList) (hsegments : ∀ raw, (route raw).segments = [collection, raw])
    (hproper : ∀ raw, pathParam entity raw = .ok id → (route raw).Proper) :
    Names path collection id ↔
      ∃ raw, Route.ofPath? path = some (route raw) ∧ pathParam entity raw = .ok id := by
  have hpath (raw : String) : (route raw).toPath = "/v1/" ++ collection ++ "/" ++ raw := by
    rw [Route.toPath, hsegments, ← String.toList_inj]
    simp [String.intercalate_cons_cons]
  rw [lies_iff [collection] [] route (by simpa using hslash) hsegments hproper]
  simp only [Names, hpath]

theorem namesPage_iff {collection page entity : String} (route : String → Route) {id : Int64}
    (hslash : '/' ∉ collection.toList) (hpage : '/' ∉ page.toList)
    (hsegments : ∀ raw, (route raw).segments = [collection, raw, page])
    (hproper : ∀ raw, pathParam entity raw = .ok id → (route raw).Proper) :
    NamesPage path collection id page ↔
      ∃ raw, Route.ofPath? path = some (route raw) ∧ pathParam entity raw = .ok id := by
  have hpath (raw : String) :
      (route raw).toPath = "/v1/" ++ collection ++ "/" ++ raw ++ "/" ++ page := by
    rw [Route.toPath, hsegments, ← String.toList_inj]
    simp [String.intercalate_cons_cons]
  rw [lies_iff [collection] [page] route (by simpa using ⟨hslash, hpage⟩) hsegments hproper]
  simp only [NamesPage, hpath]

theorem names_posts_iff {id : Int64} :
    Names path "posts" id ↔
      ∃ raw, Route.ofPath? path = some (.post raw .itself) ∧ pathParam "post" raw = .ok id :=
  names_iff (.post · .itself) (by decide) (fun _ => rfl) fun _ hid =>
    ne_of_pathParam hid (by decide)

theorem names_comments_iff {id : Int64} :
    Names path "comments" id ↔
      ∃ raw, Route.ofPath? path = some (.comment raw) ∧ pathParam "comment" raw = .ok id :=
  names_iff .comment (by decide) (fun _ => rfl) fun _ hid => ne_of_pathParam hid (by decide)

theorem names_users_iff {id : Int64} :
    Names path "users" id ↔
      ∃ raw, Route.ofPath? path = some (.member (.user raw)) ∧ pathParam "user" raw = .ok id :=
  names_iff (.member <| .user ·) (by decide) (fun _ => rfl) fun _ hid =>
    ⟨ne_of_pathParam hid (by decide), ne_of_pathParam hid (by decide)⟩

theorem namesPage_comments_iff {id : Int64} :
    NamesPage path "posts" id "comments" ↔
      ∃ raw, Route.ofPath? path = some (.post raw .comments) ∧ pathParam "post" raw = .ok id :=
  namesPage_iff (.post · .comments) (by decide) (by decide) (fun _ => rfl) fun _ _ => trivial

theorem namesPage_follow_iff {id : Int64} :
    NamesPage path "users" id "follow" ↔
      ∃ raw, Route.ofPath? path = some (.member (.follow raw)) ∧ pathParam "user" raw = .ok id :=
  namesPage_iff (.member <| .follow ·) (by decide) (by decide) (fun _ => rfl) fun _ hid =>
    ne_of_pathParam hid (by decide)

theorem namesPage_unfollow_iff {id : Int64} :
    NamesPage path "users" id "unfollow" ↔
      ∃ raw, Route.ofPath? path = some (.member (.unfollow raw)) ∧ pathParam "user" raw = .ok id :=
  namesPage_iff (.member <| .unfollow ·) (by decide) (by decide) (fun _ => rfl) fun _ hid =>
    ne_of_pathParam hid (by decide)

theorem ofPath?_eq_posts_iff :
    Route.ofPath? path = some (.member .posts) ↔ path = "/v1/posts" :=
  Route.ofPath?_eq_some_iff_of_proper trivial (by decide)

/-! ## Paths of accounts -/

/-- The path is that of activations and a segment that stands for the token. -/
def NamesToken (path token : String) : Prop :=
  ∃ raw, path = "/v1/users/activate/" ++ raw ∧ raw ≠ "" ∧ '/' ∉ raw.toList ∧
    Percent.segment? raw = some token

theorem ofPath?_eq_registration_iff :
    Route.ofPath? path = some (.front .registration) ↔ path = "/v1/authentication/user" :=
  Route.ofPath?_eq_some_iff_of_proper trivial (by decide)

theorem ofPath?_eq_debugVars_iff :
    Route.ofPath? path = some (.front .debugVars) ↔ path = "/v1/debug/vars" :=
  Route.ofPath?_eq_some_iff_of_proper trivial (by decide)

theorem ofPath?_eq_token_iff :
    Route.ofPath? path = some (.front .token) ↔ path = "/v1/authentication/token" :=
  Route.ofPath?_eq_some_iff_of_proper trivial (by decide)

theorem namesToken_iff {token : String} :
    NamesToken path token ↔ ∃ raw, Route.ofPath? path = some (.front (.activation raw)) ∧
      pathText "token" raw = .ok token := by
  have hpath (raw : String) : Route.toPath (.front (.activation raw)) =
      "/v1/users/activate/" ++ raw := by
    rw [Route.toPath, ← String.toList_inj]
    simp [Route.segments, String.intercalate_cons_cons]
  simp only [NamesToken, Route.ofPath?_eq_some_iff, pathText_eq_ok_iff, hpath]
  constructor
  · rintro ⟨raw, rfl, hne, hnot, htoken⟩
    refine ⟨raw, ⟨hne, ?_, rfl⟩, htoken⟩
    simpa [Route.segments] using hnot
  · rintro ⟨raw, ⟨hne, hnot, rfl⟩, htoken⟩
    exact ⟨raw, rfl, hne, hnot raw (by simp [Route.segments]), htoken⟩

end Microblog.Service
