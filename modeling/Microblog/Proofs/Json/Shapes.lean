import Microblog.Json.Shaped
import Microblog.Proofs.Json.Tokens

/-!
# Shapes that are read back

A value of a shape reads back if its reader gives it from the text that is written for it
(`ReadsBack`). A record does so if its fields do and have keys of their own
(`readsBack_record`): each member is fed into its own field and leaves the others.
-/

namespace Microblog.Json

open Text

/-- The value is read from its text, if nothing goes on with it. -/
def ReadsBack (s : Shape) (v : s.Val) : Prop :=
  ∀ rest, Stops rest → Reads (s.reader (utf8 (s.encode v).write ++ rest)) v rest

theorem readsBack_string (s : String) : ReadsBack .string s := fun rest _ => by
  rw [Shape.reader, Shape.encode, Value.write]
  exact readString_writeString _ s rest

theorem readsBack_int64 (i : Int64) : ReadsBack .int64 i := fun rest hrest => by
  have hlo := i.le_toInt
  have hhi := i.toInt_lt
  rw [Shape.encode, Value.write, Shape.reader]
  have hread := (@readInteger_writeInt (-0x8000000000000000) 0x7fffffffffffffff i.toInt "i64" rest
    (by omega) (by omega) (by omega) (by omega) hrest).map Int64.ofInt
  rwa [Int64.ofInt_toInt] at hread

theorem readsBack_int32 (i : Int32) : ReadsBack .int32 i := fun rest hrest => by
  have hlo := i.le_toInt
  have hhi := i.toInt_lt
  rw [Shape.encode, Value.write, Shape.reader]
  have hread := (@readInteger_writeInt (-0x80000000) 0x7fffffff i.toInt "i32" rest
    (by omega) (by omega) (by omega) (by omega) hrest).map Int32.ofInt
  rwa [Int32.ofInt_toInt] at hread

theorem readsBack_bool (b : Bool) : ReadsBack .bool b := fun rest _ => by
  rw [Shape.encode, Shape.reader]
  cases b
  · change Reads (readBool (0x66 :: ([0x61, 0x6c, 0x73, 0x65] ++ rest))) false rest
    exact Reads.afterSpace ⟨by simp only [List.length_append]; omega, rfl⟩ (by decide)
  · change Reads (readBool (0x74 :: ([0x72, 0x75, 0x65] ++ rest))) true rest
    exact Reads.afterSpace ⟨by simp only [List.length_append]; omega, rfl⟩ (by decide)

/-! ## Records -/

namespace Fields

/-- All fields are there. -/
def full : (fs : Fields) → fs.Val → fs.Partial
  | .nil, () => ()
  | .cons _ _ _ rest, (v, vs) => (some v, rest.full vs)

theorem complete_full (fs : Fields) (v : fs.Val) : fs.complete (fs.full v) = .ok v := by
  induction fs using Fields.rec (motive_1 := fun _ => True) with
  | nil => rfl
  | cons key presence s rest _ ih =>
    rw [full, complete, ih v.2]
    rfl
  | _ => trivial

/-- The keys of the fields. -/
def keys : Fields → List String
  | .nil => []
  | .cons key _ _ rest => key :: rest.keys

theorem keys_encode (fs : Fields) (v : fs.Val) : (fs.encode v).map Prod.fst = fs.keys := by
  induction fs using Fields.rec (motive_1 := fun _ => True) with
  | nil => rfl
  | cons key presence s rest _ ih => rw [encode, keys, List.map_cons, ih v.2]
  | _ => trivial

/-- Each field reads back. -/
def ReadBack : (fs : Fields) → fs.Val → Prop
  | .nil, () => True
  | .cons _ _ s rest, (v, vs) => ReadsBack s v ∧ rest.ReadBack vs

/-- Some members, fed one after the other, lead from the fields read so far to others. -/
inductive Feeds (fs : Fields) (readers : fs.Readers) :
    fs.Partial → List (String × Value) → fs.Partial → Prop
  | nil (p : fs.Partial) : Feeds fs readers p [] p
  | cons {p q r : fs.Partial} {key : String} {v : Value} {ms : List (String × Value)}
    (feed : ∀ rest, Stops rest →
      Reads (fs.feed readers key p (0x3a :: (utf8 v.write ++ rest))) (.ok q) rest)
    (feeds : Feeds fs readers q ms r) : Feeds fs readers p ((key, v) :: ms) r

variable {fs : Fields} {readers : fs.Readers} {p q : fs.Partial} {ms : List (String × Value)}

theorem feed_of_ne {key k : String} (h : k ≠ key) {presence : Presence} {s : Shape}
    (read : Reader s.Val) (v : Option s.Val) (bs : Bytes) :
    (Fields.cons key presence s fs).feed (read, readers) k (v, p) bs =
      (fs.feed readers k p bs).map (·.map fun r => r.map fun vs => (v, vs)) := if_neg h

theorem feed_self {key : String} {presence : Presence} {s : Shape} (read : Reader s.Val)
    (bs : Bytes) :
    (Fields.cons key presence s fs).feed (read, readers) key (none, p) bs =
      (memberValue key read bs).map (·.map fun v => .ok (some v, p)) := if_pos rfl

/-- Members with other keys leave a field as it is. -/
theorem Feeds.behind {key : String} {presence : Presence} {s : Shape} (h : Feeds fs readers p ms q)
    (hkey : key ∉ ms.map Prod.fst) (read : Reader s.Val) (v : Option s.Val) :
    Feeds (.cons key presence s fs) (read, readers) (v, p) ms (v, q) := by
  induction h with
  | nil p => exact .nil _
  | @cons p q r k w ms feed feeds ih =>
    rw [List.map_cons, List.mem_cons, not_or] at hkey
    refine .cons (fun rest hrest => ?_) (ih hkey.2)
    have hread := (feed rest hrest).map fun (x : Except Cause fs.Partial) => x.map fun vs => (v, vs)
    rwa [feed_of_ne (Ne.symm hkey.1)]

theorem memberValue_of_reads {α : Type} {read : Reader α} {a : α} {bs rest : Bytes} (key : String)
    (h : Reads (read bs) a rest) : Reads (memberValue key read (0x3a :: bs)) a rest := by
  have hcolon : Reads (colon (0x3a :: bs)) () bs := by
    unfold colon
    split
    · rename_i hnil
      rw [skipSpace_cons (by decide)] at hnil
      cases hnil
    · rename_i c more hcons
      rw [skipSpace_cons (by decide)] at hcons
      cases hcons
      exact ⟨_, rfl⟩
  obtain ⟨hlt, hread⟩ := h
  obtain ⟨hlt', hcolon⟩ := hcolon
  refine ⟨by simp only [List.length_cons]; omega, ?_⟩
  rw [memberValue, hcolon]
  simp only [hread]
  rfl

/-- **Feeding.** The members of a record fill its fields. -/
theorem feeds_encode (fs : Fields) (v : fs.Val) (hkeys : fs.keys.Nodup) (hv : fs.ReadBack v) :
    Feeds fs fs.readers fs.start (fs.encode v) (fs.full v) := by
  induction fs using Fields.rec (motive_1 := fun _ => True) with
  | nil => exact .nil _
  | cons key presence s rest _ ih =>
    rw [keys, List.nodup_cons] at hkeys
    have hrest := ih v.2 hkeys.2 hv.2
    rw [encode, full, readers, start]
    refine .cons (fun more hmore => ?_) (hrest.behind ?_ s.reader (some v.1))
    · rw [feed_self]
      exact (memberValue_of_reads key (hv.1 more hmore)).map fun w =>
        (Except.ok (some w, rest.start) : Except Cause (Fields.cons key presence s rest).Partial)
    · rw [keys_encode]
      exact hkeys.1
  | _ => trivial

/-! ## The text of an object -/

theorem stops_writeMembers (ms : List (String × Value)) (rest : Bytes) :
    Stops (utf8 (Value.writeMembers ms) ++ rest) := by
  cases ms with
  | nil =>
    rw [Value.writeMembers, utf8_cons_of_lt (by decide)]
    rintro b ⟨⟩
    decide
  | cons m ms =>
    rw [Value.writeMembers, List.cons_append, List.cons_append, utf8_cons_of_lt (by decide)]
    rintro b ⟨⟩
    decide

/-- The text of a member: its key, a colon and its value. -/
def memberText (m : String × Value) : List Char := writeString m.1 ++ ':' :: m.2.write

/-- Where the key of a member is next, it is read, and its colon and value follow. -/
theorem nextKey_memberText (m : String × Value) (rest : Bytes) :
    Reads (nextKey true (utf8 (memberText m) ++ rest)) (some m.1)
        (0x3a :: (utf8 m.2.write ++ rest)) ∧
      Reads (nextKey false (0x2c :: (utf8 (memberText m) ++ rest))) (some m.1)
        (0x3a :: (utf8 m.2.write ++ rest)) := by
  have htext : utf8 (memberText m) ++ rest =
      utf8 (writeString m.1) ++ (0x3a :: (utf8 m.2.write ++ rest)) := by
    rw [memberText, utf8_append, utf8_cons_of_lt (c := ':') (by decide), List.append_assoc]
    rfl
  obtain ⟨bs, hbs, hreads⟩ := stringBody_writeString m.1 (0x3a :: (utf8 m.2.write ++ rest))
  rw [htext, hbs]
  have hquote : skipSpace (0x22 :: bs) = 0x22 :: bs := skipSpace_cons (by decide)
  have hcomma : skipSpace (0x2c :: 0x22 :: bs) = 0x2c :: 0x22 :: bs := skipSpace_cons (by decide)
  constructor
  · unfold nextKey
    split
    · rename_i hnil
      rw [hquote] at hnil
      cases hnil
    · rename_i c more hcons
      rw [hquote] at hcons
      cases hcons
      exact (hreads.map some).mono _
  · unfold nextKey
    split
    · rename_i hnil
      rw [hcomma] at hnil
      cases hnil
    · rename_i c more hcons
      rw [hcomma] at hcons
      cases hcons
      simp only [Bool.false_eq_true, if_false, if_true]
      rw [if_neg (by decide)]
      split
      · rename_i hnil
        rw [hquote] at hnil
        cases hnil
      · rename_i c' more' hcons
        rw [hquote] at hcons
        cases hcons
        exact (hreads.map some).mono _

theorem nextKey_brace (first : Bool) (rest : Bytes) :
    Reads (nextKey first (0x7d :: rest)) none (0x7d :: rest) := by
  unfold nextKey
  split
  · rename_i hnil
    rw [skipSpace_cons (by decide)] at hnil
    cases hnil
  · rename_i c more hcons
    rw [skipSpace_cons (by decide)] at hcons
    cases hcons
    exact ⟨_, rfl⟩

theorem membersFrom_end {n : Nat} (readers : fs.Readers) (first : Bool) (p : fs.Partial)
    (rest : Bytes) (hn : (0x7d :: rest : Bytes).length < n) :
    Reads (fs.membersFrom readers first p (0x7d :: rest) hn) (.ok p) (0x7d :: rest) := by
  obtain ⟨hlt, he⟩ := nextKey_brace first rest
  rw [membersFrom]
  refine ⟨by omega, ?_⟩
  simp only [he]

/-- One member. -/
theorem membersFrom_step {n : Nat} {first : Bool} {key : String} {r : Except Cause fs.Partial}
    {bs rest rest' more : Bytes} (hkey : Reads (nextKey first bs) (some key) rest)
    (hfeed : Reads (fs.feed readers key p rest) (.ok q) rest') (hlt : rest'.length < bs.length)
    (hmore : ∀ hn, Reads (fs.membersFrom readers false q rest' (n := n) hn) r more)
    (hn : bs.length < n) : Reads (fs.membersFrom readers first p bs hn) r more := by
  obtain ⟨hkeylt, hkey⟩ := hkey
  obtain ⟨hfeedlt, hfeed⟩ := hfeed
  rw [membersFrom]
  simp only [hkey, hfeed, hlt, dif_pos]
  exact hmore _

/-- Members are read up to the brace behind them. -/
theorem membersFrom_of_feeds (h : Feeds fs readers p ms q) (rest : Bytes) {n : Nat}
    (hn : (utf8 (Value.writeMembers ms) ++ rest).length < n) :
    Reads (fs.membersFrom readers false p (utf8 (Value.writeMembers ms) ++ rest) hn) (.ok q)
      (0x7d :: rest) := by
  induction h with
  | nil p => exact membersFrom_end readers false p rest hn
  | @cons p q r key v ms feed _ ih =>
    have htext : utf8 (Value.writeMembers ((key, v) :: ms)) ++ rest =
        0x2c :: (utf8 (memberText (key, v)) ++ (utf8 (Value.writeMembers ms) ++ rest)) := by
      have hwrite : Value.writeMembers ((key, v) :: ms) =
          ',' :: (memberText (key, v) ++ Value.writeMembers ms) := by
        simp [Value.writeMembers, memberText]
      rw [hwrite, utf8_cons_of_lt (by decide), utf8_append, List.cons_append, List.append_assoc]
      rfl
    revert hn
    rw [htext]
    intro hn
    refine membersFrom_step (nextKey_memberText (key, v) _).2 (feed _ (stops_writeMembers ms rest))
      ?_ ih hn
    simp only [List.length_cons, List.length_append]
    omega

/-- An object is read from its first brace to its last. -/
theorem membersFrom_object (h : Feeds fs readers p ms q) (rest : Bytes) :
    ∃ bs, utf8 (Value.object ms).write ++ rest = 0x7b :: bs ∧
      ∀ {n : Nat} (hn : bs.length < n),
        Reads (fs.membersFrom readers true p bs hn) (.ok q) (0x7d :: rest) := by
  cases h with
  | nil => exact ⟨0x7d :: rest, rfl, fun hn => membersFrom_end readers true p rest hn⟩
  | @cons _ q' _ key v ms feed feeds =>
    refine ⟨utf8 (memberText (key, v)) ++ (utf8 (Value.writeMembers ms) ++ rest), ?_, fun hn => ?_⟩
    · have hwrite : (Value.object ((key, v) :: ms)).write =
          '\x7b' :: (memberText (key, v) ++ Value.writeMembers ms) := by
        simp [Value.write, memberText]
      rw [hwrite, utf8_cons_of_lt (by decide), utf8_append, List.cons_append, List.append_assoc]
      rfl
    · refine membersFrom_step (nextKey_memberText (key, v) _).1
        (feed _ (stops_writeMembers ms rest)) ?_ (membersFrom_of_feeds feeds rest) hn
      have hkey : 0 < (utf8 (memberText (key, v))).length := by
        rw [memberText, writeString, List.cons_append, List.cons_append,
          utf8_cons_of_lt (by decide), List.length_cons]
        omega
      simp only [List.length_append]
      omega

end Fields

theorem conclude_closeObject {α : Type} (a : α) (rest : Bytes) :
    Reads (conclude (.ok a) (closeObject (0x7d :: rest))) a rest := by
  unfold closeObject
  split
  · rename_i hnil
    rw [skipSpace_cons (by decide)] at hnil
    cases hnil
  · rename_i c more hcons
    rw [skipSpace_cons (by decide)] at hcons
    cases hcons
    exact ⟨_, rfl⟩

/-- **Records.** -/
theorem readsBack_record (name : String) {fs : Fields} {v : fs.Val} (hkeys : fs.keys.Nodup)
    (hv : fs.ReadBack v) : ReadsBack (.record name fs) v := fun rest _ => by
  obtain ⟨bs, hbs, hmembers⟩ := Fields.membersFrom_object (Fields.feeds_encode fs v hkeys hv) rest
  rw [Shape.encode, hbs, Shape.reader, Fields.readRecord]
  refine Reads.afterSpace ?_ (by decide)
  rw [if_neg (by decide), if_pos rfl]
  refine (hmembers (length_lt_succ bs)).bind fun hlt => ?_
  have hcomplete : (Except.ok (fs.full v) : Except Cause fs.Partial).bind fs.complete = .ok v :=
    fs.complete_full v
  simp only [hcomplete]
  exact (conclude_closeObject v rest).mono _

/-! ## Whole texts -/

theorem whole_of_reads {α : Type} {read : Reader α} {a : α} {bs : Bytes}
    (h : Reads (read bs) a []) : read.whole bs = .ok a := by
  obtain ⟨hlt, he⟩ := h
  rw [Reader.whole, he]
  rfl

/-- **Texts.** A value that reads back is read from the text that is written for it. -/
theorem read_encode {α : Type} [Shaped α] {a : α} (h : ReadsBack (Shaped.shape α) (Shaped.toVal a)) :
    read (Utf8.encode (encode a).render) = .ok (Shaped.ofVal (Shaped.toVal a) : α) := by
  have hstops : Stops [] := by
    rintro b ⟨⟩
  have hread := h [] hstops
  rw [List.append_nil] at hread
  rw [Value.render, Utf8.encode_ofList, Json.read, Shape.read]
  exact congrArg (·.map Shaped.ofVal) (whole_of_reads hread)

end Microblog.Json
