import Microblog.Proofs.Cache.Gateways
import Microblog.Proofs.Json.Entities
import Microblog.Proofs.Store.Dates

/-!
# Two caches that agree

A cache on a server and one in memory start empty over equal stores and make the
same moves. As long as no entry can be too old, they resolve every user alike
and read the store equally often, but for the password, which the server never
gets to know (`agreed_of_run`).
-/

namespace Microblog.Cache

open Account Store Time

variable {u : User} {id : Int64}

/-- The user as the server shows it. -/
def withoutPassword (u : User) : User := { u with password := .unknown }

namespace Server

/-! ## Keys and texts -/

/-- **Keys.** -/
theorem key_injective {id id' : Int64} (h : key id = key id') : id = id' := by
  have hnumeral : String.ofList (Json.writeInt id.toInt) = String.ofList (Json.writeInt id'.toInt) := by
    have hchars := congrArg String.toList h
    simp only [key, String.toList_append, List.append_cancel_left_eq] at hchars
    exact String.toList_inj.1 hchars
  have hread := congrArg Text.int64? hnumeral
  rw [Text.int64?_writeInt, Text.int64?_writeInt] at hread
  exact Option.some.inj hread

/-- The text that is kept for a user. -/
def textOf (u : User) : String := (Json.encode u).render

theorem textOf_ne_empty (u : User) : textOf u ≠ "" := by
  intro h
  have hchars := congrArg String.toList h
  rw [textOf, Json.Value.render, String.toList_ofList] at hchars
  cases hchars

/-- **Texts.** What was written for a user is read as the user, but for the password. -/
theorem readUser_textOf (h : Representable u.createdAt) :
    readUser (textOf u) = .ok (some (withoutPassword u)) := by
  have hread : Json.read (Text.Utf8.encode (textOf u)) = .ok (withoutPassword u) :=
    Json.read_encode (Json.readsBack_user h)
  rw [readUser, if_neg (textOf_ne_empty u)]
  simp only [hread]

/-! ## Commands -/

variable {s : Server} {now : Int}

theorem get_eq (h : s.refused ≠ some "GET") : UserCache.get id now s =
    ((match s.texts.get? (key id) with
      | some text => readUser text
      | none => .ok none), { s with log := .get (key id) :: s.log }) := by
  simp only [UserCache.get, execute, Command.verb, h, if_false]
  cases s.texts.get? (key id) <;> rfl

theorem set_eq : UserCache.set u now s =
    if s.refused = some "SET" then
      (.error .server, { s with log := .set (key u.id) (textOf u) ttlSecs :: s.log })
    else (.ok (), { s with
      log := .set (key u.id) (textOf u) ttlSecs :: s.log
      texts := s.texts.insert (key u.id) (textOf u) }) := by
  by_cases hset : s.refused = some "SET"
  · simp only [UserCache.set, execute, Command.verb, hset, if_true, textOf]
  · simp only [UserCache.set, execute, Command.verb, hset, if_false, textOf]

end Server

/-! ## Resolving over a server -/

section

variable {r : Gateway Server}

/-- The gateway after some commands, oldest last. -/
def Gateway.sent (r : Gateway Server) (cs : List Command) : Gateway Server :=
  { r with cache := { r.cache with log := cs ++ r.cache.log } }

theorem resolve_of_text (hget : r.cache.refused ≠ some "GET")
    (htext : r.cache.texts.get? (Server.key id) = some (Server.textOf u))
    (hu : Representable u.createdAt) :
    r.resolve id = (.ok (withoutPassword u), r.sent [.get (Server.key id)]) := by
  unfold Gateway.resolve resolveThrough
  simp only [Server.get_eq hget, htext, Server.readUser_textOf hu]
  rfl

theorem resolve_of_absent (hget : r.cache.refused ≠ some "GET")
    (htext : r.cache.texts.get? (Server.key id) = none) (hu : r.store.users.get? id = none) :
    r.resolve id = (.error (.store .notFound),
      { r.sent [.get (Server.key id)] with store := (r.store.getUser id).2 }) := by
  unfold Gateway.resolve resolveThrough getUser
  simp only [Server.get_eq hget, htext, hu]
  rfl

theorem resolve_of_refused (hset : r.cache.refused = some "SET")
    (htext : r.cache.texts.get? (Server.key id) = none) (hu : r.store.users.get? id = some u) :
    r.resolve id = (.error (.cache .server),
      { r.sent [.set (Server.key u.id) (Server.textOf u) ttlSecs, .get (Server.key id)] with
        store := (r.store.getUser id).2 }) := by
  have hget : r.cache.refused ≠ some "GET" := by simp [hset]
  unfold Gateway.resolve resolveThrough getUser
  simp only [Server.get_eq hget, htext, hu, Server.set_eq, if_pos hset]
  rfl

theorem resolve_of_set (hnone : r.cache.refused = none)
    (htext : r.cache.texts.get? (Server.key id) = none) (hu : r.store.users.get? id = some u) :
    r.resolve id = (.ok u,
      let r' := r.sent [.set (Server.key u.id) (Server.textOf u) ttlSecs, .get (Server.key id)]
      { r' with
        store := (r.store.getUser id).2
        cache := { r'.cache with
          texts := r.cache.texts.insert (Server.key u.id) (Server.textOf u) } }) := by
  have hget : r.cache.refused ≠ some "GET" := by simp [hnone]
  have hset : r.cache.refused ≠ some "SET" := by simp [hnone]
  unfold Gateway.resolve resolveThrough getUser
  simp only [Server.get_eq hget, htext, hu, Server.set_eq, if_neg hset]
  rfl

end

/-! ## The caches side by side -/

variable {m : Gateway Memory} {r : Gateway Server} {began : Int}

/-- The server keeps a text for each entry in memory, and no entry is from before the beginning. -/
structure Agree (began : Int) (m : Gateway Memory) (r : Gateway Server) : Prop where
  store : r.store = m.store
  now : r.now = m.now
  past : began ≤ m.now
  reachable : Store.Reachable m.store
  refused : r.cache.refused = if m.cache.writesFail then some "SET" else none
  texts : ∀ id, r.cache.texts.get? (Server.key id) =
    (m.cache.entries.get? id).map fun e => Server.textOf e.user
  entries : m.cache.entries.All fun e => Representable e.user.createdAt ∧ began ≤ e.storedAt

/-- Every entry is still used. -/
theorem Agree.get?_eq (h : Agree began m r) (hsoon : m.now < began + ttl) (id : Int64) :
    m.cache.get? id m.now = (m.cache.entries.get? id).map (·.user) := by
  unfold Memory.get?
  cases he : m.cache.entries.get? id with
  | none => rfl
  | some e =>
    have hstored := (h.entries id e he).2
    have hpositive : 0 < ttl := by decide
    have hfresh : Memory.fresh m.now e = true := decide_eq_true (by omega)
    rw [Option.filter_some, if_pos hfresh]

theorem Agree.get_not_refused (h : Agree began m r) : r.cache.refused ≠ some "GET" := by
  rw [h.refused]
  split <;> simp

theorem Agree.texts_of_miss (h : Agree began m r) (hsoon : m.now < began + ttl)
    (hmiss : m.cache.get? id m.now = none) : r.cache.texts.get? (Server.key id) = none := by
  rw [h.get?_eq hsoon, Option.map_eq_none_iff] at hmiss
  rw [h.texts, hmiss]
  rfl

/-- What the two caches make of a user: the same, but for the password of a user whom the server
has, and the server is told of a stored user only after it has been asked in vain. -/
structure SameAnswer (m : Gateway Memory) (r : Gateway Server) (id : Int64) : Prop where
  outcome : (r.resolve id).1 =
    if (r.cache.texts.get? (Server.key id)).isSome then (m.resolve id).1.map withoutPassword
    else (m.resolve id).1
  store : (r.resolve id).2.store = (m.resolve id).2.store
  sent : (r.resolve id).2.cache.log = .get (Server.key id) :: r.cache.log ∨
    r.cache.texts.get? (Server.key id) = none ∧ ∃ u, r.store.users.get? id = some u ∧
      (r.resolve id).2.cache.log =
        .set (Server.key id) (Server.textOf u) ttlSecs :: .get (Server.key id) :: r.cache.log

/-- **Resolving.** -/
theorem Agree.resolve (h : Agree began m r) (hsoon : m.now < began + ttl) (id : Int64) :
    SameAnswer m r id ∧ Agree began (m.resolve id).2 (r.resolve id).2 := by
  have hread : Store.Reachable (m.store.getUser id).2 := h.reachable.call (.getUser id)
  have hget := h.get_not_refused
  obtain ⟨outcome, m', hm, hends⟩ := resolves m id
  rw [hm]
  cases hends with
  | @hit u hit =>
    obtain ⟨e, he, rfl⟩ := Option.map_eq_some_iff.1 ((h.get?_eq hsoon id).symm.trans hit)
    have htext : r.cache.texts.get? (Server.key id) = some (Server.textOf e.user) := by
      rw [h.texts, he]
      rfl
    have hr := resolve_of_text hget htext (h.entries id e he).1
    refine ⟨⟨by rw [hr, hm, htext]; rfl, by rw [hr, hm]; exact h.store, .inl (by rw [hr]; rfl)⟩, ?_⟩
    rw [hr]
    exact ⟨h.store, h.now, h.past, h.reachable, h.refused, h.texts, h.entries⟩
  | absent miss absent =>
    have htext := h.texts_of_miss hsoon miss
    have hr := resolve_of_absent hget htext (by rw [h.store]; exact absent)
    refine ⟨⟨by rw [hr, hm, htext]; rfl, by rw [hr, hm, h.store], .inl (by rw [hr]; rfl)⟩, ?_⟩
    rw [hr]
    exact ⟨by rw [h.store], h.now, h.past, hread, h.refused, h.texts, h.entries⟩
  | @unwritten u miss stored fails =>
    have hid := (h.reachable.numbered.users id u stored).1
    have htext := h.texts_of_miss hsoon miss
    have hstored : r.store.users.get? id = some u := by rw [h.store]; exact stored
    have hr := resolve_of_refused (by rw [h.refused, if_pos fails]) htext hstored
    rw [hid] at hr
    refine ⟨⟨by rw [hr, hm, htext]; rfl, by rw [hr, hm, h.store],
      .inr ⟨htext, u, hstored, by rw [hr]; rfl⟩⟩, ?_⟩
    rw [hr]
    exact ⟨by rw [h.store], h.now, h.past, hread, h.refused, h.texts, h.entries⟩
  | @cached u miss stored writes =>
    have hid := (h.reachable.numbered.users id u stored).1
    have htext := h.texts_of_miss hsoon miss
    have hstored : r.store.users.get? id = some u := by rw [h.store]; exact stored
    have hr := resolve_of_set (by rw [h.refused, writes]; rfl) htext hstored
    rw [hid] at hr ⊢
    refine ⟨⟨by rw [hr, hm, htext]; rfl, by rw [hr, hm, h.store],
      .inr ⟨htext, u, hstored, by rw [hr]; rfl⟩⟩, ?_⟩
    rw [hr]
    refine ⟨by rw [h.store], h.now, h.past, hread, h.refused, fun j => ?_,
      h.entries.insert ⟨h.reachable.dated.users id u stored, h.past⟩⟩
    rw [Table.get?_insert, Table.get?_insert]
    by_cases hj : j = id
    · rw [if_pos hj, if_pos (congrArg Server.key hj)]
      rfl
    · rw [if_neg hj, if_neg fun hkey => hj (Server.key_injective hkey), h.texts]

theorem Agree.step (h : Agree began m r) (hsoon : m.now < began + ttl) (move : Move) :
    Agree began (m.step move) (r.step move) := by
  cases move with
  | call c =>
    refine ⟨?_, h.now, h.past, h.reachable.call c, h.refused, h.texts, h.entries⟩
    simp only [Gateway.step, h.store]
  | resolve id => exact (h.resolve hsoon id).2
  | failWrites fail =>
    exact ⟨h.store, h.now, h.past, h.reachable, rfl, h.texts, h.entries⟩
  | wait nanos =>
    refine ⟨h.store, ?_, Int.le_trans h.past (Gateway.now_step m (.wait nanos)), h.reachable,
      h.refused, h.texts, h.entries⟩
    simp only [Gateway.step, h.now]

theorem Agree.after (h : Agree began m r) (ms : List Move)
    (hsoon : (m.after ms).now < began + ttl) : Agree began (m.after ms) (r.after ms) := by
  induction ms generalizing m r with
  | nil => exact h
  | cons move ms ih =>
    have hnow := Int.le_trans (Gateway.now_step m move) (Gateway.now_after (m.step move) ms)
    exact ih (h.step (Int.lt_of_le_of_lt hnow hsoon) move) hsoon

/-- **Agreement.** Over equal stores, and while no entry can have had its time, the same moves
lead to equal stores, and each user is resolved alike. No two users share a key. -/
theorem agreed_of_run (hs : Store.Reachable m.store) (hstore : r.store = m.store)
    (hnow : r.now = m.now) (hm : m.cache = .empty) (hr : r.cache = .empty) (ms : List Move)
    (hsoon : (m.after ms).now < m.now + ttl) :
    (r.after ms).store = (m.after ms).store ∧
      (∀ id, SameAnswer (m.after ms) (r.after ms) id) ∧
      ∀ id id', Server.key id = Server.key id' → id = id' := by
  have hstart : Agree m.now m r := by
    refine ⟨hstore, hnow, Int.le_refl _, hs, ?_, fun id => ?_, ?_⟩
    · rw [hm, hr]
      rfl
    · rw [hm, hr]
      rfl
    · rw [hm]
      rintro id e ⟨⟩
  have hend := hstart.after ms hsoon
  exact ⟨hend.store, fun id => (hend.resolve hsoon id).1, fun _ _ => Server.key_injective⟩

/-- A user is read, renamed and looked for again. -/
def rereadingMoves : List Move :=
  [.call (.insertUser ⟨"\"alice\"", "alice@example.com", ⟨"$argon2id$"⟩⟩ "user" true),
    .resolve 101, .call (.renameUser 101 "alicia"), .wait (ttl - 1)]

def memoryStart : Gateway Memory := ⟨initial, .empty, 0⟩

def serverStart : Gateway Server := ⟨initial, .empty, 0⟩

/-- Both caches show the old name, and one the hash of the password. -/
theorem agreed_rereadingMoves :
    ((memoryStart.after rereadingMoves).now < memoryStart.now + ttl ∧
      (serverStart.after rereadingMoves).store = (memoryStart.after rereadingMoves).store ∧
      SameAnswer (memoryStart.after rereadingMoves) (serverStart.after rereadingMoves) 101) ∧
    ((memoryStart.after rereadingMoves).resolve 101).1.toOption.map
        (fun u => (u.username, u.password.text)) = some ("\"alice\"", "$argon2id$") ∧
      ((serverStart.after rereadingMoves).resolve 101).1.toOption.map
        (fun u => (u.username, u.password.text)) = some ("\"alice\"", "") := by
  have hsoon : (memoryStart.after rereadingMoves).now < memoryStart.now + ttl := by decide
  obtain ⟨hstore, hsame, -⟩ := agreed_of_run (m := memoryStart) (r := serverStart) ⟨[], rfl⟩ rfl
    rfl rfl rfl rereadingMoves hsoon
  refine ⟨⟨hsoon, hstore, hsame 101⟩, by decide, ?_⟩
  rw [(hsame 101).outcome]
  decide

end Microblog.Cache
