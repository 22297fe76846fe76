import Microblog.Cache.KeyValue
import Microblog.Cache.Memory
import Microblog.Proofs.Store.Calls

/-!
# Runs of gateways

A `Gateway` is a store behind a cache at some instant. It moves by calls of the
store, which nobody tells the cache of, by resolving users, by switching whether
the cache can be written, and by waiting. Whatever the cache, a resolve changes
nothing but the number of reads in the store (`store_resolve`); what it comes to
over a cache in memory is one of four ends (`resolves`).
-/

namespace Microblog.Cache

open Account Store

/-- A cache whose writes can be made to fail. -/
class Breakable (C : Type) extends UserCache C where
  failWrites : Bool → C → C

instance : Breakable Memory where
  failWrites fail m := { m with writesFail := fail }

instance : Breakable Server where
  failWrites fail s := { s with refused := if fail then some "SET" else none }

structure Gateway (C : Type) where
  store : Store
  cache : C
  now : Int

inductive Move where
  | call (c : Store.Call)
  | resolve (id : Int64)
  | failWrites (fail : Bool)
  | wait (nanos : Nat)

namespace Gateway

variable {C : Type} [Breakable C]

/-- Reads a user. -/
def resolve (g : Gateway C) (id : Int64) : Except ResolveFault User × Gateway C :=
  let r := resolveThrough id g.now g.cache g.store
  (r.1, ⟨r.2.2, r.2.1, g.now⟩)

/-- The gateway after a move. -/
def step (g : Gateway C) : Move → Gateway C
  | .call c => { g with store := c.run g.store }
  | .resolve id => (g.resolve id).2
  | .failWrites fail => { g with cache := Breakable.failWrites fail g.cache }
  | .wait nanos => { g with now := g.now + nanos }

/-- The gateway after some moves. -/
def after (g : Gateway C) (ms : List Move) : Gateway C := ms.foldl step g

@[simp] theorem after_nil (g : Gateway C) : g.after [] = g := rfl

theorem after_append (g : Gateway C) (ms ns : List Move) :
    g.after (ms ++ ns) = (g.after ms).after ns := List.foldl_append

/-- What each move keeps is kept by a run. -/
theorem after_keeps {P : Gateway C → Prop} (hstep : ∀ g m, P g → P (g.step m)) {g : Gateway C}
    (h : P g) (ms : List Move) : P (g.after ms) := by
  induction ms generalizing g with
  | nil => exact h
  | cons m ms ih => exact ih (hstep g m h)

/-! ## Any cache -/

/-- **Stores.** A resolve reads a user, or leaves the store as it is. -/
theorem store_resolve (g : Gateway C) (id : Int64) :
    (g.resolve id).2.store = g.store ∨ (g.resolve id).2.store = (g.store.getUser id).2 := by
  change (resolveThrough id g.now g.cache g.store).2.2 = _ ∨
    (resolveThrough id g.now g.cache g.store).2.2 = _
  unfold resolveThrough
  split
  · exact .inl rfl
  · exact .inl rfl
  · split
    · rename_i hread
      exact .inr (congrArg Prod.snd hread.symm)
    · rename_i hread
      split <;> exact .inr (congrArg Prod.snd hread.symm)

theorem now_step (g : Gateway C) (m : Move) : g.now ≤ (g.step m).now := by
  cases m with
  | wait nanos => exact Int.le_add_of_nonneg_right (Int.natCast_nonneg nanos)
  | _ => exact Int.le_refl _

/-- Time does not go back. -/
theorem now_after (g : Gateway C) (ms : List Move) : g.now ≤ (g.after ms).now :=
  after_keeps (P := fun g' => g.now ≤ g'.now)
    (fun g' m h => Int.le_trans h (now_step g' m)) (Int.le_refl _) ms

/-- The store of a gateway is one that calls lead to. -/
theorem reachable_after {g : Gateway C} (h : Store.Reachable g.store) (ms : List Move) :
    Store.Reachable (g.after ms).store := by
  refine after_keeps (P := fun g => Store.Reachable g.store) (fun g m h => ?_) h ms
  cases m with
  | call c => exact h.call c
  | resolve id =>
    rcases store_resolve g id with he | he <;> rw [step, he]
    · exact h
    · exact h.call (.getUser id)
  | failWrites fail => exact h
  | wait nanos => exact h

end Gateway

/-! ## A cache in memory -/

/-- What a resolve comes to, and the gateway that it leaves. -/
inductive Resolves (g : Gateway Memory) (id : Int64) :
    Except ResolveFault User → Gateway Memory → Prop
  | hit {u : User} (hit : g.cache.get? id g.now = some u) : Resolves g id (.ok u) g
  | absent (miss : g.cache.get? id g.now = none) (absent : g.store.users.get? id = none) :
    Resolves g id (.error (.store .notFound)) { g with store := (g.store.getUser id).2 }
  | unwritten {u : User} (miss : g.cache.get? id g.now = none)
    (stored : g.store.users.get? id = some u) (fails : g.cache.writesFail = true) :
    Resolves g id (.error (.cache .server)) { g with store := (g.store.getUser id).2 }
  | cached {u : User} (miss : g.cache.get? id g.now = none)
    (stored : g.store.users.get? id = some u) (writes : g.cache.writesFail = false) :
    Resolves g id (.ok u) { g with
      store := (g.store.getUser id).2
      cache := { g.cache with entries := g.cache.entries.insert u.id ⟨u, g.now⟩ } }

/-- **Resolving.** -/
theorem resolves (g : Gateway Memory) (id : Int64) :
    ∃ outcome g', g.resolve id = (outcome, g') ∧ Resolves g id outcome g' := by
  refine ⟨_, _, rfl, ?_⟩
  unfold resolveThrough
  simp only [UserCache.get, UserCache.set]
  cases hget : g.cache.get? id g.now with
  | some u => exact .hit hget
  | none =>
    unfold getUser
    cases hu : g.store.users.get? id with
    | none => exact .absent hget hu
    | some u =>
      by_cases hfail : g.cache.writesFail = true
      · simp only [if_pos hfail]
        exact .unwritten hget hu hfail
      · simp only [if_neg hfail]
        exact .cached hget hu (Bool.eq_false_iff.2 hfail)

end Microblog.Cache
