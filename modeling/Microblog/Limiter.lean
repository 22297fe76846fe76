import Microblog.Store.Table

/-!
# Limits per client

A client may make some number of calls in a window of time. The window begins
with the first call, and the first call after its end begins the next one.
Windows that have ended are swept away at most once in the length of a window.
All times are in nanoseconds; an instant is counted from any fixed one.
-/

namespace Microblog

open Store (Table)

/-- A window that began at some instant, with the calls counted in it. -/
structure Window where
  start : Int
  count : Nat
  deriving DecidableEq, Repr

structure Limiter where
  /-- The calls of a client in one window. -/
  limit : Nat
  /-- The length of a window. -/
  length : Nat
  clients : Table String Window
  lastSweep : Int
  deriving DecidableEq

namespace Limiter

/-- A limiter without clients, made at some instant. -/
def new (limit length : Nat) (now : Int) : Limiter := ⟨limit, length, .empty, now⟩

/-- The time from one instant to another; none, if that is the earlier one. -/
def elapsed (since now : Int) : Nat := (now - since).toNat

/-- Whether a window has ended. -/
def ended (l : Limiter) (now : Int) (w : Window) : Bool := l.length ≤ elapsed w.start now

/-- Sweeps if the last time is long enough ago. -/
def sweep (l : Limiter) (now : Int) : Limiter :=
  if l.length ≤ elapsed l.lastSweep now then
    { l with clients := l.clients.filter fun _ w => !l.ended now w, lastSweep := now }
  else l

/-- The window in which a client's call falls. -/
def current (l : Limiter) (now : Int) (w : Option Window) : Window :=
  match w with
  | none => ⟨now, 0⟩
  | some w => if l.ended now w then ⟨now, 0⟩ else w

/-- Counts a call, or refuses it with the time that is left of the window. -/
def allow (l : Limiter) (key : String) (now : Int) : Except Nat Unit × Limiter :=
  let l := l.sweep now
  let w := l.current now (l.clients.get? key)
  if w.count < l.limit then
    (.ok (), { l with clients := l.clients.insert key { w with count := w.count + 1 } })
  else
    (.error (l.length - elapsed w.start now), { l with clients := l.clients.insert key w })

/-- How many clients have a window. -/
def tracked (l : Limiter) : Nat := l.clients.entries.length

end Limiter

/-- The whole seconds after which a refused client is admitted, at least one; `none` if they
have no 64-bit number. -/
def retryAfter? (left : Nat) : Option Nat :=
  let seconds := max 1 ((left + 999999999) / 1000000000)
  if seconds < 0x10000000000000000 then some seconds else none

end Microblog
