import Microblog.Proofs.Store.Calls
import Microblog.Proofs.Store.Tables
import Microblog.Proofs.Time.ReadBack

/-!
# Times that the store gives

The clock of the store starts after the year 0, shows UTC and stops before the
year 10000. So whatever is created has a time that can be written
(`Reachable.dated`).
-/

namespace Microblog

open Time

/-! ## Years of the clock -/

namespace Time

/-- A timestamp of UTC between the years 0 and 9999. -/
structure InUtc (t : Timestamp) : Prop where
  utc : t.offset = 0
  begun : yearStart 0 ≤ t.localDay
  ended : t.localDay < yearStart 10000

theorem InUtc.representable {t : Timestamp} (h : InUtc t) : Representable t := by
  obtain ⟨hutc, hbegun, hended⟩ := h
  have hyear : (Date.ofDays t.localDay).year = Date.yearOfDays t.localDay := by
    obtain ⟨i, d, -, he, -⟩ := ofDays_spec t.localDay
    rw [he]
  have hspec := yearOfDays_spec t.localDay
  refine ⟨?_, by rw [hutc]; rfl, by rw [hutc]; decide⟩
  rw [hyear]
  unfold yearStart at hspec hbegun hended
  omega

theorem InUtc.add? {t u : Timestamp} {nanos : Int} (h : InUtc t) (hnanos : 0 ≤ nanos)
    (hu : t.add? nanos = some u) : InUtc u := by
  obtain ⟨hutc, hbegun, -⟩ := h
  unfold Timestamp.add? at hu
  dsimp only at hu
  split at hu
  · rename_i hrange
    cases hu
    refine ⟨hutc, Int.le_trans hbegun ?_, hrange.2⟩
    simp only [Timestamp.localDay, Timestamp.localNanos, Timestamp.day, Timestamp.second]
    omega
  · cases hu

end Time

namespace Store

/-! ## Users -/

/-- The clock and the users have times that can be written. -/
structure Dated (s : Store) : Prop where
  clock : InUtc s.clock
  users : s.users.All fun u => Representable u.createdAt

theorem Dated.initial : Dated initial where
  clock := ⟨rfl, by decide, by decide +kernel⟩
  users id u h := by cases h

/-- A call creates users at the next second of the clock and leaves the times of others. -/
theorem Dated.users_call {s : Store} (h : Dated s) (c : Call) :
    (c.run s).users.All fun u => Representable u.createdAt := by
  have hnext : ∀ {now : Timestamp}, s.clock.add? Timestamp.second = some now →
      Representable now := fun hnow => (h.clock.add? (by decide) hnow).representable
  cases c with
  | insertUser u roleName active =>
    rw [Call.run]
    rcases insertUser_cases u roleName active s with he | ⟨id, now, -, hnow, he⟩ <;> rw [he]
    · exact h.users
    · exact h.users.insert (hnext hnow)
  | createAndInvite u token ttl now =>
    rw [Call.run]
    rcases createAndInvite_cases u token ttl now s with
      ⟨e, he⟩ | ⟨id, at', -, hat, ⟨-, he⟩ | ⟨expiry, -, he⟩⟩ <;> rw [he]
    · exact h.users
    · exact h.users.insert (hnext hat)
    · exact h.users.insert (hnext hat)
  | renameUser id name => exact h.users.modify fun _ hu => hu
  | activate token now =>
    rw [Call.run]
    rcases activate_cases token now s with he | ⟨inv, -, -, he⟩ <;> rw [he]
    · exact h.users
    · exact h.users.modify fun _ hu => hu
  | deleteUser id => exact h.users.filter _
  | _ => simpa [Call.run, getUser, deletePost, deleteComment, unfollow] using h.users

theorem Dated.call {s : Store} (h : Dated s) (c : Call) : Dated (c.run s) where
  clock := by
    rcases clock_call c s with he | he
    · rw [he]
      exact h.clock
    · exact h.clock.add? (by decide) he
  users := h.users_call c

/-- **Dates.** Every user of a reachable store was created at a time that has a text. -/
theorem Reachable.dated {s : Store} (h : Reachable s) : Dated s :=
  h.keeps .initial fun _ c hs => hs.call c

end Store

end Microblog
