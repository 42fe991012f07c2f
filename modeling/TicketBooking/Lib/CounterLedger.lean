import Mathlib.Data.Int.Init

/-!
# A bounded counter kept in step with a table

A resource of bounded capacity is counted in one store (`booked`) while the rows that use it live in
another (`active`); a party that has touched one store and not yet the other has units `inflight`.
The moves are the steps by which parties carry units from one column to another.

* `Safe` says that the counter covers everything that is or may become a row, and never passes the
  capacity.  Every move keeps it, faulty moves too: a fault only makes the counter too high.
* `Exact` says that nothing is unaccounted for.  Moves without faults keep it.
* `Move.frame` adds the units of the other parties, so that a move is proved for the party that
  makes it.
-/

namespace CounterLedger

structure Ledger where
  booked : ℤ
  active : ℤ
  inflight : ℤ

/-- The moves.  `faulty` are the moves of a party that crashes or does not learn the outcome of its
update. -/
inductive Move (capacity : ℤ) (faulty : Prop) (l l' : Ledger) : Prop
  | idle (booked : l'.booked = l.booked) (active : l'.active = l.active)
    (inflight : l'.inflight = l.inflight)
  /-- Units are taken from the counter, if there is room. -/
  | reserve (q : ℕ) (room : l.booked + q ≤ capacity) (booked : l'.booked = l.booked + q)
    (active : l'.active = l.active) (inflight : l'.inflight = l.inflight + q)
  /-- Taken units become rows. -/
  | settle (q : ℕ) (booked : l'.booked = l.booked) (active : l'.active = l.active + q)
    (inflight : l'.inflight = l.inflight - q)
  /-- Rows end; their units are still counted. -/
  | expire (q : ℕ) (booked : l'.booked = l.booked) (active : l'.active = l.active - q)
    (inflight : l'.inflight = l.inflight + q)
  /-- Units without rows are given back to the counter. -/
  | giveBack (q : ℕ) (booked : l'.booked = l.booked - q) (active : l'.active = l.active)
    (inflight : l'.inflight = l.inflight - q)
  /-- A party gives up on units it should have given back because the counter is too low. -/
  | strand (q : ℕ) (tooLow : l.booked < q) (booked : l'.booked = l.booked)
    (active : l'.active = l.active) (inflight : l'.inflight = l.inflight - q)
  /-- Units are taken and nobody knows. -/
  | reserveUnseen (q : ℕ) (fault : faulty) (room : l.booked + q ≤ capacity)
    (booked : l'.booked = l.booked + q) (active : l'.active = l.active)
    (inflight : l'.inflight = l.inflight)
  /-- A party loses `q` units of which only `r` went back to the counter. -/
  | lose (q r : ℕ) (fault : faulty) (part : r ≤ q) (booked : l'.booked = l.booked - r)
    (active : l'.active = l.active) (inflight : l'.inflight = l.inflight - q)

/-- The counter started at `b0` with no rows; it covers rows and units in flight, and fits. -/
def Safe (b0 capacity : ℤ) (l : Ledger) : Prop :=
  b0 + l.active + l.inflight ≤ l.booked ∧ l.booked ≤ capacity

/-- Nothing is unaccounted for. -/
def Exact (b0 : ℤ) (l : Ledger) : Prop := l.booked = b0 + l.active + l.inflight

variable {b0 capacity : ℤ} {faulty : Prop} {l l' : Ledger}

/-- Every move keeps the counter safe. -/
theorem Move.safe (moved : Move capacity faulty l l') (safe : Safe b0 capacity l) :
    Safe b0 capacity l' := by
  obtain ⟨covered, fits⟩ := safe
  unfold Safe
  cases moved with
  | idle booked active inflight => omega
  | reserve q room booked active inflight => omega
  | settle q booked active inflight => omega
  | expire q booked active inflight => omega
  | giveBack q booked active inflight => omega
  | strand q tooLow booked active inflight => omega
  | reserveUnseen q fault room booked active inflight => omega
  | lose q r fault part booked active inflight => omega

/-- Moves without faults keep the account exact: units are never given up, because the counter that
covers them is high enough. -/
theorem Move.exact (moved : Move capacity faulty l l') (noFault : ¬ faulty) (start : 0 ≤ b0)
    (rows : 0 ≤ l'.active) (units : 0 ≤ l'.inflight) (account : Exact b0 l) : Exact b0 l' := by
  unfold Exact at account ⊢
  cases moved with
  | idle booked active inflight => omega
  | reserve q room booked active inflight => omega
  | settle q booked active inflight => omega
  | expire q booked active inflight => omega
  | giveBack q booked active inflight => omega
  | strand q tooLow booked active inflight => omega
  | reserveUnseen q fault room booked active inflight => exact absurd fault noFault
  | lose q r fault part booked active inflight => exact absurd fault noFault

/-- The ledger with the units of the other parties. -/
def Ledger.plus (l : Ledger) (others : ℤ) : Ledger := { l with inflight := l.inflight + others }

/-- Units of other parties do not matter to a move. -/
theorem Move.frame (moved : Move capacity faulty l l') (others : ℤ) :
    Move capacity faulty (l.plus others) (l'.plus others) := by
  unfold Ledger.plus
  cases moved with
  | idle booked active inflight => exact .idle booked active (by dsimp only; omega)
  | reserve q room booked active inflight =>
    exact .reserve q room booked active (by dsimp only; omega)
  | settle q booked active inflight => exact .settle q booked active (by dsimp only; omega)
  | expire q booked active inflight => exact .expire q booked active (by dsimp only; omega)
  | giveBack q booked active inflight => exact .giveBack q booked active (by dsimp only; omega)
  | strand q tooLow booked active inflight =>
    exact .strand q tooLow booked active (by dsimp only; omega)
  | reserveUnseen q fault room booked active inflight =>
    exact .reserveUnseen q fault room booked active (by dsimp only; omega)
  | lose q r fault part booked active inflight =>
    exact .lose q r fault part booked active (by dsimp only; omega)

end CounterLedger
