import TicketBooking.Catalog
import TicketBooking.Database

/-!
# Giving counted seats back

`update_one` as the services call it, with the reply the driver gives, and `_release_counted_seats`
of `app/services/order_service.py` as a machine that makes one MongoDB call a step.  The payment and
the sweeper run it after they committed.
-/

namespace TicketBooking

/-! ## One update -/

/-- `update_one`: the collection afterwards and `modified_count`, or the exception. -/
def Catalog.updateOne (c : Catalog) (fault : Fault) (oid : ObjectId) (name : String)
    (guard : ℤ → Bool) (delta : ℤ) : Catalog × Except DbExc ℕ :=
  match fault with
  | .mongoRaised exc applied =>
      (if applied then c.incBooked oid name guard delta else c, .error exc)
  | _ => (c.incBooked oid name guard delta, .ok (c.modifiedCount oid name guard delta))

section UpdateOne

variable {c c' : Catalog} {fault : Fault} {oid : ObjectId} {name : String} {guard : ℤ → Bool}
  {delta : ℤ}

theorem Catalog.updateOne_ok {n : ℕ}
    (replied : c.updateOne fault oid name guard delta = (c', .ok n)) :
    c' = c.incBooked oid name guard delta ∧ n = c.modifiedCount oid name guard delta := by
  unfold updateOne at replied
  split at replied
  · simp at replied
  · simp only [Prod.mk.injEq, Except.ok.injEq] at replied
    exact ⟨replied.1.symm, replied.2.symm⟩

theorem Catalog.updateOne_error {exc : DbExc}
    (raised : c.updateOne fault oid name guard delta = (c', .error exc)) :
    ∃ applied, fault = .mongoRaised exc applied ∧
      c' = if applied then c.incBooked oid name guard delta else c := by
  unfold updateOne at raised
  split at raised
  · simp only [Prod.mk.injEq, Except.error.injEq] at raised
    obtain ⟨rfl, rfl⟩ := raised
    exact ⟨_, rfl, rfl⟩
  · simp at raised

/-- However the call ends, the update is applied, or it is not and the driver raised. -/
theorem Catalog.updateOne_fst (c : Catalog) (fault : Fault) (oid : ObjectId) (name : String)
    (guard : ℤ → Bool) (delta : ℤ) :
    ∃ applied, (c.updateOne fault oid name guard delta).1 =
        (if applied then c.incBooked oid name guard delta else c) ∧
      (applied = true ∨ ∃ exc, fault = .mongoRaised exc applied) := by
  unfold updateOne
  split
  case h_1 exc applied => exact ⟨applied, rfl, .inr ⟨exc, rfl⟩⟩
  case h_2 => exact ⟨true, rfl, .inl rfl⟩

end UpdateOne

/-! ## `_release_counted_seats` -/

/-- The groups still to release; `oneByOne` says that the first one is in the fallback loop, with
`quantity` turns left. -/
structure SeatRelease where
  oneByOne : Bool
  groups : List SeatGroup
deriving DecidableEq

def SeatRelease.start (groups : List SeatGroup) : SeatRelease := ⟨false, groups⟩

/-- The next MongoDB call for the group `g`. -/
def releaseStep (c : Catalog) (fault : Fault) (oneByOne : Bool) (g : SeatGroup)
    (rest : List SeatGroup) : Catalog × SeatRelease :=
  match ObjectId.ofString? g.eventId with
  -- InvalidId is caught and logged
  | none => (c, .start rest)
  | some oid =>
    if oneByOne then
      match g.quantity with
      | 0 => (c, .start rest)
      | left + 1 =>
        match c.updateOne fault oid g.seatZone (fun booked => 0 < booked) (-1) with
        | (c', .ok _) => (c', ⟨true, { g with quantity := left } :: rest⟩)
        | (c', .error _) => (c', .start rest)
    else
      match c.updateOne fault oid g.seatZone (fun booked => g.quantity ≤ booked) (-g.quantity) with
      | (c', .ok 0) => (c', ⟨true, g :: rest⟩)
      | (c', .ok _) => (c', .start rest)
      | (c', .error _) => (c', .start rest)

end TicketBooking
