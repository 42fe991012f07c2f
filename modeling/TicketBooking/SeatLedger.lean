import TicketBooking.Lib.CounterLedger
import TicketBooking.Planning

/-!
# The seat ledger

The ledger of one zone of an event whose zone names are distinct: `booked_count` in MongoDB, the
active tickets in PostgreSQL, and the seats that running calls have reserved and not yet committed,
or cancelled and not yet released.

* `CallStep.move`: every step of a call is one move of the ledger of each zone.
* `SystemStep.move` lifts it to the system, and the two rules of the ledger give the two results: no
  oversell under crashes, and exact counters without faults.
-/

namespace TicketBooking

open CounterLedger GroupCount ListUpdate StepSystem

/-! ## The columns of the ledger -/

section Columns

variable (oid : ObjectId) (name : String)

/-- `booked_count` of the zone. -/
def Catalog.booked (c : Catalog) : ℤ := ((c.zone? oid name).map Zone.bookedCount).getD 0

def Ticket.inZone (t : Ticket) : Bool :=
    ObjectId.ofString? t.eventId = some oid && t.seatZone = name

/-- Status `held` or `valid`. -/
def Ticket.active (t : Ticket) : Bool := t.status = .held || t.status = .valid

/-- The number of active tickets of the zone. -/
def Postgres.activeIn (pg : Postgres) : ℕ :=
    pg.tickets.countP fun t => t.active && t.inZone oid name

def SeatGroup.seatsIn (g : SeatGroup) : ℕ :=
  if ObjectId.ofString? g.eventId = some oid && g.seatZone = name then g.quantity else 0

/-- The seats of the zone that a create call has taken and not yet committed or given back. -/
def CreatePc.seatsIn : CreatePc → ℕ
  | .reserve _ held _ => (held.map (Reservation.seatsIn oid name)).sum
  | .release held _ => (held.map (Reservation.seatsIn oid name)).sum
  | _ => 0

/-- The seats of the zone that a payment has cancelled and not yet released. -/
def PayPc.seatsIn : PayPc → ℕ
  | .releasing r => (r.groups.map (SeatGroup.seatsIn oid name)).sum
  | _ => 0

def SweepPc.seatsIn : SweepPc → ℕ
  | .releasing _ r => (r.groups.map (SeatGroup.seatsIn oid name)).sum
  | _ => 0

variable {oid name} in
theorem PayPc.seatsIn_of_not {pc : PayPc} (notReleasing : ∀ r, pc ≠ .releasing r) :
    pc.seatsIn oid name = 0 := by
  cases pc with
  | releasing r => exact absurd rfl (notReleasing r)
  | _ => rfl

variable {oid name} in
theorem SweepPc.seatsIn_of_not {pc : SweepPc} (notReleasing : ∀ n r, pc ≠ .releasing n r) :
    pc.seatsIn oid name = 0 := by
  cases pc with
  | releasing n r => exact absurd rfl (notReleasing n r)
  | _ => rfl

def Call.seatsIn : Call → ℕ
  | .create c => c.pc.seatsIn oid name
  | .pay c => c.pc.seatsIn oid name
  | .sweep c => c.pc.seatsIn oid name

variable {oid name} in
/-- A call that has answered holds nothing. -/
theorem Call.seatsIn_of_ended {call : Call} (ended : call.ended = true) :
    call.seatsIn oid name = 0 := by
  unfold Call.ended at ended
  split at ended
  case h_4 => cases ended
  all_goals rfl

/-- The ledger with `seats` in flight. -/
def Databases.ledger (dbs : Databases) (seats : ℕ) : Ledger :=
  ⟨dbs.mongo.booked oid name, dbs.pg.activeIn oid name, seats⟩

def State.ledger (s : State) : Ledger :=
  s.dbs.ledger oid name (s.calls.map (Call.seatsIn oid name)).sum

end Columns

/-! ## The counter -/

/-- The event has distinct zone names, and the zone this capacity. -/
structure Catalog.HasZone (c : Catalog) (oid : ObjectId) (name : String) (capacity : ℤ) : Prop where
  distinct : c.DistinctZones oid
  zone : ∃ z, c.zone? oid name = some z ∧ z.capacity = capacity

section HasZone

variable {c c' : Catalog} {oid : ObjectId} {name : String} {capacity : ℤ}

theorem Catalog.HasZone.of_listing (zone : c.HasZone oid name capacity)
    (same : c.listing = c'.listing) : c'.HasZone oid name capacity := by
  obtain ⟨distinct, z, found, full⟩ := zone
  obtain ⟨z', found', -, -, sameCapacity⟩ := Catalog.zone?_of_listing same found
  exact ⟨distinct.of_listing same, z', found', sameCapacity.trans full⟩

/-- An update counts for the zone when it names it and the counter meets the condition. -/
theorem Catalog.HasZone.booked_incBooked (zone : c.HasZone oid name capacity) (oid' : ObjectId)
    (name' : String) (guard : ℤ → Bool) (delta : ℤ) :
    (c.incBooked oid' name' guard delta).booked oid name =
      if (oid', name') = (oid, name) ∧ guard (c.booked oid name) = true then
        c.booked oid name + delta else c.booked oid name := by
  obtain ⟨distinct, z, found, -⟩ := zone
  have counter : c.booked oid name = z.bookedCount := by rw [booked, found]; rfl
  by_cases same : (oid', name') = (oid, name)
  · cases same
    rw [counter, booked, c.zone?_incBooked_self guard delta distinct found]
    simp only [true_and, Option.map_some, Option.getD_some]
    split <;> rfl
  · rw [if_neg fun both => same both.1, booked,
      c.zone?_incBooked_other guard delta (fun reversed => same reversed.symm), booked]

/-- The reply tells whether the counter met the condition. -/
theorem Catalog.HasZone.modifiedCount_ne_zero (zone : c.HasZone oid name capacity)
    (guard : ℤ → Bool) {delta : ℤ} (changes : delta ≠ 0) :
    c.modifiedCount oid name guard delta ≠ 0 ↔ guard (c.booked oid name) = true := by
  obtain ⟨distinct, z, found, -⟩ := zone
  have counter : c.booked oid name = z.bookedCount := by rw [booked, found]; rfl
  rw [c.modifiedCount_eq guard changes distinct found, counter]
  cases guard z.bookedCount <;> simp

theorem Catalog.modifiedCount_zero_delta (c : Catalog) (oid : ObjectId) (name : String)
    (guard : ℤ → Bool) : c.modifiedCount oid name guard 0 = 0 := by
  simp [modifiedCount]

/-- A reply of one modified document: the condition held and the counter moved. -/
theorem Catalog.HasZone.booked_modified (zone : c.HasZone oid name capacity) {guard : ℤ → Bool}
    {delta : ℤ} (modified : c.modifiedCount oid name guard delta ≠ 0) :
    guard (c.booked oid name) = true ∧
      (c.incBooked oid name guard delta).booked oid name = c.booked oid name + delta := by
  have changes : delta ≠ 0 := by
    rintro rfl
    exact modified (c.modifiedCount_zero_delta oid name guard)
  have met := (zone.modifiedCount_ne_zero guard changes).mp modified
  exact ⟨met, (zone.booked_incBooked ..).trans (if_pos ⟨rfl, met⟩)⟩

/-- A reply of no modified document: the counter is as it was. -/
theorem Catalog.HasZone.booked_unmodified (zone : c.HasZone oid name capacity) {guard : ℤ → Bool}
    {delta : ℤ} (unmodified : c.modifiedCount oid name guard delta = 0) :
    (c.incBooked oid name guard delta).booked oid name = c.booked oid name := by
  rw [zone.booked_incBooked]
  split
  case isTrue met =>
    by_cases changes : delta = 0
    · rw [changes, add_zero]
    · exact absurd unmodified ((zone.modifiedCount_ne_zero guard changes).mpr met.2)
  case isFalse => rfl

end HasZone

/-! ## Moves of the compensations -/

section Release

variable {c : Catalog} {oid : ObjectId} {name : String} {capacity : ℤ} {fault : Fault}

theorem SeatGroup.seatsIn_of_ofString? {g : SeatGroup} {oid' : ObjectId}
    (parsed : ObjectId.ofString? g.eventId = some oid') :
    g.seatsIn oid name = if (oid', g.seatZone) = (oid, name) then g.quantity else 0 := by
  simp [seatsIn, parsed, Prod.ext_iff]

theorem Catalog.HasZone.booked_updateOne_other (zone : c.HasZone oid name capacity)
    {oid' : ObjectId}
    {name' : String} (guard : ℤ → Bool) (delta : ℤ) (other : (oid', name') ≠ (oid, name)) :
    (c.updateOne fault oid' name' guard delta).1.booked oid name = c.booked oid name := by
  obtain ⟨applied, after, -⟩ := c.updateOne_fst fault oid' name' guard delta
  rw [after]
  cases applied with
  | false => rfl
  | true => exact (zone.booked_incBooked ..).trans (if_neg fun both => other both.1)

/-- A release that raised gave back all of its seats or none. -/
theorem Catalog.HasZone.booked_raised (zone : c.HasZone oid name capacity) {c' : Catalog}
    {guard : ℤ → Bool} {delta : ℤ} {q : ℕ} {exc : DbExc} (amount : delta = -q)
    (raised : c.updateOne fault oid name guard delta = (c', .error exc)) :
    ¬ fault.MongoUp ∧ ∃ r ≤ q, c'.booked oid name = c.booked oid name - r := by
  obtain ⟨applied, rfl, rfl⟩ := Catalog.updateOne_error raised
  refine ⟨fun up => up, ?_⟩
  cases applied with
  | false => exact ⟨0, Nat.zero_le q, by simp⟩
  | true =>
    rw [if_pos rfl, zone.booked_incBooked]
    split
    · exact ⟨q, le_rfl, by omega⟩
    · exact ⟨0, Nat.zero_le q, by simp⟩

/-- A group of another zone does not touch the ledger. -/
theorem releaseStep_other (zone : c.HasZone oid name capacity) (fault : Fault) (oneByOne : Bool)
    {g : SeatGroup} (rest : List SeatGroup) {oid' : ObjectId}
    (parsed : ObjectId.ofString? g.eventId = some oid') (other : (oid', g.seatZone) ≠ (oid, name)) :
    (releaseStep c fault oneByOne g rest).1.booked oid name = c.booked oid name ∧
      ((releaseStep c fault oneByOne g rest).2.groups.map (SeatGroup.seatsIn oid name)).sum =
        (rest.map (SeatGroup.seatsIn oid name)).sum := by
  have noSeats : ∀ n, ({ g with quantity := n } : SeatGroup).seatsIn oid name = 0 := fun n =>
    (SeatGroup.seatsIn_of_ofString? (g := { g with quantity := n }) parsed).trans (if_neg other)
  have unchanged : ∀ guard delta,
      (c.updateOne fault oid' g.seatZone guard delta).1.booked oid name = c.booked oid name :=
    fun guard delta => zone.booked_updateOne_other guard delta other
  unfold releaseStep
  rw [parsed]
  dsimp only
  split
  case isTrue =>
    split
    case h_1 => exact ⟨rfl, rfl⟩
    case h_2 left _ =>
      have kept := unchanged (fun booked => 0 < booked) (-1)
      split
      case h_1 replied => rw [replied] at kept; exact ⟨kept, by simp [noSeats]⟩
      case h_2 replied => rw [replied] at kept; exact ⟨kept, rfl⟩
  case isFalse =>
    have kept := unchanged (fun booked => g.quantity ≤ booked) (-g.quantity)
    split
    case h_1 replied => rw [replied] at kept; exact ⟨kept, by simpa using noSeats g.quantity⟩
    case h_2 replied => rw [replied] at kept; exact ⟨kept, rfl⟩
    case h_3 replied => rw [replied] at kept; exact ⟨kept, rfl⟩

/-- One MongoDB call of `_release_counted_seats` is one move. -/
theorem releaseStep_move (zone : c.HasZone oid name capacity) (pg : Postgres) (oneByOne : Bool)
    (g : SeatGroup) (rest : List SeatGroup) :
    Move capacity (¬ fault.MongoUp)
      (Databases.ledger oid name ⟨pg, c⟩ ((g :: rest).map (SeatGroup.seatsIn oid name)).sum)
      (Databases.ledger oid name ⟨pg, (releaseStep c fault oneByOne g rest).1⟩
        ((releaseStep c fault oneByOne g rest).2.groups.map (SeatGroup.seatsIn oid name)).sum) := by
  simp only [List.map_cons, List.sum_cons]
  cases parsed : ObjectId.ofString? g.eventId with
  | none =>
    have noSeats : g.seatsIn oid name = 0 := by simp [SeatGroup.seatsIn, parsed]
    unfold releaseStep
    rw [parsed, noSeats]
    exact .idle rfl rfl (by simp [SeatRelease.start, Databases.ledger])
  | some oid' =>
    by_cases same : (oid', g.seatZone) = (oid, name)
    case neg =>
      obtain ⟨counter, groups⟩ := releaseStep_other zone fault oneByOne rest parsed same
      rw [groups, SeatGroup.seatsIn_of_ofString? parsed, if_neg same, zero_add]
      exact .idle counter rfl rfl
    case pos =>
      have seats : ∀ n, ({ g with quantity := n } : SeatGroup).seatsIn oid name = n := fun n =>
        (SeatGroup.seatsIn_of_ofString? (g := { g with quantity := n }) parsed).trans (if_pos same)
      rw [seats g.quantity]
      cases same
      unfold releaseStep
      rw [parsed]
      dsimp only
      split
      case isTrue =>
        split
        case h_1 none => exact .idle rfl rfl (by simp [none, SeatRelease.start, Databases.ledger])
        case h_2 left some =>
          have counter := zone.booked_incBooked oid g.seatZone (fun booked => 0 < booked) (-1)
          simp only [true_and, decide_eq_true_eq] at counter
          split
          case h_1 replied =>
            obtain ⟨rfl, -⟩ := Catalog.updateOne_ok replied
            have groups : (({ g with quantity := left } :: rest).map
                (SeatGroup.seatsIn oid g.seatZone)).sum = left +
                (rest.map (SeatGroup.seatsIn oid g.seatZone)).sum := by
              rw [List.map_cons, List.sum_cons, seats]
            by_cases positive : 0 < c.booked oid g.seatZone
            · rw [if_pos positive] at counter
              exact .giveBack 1 counter rfl (by simp only [Databases.ledger, groups, some]; omega)
            · rw [if_neg positive] at counter
              exact .strand 1 (by simp only [Databases.ledger]; omega) counter rfl
                (by simp only [Databases.ledger, groups, some]; omega)
          case h_2 replied =>
            obtain ⟨fault, r, part, counter⟩ := zone.booked_raised (q := 1) rfl replied
            exact .lose (left + 1) r fault (by omega) counter rfl
              (by simp only [Databases.ledger, SeatRelease.start, some]; omega)
      case isFalse =>
        split
        case h_1 replied =>
          obtain ⟨rfl, unmodified⟩ := Catalog.updateOne_ok replied
          exact .idle (zone.booked_unmodified unmodified.symm) rfl
            (by simp [Databases.ledger, seats g.quantity])
        case h_2 n positive replied =>
          obtain ⟨rfl, modified⟩ := Catalog.updateOne_ok replied
          obtain ⟨-, counter⟩ := zone.booked_modified fun zero => positive (modified.trans zero)
          exact .giveBack g.quantity counter rfl
            (by simp only [Databases.ledger, SeatRelease.start]; omega)
        case h_3 replied =>
          obtain ⟨fault, r, part, counter⟩ := zone.booked_raised rfl replied
          exact .lose g.quantity r fault part counter rfl
            (by simp only [Databases.ledger, SeatRelease.start]; omega)

end Release

/-! ## The rows -/

section Rows

variable (pg : Postgres) (oid : ObjectId) (name : String)

/-- The counted seats of some orders are their held tickets. -/
theorem Postgres.sum_heldGroups (orderIds : List ℕ) :
    ((pg.heldGroups orderIds).map (SeatGroup.seatsIn oid name)).sum =
      pg.tickets.countP fun t =>
        t.inZone oid name && (t.orderId ∈ orderIds ∧ t.status = .held) := by
  rw [← List.countP_filter, heldGroups, List.map_map]
  exact sum_groupCount Ticket.zoneOf
    (fun zone => ObjectId.ofString? zone.1 = some oid && zone.2 = name) _

/-- Expiring orders ends as many active tickets as were counted. -/
theorem Postgres.activeIn_expireHolds (rows : List (ℕ × String)) (reason : String) :
    (pg.expireHolds rows reason).activeIn oid name +
      ((pg.heldGroups (rows.map Prod.fst)).map (SeatGroup.seatsIn oid name)).sum =
        pg.activeIn oid name := by
  rw [sum_heldGroups, activeIn, expireHolds]
  dsimp only
  rw [List.countP_map, activeIn]
  refine countP_add fun t _ => ?_
  simp only [Function.comp_apply, Ticket.fromHeld]
  split
  case isTrue held => simp [Ticket.active, Ticket.inZone, held]
  case isFalse kept => rw [decide_eq_false kept, Bool.and_false]; rfl

/-- Confirming an order keeps its tickets active. -/
theorem Postgres.activeIn_confirmOrder (orderId : ℕ) (event : OutboxEvent) :
    (pg.confirmOrder orderId event).activeIn oid name = pg.activeIn oid name := by
  rw [activeIn, confirmOrder, List.countP_map, activeIn]
  refine List.countP_congr fun t _ => ?_
  simp only [Function.comp_apply, Ticket.fromHeld]
  split
  case isTrue held => simp [Ticket.active, Ticket.inZone, held]
  case isFalse => rfl

/-- A new order adds the items of its plan. -/
theorem Postgres.activeIn_created (orderIn : OrderCreate) (idempotencyKey : Option String)
    (plan : OrderPlan) (draw : Draw) :
    (pg.created orderIn idempotencyKey plan draw).activeIn oid name =
      pg.activeIn oid name + plan.items.countP fun v => v.zoneOf = (oid, name) := by
  rw [activeIn, created, List.countP_append, OrderPlan.tickets, List.map_map, List.countP_map,
    activeIn]
  congr 1
  refine List.countP_congr fun v _ => ?_
  simp only [Function.comp_apply, Ticket.active, Ticket.inZone, ValidatedItem.ticket, Ticket.stored,
    ValidatedItem.eventId, ObjectId.ofString?_hex, ValidatedItem.zoneOf, Option.some.injEq,
    Prod.mk.injEq, decide_true, Bool.true_or, Bool.true_and, Bool.and_eq_true, decide_eq_true_eq]
  exact and_congr_right fun _ => decide_eq_true_iff

end Rows

/-! ## Steps are moves -/

section Moves

variable {cfg : Config} {dbs dbs' : Databases} {catalog : Catalog} {oid : ObjectId} {name : String}
  {capacity : ℤ} {fault : Fault} {draw : Draw}

/-- What the next request of a planned call asks of the zone. -/
theorem CreateCall.Planned.request {lower : String → String} {c : CreateCall}
    (planned : c.Planned lower catalog) (zone : catalog.HasZone oid name capacity)
    {plan : OrderPlan} {held : List Reservation} {r : ZoneRequest} {rest : List ZoneRequest}
    (at_pc : c.pc = .reserve plan held (r :: rest))
    (same : (r.eventOid, r.zoneName) = (oid, name)) : r.capacity = capacity := by
  obtain ⟨valid, taken, split, -⟩ := planned _ _ _ at_pc
  have mem : r ∈ plan.zoneRequests := by rw [← split]; simp
  obtain ⟨-, v, listed, sameOid, sameName, sameCapacity⟩ :=
    OrderPlan.mem_zoneRequests (planOrder_listed valid) mem
  obtain ⟨z, found, -, full⟩ := listed.zone
  obtain ⟨-, z', found', full'⟩ := zone
  cases same
  rw [sameOid, sameName, found', Option.some.injEq] at found
  rw [← sameCapacity, ← full, ← found, full']

/-- The seats a call holds when its reservation loop is through are the items of its plan. -/
theorem CreateCall.Planned.seatsIn {lower : String → String} {c : CreateCall}
    (planned : c.Planned lower catalog) {plan : OrderPlan} {held : List Reservation}
    (at_pc : c.pc = .reserve plan held []) (oid : ObjectId) (name : String) :
    (held.map (Reservation.seatsIn oid name)).sum =
      plan.items.countP fun v => v.zoneOf = (oid, name) := by
  obtain ⟨-, taken, split, rfl⟩ := planned _ _ _ at_pc
  rw [List.append_nil] at split
  rw [split, plan.sum_zoneRequests]

/-- A call that ends holds no seats. -/
theorem CreateCall.Ends.seatsIn {lower : String → String} {c : CreateCall} {outcome : CreateOutcome}
    (ended : c.Ends lower dbs fault outcome) (oid : ObjectId) (name : String) :
    c.pc.seatsIn oid name = 0 := by
  rcases ended.ending with at_pc | at_pc | ⟨failure, at_pc⟩
  all_goals rw [at_pc]; rfl

theorem CreatePc.seatsIn_reserve_concat (plan : OrderPlan) (held : List Reservation)
    (r : ZoneRequest) (rest : List ZoneRequest) :
    (CreatePc.reserve plan (held ++ [r.reservation]) rest).seatsIn oid name =
      (held.map (Reservation.seatsIn oid name)).sum +
        if (r.eventOid, r.zoneName) = (oid, name) then r.quantity else 0 := by
  simp [CreatePc.seatsIn, Reservation.seatsIn, ZoneRequest.reservation]

theorem CreatePc.seatsIn_release_cons (r : Reservation) (rest : List Reservation)
    (failure : CreateFailure) :
    (CreatePc.release (r :: rest) failure).seatsIn oid name =
      (if (r.eventOid, r.zoneName) = (oid, name) then r.quantity else 0) +
        (rest.map (Reservation.seatsIn oid name)).sum := by
  simp [CreatePc.seatsIn, Reservation.seatsIn]

/-- A step of a create call is one move of each zone. -/
theorem CreateStep.move {c c' : CreateCall} (zone : dbs.mongo.HasZone oid name capacity)
    (same : dbs.mongo.listing = catalog.listing) (planned : c.Planned cfg.lower catalog)
    (replied : fault.ReplyReceived) (moved : CreateStep cfg.lower dbs fault draw c dbs' c') :
    Move capacity (¬ fault.MongoUp) (dbs.ledger oid name (c.pc.seatsIn oid name))
      (dbs'.ledger oid name (c'.pc.seatsIn oid name)) := by
  have others : ∀ {oid' name'} (guard : ℤ → Bool) (delta : ℤ), (oid', name') ≠ (oid, name) →
      (dbs.mongo.incBooked oid' name' guard delta).booked oid name = dbs.mongo.booked oid name :=
    fun guard delta other => (zone.booked_incBooked ..).trans (if_neg fun both => other both.1)
  cases moved with
  | ends ended => exact .idle rfl rfl (by rw [ended.seatsIn]; rfl)
  | keyFree at_pc => exact .idle rfl rfl (by rw [at_pc]; rfl)
  | planned at_pc => exact .idle rfl rfl (by rw [at_pc]; rfl)
  | @reserved plan held r rest at_pc modified =>
    rw [at_pc, CreateCall.goto_pc, CreatePc.seatsIn_reserve_concat]
    by_cases target : (r.eventOid, r.zoneName) = (oid, name)
    · have full := planned.request (zone.of_listing same) at_pc target
      rw [if_pos target]
      cases target
      obtain ⟨met, counter⟩ := zone.booked_modified modified
      simp only [ZoneRequest.hasRoom, decide_eq_true_eq] at met
      exact .reserve r.quantity (by simp only [Databases.ledger]; omega) counter rfl
        (by simp [Databases.ledger, CreatePc.seatsIn])
    · rw [if_neg target, add_zero]
      exact .idle (others _ _ target) rfl rfl
  | @soldOut plan held r rest at_pc unmodified =>
    rw [at_pc]
    by_cases target : (r.eventOid, r.zoneName) = (oid, name)
    · cases target
      exact .idle (zone.booked_unmodified unmodified) rfl rfl
    · exact .idle (others _ _ target) rfl rfl
  | @reserveRaised plan held r rest exc applied at_pc raised =>
    have fault : ¬ fault.MongoUp := by rw [raised]; exact fun up => up
    rw [at_pc]
    cases applied with
    | false => exact .idle rfl rfl rfl
    | true =>
      by_cases target : (r.eventOid, r.zoneName) = (oid, name)
      · have full := planned.request (zone.of_listing same) at_pc target
        cases target
        have counter := zone.booked_incBooked r.eventOid r.zoneName r.hasRoom r.quantity
        simp only [true_and, ZoneRequest.hasRoom, decide_eq_true_eq] at counter
        split at counter
        case isTrue met =>
          exact .reserveUnseen r.quantity fault (by simp only [Databases.ledger]; omega) counter rfl
            rfl
        case isFalse => exact .idle counter rfl rfl
      · exact .idle (others _ _ target) rfl rfl
  | @committed plan held pg' at_pc fresh statements =>
    obtain ⟨-, rfl⟩ := createTx_ok_iff.mp statements
    have seats := planned.seatsIn at_pc oid name
    have rows := (dbs.pg.drawOrderId draw.orderId).activeIn_created oid name c.orderIn
      c.idempotencyKey plan draw
    rw [at_pc]
    refine .settle (plan.items.countP fun v => v.zoneOf = (oid, name)) rfl ?_ ?_
    · exact congrArg Nat.cast rows
    · simp [Databases.ledger, CreatePc.seatsIn, seats]
  | aborted at_pc => exact .idle rfl rfl (by rw [at_pc]; rfl)
  | replyLost at_pc fresh lost =>
    rw [lost] at replied
    cases replied
  | @gaveBack r rest failure applied at_pc cause =>
    rw [at_pc, CreatePc.seatsIn_release_cons]
    by_cases target : (r.eventOid, r.zoneName) = (oid, name)
    · rw [if_pos target]
      cases target
      cases applied with
      | true =>
        have counter := zone.booked_incBooked r.eventOid r.zoneName (fun _ => true) (-r.quantity)
        rw [if_pos ⟨rfl, rfl⟩] at counter
        exact .giveBack r.quantity counter rfl
          (by simp only [Databases.ledger, CreateCall.goto_pc, CreatePc.seatsIn]; omega)
      | false =>
        obtain applied | ⟨exc, raised⟩ := cause
        · cases applied
        · have fault : ¬ fault.MongoUp := by rw [raised]; exact fun up => up
          exact .lose r.quantity 0 fault (Nat.zero_le _) (by simp [Databases.ledger]) rfl
            (by simp only [Databases.ledger, CreateCall.goto_pc, CreatePc.seatsIn]; omega)
    · rw [if_neg target, zero_add]
      cases applied with
      | true => exact .idle (others _ _ target) rfl rfl
      | false => exact .idle rfl rfl rfl

/-- A step of a payment is one move of each zone. -/
theorem PayStep.move {c c' : PayCall} {lockedElsewhere : List ℕ}
    (zone : dbs.mongo.HasZone oid name capacity) (replied : fault.ReplyReceived)
    (moved : PayStep dbs lockedElsewhere fault draw c dbs' c') :
    Move capacity (¬ fault.MongoUp) (dbs.ledger oid name (c.pc.seatsIn oid name))
      (dbs'.ledger oid name (c'.pc.seatsIn oid name)) := by
  cases moved with
  | locks at_pc => exact .idle rfl rfl (by rw [at_pc]; rfl)
  | refused notReleasing => exact .idle rfl rfl (by rw [PayPc.seatsIn_of_not notReleasing]; rfl)
  | @expired order at_pc decided =>
    have rows := dbs.pg.activeIn_expireHolds oid name [(order.id, order.orderNumber)] "timeout"
    rw [at_pc]
    refine .expire ((dbs.pg.heldGroups [order.id]).map (SeatGroup.seatsIn oid name)).sum rfl ?_ ?_
    · simp only [Databases.ledger, timeoutTx, ← rows]
      simp
    · simp [Databases.ledger, PayPc.seatsIn, SeatRelease.start]
  | expiredReplyLost at_pc decided lost =>
    rw [lost] at replied
    cases replied
  | @confirmed order pg' outcome at_pc decided statements told =>
    obtain ⟨-, -, event, -, -, rfl⟩ := confirmTx_ok statements
    rw [at_pc]
    refine .idle rfl ?_ rfl
    exact congrArg Nat.cast (Postgres.activeIn_confirmOrder _ oid name order.id event)
  | releases at_pc =>
    rw [at_pc]
    exact releaseStep_move zone dbs.pg _ _ _
  | released at_pc => exact .idle rfl rfl (by rw [at_pc]; rfl)

/-- A step of a sweep is one move of each zone. -/
theorem SweepStep.move {c c' : SweepCall} {lockedElsewhere : List ℕ}
    (zone : dbs.mongo.HasZone oid name capacity) (replied : fault.ReplyReceived)
    (moved : SweepStep dbs lockedElsewhere fault draw c dbs' c') :
    Move capacity (¬ fault.MongoUp) (dbs.ledger oid name (c.pc.seatsIn oid name))
      (dbs'.ledger oid name (c'.pc.seatsIn oid name)) := by
  have next : ∀ n, (c.next n).pc.seatsIn oid name = 0 := by
    intro n
    unfold SweepCall.next
    dsimp only
    split <;> rfl
  cases moved with
  | claims at_pc => exact .idle rfl rfl (by rw [at_pc]; rfl)
  | nothing at_pc => exact .idle rfl rfl (by rw [at_pc, next]; rfl)
  | ended notReleasing => exact .idle rfl rfl (by rw [SweepPc.seatsIn_of_not notReleasing]; rfl)
  | @expired rows at_pc =>
    have ended := dbs.pg.activeIn_expireHolds oid name rows "cron_cleanup"
    rw [at_pc]
    refine .expire
      ((dbs.pg.heldGroups (rows.map Prod.fst)).map (SeatGroup.seatsIn oid name)).sum rfl ?_ ?_
    · simp only [Databases.ledger, cleanupTx, ← ended]
      simp
    · simp [Databases.ledger, SweepPc.seatsIn, SeatRelease.start]
  | expiredReplyLost at_pc lost =>
    rw [lost] at replied
    cases replied
  | releases at_pc =>
    rw [at_pc]
    exact releaseStep_move zone dbs.pg _ _ _
  | released at_pc => exact .idle rfl rfl (by rw [at_pc, next]; rfl)

/-- A step of any call is one move of each zone. -/
theorem CallStep.move {call call' : Call} {lockedElsewhere : List ℕ}
    (zone : dbs.mongo.HasZone oid name capacity) (same : dbs.mongo.listing = catalog.listing)
    (planned : call.Planned cfg.lower catalog) (replied : fault.ReplyReceived)
    (moved : CallStep cfg dbs lockedElsewhere fault draw call dbs' call') :
    Move capacity (¬ fault.MongoUp) (dbs.ledger oid name (call.seatsIn oid name))
      (dbs'.ledger oid name (call'.seatsIn oid name)) := by
  cases moved with
  | create moved => exact moved.move zone same planned replied
  | pay moved => exact moved.move zone replied
  | sweep moved => exact moved.move zone replied

/-- An action under which a party crashes or does not learn the outcome of a MongoDB update. -/
def Action.Faulty : Action → Prop
  | .spawn _ => False
  | .step _ fault _ => ¬ fault.MongoUp
  | .crash _ => True

/-- No COMMIT is applied without its client learning so. -/
def Action.ReplyReceived : Action → Prop
  | .step _ fault _ => fault.ReplyReceived
  | _ => True

instance : (a : Action) → Decidable a.Faulty
  | .spawn _ => inferInstanceAs (Decidable False)
  | .step _ fault _ => inferInstanceAs (Decidable (¬ fault.MongoUp))
  | .crash _ => inferInstanceAs (Decidable True)

instance : (a : Action) → Decidable a.ReplyReceived
  | .step _ fault _ => inferInstanceAs (Decidable fault.ReplyReceived)
  | .spawn _ | .crash _ => inferInstanceAs (Decidable True)

/-- **Every action is one move of the ledger of each zone.** -/
theorem SystemStep.move {s s' : State} {a : Action} (zone : s.dbs.mongo.HasZone oid name capacity)
    (same : s.dbs.mongo.listing = catalog.listing)
    (planned : ∀ (i : ℕ) call, s.calls[i]? = some call → call.Planned cfg.lower catalog)
    (replied : a.ReplyReceived) (moved : SystemStep cfg s a s') :
    Move capacity a.Faulty (s.ledger oid name) (s'.ledger oid name) := by
  have split : ∀ {i : ℕ} {call : Call}, s.calls[i]? = some call → ∀ dbs' call',
      ∃ others : ℤ, s.ledger oid name =
          (s.dbs.ledger oid name (call.seatsIn oid name)).plus others ∧
        State.ledger oid name ⟨dbs', s.calls.set i call'⟩ =
          (dbs'.ledger oid name (call'.seatsIn oid name)).plus others := by
    intro i call at_i dbs' call'
    have total := sum_map_set (Call.seatsIn oid name) call' at_i
    refine ⟨((s.calls.map (Call.seatsIn oid name)).sum : ℤ) - call.seatsIn oid name, ?_, ?_⟩
    · simp [State.ledger, Databases.ledger, Ledger.plus]
    · simp only [State.ledger, Databases.ledger, Ledger.plus, Ledger.mk.injEq, true_and]
      omega
  cases moved with
  | spawn request =>
    have idle : (request.start cfg).seatsIn oid name = 0 := by cases request <;> rfl
    exact .idle rfl rfl (by simp [State.ledger, Databases.ledger, idle])
  | call at_i moved =>
    obtain ⟨others, before, after⟩ := split at_i _ _
    rw [before, after]
    exact (moved.move zone same (planned _ _ at_i) replied).frame others
  | @crash i call at_i running =>
    obtain ⟨others, before, after⟩ := split at_i s.dbs call.crash
    have dropped : call.crash.seatsIn oid name = 0 := by cases call <;> rfl
    rw [before, after, dropped]
    refine Move.frame ?_ others
    exact .lose (call.seatsIn oid name) 0 trivial (Nat.zero_le _) (by simp [Databases.ledger]) rfl
      (by simp [Databases.ledger])

end Moves

/-! ## Over runs -/

section Runs

variable {cfg : Config} {start s : State} {oid : ObjectId} {name : String} {z : Zone}

theorem ledger_of_fresh (fresh : start.Fresh) (oid : ObjectId) (name : String) :
    start.ledger oid name = ⟨start.dbs.mongo.booked oid name, 0, 0⟩ := by
  obtain ⟨idle, -, noTickets, -⟩ := fresh
  simp [State.ledger, Databases.ledger, Postgres.activeIn, idle, noTickets]

theorem hasZone_of_mem {c : Catalog} {d : EventDoc} {z : Zone} (event : d ∈ c.docs)
    (distinct : (d.zones.map Zone.name).Nodup) (zone : z ∈ d.zones) :
    c.zone? d.id z.name = some z ∧ c.HasZone d.id z.name z.capacity := by
  have found : c.zone? d.id z.name = some z := by
    rw [Catalog.zone?, Catalog.find?_of_mem event]
    exact find?_key_of_mem distinct zone
  refine ⟨found, fun d' mem sameId => ?_, z, found, rfl⟩
  rw [eq_of_key_eq c.ids_nodup mem event sameId]
  exact distinct

/-- The zone in a later state: same name and capacity, its counter in the ledger. -/
theorem zone_of_reachable {ok : State → Action → Prop} (reached : Reachable (step cfg) ok start s)
    (found : start.dbs.mongo.zone? oid name = some z) :
    ∃ z', s.dbs.mongo.zone? oid name = some z' ∧ z'.capacity = z.capacity ∧
      (s.ledger oid name).booked = z'.bookedCount := by
  obtain ⟨z', found', -, -, full⟩ :=
    Catalog.zone?_of_listing (listing_of_reachable reached).symm found
  exact ⟨z', found', full, by simp [State.ledger, Databases.ledger, Catalog.booked, found']⟩

/-- **No oversell under crashes.**  Whatever crashes, whatever MongoDB raises and whatever
transactions abort: the counter of a zone covers its active tickets and never passes the
capacity. -/
theorem no_oversell {d : EventDoc} (fresh : start.Fresh) (event : d ∈ start.dbs.mongo.docs)
    (distinct : (d.zones.map Zone.name).Nodup) (zone : z ∈ d.zones)
    (fits : z.bookedCount ≤ z.capacity)
    (reached : Reachable (step cfg) (fun _ a => a.ReplyReceived) start s) :
    ∃ z', s.dbs.mongo.zone? d.id z.name = some z' ∧ z'.capacity = z.capacity ∧
      z.bookedCount + s.dbs.pg.activeIn d.id z.name ≤ z'.bookedCount ∧
      z'.bookedCount ≤ z'.capacity := by
  obtain ⟨found, hasZone⟩ := hasZone_of_mem event distinct zone
  have base : Safe z.bookedCount z.capacity (start.ledger d.id z.name) := by
    rw [ledger_of_fresh fresh]
    simp [Safe, Catalog.booked, found, fits]
  have safe : Safe z.bookedCount z.capacity (s.ledger d.id z.name) := by
    refine reached.invariant₂ (P := fun s => Safe z.bookedCount z.capacity (s.ledger d.id z.name))
      base ?_
    intro s a s' before safe replied moved
    have same := listing_of_reachable before
    exact ((step_cases moved).move (hasZone.of_listing same.symm) same
      (planned_of_reachable before fresh.1) replied).safe safe
  obtain ⟨z', found', full, counter⟩ := zone_of_reachable reached found
  obtain ⟨covered, below⟩ := safe
  rw [counter] at covered below
  have units : 0 ≤ (s.ledger d.id z.name).inflight := Int.natCast_nonneg _
  have rows : (s.ledger d.id z.name).active = s.dbs.pg.activeIn d.id z.name := rfl
  exact ⟨z', found', full, by omega, by omega⟩

/-- One call takes a seat in MongoDB and crashes; the next one sells the other seat. -/
def crashSchedule : List Action :=
  .spawn (.createOrder Sample.order none) :: Sample.advance 0 3 1 ++
    [.crash 0, .spawn (.createOrder Sample.order none)] ++ Sample.advance 1 4 2

theorem no_oversell_after_crash :
    ∃ s z', run (step Sample.cfg) (Sample.start Sample.floor) crashSchedule = some s ∧
      s.dbs.mongo.zone? Sample.oid "Floor" = some z' ∧
      0 + (s.dbs.pg.activeIn Sample.oid "Floor" : ℤ) ≤ z'.bookedCount ∧ z'.bookedCount ≤ 2 := by
  obtain ⟨s, ran⟩ := Option.isSome_iff_exists.mp (show (checkedRun (step Sample.cfg)
    (fun _ a => a.ReplyReceived) (Sample.start Sample.floor) crashSchedule).isSome = true by
      decide +kernel)
  obtain ⟨z', found, full, covered, below⟩ := no_oversell (Sample.fresh Sample.floor)
    (Sample.event_mem Sample.floor) (by decide) (List.mem_map_of_mem (Sample.zone_mem Sample.floor))
    (by decide) (reachable_of_checkedRun ran)
  exact ⟨s, z', run_of_checkedRun ran, found, covered, below.trans full.le⟩

/-- **The exact ledger.**  Without crashes and with MongoDB up, whatever transactions abort: when no
call is running, the counter of a zone is what it was created with and its active tickets. -/
theorem ledger_exact {eventIn : EventCreate} (fresh : start.Fresh)
    (event : createEvent eventIn oid ∈ start.dbs.mongo.docs)
    (distinct : (eventIn.zones.map ZoneSchema.name).Nodup) {zone : ZoneSchema}
    (mem : zone ∈ eventIn.zones)
    (reached : Reachable (step cfg) (fun _ a => a.ReplyReceived ∧ ¬ a.Faulty) start s)
    (quiescent : ∀ call ∈ s.calls, call.ended = true) :
    ∃ z', s.dbs.mongo.zone? oid zone.name = some z' ∧
      z'.bookedCount = zone.bookedCount + s.dbs.pg.activeIn oid zone.name := by
  have names : ((createEvent eventIn oid).zones.map Zone.name).Nodup := by
    rw [createEvent, List.map_map]
    exact distinct
  obtain ⟨found, hasZone⟩ := hasZone_of_mem event names (List.mem_map_of_mem mem)
  have base : Exact zone.bookedCount (start.ledger oid zone.name) := by
    rw [ledger_of_fresh fresh]
    have counter : start.dbs.mongo.booked oid zone.name = zone.bookedCount := by
      rw [Catalog.booked]
      exact congrArg (fun z => (z.map Zone.bookedCount).getD 0) found
    simp [Exact, counter]
  have exact : Exact zone.bookedCount (s.ledger oid zone.name) := by
    refine reached.invariant₂ (P := fun s => Exact zone.bookedCount
      (s.ledger oid zone.name)) base ?_
    intro s a s' before account allowed moved
    have same := listing_of_reachable before
    exact ((step_cases moved).move (hasZone.of_listing same.symm) same
      (planned_of_reachable before fresh.1) allowed.1).exact allowed.2 zone.bookedCount_nonneg
      (Int.natCast_nonneg _) (Int.natCast_nonneg _) account
  have idle : (s.calls.map (Call.seatsIn oid zone.name)).sum = 0 := by
    refine List.sum_eq_zero fun n inMap => ?_
    obtain ⟨call, running, rfl⟩ := List.mem_map.mp inMap
    exact Call.seatsIn_of_ended (quiescent call running)
  obtain ⟨z', found', -, counter⟩ := zone_of_reachable reached found
  have counter : (s.ledger oid zone.name).booked = z'.bookedCount := counter
  refine ⟨z', found', ?_⟩
  rw [Exact, counter] at exact
  simpa [State.ledger, Databases.ledger, idle] using exact

/-- Two calls reserve and race for one seat; the loser gives back what it took. -/
def raceSchedule : List Action :=
  [.spawn (.createOrder Sample.order none), .spawn (.createOrder Sample.order none)] ++
    Sample.advance 0 3 1 ++ Sample.advance 1 4 2 ++ Sample.advance 0 3 1

theorem ledger_exact_after_race :
    ∃ s z', run (step Sample.cfg) (Sample.start Sample.floor) raceSchedule = some s ∧
      s.dbs.mongo.zone? Sample.oid "Floor" = some z' ∧
      z'.bookedCount = 0 + s.dbs.pg.activeIn Sample.oid "Floor" := by
  obtain ⟨s, checked⟩ := Option.isSome_iff_exists.mp (show ((checkedRun (step Sample.cfg)
    (fun _ a => a.ReplyReceived ∧ ¬ a.Faulty) (Sample.start Sample.floor) raceSchedule).filter
      fun s => s.calls.all Call.ended).isSome = true by decide +kernel)
  obtain ⟨ran, quiescent⟩ := Option.filter_eq_some_iff.mp checked
  obtain ⟨z', found, exact⟩ := ledger_exact (Sample.fresh Sample.floor)
    (Sample.event_mem Sample.floor) (by decide) (Sample.zone_mem Sample.floor)
    (reachable_of_checkedRun ran) (List.all_eq_true.mp quiescent)
  exact ⟨s, z', run_of_checkedRun ran, found, exact⟩

end Runs

end TicketBooking
