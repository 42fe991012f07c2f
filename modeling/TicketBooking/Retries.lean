import TicketBooking.Idempotency

/-!
# Identical retries

Any number of copies of one servable request with one Idempotency-Key and no other traffic.  As long
as every copy that reserves finds room in the zone, exactly one order is created, every copy answers
with it, and every counter grows by the quantity of one request.  A copy that finds the zone full
(because another copy holds its seats for a moment) is told that the zone is sold out.

Zones are told apart by their position in the event, so that repeated names are covered: an update
by name moves the counter of the first zone of that name.
-/

namespace TicketBooking

open Fallible GroupCount ListUpdate StepSystem

/-! ## Counters by position -/

/-- The counter of the `k`-th zone of an event. -/
def Catalog.counterAt (c : Catalog) (oid : ObjectId) (k : ℕ) : ℤ :=
  (((c.find? oid).bind fun d => d.zones[k]?).map Zone.bookedCount).getD 0

/-- The position of the first zone of this name. -/
def Catalog.positionOf (c : Catalog) (oid : ObjectId) (name : String) : ℕ :=
  ((c.find? oid).map fun d => d.zones.findIdx fun z => z.name = name).getD 0

section Counters

variable {c c' : Catalog} {oid : ObjectId} {name : String} {z : Zone} {guard : ℤ → Bool}

theorem Catalog.positionOf_listing (same : c.listing = c'.listing) (oid : ObjectId)
    (name : String) : c.positionOf oid name = c'.positionOf oid name := by
  have viaListing : ∀ d : EventDoc,
      (d.zones.findIdx fun z => z.name = name) = d.listing.2.2.findIdx fun l => l.1 = name := by
    intro d
    rw [EventDoc.listing, List.findIdx_map]
    rfl
  have positions := congrArg
    (Option.map fun l : ObjectId × String × List (String × ℚ × ℤ) =>
      l.2.2.findIdx fun l => l.1 = name) (Catalog.find?_listing same oid)
  simp only [Option.map_map, Function.comp_def, ← viaListing] at positions
  rw [positionOf, positions, positionOf]

/-- An update whose condition the first zone of the name meets moves that zone's counter, and no
other. -/
theorem Catalog.counterAt_incBooked (found : c.zone? oid name = some z)
    (passes : guard z.bookedCount = true) (delta : ℤ) (oid' : ObjectId) (k : ℕ) :
    (c.incBooked oid name guard delta).counterAt oid' k =
      c.counterAt oid' k + if oid = oid' ∧ c.positionOf oid name = k then delta else 0 := by
  obtain ⟨d, inCatalog, inDoc⟩ := Option.bind_eq_some_iff.mp found
  rw [counterAt, find?_incBooked, counterAt]
  by_cases sameDoc : oid = oid'
  case neg =>
    rw [if_neg fun both => sameDoc both.1, add_zero]
    cases found' : c.find? oid' with
    | none => rfl
    | some d' =>
      have other : d'.id ≠ oid := fun same => sameDoc (same.symm.trans (c.find?_id found'))
      simp only [Option.map_some, if_neg other]
  case pos =>
    subst sameDoc
    have named := d.zone?_name inDoc
    have first : d.zones.findIdx (Zone.matches name guard) =
        d.zones.findIdx fun z => z.name = name := by
      refine findIdx_narrow inDoc (by simp [Zone.matches, named, passes]) fun b matched => ?_
      simp only [Zone.matches, Bool.and_eq_true] at matched
      exact matched.1
    have bound : d.zones.findIdx (fun z => z.name = name) < d.zones.length :=
      List.findIdx_lt_length_of_exists
        ⟨z, List.mem_of_find?_eq_some inDoc, by simpa using named⟩
    simp only [inCatalog, Option.map_some, c.find?_id inCatalog, if_true, Option.bind_some,
      EventDoc.incBooked, getElem?_updateFirst, first, positionOf, Option.getD_some, true_and]
    by_cases here : d.zones.findIdx (fun z => z.name = name) = k
    · subst here
      simp [List.getElem?_eq_getElem bound]
    · rw [if_neg fun same => here same.symm, if_neg here, add_zero]

end Counters

/-! ## The seats of copies in flight -/

section InFlight

variable (catalog : Catalog) (oid : ObjectId) (k : ℕ)

/-- The zone of this name is the `k`-th of the event. -/
def Catalog.places (zone : ObjectId × String) : Bool :=
  zone.1 = oid && catalog.positionOf zone.1 zone.2 = k

/-- The seats `r` takes in the `k`-th zone. -/
def Reservation.seatsAt (r : Reservation) : ℕ :=
  if catalog.places oid k (r.eventOid, r.zoneName) then r.quantity else 0

def CreatePc.seatsAt : CreatePc → ℕ
  | .reserve _ held _ => (held.map (Reservation.seatsAt catalog oid k)).sum
  | .release held _ => (held.map (Reservation.seatsAt catalog oid k)).sum
  | _ => 0

def Call.seatsAt : Call → ℕ
  | .create c => c.pc.seatsAt catalog oid k
  | _ => 0

/-- The items of a plan in the `k`-th zone. -/
def OrderPlan.countAt (plan : OrderPlan) : ℕ :=
  plan.items.countP fun v => catalog.places oid k v.zoneOf

theorem OrderPlan.sum_seatsAt (plan : OrderPlan) :
    ((plan.zoneRequests.map ZoneRequest.reservation).map (Reservation.seatsAt catalog oid k)).sum =
      plan.countAt catalog oid k := by
  rw [countAt, ← sum_groupCount ValidatedItem.zoneOf (catalog.places oid k) plan.items,
    zoneRequests, List.map_map, List.map_map]
  rfl

end InFlight

/-! ## A request that can be served -/

/-- The request passes validation, and the tables accept its rows under this key. -/
structure Databases.Serves (lower : String → String) (dbs : Databases) (orderIn : OrderCreate)
    (key : String) (plan : OrderPlan) : Prop where
  truthy : key ≠ ""
  valid : planOrder lower dbs.mongo orderIn = .ok plan
  rows : ∃ draw, dbs.pg.Insertable (newOrder orderIn (some key) plan draw)
    (plan.tickets draw.orderId)

/-- The rows of the start: ids come from the sequence, and a ticket belongs to an order. -/
structure Postgres.Keyed (pg : Postgres) : Prop where
  ids : pg.IdsDrawn
  tickets : ∀ t ∈ pg.tickets, t.orderId ∈ pg.orderIdsDrawn

/-- What the server checks does not depend on the drawn values. -/
theorem Postgres.Insertable.redraw {pg : Postgres} {orderIn : OrderCreate} {key : Option String}
    {plan : OrderPlan} {draw : Draw} (draw' : Draw)
    (rows : pg.Insertable (newOrder orderIn key plan draw) (plan.tickets draw.orderId)) :
    pg.Insertable (newOrder orderIn key plan draw') (plan.tickets draw'.orderId) := by
  have entries : (plan.tickets draw'.orderId).filterMap Ticket.seatEntry =
      (plan.tickets draw.orderId).filterMap Ticket.seatEntry := by
    rw [OrderPlan.tickets, OrderPlan.tickets, List.filterMap_map, List.filterMap_map]
    rfl
  refine ⟨rows.orderFits, rows.totalNonneg, rows.keyFree, rows.userKnown, ?_, ?_, ?_⟩
  · intro t mem
    obtain ⟨v, inPlan, rfl⟩ := List.mem_map.mp mem
    exact rows.ticketsFit (v.ticket draw.orderId) (List.mem_map_of_mem inPlan)
  · rw [entries]
    exact rows.seatsDistinct
  · rw [entries]
    exact rows.seatsFree

/-- The tables before and after the one order of the retries; ids may have been drawn besides. -/
def Postgres.After (start : Postgres) (orderIn : OrderCreate) (key : String) (plan : OrderPlan) :
    Option Draw → Postgres → Prop
  | none, pg => (∃ ids, pg = { start with orderIdsDrawn := ids }) ∧
      ∀ orderId ∈ start.orderIdsDrawn, orderId ∈ pg.orderIdsDrawn
  | some draw, pg => draw.orderId ∉ start.orderIdsDrawn ∧
      ∃ ids, pg = { start.created orderIn (some key) plan draw with orderIdsDrawn := ids }

/-- Where a copy can be, given the draw of the one that won. -/
inductive CopyAt (orderIn : OrderCreate) (key : String) (plan : OrderPlan) :
    Option Draw → CreatePc → Prop
  | lookup (winner : Option Draw) : CopyAt orderIn key plan winner .lookup
  | readCatalog (winner : Option Draw) : CopyAt orderIn key plan winner .readCatalog
  | reserve (winner : Option Draw) (held : List Reservation) (rest : List ZoneRequest)
    (split : held ++ rest.map ZoneRequest.reservation =
      plan.zoneRequests.map ZoneRequest.reservation) (inPlan : ∀ r ∈ rest, r ∈ plan.zoneRequests) :
    CopyAt orderIn key plan winner (.reserve plan held rest)
  | lost (draw : Draw) (left : List Reservation)
    (inPlan : ∀ r ∈ left, r ∈ plan.zoneRequests.map ZoneRequest.reservation) :
    CopyAt orderIn key plan (some draw) (.release left (.integrity keyViolation))
  | created (draw : Draw) : CopyAt orderIn key plan (some draw)
      (.done (.created (newOrder orderIn (some key) plan draw) (plan.tickets draw.orderId)))
  | replayed (draw : Draw) : CopyAt orderIn key plan (some draw)
      (.done (.replayed (newOrder orderIn (some key) plan draw).stored
        ((plan.tickets draw.orderId).map Ticket.stored)))

section Copies

variable {cfg : Config} {orderIn : OrderCreate} {key : String} {plan : OrderPlan}
  {winner : Option Draw} {start dbs dbs' : Databases} {pg : Postgres} {fault : Fault} {draw : Draw}
  {c c' : CreateCall}

theorem CopyAt.of_none {pc : CreatePc} (position : CopyAt orderIn key plan none pc)
    (winner : Option Draw) : CopyAt orderIn key plan winner pc := by
  cases position with
  | lookup => exact .lookup winner
  | readCatalog => exact .readCatalog winner
  | reserve _ held rest split inPlan => exact .reserve winner held rest split inPlan

/-! ### What a copy finds in the tables -/

theorem Databases.Serves.keyUnused (serves : start.Serves cfg.lower orderIn key plan) :
    start.pg.findByKey key = none := by
  obtain ⟨draw, rows⟩ := serves.rows
  rw [Postgres.findByKey, List.find?_eq_none]
  intro o mem used
  simp only [decide_eq_true_eq] at used
  exact rows.keyFree ⟨rfl, List.mem_map.mpr ⟨o, mem, used⟩⟩

/-- The look-up finds the order of the winner, and nothing before there is one. -/
theorem Postgres.After.findByKey (serves : start.Serves cfg.lower orderIn key plan)
    (after : start.pg.After orderIn key plan winner pg) :
    pg.findByKey key = winner.map fun draw => (newOrder orderIn (some key) plan draw).stored := by
  have unused := serves.keyUnused
  cases winner with
  | none =>
    obtain ⟨⟨ids, rfl⟩, -⟩ := after
    exact unused
  | some draw =>
    obtain ⟨-, ids, rfl⟩ := after
    have fresh : (start.pg.orders.find? fun o => o.idempotencyKey = some key) = none := unused
    simp [Postgres.findByKey, Postgres.created, fresh, newOrder]

theorem Postgres.After.ticketsOf {draw : Draw} (keyed : start.pg.Keyed)
    (after : start.pg.After orderIn key plan (some draw) pg) :
    pg.ticketsOf draw.orderId = (plan.tickets draw.orderId).map Ticket.stored := by
  obtain ⟨fresh, ids, rfl⟩ := after
  have old : (start.pg.tickets.filter fun t => t.orderId = draw.orderId) = [] :=
    filter_key_eq_nil fun mem => by
      obtain ⟨t, stored, same⟩ := List.mem_map.mp mem
      exact fresh (same ▸ keyed.tickets t stored)
  simp only [Postgres.ticketsOf, Postgres.created, List.filter_append, old, plan.filter_tickets,
    List.nil_append]

/-- The winner's order passes the fingerprint check of every copy. -/
theorem Databases.Serves.fingerprint (serves : start.Serves cfg.lower orderIn key plan)
    (draw : Draw) : fingerprintAnswer cfg.lower (newOrder orderIn (some key) plan draw).stored
      ((plan.tickets draw.orderId).map Ticket.stored) orderIn = none := by
  rw [fingerprintAnswer_eq_none_iff]
  have payload := planOrder_payload serves.valid (some key) draw
  unfold orderPayload at payload ⊢
  rw [List.map_map]
  exact payload

theorem Databases.Serves.truthyKey (serves : start.Serves cfg.lower orderIn key plan) :
    truthyKey (some key) = some key := by
  simp [TicketBooking.truthyKey, serves.truthy]

/-! ### One step of a copy -/

/-- A copy that answers without touching a database answers with the winner's order. -/
theorem CopyAt.ends {outcome : CreateOutcome} (keyed : start.pg.Keyed)
    (serves : start.Serves cfg.lower orderIn key plan)
    (same : dbs.mongo.listing = start.mongo.listing)
    (after : start.pg.After orderIn key plan winner dbs.pg) (isCopy : c.orderIn = orderIn)
    (hasKey : c.idempotencyKey = some key) (position : CopyAt orderIn key plan winner c.pc)
    (ended : c.Ends cfg.lower dbs .none outcome) :
    CopyAt orderIn key plan winner (.done outcome) := by
  have truthy : TicketBooking.truthyKey c.idempotencyKey = some key := hasKey ▸ serves.truthyKey
  have finds := after.findByKey serves
  -- a call that finds an order under the key finds the winner's
  have replays : ∀ key' existing, some key = some key' → dbs.pg.findByKey key' = some existing →
      fingerprintAnswer cfg.lower existing (dbs.pg.ticketsOf existing.id) c.orderIn = none ∧
        CopyAt orderIn key plan winner
          (.done (.replayed existing (dbs.pg.ticketsOf existing.id))) := by
    intro key' existing sameKey found
    cases sameKey
    rw [finds] at found
    cases winner with
    | none => cases found
    | some draw =>
      cases found
      have tickets : dbs.pg.ticketsOf (newOrder orderIn (some key) plan draw).stored.id = _ :=
        after.ticketsOf keyed
      rw [tickets, isCopy]
      exact ⟨serves.fingerprint draw, .replayed draw⟩
  cases ended with
  | keyRefused at_pc truthy' found refused =>
    rw [(replays _ _ (truthy.symm.trans truthy') found).1] at refused
    cases refused
  | keyReplayed at_pc truthy' found matched =>
    exact (replays _ _ (truthy.symm.trans truthy') found).2
  | invalid at_pc refused =>
    rw [planOrder_listing same, isCopy, serves.valid] at refused
    cases refused
  | compensated at_pc =>
    rw [at_pc] at position
    cases position
  | @raceLost exc key' winning at_pc raced found =>
    refine (replays key' winning ?_ found).2
    unfold racedKey at raced
    split at raced
    · exact truthy.symm.trans raced
    · cases raced
  | @integrity exc at_pc noWinner =>
    rw [at_pc] at position
    cases position with
    | lost draw =>
      have raced : racedKey c.idempotencyKey keyViolation = some key := truthy
      rw [noWinner key raced] at finds
      cases finds
  | keyUnread at_pc raised => cases raised
  | catalogUnread at_pc raised => cases raised

/-- The transaction of a copy commits when there is no winner yet, and loses the key otherwise. -/
theorem Postgres.After.createTx (serves : start.Serves cfg.lower orderIn key plan)
    (after : start.pg.After orderIn key plan winner pg) (draw : Draw) :
    (winner = none ∧
      TicketBooking.createTx (pg.drawOrderId draw.orderId) orderIn (some key) plan draw =
        .ok ((pg.drawOrderId draw.orderId).created orderIn (some key) plan draw)) ∨
    (winner.isSome ∧
      TicketBooking.createTx (pg.drawOrderId draw.orderId) orderIn (some key) plan draw =
        .error keyViolation) := by
  obtain ⟨draw', rows⟩ := serves.rows
  have rows := rows.redraw draw
  cases winner with
  | none =>
    obtain ⟨⟨ids, rfl⟩, -⟩ := after
    refine .inl ⟨rfl, createTx_ok_iff.mpr ⟨?_, rfl⟩⟩
    exact ⟨rows.orderFits, rows.totalNonneg, rows.keyFree, rows.userKnown, rows.ticketsFit,
      rows.seatsDistinct, rows.seatsFree⟩
  | some first =>
    obtain ⟨-, ids, rfl⟩ := after
    refine .inr ⟨rfl, createTx_taken rows.orderFits rows.totalNonneg ?_⟩
    simp [Postgres.drawOrderId, Postgres.created, newOrder]

/-- The winner's own rows. -/
theorem Postgres.After.commits (after : start.pg.After orderIn key plan none pg) {draw : Draw}
    (fresh : draw.orderId ∉ pg.orderIdsDrawn) : start.pg.After orderIn key plan (some draw)
      ((pg.drawOrderId draw.orderId).created orderIn (some key) plan draw) := by
  obtain ⟨⟨ids, rfl⟩, more⟩ := after
  exact ⟨fun old => fresh (more _ old), _, rfl⟩

theorem Postgres.After.draws (after : start.pg.After orderIn key plan winner pg) (orderId : ℕ) :
    start.pg.After orderIn key plan winner (pg.drawOrderId orderId) := by
  cases winner with
  | none =>
    obtain ⟨⟨ids, rfl⟩, more⟩ := after
    exact ⟨⟨_, rfl⟩, fun old mem => List.mem_cons_of_mem _ (more old mem)⟩
  | some draw =>
    obtain ⟨fresh, ids, rfl⟩ := after
    exact ⟨fresh, _, rfl⟩

/-- The zone of a request of the plan is in the catalog. -/
theorem Databases.Serves.zone {c : Catalog} (serves : start.Serves cfg.lower orderIn key plan)
    (same : c.listing = start.mongo.listing) {r : ZoneRequest} (mem : r ∈ plan.zoneRequests) :
    0 < r.quantity ∧ ∃ z, c.zone? r.eventOid r.zoneName = some z := by
  obtain ⟨positive, v, listed, sameOid, sameName, -⟩ :=
    OrderPlan.mem_zoneRequests (planOrder_listed serves.valid) mem
  obtain ⟨z, found, -⟩ := listed.zone
  rw [sameOid, sameName] at found
  obtain ⟨z', found', -⟩ := Catalog.zone?_of_listing same.symm found
  exact ⟨positive, z', found'⟩

/-- The seats the winner's order has taken for good. -/
def OrderPlan.soldAt (plan : OrderPlan) (catalog : Catalog) (winner : Option Draw) (oid : ObjectId)
    (k : ℕ) : ℕ :=
  if winner.isSome then plan.countAt catalog oid k else 0

/-- What one step of a copy keeps: the tables hold at most the one order, the copy is at one of its
places, and the counters move with the seats it holds. -/
structure CopyMoved (start : Databases) (orderIn : OrderCreate) (key : String) (plan : OrderPlan)
    (winner : Option Draw) (dbs : Databases) (c : CreateCall) (winner' : Option Draw)
    (dbs' : Databases) (c' : CreateCall) : Prop where
  after : start.pg.After orderIn key plan winner' dbs'.pg
  isCopy : c'.orderIn = c.orderIn ∧ c'.idempotencyKey = c.idempotencyKey
  position : CopyAt orderIn key plan winner' c'.pc
  others : ∀ pc, CopyAt orderIn key plan winner pc → CopyAt orderIn key plan winner' pc
  counters : ∀ oid k, dbs'.mongo.counterAt oid k +
    (plan.soldAt start.mongo winner oid k + c.pc.seatsAt start.mongo oid k : ℕ) =
      dbs.mongo.counterAt oid k +
        (plan.soldAt start.mongo winner' oid k + c'.pc.seatsAt start.mongo oid k : ℕ)

/-- An update that moves the counter of the zone `r` names, read at the `k`-th zone. -/
theorem Catalog.counterAt_moved {c catalog : Catalog} (same : c.listing = catalog.listing)
    (r : Reservation) {z : Zone} (guard : ℤ → Bool) (found : c.zone? r.eventOid r.zoneName = some z)
    (passes : guard z.bookedCount = true) (sign : ℤ) (oid : ObjectId) (k : ℕ) :
    (c.incBooked r.eventOid r.zoneName guard (sign * r.quantity)).counterAt oid k =
      c.counterAt oid k + sign * (r.seatsAt catalog oid k : ℕ) := by
  rw [Catalog.counterAt_incBooked found passes, Catalog.positionOf_listing same,
    Reservation.seatsAt, Catalog.places]
  simp only [Bool.and_eq_true, decide_eq_true_eq]
  split <;> simp

section Moves

variable {held : List Reservation} {r : ZoneRequest} {rest : List ZoneRequest}

/-- A reservation gets through. -/
theorem CopyMoved.reserve (same : dbs.mongo.listing = start.mongo.listing)
    (after : start.pg.After orderIn key plan winner dbs.pg)
    (at_pc : c.pc = .reserve plan held (r :: rest))
    (split : held ++ (r :: rest).map ZoneRequest.reservation =
      plan.zoneRequests.map ZoneRequest.reservation)
    (inPlan : ∀ r' ∈ r :: rest, r' ∈ plan.zoneRequests)
    (hasRoom : (dbs.mongo.zone? r.eventOid r.zoneName).any (fun z => r.hasRoom z.bookedCount) =
      true) :
    CopyMoved start orderIn key plan winner dbs c winner
      ⟨dbs.pg, dbs.mongo.incBooked r.eventOid r.zoneName r.hasRoom r.quantity⟩
      (c.goto (.reserve plan (held ++ [r.reservation]) rest)) := by
  obtain ⟨z, found, passes⟩ := (Option.any_eq_true _ _).mp hasRoom
  refine ⟨after, ⟨rfl, rfl⟩, .reserve winner _ rest (by simpa using split) fun r' mem =>
    inPlan r' (List.mem_cons_of_mem _ mem), fun _ old => old, fun oid k => ?_⟩
  have counter := Catalog.counterAt_moved same r.reservation r.hasRoom found passes 1 oid k
  rw [one_mul, one_mul] at counter
  have counter : (dbs.mongo.incBooked r.eventOid r.zoneName r.hasRoom r.quantity).counterAt
      oid k = _ := counter
  rw [at_pc, counter]
  simp only [CreateCall.goto_pc, CreatePc.seatsAt, List.map_append, List.sum_append,
    List.map_cons, List.map_nil, List.sum_cons, List.sum_nil, add_zero]
  omega

/-- The transaction of the first copy commits. -/
theorem CopyMoved.commit (after : start.pg.After orderIn key plan none dbs.pg)
    (isCopy : c.orderIn = orderIn) (hasKey : c.idempotencyKey = some key)
    (at_pc : c.pc = .reserve plan held [])
    (split : held = plan.zoneRequests.map ZoneRequest.reservation)
    (fresh : draw.orderId ∉ dbs.pg.orderIdsDrawn) :
    CopyMoved start orderIn key plan none dbs c (some draw)
      ⟨(dbs.pg.drawOrderId draw.orderId).created orderIn (some key) plan draw, dbs.mongo⟩
      (CreateCall.goto { c with attempt := some draw.orderId } (.done (.created
        (newOrder c.orderIn c.idempotencyKey plan draw) (plan.tickets draw.orderId)))) := by
  refine ⟨after.commits fresh, ⟨rfl, rfl⟩, ?_, fun pc old => old.of_none _, fun oid k => ?_⟩
  · rw [isCopy, hasKey]
    exact .created draw
  · have all := plan.sum_seatsAt start.mongo oid k
    rw [← split] at all
    rw [at_pc]
    simp [OrderPlan.soldAt, CreatePc.seatsAt, all]

/-- The transaction of a later copy finds the key taken. -/
theorem CopyMoved.lose {first : Draw}
    (after : start.pg.After orderIn key plan (some first) dbs.pg)
    (at_pc : c.pc = .reserve plan held [])
    (split : held = plan.zoneRequests.map ZoneRequest.reservation) :
    CopyMoved start orderIn key plan (some first) dbs c (some first)
      ⟨dbs.pg.drawOrderId draw.orderId, dbs.mongo⟩
      (CreateCall.goto { c with attempt := some draw.orderId }
        (.release held (failureOf keyViolation))) := by
  refine ⟨after.draws _, ⟨rfl, rfl⟩, .lost first held fun r mem => ?_, fun _ old => old,
    fun oid k => by rw [at_pc]; rfl⟩
  rw [← split]
  exact mem

/-- A copy that lost gives a reservation back. -/
theorem CopyMoved.giveBack {first : Draw} {back : Reservation} {left : List Reservation}
    (serves : start.Serves cfg.lower orderIn key plan)
    (same : dbs.mongo.listing = start.mongo.listing)
    (after : start.pg.After orderIn key plan (some first) dbs.pg)
    (at_pc : c.pc = .release (back :: left) (.integrity keyViolation))
    (inPlan : ∀ r ∈ back :: left, r ∈ plan.zoneRequests.map ZoneRequest.reservation) :
    CopyMoved start orderIn key plan (some first) dbs c (some first)
      ⟨dbs.pg, dbs.mongo.incBooked back.eventOid back.zoneName (fun _ => true) (-back.quantity)⟩
      (c.goto (.release left (.integrity keyViolation))) := by
  obtain ⟨r, mem, rfl⟩ := List.mem_map.mp (inPlan back List.mem_cons_self)
  obtain ⟨-, z, found⟩ := serves.zone same mem
  refine ⟨after, ⟨rfl, rfl⟩, .lost first left fun r' mem' =>
    inPlan r' (List.mem_cons_of_mem _ mem'), fun _ old => old, fun oid k => ?_⟩
  have counter := Catalog.counterAt_moved same r.reservation (fun _ => true) found rfl (-1) oid k
  rw [neg_one_mul, neg_one_mul] at counter
  simp only [at_pc, counter, CreateCall.goto_pc, CreatePc.seatsAt, List.map_cons, List.sum_cons]
  omega

end Moves

/-- **One step of a copy.** -/
theorem CreateStep.copyMoved (keyed : start.pg.Keyed)
    (serves : start.Serves cfg.lower orderIn key plan)
    (same : dbs.mongo.listing = start.mongo.listing)
    (after : start.pg.After orderIn key plan winner dbs.pg) (isCopy : c.orderIn = orderIn)
    (hasKey : c.idempotencyKey = some key) (position : CopyAt orderIn key plan winner c.pc)
    (room : ∀ plan' held r rest, c.pc = .reserve plan' held (r :: rest) →
      (dbs.mongo.zone? r.eventOid r.zoneName).any (fun z => r.hasRoom z.bookedCount) = true)
    (moved : CreateStep cfg.lower dbs .none draw c dbs' c') :
    ∃ winner', CopyMoved start orderIn key plan winner dbs c winner' dbs' c' := by
  cases moved with
  | @ends outcome ended =>
    refine ⟨winner, after, ⟨rfl, rfl⟩, position.ends keyed serves same after isCopy hasKey ended,
      fun _ old => old, fun oid k => ?_⟩
    have noSeats : c.pc.seatsAt start.mongo oid k = 0 := by
      rcases ended.ending with at_pc | at_pc | ⟨failure, at_pc⟩
      all_goals rw [at_pc]; rfl
    rw [noSeats]
    rfl
  | keyFree at_pc =>
    exact ⟨winner, after, ⟨rfl, rfl⟩, .readCatalog winner, fun _ old => old,
      fun oid k => by rw [at_pc]; rfl⟩
  | @planned plan' at_pc valid =>
    rw [planOrder_listing same, isCopy, serves.valid] at valid
    cases valid
    exact ⟨winner, after, ⟨rfl, rfl⟩, .reserve winner [] _ (by simp) fun r mem => mem,
      fun _ old => old, fun oid k => by rw [at_pc]; rfl⟩
  | @reserved plan' held r rest at_pc modified =>
    rw [at_pc] at position
    cases position with
    | reserve _ _ _ split inPlan =>
      exact ⟨winner, .reserve same after at_pc split inPlan (room _ _ _ _ at_pc)⟩
  | @soldOut plan' held r rest at_pc unmodified =>
    have hasRoom := room _ _ _ _ at_pc
    rw [at_pc] at position
    cases position with
    | reserve _ _ _ split inPlan =>
      obtain ⟨z, found, passes⟩ := (Option.any_eq_true _ _).mp hasRoom
      obtain ⟨positive, -⟩ := serves.zone same (inPlan r List.mem_cons_self)
      rw [Catalog.modifiedCount_hit found passes (by omega)] at unmodified
      cases unmodified
  | reserveRaised _ raised => cases raised
  | @committed plan' held pg' at_pc fresh statements =>
    rw [at_pc] at position
    cases position with
    | reserve _ _ _ split inPlan =>
      rw [isCopy, hasKey] at statements
      rw [List.map_nil, List.append_nil] at split
      rcases after.createTx serves draw with ⟨rfl, ran⟩ | ⟨-, ran⟩
      · cases ran.symm.trans statements
        exact ⟨some draw, .commit after isCopy hasKey at_pc split fresh⟩
      · cases ran.symm.trans statements
  | @aborted plan' held exc at_pc fresh cause =>
    rw [at_pc] at position
    cases position with
    | reserve _ _ _ split inPlan =>
      rw [List.map_nil, List.append_nil] at split
      rcases cause with raised | statements
      · cases raised
      · rw [isCopy, hasKey] at statements
        rcases after.createTx serves draw with ⟨rfl, ran⟩ | ⟨won, ran⟩
        · cases ran.symm.trans statements
        · cases ran.symm.trans statements
          obtain ⟨first, rfl⟩ := Option.isSome_iff_exists.mp won
          exact ⟨some first, .lose after at_pc split⟩
  | replyLost _ _ lost => cases lost
  | @gaveBack r rest failure applied at_pc cause =>
    rw [at_pc] at position
    cases position with
    | lost first _ inPlan =>
      rcases cause with reached | ⟨exc, raised⟩
      · rw [if_pos reached]
        exact ⟨some first, .giveBack serves same after at_pc inPlan⟩
      · cases raised

end Copies

/-! ## Every call ends -/

section Progress

variable {cfg : Config} {dbs dbs' : Databases} {fault : Fault} {draw : Draw} {c c' : CreateCall}

/-- An upper bound of the steps a call has left. -/
def CreateCall.stepsLeft (c : CreateCall) : ℕ :=
  match c.pc with
  | .lookup => 2 * c.orderIn.items.length + 4
  | .readCatalog => 2 * c.orderIn.items.length + 3
  | .reserve _ held rest => 2 * rest.length + held.length + 2
  | .release reserved _ => reserved.length + 1
  | .done _ => 0
  | .crashed => 0

theorem planOrder_zoneRequests_length {lower : String → String} {catalog : Catalog}
    {orderIn : OrderCreate} {plan : OrderPlan}
    (planned : planOrder lower catalog orderIn = .ok plan) :
    plan.zoneRequests.length ≤ orderIn.items.length := by
  obtain ⟨validated, turns, items, -⟩ := planOrder_ok planned
  calc plan.zoneRequests.length = (groupCount ValidatedItem.zoneOf plan.items).length := by
        rw [OrderPlan.zoneRequests, List.length_map]
    _ ≤ plan.items.length := length_groupCount_le _ _
    _ = orderIn.items.length := by rw [items, List.length_insertionSort, turns.length_eq]

/-- Every step brings a call nearer to its end. -/
theorem CreateStep.stepsLeft_lt {lower : String → String}
    (moved : CreateStep lower dbs fault draw c dbs' c') : c'.stepsLeft < c.stepsLeft := by
  cases moved with
  | @ends outcome ended =>
    have done : (c.goto (.done outcome)).stepsLeft = 0 := rfl
    rw [done]
    rcases ended.ending with at_pc | at_pc | ⟨failure, at_pc⟩
    all_goals simp [CreateCall.stepsLeft, at_pc]
  | planned at_pc valid =>
    have zones := planOrder_zoneRequests_length valid
    simp only [CreateCall.stepsLeft, at_pc, CreateCall.goto, List.length_nil]
    omega
  | keyFree at_pc | reserved at_pc | soldOut at_pc | reserveRaised at_pc | committed at_pc
  | aborted at_pc | replyLost at_pc | gaveBack at_pc =>
    simp only [CreateCall.stepsLeft, at_pc, CreateCall.goto, List.length_cons, List.length_append,
      List.length_nil]
    omega

/-- A running call can always make its next step, once the sequence hands out a new value. -/
theorem CreateCall.step_isSome (lower : String → String)
    (fresh : draw.orderId ∉ dbs.pg.orderIdsDrawn)
    (running : ∀ outcome, c.pc ≠ .done outcome) (alive : c.pc ≠ .crashed) :
    (c.step lower dbs fault draw).isSome = true := by
  unfold step
  split
  case h_4 =>
    rw [if_neg fresh]
    dsimp only
    split <;> rfl
  case h_8 outcome at_pc => exact absurd at_pc (running outcome)
  case h_9 at_pc => exact absurd at_pc alive
  case h_5 | h_6 => rfl
  case h_1 | h_2 | h_3 | h_7 =>
    repeat' split
    all_goals rfl

end Progress

/-! ## Over runs -/

/-- No traffic but copies of one request, and no failure. -/
def Action.CopyOf (orderIn : OrderCreate) (key : String) : Action → Prop
  | .spawn request => request = .createOrder orderIn (some key)
  | .step _ fault _ => fault = .none
  | .crash _ => False

instance (orderIn : OrderCreate) (key : String) : (a : Action) → Decidable (a.CopyOf orderIn key)
  | .spawn request => inferInstanceAs (Decidable (request = .createOrder orderIn (some key)))
  | .step _ fault _ => inferInstanceAs (Decidable (fault = .none))
  | .crash _ => inferInstanceAs (Decidable False)

/-- The zone that the create call `i` is about to reserve in. -/
def State.reserving (s : State) (i : ℕ) : Option ZoneRequest :=
  match s.calls[i]? with
  | some (.create c) =>
    match c.pc with
    | .reserve _ _ (r :: _) => some r
    | _ => none
  | _ => none

theorem State.reserving_of_pc {s : State} {i : ℕ} {c : CreateCall}
    (at_i : s.calls[i]? = some (.create c))
    {plan : OrderPlan} {held : List Reservation} {r : ZoneRequest} {rest : List ZoneRequest}
    (at_pc : c.pc = .reserve plan held (r :: rest)) : s.reserving i = some r := by
  simp [reserving, at_i, at_pc]

/-- A call that is about to reserve finds room in the zone its update names. -/
def RoomLeft (s : State) : Action → Prop
  | .step i _ _ => ∀ r ∈ s.reserving i,
      (s.dbs.mongo.zone? r.eventOid r.zoneName).any (fun z => r.hasRoom z.bookedCount) = true
  | _ => True

instance (s : State) : (a : Action) → Decidable (RoomLeft s a)
  | .step i _ _ => inferInstanceAs (Decidable (∀ r ∈ s.reserving i,
      (s.dbs.mongo.zone? r.eventOid r.zoneName).any (fun z => r.hasRoom z.bookedCount) = true))
  | .spawn _ | .crash _ => inferInstanceAs (Decidable True)

def Call.stepsLeft : Call → ℕ
  | .create c => c.stepsLeft
  | _ => 0

def State.stepsLeft (s : State) : ℕ := (s.calls.map Call.stepsLeft).sum

/-- A running call can move and gets nearer to its end, whatever the others do. -/
theorem create_progress {cfg : Config} {s : State} {i : ℕ} {c : CreateCall} (fault : Fault)
    {draw : Draw} (at_i : s.calls[i]? = some (.create c))
    (running : ∀ outcome, c.pc ≠ .done outcome)
    (alive : c.pc ≠ .crashed) (fresh : draw.orderId ∉ s.dbs.pg.orderIdsDrawn) :
    ∃ s', step cfg s (.step i fault draw) = some s' ∧ s'.stepsLeft < s.stepsLeft := by
  have moves : (c.step cfg.lower s.dbs fault draw).isSome = true :=
    CreateCall.step_isSome cfg.lower fresh running alive
  obtain ⟨⟨dbs', c'⟩, moved⟩ := Option.isSome_iff_exists.mp moves
  refine ⟨⟨dbs', s.calls.set i (.create c')⟩, ?_, ?_⟩
  · simp only [step, at_i, Option.bind_some, Call.step, moved, Option.map_some]
  · have nearer := (CreateCall.step_cases moved).stepsLeft_lt
    have total := sum_map_set Call.stepsLeft (.create c') at_i
    simp only [Call.stepsLeft] at total
    simp only [State.stepsLeft]
    omega

/-- The state of the retries: the tables, the copies and the counters fit together. -/
structure State.Retried (start : State) (orderIn : OrderCreate) (key : String) (plan : OrderPlan)
    (winner : Option Draw) (s : State) : Prop where
  after : start.dbs.pg.After orderIn key plan winner s.dbs.pg
  copies : ∀ (i : ℕ) call, s.calls[i]? = some call → ∃ c, call = .create c ∧ c.orderIn = orderIn ∧
    c.idempotencyKey = some key ∧ CopyAt orderIn key plan winner c.pc
  counters : ∀ oid k, s.dbs.mongo.counterAt oid k = start.dbs.mongo.counterAt oid k +
    (plan.soldAt start.dbs.mongo winner oid k +
      (s.calls.map (Call.seatsAt start.dbs.mongo oid k)).sum : ℕ)

/-- The call returned the order of this draw: from memory, or as it is stored. -/
def CreateCall.Returned (orderIn : OrderCreate) (key : String) (plan : OrderPlan) (draw : Draw)
    (c : CreateCall) : Prop :=
  c.pc = .done (.created (newOrder orderIn (some key) plan draw) (plan.tickets draw.orderId)) ∨
  c.pc = .done (.replayed (newOrder orderIn (some key) plan draw).stored
    ((plan.tickets draw.orderId).map Ticket.stored))

section Runs

variable {cfg : Config} {start s s' : State} {a : Action} {orderIn : OrderCreate} {key : String}
  {plan : OrderPlan} {winner : Option Draw}

theorem State.Retried.idle (idle : start.calls = []) :
    start.Retried orderIn key plan none start where
  after := ⟨⟨_, rfl⟩, fun _ drawn => drawn⟩
  copies i call at_i := by simp [idle] at at_i
  counters oid k := by simp [idle, OrderPlan.soldAt]

theorem State.Retried.step (keyed : start.dbs.pg.Keyed)
    (serves : start.dbs.Serves cfg.lower orderIn key plan)
    (same : s.dbs.mongo.listing = start.dbs.mongo.listing)
    (retried : start.Retried orderIn key plan winner s)
    (allowed : a.CopyOf orderIn key ∧ RoomLeft s a) (moved : SystemStep cfg s a s') :
    ∃ winner', start.Retried orderIn key plan winner' s' := by
  obtain ⟨isCopy, room⟩ := allowed
  cases moved with
  | spawn request =>
    obtain rfl : request = .createOrder orderIn (some key) := isCopy
    refine ⟨winner, retried.after, ?_, fun oid k => ?_⟩
    · exact forall_getElem?_concat retried.copies ⟨_, rfl, rfl, rfl, .lookup winner⟩
    · rw [retried.counters oid k]
      simp [Request.start, Call.seatsAt, CreateCall.start, CreatePc.seatsAt]
  | @call i fault draw call call' dbs' at_i called =>
    obtain rfl : fault = .none := isCopy
    obtain ⟨c, rfl, sameOrder, hasKey, position⟩ := retried.copies i call at_i
    cases called with
    | @create _ c' _ moved =>
      have hasRoom : ∀ plan' held r rest, c.pc = .reserve plan' held (r :: rest) →
          (s.dbs.mongo.zone? r.eventOid r.zoneName).any (fun z => r.hasRoom z.bookedCount) =
            true := by
        intro plan' held r rest at_pc
        exact room r (State.reserving_of_pc at_i at_pc)
      obtain ⟨winner', moved⟩ := moved.copyMoved keyed serves same retried.after sameOrder hasKey
        position hasRoom
      refine ⟨winner', moved.after, forall_getElem?_set ?_ ?_, fun oid k => ?_⟩
      · intro j other _ at_j
        obtain ⟨c'', rfl, sameOrder', hasKey', position'⟩ := retried.copies j other at_j
        exact ⟨c'', rfl, sameOrder', hasKey', moved.others _ position'⟩
      · exact ⟨c', rfl, moved.isCopy.1.trans sameOrder, moved.isCopy.2.trans hasKey, moved.position⟩
      · have seats := sum_map_set (Call.seatsAt start.dbs.mongo oid k) (.create c') at_i
        have counters := retried.counters oid k
        have counter := moved.counters oid k
        simp only [Call.seatsAt] at seats
        dsimp only
        omega
  | crash => exact isCopy.elim

theorem retried_of_reachable (idle : start.calls = []) (keyed : start.dbs.pg.Keyed)
    (serves : start.dbs.Serves cfg.lower orderIn key plan)
    (reached : Reachable (step cfg) (fun s a => a.CopyOf orderIn key ∧ RoomLeft s a) start s) :
    ∃ winner, start.Retried orderIn key plan winner s := by
  refine reached.invariant₂ (P := fun s => ∃ winner, start.Retried orderIn key plan winner s)
    ⟨none, .idle idle⟩ ?_
  intro s a s' before retried allowed moved
  obtain ⟨winner, retried⟩ := retried
  exact retried.step keyed serves (listing_of_reachable before) allowed (step_cases moved)

/-- A copy that has answered has answered with the winner's order. -/
theorem CopyAt.ended {c : CreateCall} (position : CopyAt orderIn key plan winner c.pc)
    (ended : (Call.create c).ended = true) :
    ∃ draw, winner = some draw ∧ c.Returned orderIn key plan draw := by
  obtain ⟨outcome, at_pc⟩ := Call.ended_create.mp ended
  rw [at_pc] at position
  cases position with
  | created draw => exact ⟨draw, rfl, .inl at_pc⟩
  | replayed draw => exact ⟨draw, rfl, .inr at_pc⟩

/-- **Identical retries get the one order**, in the runs in which every copy that is about to
reserve finds room.  A copy that has answered has answered with the order that is in the table; a
copy that has not can move, and gets nearer to its end; and when all have answered there is exactly
one new order, and each counter has grown by the quantity of one request. -/
theorem retries_return_one_order (idle : start.calls = []) (keyed : start.dbs.pg.Keyed)
    (serves : start.dbs.Serves cfg.lower orderIn key plan)
    (reached : Reachable (step cfg) (fun s a => a.CopyOf orderIn key ∧ RoomLeft s a) start s) :
    (∀ (i : ℕ) call draw, s.calls[i]? = some call → call.ended = false →
      draw.orderId ∉ s.dbs.pg.orderIdsDrawn →
      ∃ s', step cfg s (.step i .none draw) = some s' ∧ s'.stepsLeft < s.stepsLeft) ∧
    ((∀ call ∈ s.calls, call.ended = false) ∨
      ∃ draw, s.dbs.pg.orders =
          start.dbs.pg.orders ++ [(newOrder orderIn (some key) plan draw).stored] ∧
        (∀ call ∈ s.calls, call.ended = true →
          ∃ c, call = .create c ∧ c.Returned orderIn key plan draw) ∧
        ((∀ call ∈ s.calls, call.ended = true) → ∀ oid k, s.dbs.mongo.counterAt oid k =
          start.dbs.mongo.counterAt oid k + plan.countAt start.dbs.mongo oid k)) := by
  obtain ⟨winner, retried⟩ := retried_of_reachable idle keyed serves reached
  constructor
  · intro i call draw at_i running fresh
    obtain ⟨c, rfl, -, -, position⟩ := retried.copies i call at_i
    have running : ∀ outcome, c.pc ≠ .done outcome := fun outcome at_pc => by
      rw [Call.ended_create.mpr ⟨outcome, at_pc⟩] at running
      cases running
    have alive : c.pc ≠ .crashed := fun at_pc => by
      rw [at_pc] at position
      cases position
    exact create_progress .none at_i running alive fresh
  · by_cases quiet : ∀ call ∈ s.calls, call.ended = false
    · exact .inl quiet
    · simp only [not_forall, Bool.not_eq_false] at quiet
      obtain ⟨call, mem, ended⟩ := quiet
      obtain ⟨i, at_i⟩ := List.mem_iff_getElem?.mp mem
      obtain ⟨c, rfl, -, -, position⟩ := retried.copies i call at_i
      obtain ⟨draw, rfl, -⟩ := position.ended ended
      obtain ⟨-, ids, tables⟩ := retried.after
      refine .inr ⟨draw, by rw [tables]; rfl, ?_, fun quiet oid k => ?_⟩
      · intro other inCalls ended'
        obtain ⟨j, at_j⟩ := List.mem_iff_getElem?.mp inCalls
        obtain ⟨c', rfl, -, -, position'⟩ := retried.copies j other at_j
        obtain ⟨draw', same, returned⟩ := position'.ended ended'
        cases same
        exact ⟨c', rfl, returned⟩
      · have noSeats : (s.calls.map (Call.seatsAt start.dbs.mongo oid k)).sum = 0 := by
          rw [List.sum_eq_zero_iff]
          intro n inSeats
          obtain ⟨other, inCalls, rfl⟩ := List.mem_map.mp inSeats
          obtain ⟨j, at_j⟩ := List.mem_iff_getElem?.mp inCalls
          obtain ⟨c', rfl, -, -, position'⟩ := retried.copies j other at_j
          obtain ⟨draw', -, at_pc | at_pc⟩ := position'.ended (quiet _ inCalls)
          all_goals rw [Call.seatsAt, at_pc]; rfl
        rw [retried.counters oid k, noSeats]
        rfl

end Runs

theorem retries_return_one_order_in_race :
    ∃ s, run (step Sample.cfg) (Sample.start Sample.floor) (keyRaceSchedule Sample.order) = some s ∧
      (∀ call ∈ s.calls, call.ended = true) ∧
      ∃ draw, s.dbs.pg.orders =
          [(newOrder Sample.order (some "k") (Sample.plan Sample.floor) draw).stored] ∧
        (∀ call ∈ s.calls, ∃ c, call = .create c ∧
          c.Returned Sample.order "k" (Sample.plan Sample.floor) draw) ∧
        s.dbs.mongo.counterAt Sample.oid 0 = 1 := by
  have serves : (Sample.start Sample.floor).dbs.Serves Sample.cfg.lower Sample.order "k"
      (Sample.plan Sample.floor) := by
    refine ⟨by decide, by decide +kernel, Sample.draw 1, ?_⟩
    have inserted : createTx (Sample.start Sample.floor).dbs.pg Sample.order (some "k")
        (Sample.plan Sample.floor) (Sample.draw 1) =
          .ok ((Sample.start Sample.floor).dbs.pg.created Sample.order (some "k")
          (Sample.plan Sample.floor) (Sample.draw 1)) := by decide +kernel
    exact (createTx_ok_iff.mp inserted).1
  obtain ⟨s, ran⟩ := Option.isSome_iff_exists.mp (show (checkedRun (step Sample.cfg)
    (fun s a => a.CopyOf Sample.order "k" ∧ RoomLeft s a) (Sample.start Sample.floor)
    (keyRaceSchedule Sample.order)).isSome = true by decide +kernel)
  have quiet : ((checkedRun (step Sample.cfg) (fun s a => a.CopyOf Sample.order "k" ∧ RoomLeft s a)
      (Sample.start Sample.floor) (keyRaceSchedule Sample.order)).map fun s =>
        (s.calls.map Call.ended)) = some [true, true] := by decide +kernel
  rw [ran] at quiet
  have lengths : s.calls.map Call.ended = [true, true] := Option.some.inj quiet
  have quiet : ∀ call ∈ s.calls, call.ended = true := by
    intro call mem
    have listed := List.mem_map_of_mem (f := Call.ended) mem
    rw [lengths] at listed
    simpa using listed
  refine ⟨s, run_of_checkedRun ran, quiet, ?_⟩
  obtain none | ⟨draw, orders, returned, counters⟩ :=
    (retries_return_one_order rfl ⟨(Sample.fresh Sample.floor).idsDrawn, nofun⟩ serves
      (reachable_of_checkedRun ran)).2
  · obtain ⟨call, mem⟩ : ∃ call, call ∈ s.calls := by
      cases calls : s.calls with
      | nil => rw [calls] at lengths; cases lengths
      | cons call rest => exact ⟨call, List.mem_cons_self⟩
    exact absurd (quiet call mem) (by simp [none call mem])
  · refine ⟨draw, orders, fun call mem => returned call mem (quiet call mem), ?_⟩
    rw [counters quiet Sample.oid 0]
    decide +kernel

/-- **A retry can be told that the zone is sold out.**  Alone the request is served.  With a copy of
it in flight, the copy finds the seat taken by the request itself. -/
theorem retry_sold_out_by_its_twin :
    ((run (step Sample.cfg) (Sample.start Sample.lastSeat)
      (.spawn (.createOrder Sample.order "k") :: Sample.advance 0 4 1)).map fun s =>
        (s.dbs.pg.orders, s.calls.map Call.ended)) = some ([wonOrder], [true]) ∧
    ((run (step Sample.cfg) (Sample.start Sample.lastSeat)
      ([.spawn (.createOrder Sample.order "k"), .spawn (.createOrder Sample.order "k")] ++
        Sample.advance 0 3 1 ++ Sample.advance 1 4 2 ++ Sample.advance 0 1 1)).map fun s =>
        (s.dbs.pg.orders, s.calls[1]?)) =
      some ([wonOrder], some (.create ⟨Sample.order, "k", none,
        .done (.raised ⟨409, .soldOut "Floor" "Concert", none⟩)⟩)) := by
  constructor <;> decide +kernel

end TicketBooking
