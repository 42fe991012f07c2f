import TicketBooking.Commits
import TicketBooking.SeatLedger

/-!
# One ticket per seat

The unique index compares exact strings, so a seat is safe when every spelling of it is stored in
one form.  `Ticket.Canonical` is that form: the hex digits of the event, the name of the first zone
with the same key, the stripped seat number.

* `tablesSeated_of_reachable`: every stored ticket is canonical and the index has no entry twice.
* `seat_never_booked_twice`: so no seat has two active tickets, and a seat none of whose tickets is
  active can be booked again.
-/

namespace TicketBooking

open GroupCount ListUpdate StepSystem

/-! ## Seats up to spelling -/

/-- The seat of a numbered ticket, whatever its spelling. -/
def Ticket.seat (lower : String → String) (t : Ticket) : Option (ObjectId × String × String) :=
  match ObjectId.ofString? t.eventId, t.seatNumber with
  | some oid, some n => some (oid, zoneKey lower t.seatZone, strip n)
  | _, _ => none

/-- The one form in which the code stores a seat. -/
structure Ticket.Canonical (lower : String → String) (catalog : Catalog) (t : Ticket) : Prop where
  zone : ∃ oid d z, t.eventId = ObjectId.hex oid ∧ catalog.find? oid = some d ∧
    (d.zones.find? fun z => zoneKey lower z.name = zoneKey lower t.seatZone) = some z ∧
    z.name = t.seatZone
  stripped : ∀ n, t.seatNumber = some n → strip n = n

section Canonical

variable {lower : String → String} {catalog : Catalog} {t t' : Ticket}

/-- Canonical tickets of one seat are spelled alike. -/
theorem Ticket.Canonical.spelled (canonical : t.Canonical lower catalog)
    (canonical' : t'.Canonical lower catalog) {place : ObjectId × String × String}
    (seats : t.seat lower = some place) (seats' : t'.seat lower = some place) :
    t.eventId = t'.eventId ∧ t.seatZone = t'.seatZone ∧ t.seatNumber = t'.seatNumber ∧
      t.seatNumber.isSome := by
  obtain ⟨oid, d, z, event, found, first, name⟩ := canonical.zone
  obtain ⟨oid', d', z', event', found', first', name'⟩ := canonical'.zone
  unfold Ticket.seat at seats seats'
  rw [event, ObjectId.ofString?_hex] at seats
  rw [event', ObjectId.ofString?_hex] at seats'
  cases number : t.seatNumber with
  | none => rw [number] at seats; cases seats
  | some n =>
    cases number' : t'.seatNumber with
    | none => rw [number'] at seats'; cases seats'
    | some n' =>
      rw [number] at seats
      rw [number', ← seats] at seats'
      simp only [Option.some.injEq, Prod.mk.injEq] at seats'
      obtain ⟨sameEvent, sameZone, sameNumber⟩ := seats'
      rw [canonical.stripped n number, canonical'.stripped n' number'] at sameNumber
      subst sameEvent
      cases found.symm.trans found'
      rw [sameZone, first] at first'
      cases first'
      exact ⟨by rw [event, event'], name.symm.trans name', by rw [sameNumber], rfl⟩

/-- A canonical active ticket is in the index under its own spelling. -/
theorem Ticket.Canonical.entry (canonical : t.Canonical lower catalog)
    (canonical' : t'.Canonical lower catalog) (active : t.active = true)
    (active' : t'.active = true)
    {place : ObjectId × String × String} (seats : t.seat lower = some place)
    (seats' : t'.seat lower = some place) :
    t.seatEntry = t'.seatEntry ∧ t.seatEntry.isSome := by
  obtain ⟨event, zone, number, numbered⟩ := canonical.spelled canonical' seats seats'
  have held : t.status = .held ∨ t.status = .valid := by simpa [Ticket.active] using active
  have held' : t'.status = .held ∨ t'.status = .valid := by simpa [Ticket.active] using active'
  rw [seatEntry, if_pos held, seatEntry, if_pos held', event, zone, number]
  rw [number] at numbered
  exact ⟨rfl, by simpa using numbered⟩

theorem ValidatedItem.Listed.canonical {v : ValidatedItem} (listed : v.Listed lower catalog)
    (orderId : ℕ) : (v.ticket orderId).Canonical lower catalog := by
  obtain ⟨d, z, found, first, name⟩ := listed.firstSpelling
  exact ⟨⟨v.eventOid, d, z, rfl, found, first, name⟩, fun n number => (listed.seat n number).1⟩

theorem Ticket.Canonical.stored (canonical : t.Canonical lower catalog) :
    t.stored.Canonical lower catalog := ⟨canonical.zone, canonical.stripped⟩

theorem Ticket.Canonical.fromHeld (canonical : t.Canonical lower catalog) (orderIds : List ℕ)
    (status : TicketStatus) : (t.fromHeld orderIds status).Canonical lower catalog := by
  unfold Ticket.fromHeld
  split
  · exact ⟨canonical.zone, canonical.stripped⟩
  · exact canonical

end Canonical

/-! ## The tables -/

/-- Every ticket is canonical, and the index holds no entry twice. -/
structure Postgres.Seated (lower : String → String) (catalog : Catalog) (pg : Postgres) : Prop where
  canonical : ∀ t ∈ pg.tickets, t.Canonical lower catalog
  distinct : pg.seatIndex.Nodup

section Tables

variable {lower : String → String} {catalog : Catalog} {pg pg' : Postgres}

/-- A cancelled ticket leaves the index, and no other entry changes. -/
theorem Ticket.fromHeld_cancelled_seatEntry (orderIds : List ℕ) (t : Ticket) :
    (t.fromHeld orderIds .cancelled).seatEntry = none ∨
      (t.fromHeld orderIds .cancelled).seatEntry = t.seatEntry := by
  unfold fromHeld
  split
  · exact .inl rfl
  · exact .inr rfl

/-- A sold ticket keeps its entry. -/
theorem Ticket.fromHeld_valid_seatEntry (orderIds : List ℕ) (t : Ticket) :
    (t.fromHeld orderIds .valid).seatEntry = t.seatEntry := by
  unfold fromHeld
  split
  case isTrue held => simp [seatEntry, held.2]
  case isFalse => rfl

theorem filterMap_seatEntry_sublist {f : Ticket → Ticket}
    (each : ∀ t, (f t).seatEntry = none ∨ (f t).seatEntry = t.seatEntry) (tickets : List Ticket) :
    ((tickets.map f).filterMap Ticket.seatEntry).Sublist (tickets.filterMap Ticket.seatEntry) := by
  induction tickets with
  | nil => exact .slnil
  | cons t tickets ih =>
    rw [List.map_cons, List.filterMap_cons, List.filterMap_cons]
    rcases each t with gone | same
    · rw [gone]
      cases t.seatEntry with
      | none => exact ih
      | some e => exact ih.trans (List.sublist_cons_self e _)
    · rw [same]
      cases t.seatEntry with
      | none => exact ih
      | some e => exact ih.cons_cons e

theorem Commit.seated (committed : Commit lower catalog pg pg') (seated : pg.Seated lower catalog) :
    pg'.Seated lower catalog := by
  have updated : ∀ (orderIds : List ℕ) (status : TicketStatus),
      ∀ t ∈ pg.tickets.map (Ticket.fromHeld orderIds status), t.Canonical lower catalog := by
    intro orderIds status t mem
    obtain ⟨old, stored, rfl⟩ := List.mem_map.mp mem
    exact (seated.canonical old stored).fromHeld orderIds status
  cases committed with
  | nothing => exact seated
  | drawn => exact ⟨seated.canonical, seated.distinct⟩
  | @created orderIn key plan draw planned fresh rows =>
    have entries : ((pg.drawOrderId draw.orderId).created orderIn key plan draw).seatIndex =
        pg.seatIndex ++ (plan.tickets draw.orderId).filterMap Ticket.seatEntry := by
      rw [Postgres.seatIndex, Postgres.created, List.filterMap_append, List.filterMap_map]
      rfl
    constructor
    · intro t mem
      rcases List.mem_append.mp mem with old | new
      · exact seated.canonical t old
      · obtain ⟨t, inserted, rfl⟩ := List.mem_map.mp new
        obtain ⟨v, inPlan, rfl⟩ := List.mem_map.mp inserted
        exact ((planOrder_listed planned v inPlan).canonical draw.orderId).stored
    · rw [entries]
      refine List.nodup_append.mpr ⟨seated.distinct, rows.seatsDistinct, ?_⟩
      rintro e old e' new rfl
      exact rows.seatsFree e new old
  | expired =>
    refine ⟨updated _ _, seated.distinct.sublist ?_⟩
    exact filterMap_seatEntry_sublist (Ticket.fromHeld_cancelled_seatEntry _) pg.tickets
  | confirmed =>
    refine ⟨updated _ _, seated.distinct.sublist ?_⟩
    exact filterMap_seatEntry_sublist (fun t => .inr (t.fromHeld_valid_seatEntry _)) pg.tickets

/-- No seat has two active tickets. -/
theorem Postgres.Seated.countP_le_one (seated : pg.Seated lower catalog)
    (place : ObjectId × String × String) :
    pg.tickets.countP (fun t => t.active && t.seat lower = some place) ≤ 1 := by
  by_cases booked : ∃ t ∈ pg.tickets, t.active = true ∧ t.seat lower = some place
  case neg =>
    have absent : pg.tickets.countP (fun t => t.active && t.seat lower = some place) = 0 := by
      rw [List.countP_eq_zero]
      intro t mem both
      simp only [Bool.and_eq_true, decide_eq_true_eq] at both
      exact booked ⟨t, mem, both⟩
    omega
  case pos =>
    obtain ⟨t, mem, active, seats⟩ := booked
    obtain ⟨e, entry⟩ := Option.isSome_iff_exists.mp ((seated.canonical t mem).entry
      (seated.canonical t mem) active active seats seats).2
    calc pg.tickets.countP (fun t => t.active && t.seat lower = some place)
        ≤ pg.tickets.countP (fun t => t.seatEntry == some e) := by
          refine List.countP_mono_left fun t' mem' both => ?_
          simp only [Bool.and_eq_true, decide_eq_true_eq] at both
          have same := ((seated.canonical t' mem').entry (seated.canonical t mem) both.1 active
            both.2 seats).1
          rw [same, entry]
          exact beq_self_eq_true _
      _ = pg.seatIndex.count e := List.count_filterMap.symm
      _ ≤ 1 := List.nodup_iff_count_le_one.mp seated.distinct e

/-- No COMMIT of the booking flow changes the users. -/
theorem Commit.users (committed : Commit lower catalog pg pg') : pg'.users = pg.users := by
  cases committed <;> rfl

end Tables

/-! ## A request alone -/

/-- Every zone of the plan has room for what the plan takes of it. -/
def Catalog.HasRoomFor (c : Catalog) (requests : List ZoneRequest) : Prop :=
  ∀ r ∈ requests, 0 < r.quantity ∧
    (c.zone? r.eventOid r.zoneName).any (fun z => r.hasRoom z.bookedCount) = true

instance (c : Catalog) (requests : List ZoneRequest) : Decidable (c.HasRoomFor requests) := by
  unfold Catalog.HasRoomFor; infer_instance

/-- A plan asks each zone once. -/
theorem OrderPlan.zoneRequests_nodup (plan : OrderPlan) :
    (plan.zoneRequests.map fun r => (r.eventOid, r.zoneName)).Nodup := by
  rw [zoneRequests, List.map_map]
  exact nodup_groupCount_keys ValidatedItem.zoneOf plan.items

section Alone

variable {cfg : Config} {dbs : Databases} {calls : List Call} {orderIn : OrderCreate}
  {plan : OrderPlan} {held : List Reservation} {draw : Draw} {requests : List ZoneRequest}

/-- The call that came last reserves its zones one after the other. -/
theorem run_reserves (room : dbs.mongo.HasRoomFor requests)
    (distinct : (requests.map fun r => (r.eventOid, r.zoneName)).Nodup) :
    ∃ mongo, run (step cfg) ⟨dbs,
      calls ++ [.create ⟨orderIn, none, none, .reserve plan held requests⟩]⟩
      (List.replicate requests.length (.step calls.length .none draw)) =
        some ⟨⟨dbs.pg, mongo⟩, calls ++ [.create ⟨orderIn, none, none,
          .reserve plan (held ++ requests.map ZoneRequest.reservation) []⟩]⟩ := by
  induction requests generalizing dbs held with
  | nil => exact ⟨dbs.mongo, by simp⟩
  | cons r requests ih =>
    rw [List.map_cons, List.nodup_cons] at distinct
    obtain ⟨positive, hasRoom⟩ := room r List.mem_cons_self
    obtain ⟨z, found, passes⟩ := (Option.any_eq_true _ _).mp hasRoom
    have modified := Catalog.modifiedCount_hit found passes (by omega : (r.quantity : ℤ) ≠ 0)
    have reserves : CreateCall.step cfg.lower dbs .none draw
        ⟨orderIn, none, none, .reserve plan held (r :: requests)⟩ =
        some (⟨dbs.pg, dbs.mongo.incBooked r.eventOid r.zoneName r.hasRoom r.quantity⟩,
          ⟨orderIn, none, none, .reserve plan (held ++ [r.reservation]) requests⟩) := by
      simp only [CreateCall.step, Catalog.updateOne, modified, CreateCall.goto]
    have kept : (dbs.mongo.incBooked r.eventOid r.zoneName r.hasRoom r.quantity).HasRoomFor
        requests := by
      intro r' mem
      obtain ⟨positive', hasRoom'⟩ := room r' (List.mem_cons_of_mem r mem)
      refine ⟨positive', ?_⟩
      rw [Catalog.zone?_incBooked_other]
      · exact hasRoom'
      · exact fun same => distinct.1 (same ▸ List.mem_map_of_mem mem)
    obtain ⟨mongo, ran⟩ := @ih ⟨dbs.pg, dbs.mongo.incBooked r.eventOid r.zoneName r.hasRoom
      r.quantity⟩ (held ++ [r.reservation]) kept distinct.2
    refine ⟨mongo, ?_⟩
    rw [List.length_cons, List.replicate_succ, run_cons, step_concat, Call.step, reserves]
    simpa using ran

/-- A planned request whose rows the server accepts is served. -/
theorem run_alone (valid : planOrder cfg.lower dbs.mongo orderIn = .ok plan)
    (room : dbs.mongo.HasRoomFor plan.zoneRequests) (fresh : draw.orderId ∉ dbs.pg.orderIdsDrawn)
    (rows : dbs.pg.Insertable (newOrder orderIn none plan draw) (plan.tickets draw.orderId)) :
    ∃ mongo, run (step cfg) ⟨dbs, calls⟩ (.spawn (.createOrder orderIn none) ::
        List.replicate (plan.zoneRequests.length + 3) (.step calls.length .none draw)) =
      some ⟨⟨(dbs.pg.drawOrderId draw.orderId).created orderIn none plan draw, mongo⟩,
        calls ++ [.create ⟨orderIn, none, some draw.orderId,
          .done (.created (newOrder orderIn none plan draw) (plan.tickets draw.orderId))⟩]⟩ := by
  obtain ⟨mongo, reserves⟩ := @run_reserves cfg dbs calls orderIn plan [] draw _ room
    plan.zoneRequests_nodup
  have looksUp : CreateCall.step cfg.lower dbs .none draw (.start orderIn none) =
      some (dbs, ⟨orderIn, none, none, .readCatalog⟩) := rfl
  have plans : CreateCall.step cfg.lower dbs .none draw ⟨orderIn, none, none, .readCatalog⟩ =
      some (dbs, ⟨orderIn, none, none, .reserve plan [] plan.zoneRequests⟩) := by
    simp only [CreateCall.step, valid, CreateCall.goto]
    cases orderIn.wantedOids <;> rfl
  have inserted : createTx (dbs.pg.drawOrderId draw.orderId) orderIn none plan draw =
      .ok ((dbs.pg.drawOrderId draw.orderId).created orderIn none plan draw) :=
    createTx_ok_iff.mpr ⟨⟨rows.orderFits, rows.totalNonneg, rows.keyFree, rows.userKnown,
      rows.ticketsFit, rows.seatsDistinct, rows.seatsFree⟩, rfl⟩
  have commits : CreateCall.step cfg.lower ⟨dbs.pg, mongo⟩ .none draw
      ⟨orderIn, none, none, .reserve plan (plan.zoneRequests.map ZoneRequest.reservation) []⟩ =
      some (⟨(dbs.pg.drawOrderId draw.orderId).created orderIn none plan draw, mongo⟩,
        ⟨orderIn, none, some draw.orderId, .done (.created (newOrder orderIn none plan draw)
          (plan.tickets draw.orderId))⟩) := by
    simp only [CreateCall.step, if_neg fresh, inserted, Postgres.transact, CreateCall.goto]
  have schedule : List.replicate (plan.zoneRequests.length + 3)
      (Action.step calls.length .none draw) = .step calls.length .none draw ::
        .step calls.length .none draw ::
          (List.replicate plan.zoneRequests.length (.step calls.length .none draw) ++
            [.step calls.length .none draw]) := by
    rw [← List.replicate_succ', ← List.replicate_succ, ← List.replicate_succ]
  have spawns : step cfg ⟨dbs, calls⟩ (.spawn (.createOrder orderIn none)) =
      some ⟨dbs, calls ++ [.create (.start orderIn none)]⟩ := rfl
  refine ⟨mongo, ?_⟩
  rw [schedule, run_cons, spawns, Option.bind_some, run_cons, step_concat, Call.step, looksUp,
    Option.map_some, Option.map_some, Option.bind_some, run_cons, step_concat, Call.step, plans,
    Option.map_some, Option.map_some, Option.bind_some, run_append, reserves, Option.bind_some,
    List.nil_append, run_cons, step_concat, Call.step, commits]
  rfl

end Alone

/-! ## Over runs -/

section Runs

variable {cfg : Config} {ok : State → Action → Prop} {start s : State}

theorem seated_of_reachable (fresh : start.Fresh) (reached : Reachable (step cfg) ok start s) :
    s.dbs.pg.Seated cfg.lower start.dbs.mongo := by
  refine pg_invariant reached fresh.1 fresh.idsDrawn ?_ fun _ _ seated committed =>
    committed.seated seated
  obtain ⟨-, -, noTickets, -⟩ := fresh
  exact ⟨by simp [noTickets], by simp [Postgres.seatIndex, noTickets]⟩

/-- What the tables of the start accept is accepted later when no ticket of its seats is active. -/
theorem Postgres.Insertable.later {lower : String → String} {pg pg' : Postgres}
    {orderIn : OrderCreate} {plan : OrderPlan} {draw : Draw}
    (rows : pg.Insertable (newOrder orderIn none plan draw) (plan.tickets draw.orderId))
    (users : pg'.users = pg.users)
    (free : ∀ v ∈ plan.items, ∀ place, (v.ticket draw.orderId).seat lower = some place →
      ∀ t ∈ pg'.tickets, t.seat lower = some place → t.active = false) :
    pg'.Insertable (newOrder orderIn none plan draw) (plan.tickets draw.orderId) := by
  refine ⟨rows.orderFits, rows.totalNonneg, fun taken => Bool.noConfusion taken.1,
    users ▸ rows.userKnown, rows.ticketsFit, rows.seatsDistinct, fun e mem indexed => ?_⟩
  obtain ⟨new, inPlan, entry⟩ := List.mem_filterMap.mp mem
  obtain ⟨v, inItems, rfl⟩ := List.mem_map.mp inPlan
  obtain ⟨t, stored, entry'⟩ := List.mem_filterMap.mp indexed
  -- the two entries are the same strings, so the two tickets have the same seat
  unfold Ticket.seatEntry at entry entry'
  split at entry'
  case isFalse => cases entry'
  case isTrue held =>
    have active : t.active = true := by simpa [Ticket.active] using held
    obtain ⟨n', number', rfl⟩ := Option.map_eq_some_iff.mp entry'
    rw [if_pos (.inl rfl)] at entry
    obtain ⟨n, number, same⟩ := Option.map_eq_some_iff.mp entry
    simp only [Prod.mk.injEq] at same
    obtain ⟨event, zone, rfl⟩ := same
    have seats : (v.ticket draw.orderId).seat lower =
        some (v.eventOid, zoneKey lower v.seatZone, strip n) := by
      have parsed : ObjectId.ofString? (v.ticket draw.orderId).eventId = some v.eventOid :=
        ObjectId.ofString?_hex v.eventOid
      rw [Ticket.seat, parsed, number]
      rfl
    have seats' : t.seat lower = some (v.eventOid, zoneKey lower v.seatZone, strip n) := by
      rw [← seats, Ticket.seat, Ticket.seat, ← event, ← zone, number, number']
    have inactive := free v inItems _ seats t stored seats'
    rw [active] at inactive
    cases inactive

/-- **No seat is booked twice, under any spelling**, whatever the faults: each seat has at most one
active ticket.  And a request that the fresh system would serve is served, alone, as soon as no
ticket of its seats is active and its zones have room. -/
theorem seat_never_booked_twice (fresh : start.Fresh) (reached : Reachable (step cfg) ok start s) :
    (∀ place, s.dbs.pg.tickets.countP
      (fun t => t.active && t.seat cfg.lower = some place) ≤ 1) ∧
    ∀ orderIn plan draw, planOrder cfg.lower start.dbs.mongo orderIn = .ok plan →
      start.dbs.pg.Insertable (newOrder orderIn none plan draw) (plan.tickets draw.orderId) →
      draw.orderId ∉ s.dbs.pg.orderIdsDrawn → s.dbs.mongo.HasRoomFor plan.zoneRequests →
      (∀ v ∈ plan.items, ∀ place, (v.ticket draw.orderId).seat cfg.lower = some place →
        ∀ t ∈ s.dbs.pg.tickets, t.seat cfg.lower = some place → t.active = false) →
      ∃ s', run (step cfg) s (.spawn (.createOrder orderIn none) ::
          List.replicate (plan.zoneRequests.length + 3) (.step s.calls.length .none draw)) =
            some s' ∧
        s'.calls[s.calls.length]? = some (.create ⟨orderIn, none, some draw.orderId,
          .done (.created (newOrder orderIn none plan draw) (plan.tickets draw.orderId))⟩) ∧
        ∀ t ∈ plan.tickets draw.orderId, t.stored ∈ s'.dbs.pg.tickets := by
  refine ⟨(seated_of_reachable fresh reached).countP_le_one, ?_⟩
  intro orderIn plan draw valid rows unused room free
  have users : s.dbs.pg.users = start.dbs.pg.users :=
    pg_invariant (P := fun pg => pg.users = start.dbs.pg.users) reached fresh.1 fresh.idsDrawn rfl
      fun _ _ same committed => committed.users.trans same
  rw [← planOrder_listing (listing_of_reachable reached)] at valid
  obtain ⟨mongo, ran⟩ := @run_alone cfg s.dbs s.calls orderIn plan draw valid room unused
    (rows.later users free)
  refine ⟨_, ran, List.getElem?_concat_length, fun t mem => ?_⟩
  exact List.mem_append_right _ (List.mem_map_of_mem mem)

/-- A hold runs out, a sweep cancels it, and its seat is booked by the next request. -/
def rebookSchedule : List Action :=
  .spawn (.createOrder Sample.order none) :: Sample.advance 0 4 1 ++
    .spawn (.cleanup none none) ::
      List.replicate 4 (.step 1 .none { Sample.draw 2 with now := 2 * holdWindow })

theorem seat_rebooked_after_expiry :
    ∃ s s', run (step Sample.cfg) (Sample.start Sample.floor) rebookSchedule = some s ∧
      s.dbs.pg.tickets.map Ticket.status = [.cancelled] ∧
      run (step Sample.cfg) s (.spawn (.createOrder Sample.order none) ::
        List.replicate 4 (.step s.calls.length .none (Sample.draw 3))) = some s' ∧
      ∀ t ∈ (Sample.plan Sample.floor).tickets 3, t.stored ∈ s'.dbs.pg.tickets := by
  obtain ⟨s, checked⟩ := Option.isSome_iff_exists.mp (show ((checkedRun (step Sample.cfg)
    (fun _ _ => True) (Sample.start Sample.floor) rebookSchedule).filter fun s =>
      s.dbs.pg.tickets.map Ticket.status = [.cancelled] ∧ 3 ∉ s.dbs.pg.orderIdsDrawn ∧
      s.dbs.mongo.HasRoomFor (Sample.plan Sample.floor).zoneRequests).isSome = true by
        decide +kernel)
  obtain ⟨ran, facts⟩ := Option.filter_eq_some_iff.mp checked
  obtain ⟨cancelled, unused, room⟩ := of_decide_eq_true facts
  have inserted : createTx (Sample.start Sample.floor).dbs.pg Sample.order none
      (Sample.plan Sample.floor) (Sample.draw 3) = .ok ((Sample.start Sample.floor).dbs.pg.created
        Sample.order none (Sample.plan Sample.floor) (Sample.draw 3)) := by decide +kernel
  obtain ⟨s', ran', -, booked⟩ := (seat_never_booked_twice (Sample.fresh Sample.floor)
    (reachable_of_checkedRun ran)).2 Sample.order (Sample.plan Sample.floor) (Sample.draw 3)
    (by decide +kernel) (createTx_ok_iff.mp inserted).1 unused room fun _ _ _ _ t stored _ => by
      have status := List.mem_map_of_mem (f := Ticket.status) stored
      rw [cancelled, List.mem_singleton] at status
      simp [Ticket.active, status]
  exact ⟨s, s', run_of_checkedRun ran, cancelled, ran', booked⟩

end Runs

end TicketBooking
