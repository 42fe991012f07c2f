import TicketBooking.Idempotency
import TicketBooking.SeatUniqueness

/-!
# Replays of a key

A request under the key of a committed order: is it the same order?  `OrderCreate.SameOrder`
compares user, events, zones and seats, as the request spells them; the fingerprint check compares
user, events and zones.  So the check answers as it should exactly for the requests that either
differ in what it compares or agree in the seats as well, and a request for another seat of the zone
is answered with the old order.

An empty key is no key to the look-up, though it is stored like one.
-/

namespace TicketBooking

open ListUpdate StepSystem

/-! ## The same order -/

/-- What is booked, whatever its spelling: the event, the zone and the seat number. -/
def bookedItem (lower : String → String) (eventId seatZone : String) (seatNumber : Option String) :
    Option ObjectId × String × Option String :=
  (ObjectId.ofString? eventId, zoneKey lower seatZone, normaliseSeat seatNumber)

def Ticket.item (lower : String → String) (t : Ticket) : Option ObjectId × String × Option String :=
  bookedItem lower t.eventId t.seatZone t.seatNumber

def TicketItemCreate.item (lower : String → String) (i : TicketItemCreate) :
    Option ObjectId × String × Option String :=
  bookedItem lower i.eventId i.seatZone i.seatNumber

/-- The same events, zones and seats, in any order. -/
def OrderCreate.SameItems (lower : String → String) (orderIn : OrderCreate)
    (tickets : List Ticket) : Prop :=
  (tickets.map (Ticket.item lower)).Perm (orderIn.items.map (TicketItemCreate.item lower))

instance (lower : String → String) (orderIn : OrderCreate) (tickets : List Ticket) :
    Decidable (orderIn.SameItems lower tickets) := inferInstanceAs (Decidable (List.Perm _ _))

def OrderCreate.SameOrder (lower : String → String) (orderIn : OrderCreate) (o : Order)
    (tickets : List Ticket) : Prop :=
  orderIn.userId = o.userId ∧ orderIn.SameItems lower tickets

section SameOrder

variable {lower : String → String} {catalog : Catalog} {orderIn : OrderCreate} {o : Order}
  {tickets : List Ticket}

/-- What the fingerprint compares is part of what is booked, for tickets as they are stored. -/
theorem OrderCreate.SameOrder.payload (canonical : ∀ t ∈ tickets, t.Canonical lower catalog)
    (same : orderIn.SameOrder lower o tickets) :
    (orderPayload lower o tickets).Same (orderIn.payload lower) := by
  obtain ⟨user, items⟩ := same
  refine ⟨user.symm, ?_⟩
  -- the part of an item that the fingerprint sees
  let seen : Option ObjectId × String × Option String → String ×ₗ String :=
    fun x => toLex ((x.1.map ObjectId.hex).getD "", x.2.1)
  have stored : tickets.map (fun t => toLex (t.eventId, zoneKey lower t.seatZone)) =
      (tickets.map (Ticket.item lower)).map seen := by
    rw [List.map_map]
    refine List.map_congr_left fun t mem => ?_
    obtain ⟨oid, -, -, event, -⟩ := (canonical t mem).zone
    simp [seen, Ticket.item, bookedItem, event]
  have requested : orderIn.items.map (fun i =>
      toLex (canonicalEventId i.eventId, zoneKey lower i.seatZone)) =
      (orderIn.items.map (TicketItemCreate.item lower)).map seen := by
    rw [List.map_map]
    refine List.map_congr_left fun i mem => ?_
    have listed := items.mem_iff.mpr (List.mem_map_of_mem (f := TicketItemCreate.item lower) mem)
    obtain ⟨t, inTickets, sameItem⟩ := List.mem_map.mp listed
    obtain ⟨oid, -, -, event, -⟩ := (canonical t inTickets).zone
    have parsed : ObjectId.ofString? i.eventId = some oid := by
      have first := congrArg Prod.fst sameItem
      simpa [Ticket.item, TicketItemCreate.item, bookedItem, event] using first.symm
    simp [seen, TicketItemCreate.item, bookedItem, canonicalEventId, parsed]
  unfold orderPayload OrderCreate.payload
  rw [stored, requested]
  exact items.map seen

end SameOrder

/-! ## Committed keys -/

/-- What identifies a ticket of an order; no COMMIT changes it. -/
def Ticket.place (t : Ticket) : String × String × Option String :=
  (t.eventId, t.seatZone, t.seatNumber)

/-- One order has a key. -/
def Postgres.KeysUnique (pg : Postgres) : Prop :=
  ∀ o ∈ pg.orders, ∀ o' ∈ pg.orders, o.idempotencyKey.isSome →
    o.idempotencyKey = o'.idempotencyKey → o.id = o'.id

/-- The row of the order, later: its status may have moved. -/
structure Postgres.StillHolds (pg : Postgres) (o : Order)
    (places : List (String × String × Option String)) (o' : Order) : Prop where
  stored : o' ∈ pg.orders
  id : o'.id = o.id
  userId : o'.userId = o.userId
  key : o'.idempotencyKey = o.idempotencyKey
  places : (pg.ticketsOf o'.id).map Ticket.place = places

section Commit

variable {lower : String → String} {catalog : Catalog} {pg pg' : Postgres}

theorem Ticket.fromHeld_place (orderIds : List ℕ) (status : TicketStatus) (t : Ticket) :
    (t.fromHeld orderIds status).place = t.place := by
  unfold fromHeld
  split <;> rfl

/-- An update of the rows that keeps what identifies them. -/
theorem Postgres.StillHolds.of_update {o o' : Order}
    {places : List (String × String × Option String)}
    {f : Order → Order} (orderIds : List ℕ) (status : TicketStatus)
    (holds : pg.StillHolds o places o') (orders : pg'.orders = pg.orders.map f)
    (tickets : pg'.tickets = pg.tickets.map (Ticket.fromHeld orderIds status))
    (keepsId : (f o').id = o'.id) (keepsUser : (f o').userId = o'.userId)
    (keepsKey : (f o').idempotencyKey = o'.idempotencyKey) : pg'.StillHolds o places (f o') where
  stored := orders ▸ List.mem_map_of_mem holds.stored
  id := keepsId.trans holds.id
  userId := keepsUser.trans holds.userId
  key := keepsKey.trans holds.key
  places := by
    have same : pg'.ticketsOf (f o').id =
        (pg.ticketsOf o'.id).map (Ticket.fromHeld orderIds status) := by
      rw [Postgres.ticketsOf, tickets, keepsId, filter_key_map (Ticket.fromHeld_orderId _ _)]
      rfl
    rw [same, List.map_map, ← holds.places]
    exact List.map_congr_left fun t _ => t.fromHeld_place orderIds status

theorem Order.expire_userId (orderIds : List ℕ) (o : Order) :
    (o.expire orderIds).userId = o.userId := by
  unfold expire
  split <;> rfl

theorem Order.confirm_userId (orderId : ℕ) (o : Order) : (o.confirm orderId).userId = o.userId := by
  unfold confirm
  split <;> rfl

theorem Commit.stillHolds (committed : Commit lower catalog pg pg') (ids : pg.IdsDrawn)
    {o o' : Order}
    {places : List (String × String × Option String)} (holds : pg.StillHolds o places o') :
    ∃ o'', pg'.StillHolds o places o'' := by
  cases committed with
  | nothing => exact ⟨o', holds⟩
  | drawn => exact ⟨o', holds.stored, holds.id, holds.userId, holds.key, holds.places⟩
  | @created orderIn key plan draw planned fresh rows =>
    have other : o'.id ≠ draw.orderId := fun same => fresh (same ▸ ids.2 o' holds.stored)
    have tickets := congrArg OrderRows.tickets
      (rowsOf_created_other (pg.drawOrderId draw.orderId) orderIn key plan draw other)
    refine ⟨o', List.mem_append_left _ holds.stored, holds.id, holds.userId, holds.key, ?_⟩
    rw [← holds.places]
    exact congrArg (List.map Ticket.place) tickets
  | @expired rows reason =>
    exact ⟨_, holds.of_update (rows.map Prod.fst) .cancelled rfl rfl (o'.expire_id _)
      (o'.expire_userId _) (o'.expire_idempotencyKey _)⟩
  | @confirmed order payment event =>
    exact ⟨_, holds.of_update [order.id] .valid rfl rfl (o'.confirm_id _) (o'.confirm_userId _)
      (o'.confirm_idempotencyKey _)⟩

/-- An update that keeps ids and keys. -/
theorem Postgres.KeysUnique.of_update {f : Order → Order} (unique : pg.KeysUnique)
    (orders : pg'.orders = pg.orders.map f) (keepsId : ∀ o, (f o).id = o.id)
    (keepsKey : ∀ o, (f o).idempotencyKey = o.idempotencyKey) : pg'.KeysUnique := by
  intro o mem o' mem' keyed same
  rw [orders] at mem mem'
  obtain ⟨old, stored, rfl⟩ := List.mem_map.mp mem
  obtain ⟨old', stored', rfl⟩ := List.mem_map.mp mem'
  rw [keepsKey] at keyed
  rw [keepsKey, keepsKey] at same
  rw [keepsId, keepsId]
  exact unique old stored old' stored' keyed same

theorem Commit.keysUnique (committed : Commit lower catalog pg pg') (unique : pg.KeysUnique) :
    pg'.KeysUnique := by
  cases committed with
  | nothing => exact unique
  | drawn => exact unique
  | @created orderIn key plan draw planned fresh rows =>
    have new : ∀ o ∈ pg.orders, o.idempotencyKey.isSome → o.idempotencyKey ≠ key := by
      intro o mem keyed same
      refine rows.keyFree ⟨?_, List.mem_map.mpr ⟨o, mem, same⟩⟩
      exact same ▸ keyed
    intro o mem o' mem' keyed same
    rcases List.mem_append.mp mem with old | created
    · rcases List.mem_append.mp mem' with old' | created'
      · exact unique o old o' old' keyed same
      · rw [List.mem_singleton.mp created'] at same
        exact absurd same (new o old keyed)
    · rw [List.mem_singleton.mp created] at keyed same ⊢
      rcases List.mem_append.mp mem' with old' | created'
      · have keyed' : o'.idempotencyKey.isSome := same ▸ keyed
        exact absurd same.symm (new o' old' keyed')
      · rw [List.mem_singleton.mp created']
  | expired =>
    exact unique.of_update rfl (fun o => o.expire_id _) fun o => o.expire_idempotencyKey _
  | confirmed =>
    exact unique.of_update rfl (fun o => o.confirm_id _) fun o => o.confirm_idempotencyKey _

/-- The look-up by a unique key. -/
theorem Postgres.KeysUnique.findByKey (unique : pg.KeysUnique) (ids : pg.IdsDrawn) {o : Order}
    {key : String} (stored : o ∈ pg.orders) (keyed : o.idempotencyKey = some key) :
    pg.findByKey key = some o := by
  have some : (pg.findByKey key).isSome = true := by
    rw [Postgres.findByKey, List.find?_isSome]
    exact ⟨o, stored, by simpa using keyed⟩
  obtain ⟨o', found⟩ := Option.isSome_iff_exists.mp some
  have keyed' : o'.idempotencyKey = Option.some key := by simpa using List.find?_some found
  have stored' : o' ∈ pg.orders := List.mem_of_find?_eq_some found
  have sameId := unique o stored o' stored' (by simp [keyed]) (keyed.trans keyed'.symm)
  rw [found, eq_of_key_eq ids.1 stored' stored sameId.symm]

end Commit

/-! ## A request under a committed key -/

/-- The request of call `i` is answered as its key promises: the call ends, both databases are as
they were, and it is answered with the order when it is the same order and with 409 otherwise. -/
def State.HonoursKey (cfg : Config) (s : State) (i : ℕ) (orderIn : OrderCreate)
    (o : Order) : Prop :=
  (∃ steps t c outcome, (∀ p ∈ steps, p.1.PgUp) ∧ run (step cfg) s (alone i steps) = some t ∧
    t.calls[i]? = some (.create c) ∧ c.pc = .done outcome) ∧
  ∀ steps t c outcome, (∀ p ∈ steps, p.1.PgUp) → run (step cfg) s (alone i steps) = some t →
    t.calls[i]? = some (.create c) → c.pc = .done outcome →
    t.dbs = s.dbs ∧
    (orderIn.SameOrder cfg.lower o (s.dbs.pg.ticketsOf o.id) →
      outcome = .replayed o (s.dbs.pg.ticketsOf o.id)) ∧
    (¬ orderIn.SameOrder cfg.lower o (s.dbs.pg.ticketsOf o.id) →
      ∃ answer, outcome = .raised answer ∧ answer.statusCode = 409)

section Answer

variable {cfg : Config} {dbs dbs' : Databases} {fault : Fault} {draw : Draw} {c c' : CreateCall}
  {s t : State} {i : ℕ} {o : Order} {key : String}

/-- The look-up that finds an order answers on the spot, by the fingerprint alone. -/
theorem CreateStep.answers (at_pc : c.pc = .lookup) (truthy : truthyKey c.idempotencyKey = some key)
    (found : dbs.pg.findByKey key = some o) (up : fault.PgUp)
    (moved : CreateStep cfg.lower dbs fault draw c dbs' c') :
    dbs' = dbs ∧
      ((∃ answer, fingerprintAnswer cfg.lower o (dbs.pg.ticketsOf o.id) c.orderIn = some answer ∧
          c'.pc = .done (.raised answer)) ∨
        (fingerprintAnswer cfg.lower o (dbs.pg.ticketsOf o.id) c.orderIn = none ∧
          c'.pc = .done (.replayed o (dbs.pg.ticketsOf o.id)))) := by
  cases moved with
  | ends ended =>
    refine ⟨rfl, ?_⟩
    cases ended with
    | keyRefused at_pc' truthy' found' refused =>
      cases truthy.symm.trans truthy'
      cases found.symm.trans found'
      exact .inl ⟨_, refused, rfl⟩
    | keyReplayed at_pc' truthy' found' matched =>
      cases truthy.symm.trans truthy'
      cases found.symm.trans found'
      exact .inr ⟨matched, rfl⟩
    | keyUnread at_pc' raised =>
      rw [raised] at up
      exact up.elim
    | invalid at_pc' | compensated at_pc' | raceLost at_pc' | integrity at_pc'
    | catalogUnread at_pc' => cases at_pc.symm.trans at_pc'
  | keyFree _ unused => cases (unused key truthy).symm.trans found
  | planned at_pc' | reserved at_pc' | soldOut at_pc' | reserveRaised at_pc' | committed at_pc'
  | aborted at_pc' | replyLost at_pc' | gaveBack at_pc' => cases at_pc.symm.trans at_pc'

/-- One step of a create call in the system. -/
theorem step_create (at_i : s.calls[i]? = some (.create c))
    (moved : step cfg s (.step i fault draw) = some t) :
    ∃ dbs' c', CreateStep cfg.lower s.dbs fault draw c dbs' c' ∧
      t = ⟨dbs', s.calls.set i (.create c')⟩ := by
  cases step_cases moved with
  | @call _ _ _ call call' dbs' at_i' called =>
    cases at_i.symm.trans at_i'
    cases called with
    | create stepped => exact ⟨_, _, stepped, rfl⟩

/-- A call that has answered makes no further step. -/
theorem run_alone_ended {steps : List (Fault × Draw)} (at_i : s.calls[i]? = some (.create c))
    {outcome : CreateOutcome} (ended : c.pc = .done outcome)
    (ran : run (step cfg) s (alone i steps) = some t) : t = s := by
  cases steps with
  | nil => exact (Option.some.inj ran).symm
  | cons p steps =>
    rw [alone, List.map_cons, run_cons, Option.bind_eq_some_iff] at ran
    obtain ⟨mid, moved, -⟩ := ran
    obtain ⟨_, _, stepped, -⟩ := step_create at_i moved
    exact absurd ended (stepped.running.2 outcome)

/-- The whole call of a key that is in the table: one step. -/
theorem run_alone_answers (at_i : s.calls[i]? = some (.create c)) (at_pc : c.pc = .lookup)
    (truthy : truthyKey c.idempotencyKey = some key) (found : s.dbs.pg.findByKey key = some o)
    {steps : List (Fault × Draw)} (up : ∀ p ∈ steps, p.1.PgUp)
    (ran : run (step cfg) s (alone i steps) = some t) (at_i' : t.calls[i]? = some (.create c'))
    {outcome : CreateOutcome} (ended : c'.pc = .done outcome) :
    t.dbs = s.dbs ∧
      ((∃ answer, fingerprintAnswer cfg.lower o (s.dbs.pg.ticketsOf o.id) c.orderIn = some answer ∧
          outcome = .raised answer) ∨
        (fingerprintAnswer cfg.lower o (s.dbs.pg.ticketsOf o.id) c.orderIn = none ∧
          outcome = .replayed o (s.dbs.pg.ticketsOf o.id))) := by
  cases steps with
  | nil =>
    cases ran
    cases at_i.symm.trans at_i'
    cases at_pc.symm.trans ended
  | cons p steps =>
    rw [alone, List.map_cons, run_cons, Option.bind_eq_some_iff] at ran
    obtain ⟨mid, moved, rest⟩ := ran
    obtain ⟨dbs', c'', stepped, rfl⟩ := step_create at_i moved
    obtain ⟨rfl, answered⟩ := stepped.answers at_pc truthy found (up p List.mem_cons_self)
    have at_mid : (s.calls.set i (.create c''))[i]? = some (.create c'') :=
      getElem?_set_self _ at_i
    rcases answered with ⟨answer, refused, done⟩ | ⟨matched, done⟩
    · cases run_alone_ended at_mid done rest
      cases at_mid.symm.trans at_i'
      cases done.symm.trans ended
      exact ⟨rfl, .inl ⟨answer, refused, rfl⟩⟩
    · cases run_alone_ended at_mid done rest
      cases at_mid.symm.trans at_i'
      cases done.symm.trans ended
      exact ⟨rfl, .inr ⟨matched, rfl⟩⟩

/-- Without a key nothing is replayed. -/
theorem CreateStep.not_replayed (falsy : truthyKey c.idempotencyKey = none)
    (moved : CreateStep cfg.lower dbs fault draw c dbs' c') :
    c'.idempotencyKey = c.idempotencyKey ∧ ∀ o tickets, c'.pc ≠ .done (.replayed o tickets) := by
  refine ⟨by cases moved <;> rfl, fun o tickets replayed => ?_⟩
  cases moved with
  | ends ended =>
    cases ended with
    | keyReplayed _ truthy => cases falsy.symm.trans truthy
    | raceLost _ raced =>
      unfold racedKey at raced
      split at raced
      · cases falsy.symm.trans raced
      · cases raced
    | keyRefused | invalid | compensated | integrity | keyUnread | catalogUnread => cases replayed
  | keyFree | planned | reserved | soldOut | reserveRaised | committed | aborted | replyLost
  | gaveBack => cases replayed

theorem run_alone_not_replayed (falsy : truthyKey c.idempotencyKey = none)
    (notReplayed : ∀ o tickets, c.pc ≠ .done (.replayed o tickets))
    {steps : List (Fault × Draw)} (at_i : s.calls[i]? = some (.create c))
    (ran : run (step cfg) s (alone i steps) = some t) (at_i' : t.calls[i]? = some (.create c')) :
    ∀ o tickets, c'.pc ≠ .done (.replayed o tickets) := by
  induction steps generalizing s c with
  | nil =>
    cases ran
    cases at_i.symm.trans at_i'
    exact notReplayed
  | cons p steps ih =>
    rw [alone, List.map_cons, run_cons, Option.bind_eq_some_iff] at ran
    obtain ⟨mid, moved, rest⟩ := ran
    obtain ⟨dbs', c'', stepped, rfl⟩ := step_create at_i moved
    obtain ⟨sameKey, notReplayed'⟩ := stepped.not_replayed falsy
    exact ih (sameKey ▸ falsy) notReplayed' (getElem?_set_self _ at_i) rest

/-- The check does what the key promises exactly when it does not mistake another seat for the same
order. -/
theorem honoursKey_iff (at_i : s.calls[i]? = some (.create c)) (at_pc : c.pc = .lookup)
    (truthy : truthyKey c.idempotencyKey = some key) (found : s.dbs.pg.findByKey key = some o)
    {catalog : Catalog}
    (canonical : ∀ t ∈ s.dbs.pg.ticketsOf o.id, t.Canonical cfg.lower catalog) :
    s.HonoursKey cfg i c.orderIn o ↔
      ((orderPayload cfg.lower o (s.dbs.pg.ticketsOf o.id)).Same (c.orderIn.payload cfg.lower) →
        c.orderIn.SameItems cfg.lower (s.dbs.pg.ticketsOf o.id)) := by
  constructor
  · rintro ⟨⟨steps, t, c', outcome, up, ran, at_i', ended⟩, every⟩ samePayload
    by_contra otherSeats
    obtain ⟨-, -, conflict⟩ := every steps t c' outcome up ran at_i' ended
    obtain ⟨answer, raised, -⟩ := conflict fun same => otherSeats same.2
    have matched := fingerprintAnswer_eq_none_iff.mpr samePayload
    rcases (run_alone_answers at_i at_pc truthy found up ran at_i' ended).2 with
      ⟨_, refused, -⟩ | ⟨-, replayed⟩
    · cases matched.symm.trans refused
    · cases raised.symm.trans replayed
  · intro seats
    constructor
    · let draw : Draw := ⟨0, "", 0, 0, false, "", "", by decide⟩
      have moves : (c.step cfg.lower s.dbs .none draw).isSome = true := by
        simp only [CreateCall.step, at_pc, truthy, found]
        split <;> rfl
      obtain ⟨⟨dbs', c'⟩, moved⟩ := Option.isSome_iff_exists.mp moves
      have ran : run (step cfg) s (alone i [(.none, draw)]) =
          some ⟨dbs', s.calls.set i (.create c')⟩ := by
        simp [alone, run_cons, step, at_i, Call.step, moved]
      have at_i' : (s.calls.set i (.create c'))[i]? = some (.create c') := getElem?_set_self _ at_i
      have up : ∀ p ∈ [(Fault.none, draw)], p.1.PgUp := by
        intro p mem
        rw [List.mem_singleton.mp mem]
        trivial
      have noFault : Fault.none.PgUp := trivial
      rcases ((CreateCall.step_cases moved).answers at_pc truthy found noFault).2 with
        ⟨answer, -, done⟩ | ⟨-, done⟩
      · exact ⟨_, _, c', _, up, ran, at_i', done⟩
      · exact ⟨_, _, c', _, up, ran, at_i', done⟩
    · intro steps t c' outcome up ran at_i' ended
      obtain ⟨unchanged, answered⟩ := run_alone_answers at_i at_pc truthy found up ran at_i' ended
      refine ⟨unchanged, fun same => ?_, fun differs => ?_⟩
      · have matched := fingerprintAnswer_eq_none_iff.mpr (same.payload canonical)
        rcases answered with ⟨_, refused, -⟩ | ⟨-, replayed⟩
        · cases matched.symm.trans refused
        · exact replayed
      · rcases answered with ⟨answer, refused, raised⟩ | ⟨matched, -⟩
        · exact ⟨answer, raised, fingerprintAnswer_statusCode refused⟩
        · have samePayload := fingerprintAnswer_eq_none_iff.mp matched
          exact absurd ⟨samePayload.1.symm, seats samePayload⟩ differs

end Answer

section Runs

variable {cfg : Config} {ok : State → Action → Prop} {start s₀ s : State}

/-- An order is never lost, and keeps what it was ordered as. -/
theorem stillHolds_of_reachable (fresh : start.Fresh)
    (reached : Reachable (step cfg) ok start s₀) {o : Order} (stored : o ∈ s₀.dbs.pg.orders)
    (later : Reachable (step cfg) ok s₀ s) :
    ∃ o', s.dbs.pg.StillHolds o ((s₀.dbs.pg.ticketsOf o.id).map Ticket.place) o' := by
  refine later.invariant₂ (P := fun s => ∃ o',
    s.dbs.pg.StillHolds o ((s₀.dbs.pg.ticketsOf o.id).map Ticket.place) o')
    ⟨o, stored, rfl, rfl, rfl, rfl⟩ ?_
  intro mid a next between holds _ moved
  obtain ⟨o', holds⟩ := holds
  have reachedMid := reached.trans between
  have ids := (rowsLocked_of_reachable reachedMid fresh.1 fresh.idsDrawn).ids
  exact (commit_of_step reachedMid fresh.1 fresh.idsDrawn moved).stillHolds ids holds

theorem keysUnique_of_reachable (fresh : start.Fresh) (reached : Reachable (step cfg) ok start s) :
    s.dbs.pg.KeysUnique := by
  refine pg_invariant (P := Postgres.KeysUnique) reached fresh.1 fresh.idsDrawn ?_
    fun _ _ unique committed => committed.keysUnique unique
  obtain ⟨-, noOrders, -⟩ := fresh
  simp [Postgres.KeysUnique, noOrders]

/-- **Which replays are recognised.**  An order committed with a key stays in the table as it was
ordered.  A later request under the key is answered as the key promises exactly when it differs from
the order in the user, the events or the zones, or agrees with it in the seats too; under the empty
key not even the same request gets the order back. -/
theorem key_honoured_iff (fresh : start.Fresh) (reached : Reachable (step cfg) ok start s₀)
    {o : Order} {key : String} (stored : o ∈ s₀.dbs.pg.orders) (keyed : o.idempotencyKey = some key)
    (later : Reachable (step cfg) ok s₀ s) {i : ℕ} {c : CreateCall}
    (at_i : s.calls[i]? = some (.create c)) (at_pc : c.pc = .lookup)
    (sameKey : c.idempotencyKey = some key) :
    ∃ o', s.dbs.pg.StillHolds o ((s₀.dbs.pg.ticketsOf o.id).map Ticket.place) o' ∧
      (key ≠ "" → (s.HonoursKey cfg i c.orderIn o' ↔
        ((orderPayload cfg.lower o' (s.dbs.pg.ticketsOf o'.id)).Same (c.orderIn.payload cfg.lower) →
          c.orderIn.SameItems cfg.lower (s.dbs.pg.ticketsOf o'.id)))) ∧
      (key = "" → c.orderIn.SameOrder cfg.lower o' (s.dbs.pg.ticketsOf o'.id) →
        ¬ s.HonoursKey cfg i c.orderIn o') := by
  obtain ⟨o', holds⟩ := stillHolds_of_reachable fresh reached stored later
  have reachedNow := reached.trans later
  refine ⟨o', holds, fun nonempty => ?_, fun empty same honours => ?_⟩
  · have ids := (rowsLocked_of_reachable reachedNow fresh.1 fresh.idsDrawn).ids
    have found := (keysUnique_of_reachable fresh reachedNow).findByKey ids holds.stored
      (holds.key.trans keyed)
    have truthy : truthyKey c.idempotencyKey = some key := by
      rw [sameKey, truthyKey, Option.filter_some, if_pos (by simpa using nonempty)]
    have canonical : ∀ t ∈ s.dbs.pg.ticketsOf o'.id, t.Canonical cfg.lower start.dbs.mongo :=
      fun t mem => (seated_of_reachable fresh reachedNow).canonical t (List.mem_of_mem_filter mem)
    exact honoursKey_iff at_i at_pc truthy found canonical
  · obtain ⟨⟨steps, t, c', outcome, up, ran, at_i', ended⟩, every⟩ := honours
    have falsy : truthyKey c.idempotencyKey = none := by rw [sameKey, empty]; rfl
    have running : ∀ o tickets, c.pc ≠ .done (.replayed o tickets) := by
      intro _ _ done
      cases at_pc.symm.trans done
    rw [(every steps t c' outcome up ran at_i' ended).2.1 same] at ended
    exact run_alone_not_replayed falsy running at_i ran at_i' _ _ ended

end Runs

/-- An order under a key, and a second request under it. -/
def replaySchedule (second : OrderCreate) : List Action :=
  .spawn (.createOrder Sample.order "k") :: Sample.advance 0 4 1 ++
    [.spawn (.createOrder second "k")]

theorem key_honoured_for_same_seat :
    ∃ s o, run (step Sample.cfg) (Sample.start Sample.floor) (replaySchedule Sample.order) =
      some s ∧ s.HonoursKey Sample.cfg 1 Sample.order o := by
  obtain ⟨s, checked⟩ := Option.isSome_iff_exists.mp (show ((checkedRun (step Sample.cfg)
    (fun _ _ => True) (Sample.start Sample.floor) (replaySchedule Sample.order)).filter fun s =>
      s.dbs.pg.orders = [wonOrder] ∧ s.dbs.pg.tickets = wonTickets ∧
      s.calls[1]? = some (.create (.start Sample.order "k"))).isSome = true by decide +kernel)
  obtain ⟨ran, facts⟩ := Option.filter_eq_some_iff.mp checked
  obtain ⟨orders, tickets, at_one⟩ := of_decide_eq_true facts
  have reached := reachable_of_checkedRun ran
  obtain ⟨o, holds, honoured, -⟩ := key_honoured_iff (Sample.fresh Sample.floor) reached
    (orders ▸ List.mem_singleton_self wonOrder) rfl .init at_one rfl rfl
  refine ⟨s, o, run_of_checkedRun ran, (honoured (by decide)).mpr fun _ => ?_⟩
  have own : o = wonOrder := by
    have stored := holds.stored
    rw [orders] at stored
    exact List.mem_singleton.mp stored
  rw [own, Postgres.ticketsOf, tickets]
  decide +kernel

/-- **Another seat is answered with the old order**: the request for seat A2 gets the order of
seat A1. -/
theorem other_seat_replayed :
    ((run (step Sample.cfg) (Sample.start Sample.floor)
        (replaySchedule Sample.otherSeat ++ Sample.advance 1 1 2)).bind fun s => s.calls[1]?) =
      some (.create ⟨Sample.otherSeat, "k", none, .done (.replayed wonOrder wonTickets)⟩) ∧
    ¬ Sample.otherSeat.SameOrder Sample.cfg.lower wonOrder wonTickets := by
  constructor
  · decide +kernel
  · intro same
    have items : Sample.otherSeat.SameItems Sample.cfg.lower wonTickets := same.2
    revert items
    decide +kernel

end TicketBooking
