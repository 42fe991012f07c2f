import TicketBooking.Commits

/-!
# The life of an order

The rows of one order id in all four tables (`OrderRows`), and the machine they run through: absent,
held, then sold or released (`Life`).  `Commit.life` shows that a COMMIT moves each order along that
machine, and `Commit.keeps_rows` that it leaves a sold or released order alone.  The results are the
shape of every order in every reachable state, its outbox events, and that final orders are final,
under any interleaving and any fault.
-/

namespace TicketBooking

open ListUpdate StepSystem

/-! ## The rows of one order -/

@[ext] structure OrderRows where
  orders : List Order
  tickets : List Ticket
  payments : List Payment
  outbox : List OutboxEvent

def Postgres.rowsOf (pg : Postgres) (orderId : ℕ) : OrderRows where
  orders := pg.orders.filter fun o => o.id = orderId
  tickets := pg.ticketsOf orderId
  payments := pg.payments.filter fun p => p.orderId = orderId
  outbox := pg.outbox.filter fun e => e.aggregateId = orderId

/-- The states of one order. -/
inductive Life : OrderRows → Prop
  | absent : Life ⟨[], [], [], []⟩
  | held {o : Order} {ts : List Ticket} {created : OutboxEvent} (status : o.status = .pending)
    (total : numeric o.totalAmount = o.totalAmount) (tickets : ∀ t ∈ ts, t.status = .held)
    (event : created.eventType = .seatHeld) : Life ⟨[o], ts, [], [created]⟩
  | sold {o : Order} {ts : List Ticket} {p : Payment} {created paid : OutboxEvent}
    (status : o.status = .confirmed) (noExpiry : o.expiresAt = none)
    (tickets : ∀ t ∈ ts, t.status = .valid) (completed : p.status = .completed)
    (amount : p.amount = o.totalAmount) (event : created.eventType = .seatHeld)
    (event' : paid.eventType = .orderPaid) : Life ⟨[o], ts, [p], [created, paid]⟩
  | released {o : Order} {ts : List Ticket} {created ended : OutboxEvent}
    (status : o.status = .expired) (tickets : ∀ t ∈ ts, t.status = .cancelled)
    (event : created.eventType = .seatHeld) (event' : ended.eventType = .seatHoldExpired) :
    Life ⟨[o], ts, [], [created, ended]⟩

/-- Every order id is in a state of its life, and has no rows before it is drawn. -/
structure Postgres.LifeCycle (pg : Postgres) : Prop where
  ids : pg.IdsDrawn
  life : ∀ orderId, Life (pg.rowsOf orderId)
  undrawn : ∀ orderId, orderId ∉ pg.orderIdsDrawn → pg.rowsOf orderId = ⟨[], [], [], []⟩

section Commit

variable {lower : String → String} {catalog : Catalog} {pg pg' : Postgres} {orderId : ℕ}

section Created

variable (pg) (orderIn : OrderCreate) (idempotencyKey : Option String) (plan : OrderPlan)
  (draw : Draw)

/-- A create transaction adds rows under its own id only. -/
theorem rowsOf_created_other (other : orderId ≠ draw.orderId) :
    (pg.created orderIn idempotencyKey plan draw).rowsOf orderId = pg.rowsOf orderId := by
  have noTickets : ((plan.tickets draw.orderId).map Ticket.stored).filter
      (fun t => t.orderId = orderId) = [] := by
    rw [List.filter_eq_nil_iff]
    intro t mem
    obtain ⟨t, inserted, rfl⟩ := List.mem_map.mp mem
    simpa [plan.tickets_orderId _ t inserted] using other.symm
  ext1
  · simp [Postgres.rowsOf, Postgres.created, newOrder, other.symm]
  · simp only [Postgres.rowsOf, Postgres.ticketsOf, Postgres.created, List.filter_append, noTickets,
      List.append_nil]
  · rfl
  · simp [Postgres.rowsOf, Postgres.created, seatHeldEvent, newOrder, other.symm]

theorem rowsOf_created_self (absent : pg.rowsOf draw.orderId = ⟨[], [], [], []⟩) :
    (pg.created orderIn idempotencyKey plan draw).rowsOf draw.orderId =
      ⟨[(newOrder orderIn idempotencyKey plan draw).stored],
        (plan.tickets draw.orderId).map Ticket.stored, [],
        [seatHeldEvent (newOrder orderIn idempotencyKey plan draw) (plan.tickets draw.orderId)
          (draw.now + holdWindow)]⟩ := by
  simp only [Postgres.rowsOf, OrderRows.mk.injEq] at absent
  obtain ⟨noOrders, noTickets, noPayments, noEvents⟩ := absent
  ext1
  · simp [Postgres.rowsOf, Postgres.created, newOrder, noOrders]
  · rw [Postgres.ticketsOf] at noTickets
    simp only [Postgres.rowsOf, Postgres.ticketsOf, Postgres.created, List.filter_append, noTickets,
      plan.filter_tickets, List.nil_append]
  · exact noPayments
  · simp [Postgres.rowsOf, Postgres.created, seatHeldEvent, newOrder, noEvents]

end Created

@[simp] theorem Ticket.fromHeld_orderId (orderIds : List ℕ) (status : TicketStatus) (t : Ticket) :
    (t.fromHeld orderIds status).orderId = t.orderId := by
  unfold fromHeld
  split <;> rfl

/-- An expiry changes the rows of the expired orders only. -/
theorem rowsOf_expireHolds_other {rows : List (ℕ × String)} {reason : String}
    (other : orderId ∉ rows.map Prod.fst) :
    (pg.expireHolds rows reason).rowsOf orderId = pg.rowsOf orderId := by
  ext1
  · refine filter_key_map_other (Order.expire_id _) (fun o same => if_neg ?_) pg.orders
    rwa [same]
  · refine filter_key_map_other (Ticket.fromHeld_orderId _ _) (fun t same => if_neg ?_) pg.tickets
    rw [same]
    exact fun both => other both.1
  · rfl
  · have none : rows.filter ((fun e => e.aggregateId = orderId) ∘ seatHoldExpiredEvent reason) =
        [] :=
      filter_key_eq_nil other
    simp only [Postgres.rowsOf, Postgres.expireHolds, List.filter_append, List.filter_map, none,
      List.map_nil, List.append_nil]

theorem rowsOf_expireHolds_self (pg : Postgres) {rows : List (ℕ × String)} (reason : String)
    (distinct : (rows.map Prod.fst).Nodup) (mem : orderId ∈ rows.map Prod.fst) :
    ∃ event, event.eventType = .seatHoldExpired ∧
      (pg.expireHolds rows reason).rowsOf orderId =
        ⟨(pg.rowsOf orderId).orders.map (Order.expire (rows.map Prod.fst)),
          (pg.rowsOf orderId).tickets.map (Ticket.fromHeld (rows.map Prod.fst) .cancelled),
          (pg.rowsOf orderId).payments, (pg.rowsOf orderId).outbox ++ [event]⟩ := by
  obtain ⟨row, inRows, rfl⟩ := List.mem_map.mp mem
  refine ⟨seatHoldExpiredEvent reason row, rfl, ?_⟩
  ext1
  · exact filter_key_map (Order.expire_id _) pg.orders row.1
  · exact filter_key_map (Ticket.fromHeld_orderId _ _) pg.tickets row.1
  · rfl
  · have one : rows.filter ((fun e => e.aggregateId = row.1) ∘ seatHoldExpiredEvent reason) =
        [row] :=
      filter_key_of_mem distinct inRows
    simp only [Postgres.rowsOf, Postgres.expireHolds, List.filter_append, List.filter_map, one,
      List.map_cons, List.map_nil]

/-- A confirmation changes the rows of its order only. -/
theorem rowsOf_confirm_other {order : Order} {payment : Payment} {event : OutboxEvent}
    (paymentOf : payment.orderId = order.id) (eventOf : event.aggregateId = order.id)
    (other : orderId ≠ order.id) :
    (({ pg with payments := pg.payments ++ [payment] } : Postgres).confirmOrder order.id
      event).rowsOf orderId = pg.rowsOf orderId := by
  ext1
  · refine filter_key_map_other (Order.confirm_id _) (fun o same => if_neg ?_) pg.orders
    rwa [same]
  · refine filter_key_map_other (Ticket.fromHeld_orderId _ _) (fun t same => if_neg ?_) pg.tickets
    rw [same]
    exact fun both => other (List.mem_singleton.mp both.1)
  · simp [Postgres.rowsOf, Postgres.confirmOrder, paymentOf, other.symm]
  · simp [Postgres.rowsOf, Postgres.confirmOrder, eventOf, other.symm]

theorem rowsOf_confirm_self (pg : Postgres) {order : Order} {payment : Payment}
    {event : OutboxEvent}
    (paymentOf : payment.orderId = order.id) (eventOf : event.aggregateId = order.id) :
    (({ pg with payments := pg.payments ++ [payment] } : Postgres).confirmOrder order.id
      event).rowsOf order.id =
        ⟨(pg.rowsOf order.id).orders.map (Order.confirm order.id),
          (pg.rowsOf order.id).tickets.map (Ticket.fromHeld [order.id] .valid),
          (pg.rowsOf order.id).payments ++ [payment], (pg.rowsOf order.id).outbox ++ [event]⟩ := by
  ext1
  · exact filter_key_map (Order.confirm_id _) pg.orders order.id
  · exact filter_key_map (Ticket.fromHeld_orderId _ _) pg.tickets order.id
  · simp [Postgres.rowsOf, Postgres.confirmOrder, paymentOf]
  · simp [Postgres.rowsOf, Postgres.confirmOrder, eventOf]

/-- A pending order is the one order of its id, and it is held. -/
theorem Postgres.LifeCycle.held_of_pending (cycle : pg.LifeCycle) {o : Order}
    (stored : o ∈ pg.orders) (pending : o.status = .pending) :
    ∃ ts created, pg.rowsOf o.id = ⟨[o], ts, [], [created]⟩ ∧
      numeric o.totalAmount = o.totalAmount ∧ (∀ t ∈ ts, t.status = .held) ∧
      created.eventType = .seatHeld := by
  have one : (pg.rowsOf o.id).orders = [o] := filter_key_of_mem cycle.ids.1 stored
  have life := cycle.life o.id
  generalize pg.rowsOf o.id = rows at one life
  cases life with
  | absent => cases one
  | held status total tickets event => cases one; exact ⟨_, _, rfl, total, tickets, event⟩
  | sold status => cases one; rw [status] at pending; cases pending
  | released status => cases one; rw [status] at pending; cases pending

theorem orderId_of_rowsOf {rows : OrderRows} (before : pg.rowsOf orderId = rows) :
    ∀ t ∈ rows.tickets, t.orderId = orderId := by
  subst before
  intro t mem
  simpa using (List.mem_filter.mp mem).2

theorem Ticket.fromHeld_status {orderIds : List ℕ} {status : TicketStatus} {t : Ticket}
    (held : t.status = .held) (mem : t.orderId ∈ orderIds) :
    (t.fromHeld orderIds status).status = status := by
  rw [fromHeld, if_pos ⟨mem, held⟩]

/-- What one COMMIT does to the rows of one order. -/
theorem Commit.life (committed : Commit lower catalog pg pg') (cycle : pg.LifeCycle)
    (orderId : ℕ) :
    pg'.rowsOf orderId = pg.rowsOf orderId ∨
      Life (pg'.rowsOf orderId) ∧ orderId ∈ pg'.orderIdsDrawn ∧
        ∀ o ∈ pg.orders, o.id = orderId → o.status = .pending := by
  cases committed with
  | nothing => exact .inl rfl
  | drawn => exact .inl rfl
  | @created orderIn key plan draw planned fresh rows =>
    by_cases same : orderId = draw.orderId
    · subst same
      refine .inr ⟨?_, List.mem_cons_self, fun o mem same => ?_⟩
      · rw [rowsOf_created_self (pg.drawOrderId draw.orderId) orderIn key plan draw
          (cycle.undrawn _ fresh)]
        refine .held rfl (Rounding.toPlaces_toPlaces 2 _) (fun t mem => ?_) rfl
        obtain ⟨t, inserted, rfl⟩ := List.mem_map.mp mem
        obtain ⟨v, -, rfl⟩ := List.mem_map.mp inserted
        rfl
      · exact absurd (same ▸ cycle.ids.2 o mem) fresh
    · exact .inl (rowsOf_created_other (pg.drawOrderId draw.orderId) orderIn key plan draw same)
  | @expired rows reason distinct pending =>
    by_cases mem : orderId ∈ rows.map Prod.fst
    · obtain ⟨row, inRows, rfl⟩ := List.mem_map.mp mem
      obtain ⟨o, stored, same, status⟩ := pending row inRows
      obtain ⟨ts, created, before, total, tickets, event⟩ := cycle.held_of_pending stored status
      obtain ⟨ended, kind, after⟩ := rowsOf_expireHolds_self pg reason distinct mem
      rw [same] at before
      have orders : [o].map (Order.expire (rows.map Prod.fst)) =
          [{ o with status := .expired }] := by
        rw [List.map_singleton, Order.expire, if_pos (same ▸ mem)]
      refine .inr ⟨?_, same ▸ cycle.ids.2 o stored, fun o' stored' same' => ?_⟩
      · rw [after, before, orders]
        refine .released rfl (fun t mapped => ?_) event kind
        obtain ⟨t, inTickets, rfl⟩ := List.mem_map.mp mapped
        refine Ticket.fromHeld_status (tickets t inTickets) ?_
        rw [orderId_of_rowsOf before t inTickets]
        exact mem
      · rw [eq_of_key_eq cycle.ids.1 stored' stored (same'.trans same.symm)]
        exact status
    · exact .inl (rowsOf_expireHolds_other mem)
  | @confirmed order payment event stored pending unpaid paymentOf completed amount paid eventOf =>
    by_cases same : orderId = order.id
    · subst same
      obtain ⟨ts, created, before, total, tickets, event'⟩ := cycle.held_of_pending stored pending
      have after := rowsOf_confirm_self pg paymentOf eventOf
      have orders : [order].map (Order.confirm order.id) =
          [{ order with status := .confirmed, expiresAt := none }] := by
        rw [List.map_singleton, Order.confirm, if_pos rfl]
      refine .inr ⟨?_, cycle.ids.2 order stored, fun o' stored' same' => ?_⟩
      · rw [after, before, orders]
        refine .sold rfl rfl (fun t mapped => ?_) completed (amount.trans total) event' paid
        obtain ⟨t, inTickets, rfl⟩ := List.mem_map.mp mapped
        refine Ticket.fromHeld_status (tickets t inTickets) ?_
        rw [orderId_of_rowsOf before t inTickets]
        exact List.mem_singleton_self _
      · rw [eq_of_key_eq cycle.ids.1 stored' stored same']
        exact pending
    · exact .inl (rowsOf_confirm_other paymentOf eventOf same)

/-- **A COMMIT moves every order along its life.** -/
theorem Commit.lifeCycle (committed : Commit lower catalog pg pg') (cycle : pg.LifeCycle) :
    pg'.LifeCycle where
  ids := committed.idsDrawn cycle.ids
  life orderId := by
    rcases committed.life cycle orderId with same | ⟨life, -, -⟩
    · rw [same]
      exact cycle.life orderId
    · exact life
  undrawn orderId absent := by
    rcases committed.life cycle orderId with same | ⟨-, drawn, -⟩
    · rw [same]
      exact cycle.undrawn orderId fun drawn => absent (committed.drawn_mono drawn)
    · exact absurd drawn absent

/-- A COMMIT leaves an order alone that is no longer pending. -/
theorem Commit.keeps_rows (committed : Commit lower catalog pg pg') (cycle : pg.LifeCycle)
    {o : Order} (stored : o ∈ pg.orders) (final : o.status ≠ .pending) :
    pg'.rowsOf o.id = pg.rowsOf o.id := by
  rcases committed.life cycle o.id with same | ⟨-, -, pending⟩
  · exact same
  · exact absurd (pending o stored rfl) final

end Commit

/-! ## The shape of an order -/

/-- The completed payments of an order. -/
def Postgres.completedPayments (pg : Postgres) (orderId : ℕ) : List Payment :=
  pg.payments.filter fun p => p.orderId = orderId ∧ p.status = .completed

/-- How many events of a type were inserted for an order. -/
def Postgres.eventCount (pg : Postgres) (orderId : ℕ) (eventType : EventType) : ℕ :=
  pg.outbox.countP fun e => e.aggregateId = orderId ∧ e.eventType = eventType

inductive Phase
  | pending | confirmed | expired
deriving DecidableEq

def Postgres.HasShape (pg : Postgres) (o : Order) : Phase → Prop
  | .pending => o.status = .pending ∧ (∀ t ∈ pg.ticketsOf o.id, t.status = .held) ∧
      pg.completedPayments o.id = []
  | .confirmed => o.status = .confirmed ∧ (∀ t ∈ pg.ticketsOf o.id, t.status = .valid) ∧
      o.expiresAt = none ∧ ∃ p, pg.completedPayments o.id = [p] ∧ p.amount = o.totalAmount
  | .expired => o.status = .expired ∧ (∀ t ∈ pg.ticketsOf o.id, t.status = .cancelled) ∧
      pg.completedPayments o.id = []

/-- The events of an order in the given status: SEAT_HELD, and one more when it is final. -/
def Postgres.HasEvents (pg : Postgres) (o : Order) : Prop :=
  pg.eventCount o.id .seatHeld = 1 ∧
  pg.eventCount o.id .orderPaid = (if o.status = .confirmed then 1 else 0) ∧
  pg.eventCount o.id .seatHoldExpired = (if o.status = .expired then 1 else 0)

theorem Postgres.completedPayments_eq (pg : Postgres) (orderId : ℕ) :
    pg.completedPayments orderId =
      (pg.rowsOf orderId).payments.filter fun p => p.status = .completed := by
  rw [completedPayments, rowsOf, List.filter_filter]
  exact List.filter_congr fun p _ => by rw [Bool.decide_and, Bool.and_comm]

theorem Postgres.eventCount_eq (pg : Postgres) (orderId : ℕ) (eventType : EventType) :
    pg.eventCount orderId eventType =
      (pg.rowsOf orderId).outbox.countP fun e => e.eventType = eventType := by
  rw [eventCount, rowsOf, List.countP_filter]
  exact List.countP_congr fun e _ => by rw [Bool.decide_and, Bool.and_comm]

theorem Postgres.HasShape.status {pg : Postgres} {o : Order} {phase : Phase}
    (shape : pg.HasShape o phase) : o.status = match phase with
      | .pending => .pending
      | .confirmed => .confirmed
      | .expired => .expired := by
  cases phase <;> exact shape.1

/-- The status of an order tells its phase. -/
theorem Postgres.HasShape.unique {pg : Postgres} {o : Order} {phase phase' : Phase}
    (shape : pg.HasShape o phase) (shape' : pg.HasShape o phase') : phase' = phase := by
  have statuses := shape.status.symm.trans shape'.status
  cases phase <;> cases phase' <;> first | rfl | cases statuses

/-- An order in its life cycle has one shape, and the events of its status. -/
theorem Postgres.LifeCycle.shape {pg : Postgres} (cycle : pg.LifeCycle) {o : Order}
    (stored : o ∈ pg.orders) : (∃! phase, pg.HasShape o phase) ∧ pg.HasEvents o := by
  suffices ∃ phase, pg.HasShape o phase ∧ pg.HasEvents o by
    obtain ⟨phase, shape, events⟩ := this
    exact ⟨⟨phase, shape, fun _ shape' => shape.unique shape'⟩, events⟩
  have one : (pg.rowsOf o.id).orders = [o] := filter_key_of_mem cycle.ids.1 stored
  have tickets : (pg.rowsOf o.id).tickets = pg.ticketsOf o.id := rfl
  have payments := pg.completedPayments_eq o.id
  have events := pg.eventCount_eq o.id
  have life := cycle.life o.id
  generalize pg.rowsOf o.id = rows at one tickets payments events life
  cases life with
  | absent => cases one
  | held status total held event =>
    cases one
    refine ⟨.pending, ⟨status, tickets ▸ held, payments⟩, ?_⟩
    simp [Postgres.HasEvents, events, event, status]
  | sold status noExpiry valid completed amount event event' =>
    cases one
    refine ⟨.confirmed, ⟨status, tickets ▸ valid, noExpiry, _, ?_, amount⟩, ?_⟩
    · rw [payments, List.filter_cons_of_pos (by simpa using completed), List.filter_nil]
    · simp [Postgres.HasEvents, events, event, event', status]
  | released status cancelled event event' =>
    cases one
    refine ⟨.expired, ⟨status, tickets ▸ cancelled, payments⟩, ?_⟩
    simp [Postgres.HasEvents, events, event, event', status]

/-! ## Over runs -/

section Runs

variable {cfg : Config} {ok : State → Action → Prop} {start s s' : State}

theorem lifeCycle_of_fresh (fresh : start.Fresh) : start.dbs.pg.LifeCycle := by
  have ids := fresh.idsDrawn
  obtain ⟨-, noOrders, noTickets, noPayments, noEvents⟩ := fresh
  have absent : ∀ orderId, start.dbs.pg.rowsOf orderId = ⟨[], [], [], []⟩ := by
    intro orderId
    simp [Postgres.rowsOf, Postgres.ticketsOf, noOrders, noTickets, noPayments, noEvents]
  exact ⟨ids, fun orderId => absent orderId ▸ .absent, fun orderId _ => absent orderId⟩

theorem lifeCycle_of_reachable (fresh : start.Fresh) (reached : Reachable (step cfg) ok start s) :
    s.dbs.pg.LifeCycle :=
  pg_invariant reached fresh.1 fresh.idsDrawn (lifeCycle_of_fresh fresh)
    fun _ _ cycle committed => committed.lifeCycle cycle

/-- **The life-cycle invariant.**  Under any interleaving and any fault every order has exactly one
of the three shapes and the outbox events of its status, and an order that is confirmed or expired
keeps all its rows in every later state. -/
theorem order_life_cycle (fresh : start.Fresh)
    (reached : Reachable (step cfg) (fun _ _ => True) start s) :
    ∀ o ∈ s.dbs.pg.orders,
      (∃! phase, s.dbs.pg.HasShape o phase) ∧ s.dbs.pg.HasEvents o ∧
      (o.status = .confirmed ∨ o.status = .expired →
        ∀ s', Reachable (step cfg) (fun _ _ => True) s s' →
          o ∈ s'.dbs.pg.orders ∧ s'.dbs.pg.rowsOf o.id = s.dbs.pg.rowsOf o.id) := by
  intro o stored
  have cycle := lifeCycle_of_reachable fresh reached
  obtain ⟨shape, events⟩ := cycle.shape stored
  refine ⟨shape, events, fun final s' later => ?_⟩
  have notPending : o.status ≠ .pending := by
    rintro pending
    rcases final with status | status
    · rw [status] at pending
      cases pending
    · rw [status] at pending
      cases pending
  have one : (s.dbs.pg.rowsOf o.id).orders = [o] := filter_key_of_mem cycle.ids.1 stored
  have inTable : ∀ pg : Postgres, pg.rowsOf o.id = s.dbs.pg.rowsOf o.id → o ∈ pg.orders := by
    intro pg same
    have mem : o ∈ (pg.rowsOf o.id).orders := by
      rw [same, one]
      exact List.mem_singleton_self o
    exact (List.mem_filter.mp mem).1
  have kept : s'.dbs.pg.rowsOf o.id = s.dbs.pg.rowsOf o.id := by
    refine later.invariant₂ (P := fun s' => s'.dbs.pg.rowsOf o.id = s.dbs.pg.rowsOf o.id) rfl ?_
    intro mid a next between same _ moved
    have reachedMid := reached.trans between
    have committed := commit_of_step reachedMid fresh.1 fresh.idsDrawn moved
    exact (committed.keeps_rows (lifeCycle_of_reachable fresh reachedMid) (inTable _ same)
      notPending).trans same
  exact ⟨inTable _ kept, kept⟩

/-- One order is created and paid. -/
def paidSchedule : List Action :=
  .spawn (.createOrder Sample.order none) :: Sample.advance 0 4 1 ++
    .spawn (.processPayment 1 (Sample.payment 10)) :: Sample.advance 1 2 1

theorem order_life_cycle_after_payment :
    ∃ s o, run (step Sample.cfg) (Sample.start Sample.floor) paidSchedule = some s ∧
      o ∈ s.dbs.pg.orders ∧ o.status = .confirmed ∧ s.dbs.pg.HasEvents o ∧
      ∀ s', Reachable (step Sample.cfg) (fun _ _ => True) s s' → o ∈ s'.dbs.pg.orders := by
  obtain ⟨s, checked⟩ := Option.isSome_iff_exists.mp (show ((checkedRun (step Sample.cfg)
    (fun _ _ => True) (Sample.start Sample.floor) paidSchedule).filter fun s =>
      s.dbs.pg.orders.any fun o => o.status = .confirmed).isSome = true by decide +kernel)
  obtain ⟨ran, confirmed⟩ := Option.filter_eq_some_iff.mp checked
  obtain ⟨o, stored, status⟩ := List.any_eq_true.mp confirmed
  have status : o.status = .confirmed := by simpa using status
  obtain ⟨-, events, final⟩ := order_life_cycle (Sample.fresh Sample.floor)
    (reachable_of_checkedRun ran) o stored
  exact ⟨s, o, run_of_checkedRun ran, stored, status, events,
    fun s' later => (final (.inl status) s' later).1⟩

end Runs

end TicketBooking
