import TicketBooking.DbErrors
import TicketBooking.Lib.Fallible
import TicketBooking.Lib.GroupCount
import TicketBooking.Lib.Rounding
import TicketBooking.Lib.UniqueIndex

/-!
# The PostgreSQL tables of the booking flow

The rows of `app/models/sql_models.py` that orders, payments and the sweeper read or write, and the
statements they run.  An INSERT checks what the server checks: the column types, the CHECK
constraints, the unique indexes and the foreign key, in this order.

* `Postgres.insertOrder`, `Postgres.insertTicket`, `Postgres.insertPayment` answer with the
  `DbExc` of the violated rule; `NUMERIC(10, 2)` rounds what is inserted (`numeric`).
* `Postgres.expireHolds` is the group of statements by which both the sweeper and a late payment
  expire orders, `Postgres.confirmOrder` the one by which a payment confirms an order.

The generated row ids no code reads, the ticket codes, `updated_at` and the outbox worker's columns
are left out.
-/

namespace TicketBooking

open GroupCount UniqueIndex

inductive OrderStatus
  | pending | paid | confirmed | expired | cancelled
deriving DecidableEq

inductive TicketStatus
  | held | valid | used | refunded | cancelled
deriving DecidableEq

inductive PaymentStatus
  | pending | completed | failed | refunded
deriving DecidableEq

inductive EventType
  | seatHeld | orderPaid | seatHoldExpired
deriving DecidableEq

/-- A row of `orders`.  Times are microseconds. -/
structure Order where
  id : ℕ
  orderNumber : String
  userId : ℕ
  totalAmount : ℚ
  status : OrderStatus
  paymentMethod : String
  expiresAt : Option ℤ
  idempotencyKey : Option String
  createdAt : ℤ
deriving DecidableEq

structure Ticket where
  orderId : ℕ
  eventId : String
  seatZone : String
  seatNumber : Option String
  price : ℚ
  status : TicketStatus
deriving DecidableEq

structure Payment where
  orderId : ℕ
  paymentReference : String
  amount : ℚ
  provider : String
  status : PaymentStatus
  providerTxId : String
deriving DecidableEq

/-- The JSON payloads of the outbox. -/
inductive OutboxPayload
  | seatHeld (orderId : ℕ) (orderNumber : String) (expiresAt : ℤ)
      (tickets : List (String × String × Option String))
  | orderPaid (orderId : ℕ) (orderNumber paymentReference : String) (amount : ℚ) (ticketsCount : ℕ)
  | seatHoldExpired (orderId : ℕ) (orderNumber reason : String)
deriving DecidableEq

structure OutboxEvent where
  eventType : EventType
  aggregateId : ℕ
  payload : OutboxPayload
deriving DecidableEq

/-- The database: the ids of `users`, the tables, and the values the sequence of `orders.id` has
handed out (a value is never handed out twice, not even after a rollback). -/
structure Postgres where
  users : List ℕ
  orders : List Order
  tickets : List Ticket
  payments : List Payment
  outbox : List OutboxEvent
  orderIdsDrawn : List ℕ
deriving DecidableEq

/-! ## Columns -/

/-- The value a `NUMERIC(10, 2)` column stores. -/
def numeric (x : ℚ) : ℚ := Rounding.toPlaces 2 x

/-- The value has at most eight digits before the point. -/
def FitsNumeric (x : ℚ) : Prop := |numeric x| < 10 ^ 8

instance (x : ℚ) : Decidable (FitsNumeric x) := inferInstanceAs (Decidable (_ < _))

def Order.stored (o : Order) : Order := { o with totalAmount := numeric o.totalAmount }

def Ticket.stored (t : Ticket) : Ticket := { t with price := numeric t.price }

@[simp] theorem Order.stored_id (o : Order) : o.stored.id = o.id := rfl
@[simp] theorem Order.stored_status (o : Order) : o.stored.status = o.status := rfl
@[simp] theorem Order.stored_idempotencyKey (o : Order) :
    o.stored.idempotencyKey = o.idempotencyKey := rfl
@[simp] theorem Order.stored_totalAmount (o : Order) :
    o.stored.totalAmount = numeric o.totalAmount := rfl
@[simp] theorem Ticket.stored_orderId (t : Ticket) : t.stored.orderId = t.orderId := rfl
@[simp] theorem Ticket.stored_eventId (t : Ticket) : t.stored.eventId = t.eventId := rfl
@[simp] theorem Ticket.stored_seatZone (t : Ticket) : t.stored.seatZone = t.seatZone := rfl
@[simp] theorem Ticket.stored_seatNumber (t : Ticket) : t.stored.seatNumber = t.seatNumber := rfl
@[simp] theorem Ticket.stored_status (t : Ticket) : t.stored.status = t.status := rfl
@[simp] theorem Ticket.stored_price (t : Ticket) : t.stored.price = numeric t.price := rfl

/-- `INTEGER`, `VARCHAR(50)`, `VARCHAR(128)` and `NUMERIC(10, 2)` hold the values of the row. -/
def Order.FitsColumns (o : Order) : Prop :=
  o.userId < 2 ^ 31 ∧ FitsVarchar 50 o.paymentMethod ∧
  FitsVarchar 128 (o.idempotencyKey.getD "") ∧ FitsNumeric o.totalAmount

instance (o : Order) : Decidable o.FitsColumns := inferInstanceAs (Decidable (_ ∧ _ ∧ _ ∧ _))

def Ticket.FitsColumns (t : Ticket) : Prop :=
  FitsVarchar 64 t.eventId ∧ FitsVarchar 50 t.seatZone ∧ FitsVarchar 50 (t.seatNumber.getD "") ∧
  FitsNumeric t.price

instance (t : Ticket) : Decidable t.FitsColumns := inferInstanceAs (Decidable (_ ∧ _ ∧ _ ∧ _))

/-- The one text of the row that a client may choose. -/
def Payment.FitsColumns (p : Payment) : Prop := FitsVarchar 128 p.providerTxId

instance (p : Payment) : Decidable p.FitsColumns := inferInstanceAs (Decidable (FitsVarchar _ _))

/-! ## The exceptions of violated rules

SQLAlchemy's text of an exception repeats the statement, and `INSERT INTO orders` names the column
`idempotency_key`: every violation by that statement mentions the key.  The text of a violation by
`INSERT INTO tickets` repeats the seats of the request, so it mentions the key or not. -/

/-- A value does not fit its column (class 22), or the driver refuses a text with a NUL: no handler
tells the two apart. -/
def dataExc : DbExc := ⟨.data, some "22000", "", false⟩

def keyViolation : DbExc := ⟨.integrity, some "23505", "uq_orders_idempotency_key", true⟩

def userViolation : DbExc := ⟨.integrity, some "23503", "orders_user_id_fkey", true⟩

def totalViolation : DbExc := ⟨.integrity, some "23514", "chk_order_total_amount_positive", true⟩

def priceViolation (mentionsKey : Bool) : DbExc :=
  ⟨.integrity, some "23514", "chk_ticket_price_positive", mentionsKey⟩

def seatViolation (mentionsKey : Bool) : DbExc :=
  ⟨.integrity, some "23505", "uq_tickets_event_zone_seat", mentionsKey⟩

def paymentViolation : DbExc :=
  ⟨.integrity, some "23505", "uq_payments_order_completed", false⟩

/-! ## INSERT -/

/-- The entry of a row in the partial unique index `uq_tickets_event_zone_seat`. -/
def Ticket.seatEntry (t : Ticket) : Option (String × String × String) :=
  if t.status = .held ∨ t.status = .valid then
    t.seatNumber.map fun n => (t.eventId, t.seatZone, n)
  else none

@[simp] theorem Ticket.seatEntry_stored (t : Ticket) : t.stored.seatEntry = t.seatEntry := rfl

/-- The entries of the index. -/
def Postgres.seatIndex (pg : Postgres) : List (String × String × String) :=
  pg.tickets.filterMap Ticket.seatEntry

def Postgres.insertOrder (pg : Postgres) (o : Order) : Except DbExc Postgres :=
  if ¬ o.FitsColumns then .error dataExc
  else if o.stored.totalAmount < 0 then .error totalViolation
  else if o.idempotencyKey.isSome ∧ o.idempotencyKey ∈ pg.orders.map Order.idempotencyKey then
    .error keyViolation
  -- the foreign key is checked at the end of the statement, after the unique indexes
  else if o.userId ∉ pg.users then .error userViolation
  else .ok { pg with orders := pg.orders ++ [o.stored] }

def Postgres.insertTicket (mentionsKey : Bool) (pg : Postgres) (t : Ticket) :
    Except DbExc Postgres :=
  if ¬ t.FitsColumns then .error dataExc
  else if t.stored.price < 0 then .error (priceViolation mentionsKey)
  else if t.seatEntry.any (· ∈ pg.seatIndex) then .error (seatViolation mentionsKey)
  else .ok { pg with tickets := pg.tickets ++ [t.stored] }

/-- The rows of one multi-row INSERT, in list order.  The driver finds a NUL before it sends the
statement; here it is found at its row, after what earlier rows violate. -/
def Postgres.insertTickets (mentionsKey : Bool) (pg : Postgres) (ts : List Ticket) :
    Except DbExc Postgres :=
  ts.foldlM (Postgres.insertTicket mentionsKey) pg

theorem Postgres.insertOrder_ok_iff {pg pg' : Postgres} {o : Order} :
    pg.insertOrder o = .ok pg' ↔ o.FitsColumns ∧ 0 ≤ numeric o.totalAmount ∧
      ¬ (o.idempotencyKey.isSome ∧ o.idempotencyKey ∈ pg.orders.map Order.idempotencyKey) ∧
      o.userId ∈ pg.users ∧ pg' = { pg with orders := pg.orders ++ [o.stored] } := by
  unfold insertOrder
  by_cases fits : o.FitsColumns
  case neg => simp [fits]
  by_cases positive : 0 ≤ numeric o.totalAmount
  case neg => simp [fits, positive, not_le.mp positive]
  by_cases taken : o.idempotencyKey.isSome ∧ o.idempotencyKey ∈ pg.orders.map Order.idempotencyKey
  case pos =>
    rw [if_neg (by simpa using fits), if_neg (by simpa using positive), if_pos taken]
    simp [taken]
  by_cases known : o.userId ∈ pg.users
  case neg =>
    rw [if_neg (by simpa using fits), if_neg (by simpa using positive), if_neg taken]
    simp [known]
  rw [if_neg (by simpa using fits), if_neg (by simpa using positive), if_neg taken,
    if_neg (by simpa using known), Except.ok.injEq, eq_comm]
  simp only [fits, positive, taken, known, true_and, not_false_eq_true]

/-- A row that would fit is refused for its key alone. -/
theorem Postgres.insertOrder_taken {pg : Postgres} {o : Order} (fits : o.FitsColumns)
    (nonneg : 0 ≤ numeric o.totalAmount) (hasKey : o.idempotencyKey.isSome)
    (taken : o.idempotencyKey ∈ pg.orders.map Order.idempotencyKey) :
    pg.insertOrder o = .error keyViolation := by
  have nonneg : ¬ o.stored.totalAmount < 0 := not_lt.mpr nonneg
  unfold insertOrder
  rw [if_neg (not_not.mpr fits), if_neg nonneg, if_pos ⟨hasKey, taken⟩]

theorem Postgres.insertTicket_ok_iff {mentionsKey : Bool} {pg pg' : Postgres} {t : Ticket} :
    pg.insertTicket mentionsKey t = .ok pg' ↔ t.FitsColumns ∧ 0 ≤ numeric t.price ∧
      (∀ e, t.seatEntry = some e → e ∉ pg.seatIndex) ∧
      pg' = { pg with tickets := pg.tickets ++ [t.stored] } := by
  unfold insertTicket
  by_cases fits : t.FitsColumns
  case neg => simp [fits]
  by_cases positive : 0 ≤ numeric t.price
  case neg => simp [fits, positive, not_le.mp positive]
  by_cases taken : t.seatEntry.any (· ∈ pg.seatIndex) = true
  case pos =>
    obtain ⟨e, entry, indexed⟩ := (Option.any_eq_true _ _).mp taken
    simp only [decide_eq_true_eq] at indexed
    rw [if_neg (by simpa using fits), if_neg (by simpa using positive), if_pos taken]
    simp only [reduceCtorEq, false_iff, not_and]
    exact fun _ _ free => absurd indexed (free e entry)
  have free : ∀ e, t.seatEntry = some e → e ∉ pg.seatIndex := by
    intro e entry indexed
    exact taken (by simp [entry, indexed])
  rw [if_neg (by simpa using fits), if_neg (by simpa using positive), if_neg taken,
    Except.ok.injEq, eq_comm]
  simp only [fits, positive, true_and]
  exact ⟨fun same => ⟨free, same⟩, fun both => both.2⟩

theorem Postgres.seatIndex_append (pg : Postgres) (t : Ticket) :
    ({ pg with tickets := pg.tickets ++ [t.stored] } : Postgres).seatIndex =
      pg.seatIndex ++ t.seatEntry.toList := by
  simp only [seatIndex, List.filterMap_append, List.filterMap_cons, List.filterMap_nil,
    Ticket.seatEntry_stored]
  cases t.seatEntry <;> rfl

/-- The rule of `uq_tickets_event_zone_seat`. -/
theorem Postgres.insertTicket_rule (mentionsKey : Bool) :
    InsertRule (Postgres.insertTicket mentionsKey)
      (fun _ t => t.FitsColumns ∧ 0 ≤ numeric t.price) Ticket.seatEntry Postgres.seatIndex
      fun pg t => { pg with tickets := pg.tickets ++ [t.stored] } where
  ok_iff _ _ _ := insertTicket_ok_iff.trans and_assoc.symm
  fits_append _ _ _ := Iff.rfl
  mem_index_append pg t e := by
    rw [seatIndex_append, List.mem_append, Option.mem_toList]

/-- The rows of one INSERT go in when each fits its columns, and their seats are new to the index
and to each other. -/
theorem Postgres.insertTickets_ok_iff {mentionsKey : Bool} {pg pg' : Postgres} {ts : List Ticket} :
    pg.insertTickets mentionsKey ts = .ok pg' ↔
      (∀ t ∈ ts, t.FitsColumns ∧ 0 ≤ numeric t.price) ∧ (ts.filterMap Ticket.seatEntry).Nodup ∧
      (∀ e ∈ ts.filterMap Ticket.seatEntry, e ∉ pg.seatIndex) ∧
      pg' = { pg with tickets := pg.tickets ++ ts.map Ticket.stored } := by
  have appended : ts.foldl (fun pg t => { pg with tickets := pg.tickets ++ [t.stored] }) pg =
      { pg with tickets := pg.tickets ++ ts.map Ticket.stored } := by
    induction ts generalizing pg with
    | nil => simp
    | cons t ts ih => rw [List.foldl_cons, ih, List.map_cons]; simp
  rw [← appended]
  exact (insertTicket_rule mentionsKey).insertAll_ok_iff

def Postgres.insertPayment (pg : Postgres) (p : Payment) : Except DbExc Postgres :=
  if ¬ p.FitsColumns then .error dataExc
  else if p.status = .completed ∧ p.orderId ∈
      (pg.payments.filter fun q => q.status = .completed).map Payment.orderId then
    .error paymentViolation
  else .ok { pg with payments := pg.payments ++ [{ p with amount := numeric p.amount }] }

theorem Postgres.insertPayment_ok {pg pg' : Postgres} {p : Payment}
    (inserted : pg.insertPayment p = .ok pg') (completed : p.status = .completed) :
    p.FitsColumns ∧ (∀ q ∈ pg.payments, q.status = .completed → q.orderId ≠ p.orderId) ∧
      pg' = { pg with payments := pg.payments ++ [{ p with amount := numeric p.amount }] } := by
  unfold insertPayment at inserted
  by_cases fits : p.FitsColumns
  case neg =>
    rw [if_pos fits] at inserted
    cases inserted
  rw [if_neg (not_not.mpr fits)] at inserted
  split at inserted
  case isTrue => cases inserted
  case isFalse unpaid =>
    refine ⟨fits, fun q mem status same => unpaid ⟨completed, ?_⟩,
      (Except.ok.inj inserted).symm⟩
    rw [← same]
    exact List.mem_map_of_mem (List.mem_filter.mpr ⟨mem, by simpa using status⟩)

def Postgres.insertOutbox (pg : Postgres) (es : List OutboxEvent) : Postgres :=
  { pg with outbox := pg.outbox ++ es }

/-! ## Reading -/

def Postgres.findByKey (pg : Postgres) (key : String) : Option Order :=
  pg.orders.find? fun o => o.idempotencyKey = some key

def Postgres.findOrder (pg : Postgres) (orderId : ℕ) : Option Order :=
  pg.orders.find? fun o => o.id = orderId

/-- `order.tickets` -/
def Postgres.ticketsOf (pg : Postgres) (orderId : ℕ) : List Ticket :=
  pg.tickets.filter fun t => t.orderId = orderId

/-- Seats of one zone to give back: `(event_id, seat_zone)` and how many. -/
structure SeatGroup where
  eventId : String
  seatZone : String
  quantity : ℕ
deriving DecidableEq

def Ticket.zoneOf (t : Ticket) : String × String := (t.eventId, t.seatZone)

/-- `SELECT event_id, seat_zone, count(*) ... WHERE order_id IN (...) AND status = 'held' GROUP BY
event_id, seat_zone` -/
def Postgres.heldGroups (pg : Postgres) (orderIds : List ℕ) : List SeatGroup :=
  (groupCount Ticket.zoneOf
    (pg.tickets.filter fun t => t.orderId ∈ orderIds ∧ t.status = .held)).map
      fun g => ⟨g.1.eventId, g.1.seatZone, g.2⟩

/-! ## UPDATE -/

/-- `UPDATE tickets SET status = ... WHERE order_id IN (...) AND status = 'held'` -/
def Ticket.fromHeld (orderIds : List ℕ) (status : TicketStatus) (t : Ticket) : Ticket :=
  if t.orderId ∈ orderIds ∧ t.status = .held then { t with status := status } else t

/-- `UPDATE orders SET status = 'expired' WHERE id IN (...)` -/
def Order.expire (orderIds : List ℕ) (o : Order) : Order :=
  if o.id ∈ orderIds then { o with status := .expired } else o

def seatHoldExpiredEvent (reason : String) (row : ℕ × String) : OutboxEvent where
  eventType := .seatHoldExpired
  aggregateId := row.1
  payload := .seatHoldExpired row.1 row.2 reason

/-- Expire the orders, cancel their held tickets and record one SEAT_HOLD_EXPIRED event each. -/
def Postgres.expireHolds (pg : Postgres) (rows : List (ℕ × String)) (reason : String) : Postgres :=
  { pg with
    orders := pg.orders.map (Order.expire (rows.map Prod.fst))
    tickets := pg.tickets.map (Ticket.fromHeld (rows.map Prod.fst) .cancelled)
    outbox := pg.outbox ++ rows.map (seatHoldExpiredEvent reason) }

/-- `order.status = "confirmed"; order.expires_at = None` -/
def Order.confirm (orderId : ℕ) (o : Order) : Order :=
  if o.id = orderId then { o with status := .confirmed, expiresAt := none } else o

/-- Confirm the order, validate its held tickets and record the ORDER_PAID event. -/
def Postgres.confirmOrder (pg : Postgres) (orderId : ℕ) (event : OutboxEvent) : Postgres :=
  { pg with
    orders := pg.orders.map (Order.confirm orderId)
    tickets := pg.tickets.map (Ticket.fromHeld [orderId] .valid)
    outbox := pg.outbox ++ [event] }

end TicketBooking
