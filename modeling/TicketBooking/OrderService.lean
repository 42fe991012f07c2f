import TicketBooking.Catalog
import TicketBooking.Database
import Mathlib.Data.List.Sort
import Mathlib.Data.Prod.Lex
import Mathlib.Order.Lex

/-!
# Creating an order

The parts of `create_order_dual_db` (`app/services/order_service.py`), each as a function of what it
reads.  `System` puts them in the order of the source, one database access a step.

* `planOrder` is the validation loop, the authoritative total and the global seat order;
  `zoneRequests` are the quantities the order reserves in MongoDB.
* `fingerprintAnswer` compares a request with the order that holds its Idempotency-Key.
* `createTx` is the PostgreSQL transaction; `integrityResponse` and `failureResponse` are the
  answers of its two exception handlers.
-/

namespace TicketBooking

open Fallible GroupCount

/-! ## Names and keys -/

def seatUniqueConstraint : String := "uq_tickets_event_zone_seat"

def foreignKeyViolation : String := "23503"

/-- `_canonical_event_id` -/
def canonicalEventId (rawId : String) : String :=
  match ObjectId.ofString? rawId with
  | some oid => oid.hex
  | none => rawId

@[simp] theorem canonicalEventId_hex (oid : ObjectId) : canonicalEventId oid.hex = oid.hex := by
  simp [canonicalEventId]

/-- One entry of `validated_items`. -/
structure ValidatedItem where
  eventOid : ObjectId
  eventTitle : String
  seatZone : String
  seatNumber : Option String
  price : ℚ
  capacity : ℤ
deriving DecidableEq

/-- `v_item["event_id"]` -/
def ValidatedItem.eventId (item : ValidatedItem) : String := item.eventOid.hex

/-- `_lock_order_key`: tuples of strings compare lexicographically. -/
def lockOrderKey (item : ValidatedItem) : String ×ₗ String ×ₗ String :=
  toLex (item.eventId, toLex (item.seatZone, item.seatNumber.getD ""))

/-! ## Validation and prices -/

/-- `(raw or "").strip() or None` -/
def normaliseSeat (raw : Option String) : Option String :=
  let stripped := strip (raw.getD "")
  if stripped = "" then none else some stripped

/-- One turn of the validation loop. -/
def validateItem (lower : String → String) (catalog : Catalog) (item : TicketItemCreate) :
    Except HttpException ValidatedItem :=
  match ObjectId.ofString? item.eventId with
  | none => .error ⟨400, .invalidEventId item.eventId, none⟩
  | some eventOid =>
    match catalog.find? eventOid with
    | none => .error ⟨404, .eventNotFound item.eventId, none⟩
    | some eventDoc =>
      match eventDoc.zones.find? fun z => zoneKey lower z.name = zoneKey lower item.seatZone with
      | none => .error ⟨400, .zoneMissing item.seatZone eventDoc.title, none⟩
      | some matchedZone => .ok {
          eventOid
          eventTitle := eventDoc.title
          seatZone := matchedZone.name
          seatNumber := normaliseSeat item.seatNumber
          price := matchedZone.price
          capacity := matchedZone.capacity }

/-- `+` on `Decimal`: the default context keeps 28 significant digits. -/
def decimalAdd (x y : ℚ) : ℚ := Rounding.toDigits 28 (x + y)

/-- What validation hands to the reservation. -/
structure OrderPlan where
  items : List ValidatedItem
  totalAmount : ℚ
deriving DecidableEq

/-- The validation loop and the sort by `_lock_order_key`.  The total is added up in request
order. -/
def planOrder (lower : String → String) (catalog : Catalog) (orderIn : OrderCreate) :
    Except HttpException OrderPlan :=
  (orderIn.items.mapM (validateItem lower catalog)).map fun validated =>
    { items := validated.insertionSort fun a b => lockOrderKey a ≤ lockOrderKey b
      totalAmount := (validated.map ValidatedItem.price).foldl decimalAdd 0 }

/-! ## Reservation in MongoDB -/

/-- One entry of `zone_requests`. -/
structure ZoneRequest where
  eventOid : ObjectId
  zoneName : String
  quantity : ℕ
  capacity : ℤ
  title : String
deriving DecidableEq

/-- One entry of `mongo_reserved`. -/
structure Reservation where
  eventOid : ObjectId
  zoneName : String
  quantity : ℕ
deriving DecidableEq

def ZoneRequest.reservation (r : ZoneRequest) : Reservation := ⟨r.eventOid, r.zoneName, r.quantity⟩

/-- The filter `booked_count <= capacity - quantity`. -/
def ZoneRequest.hasRoom (r : ZoneRequest) (bookedCount : ℤ) : Bool :=
  bookedCount ≤ r.capacity - r.quantity

def ValidatedItem.zoneOf (item : ValidatedItem) : ObjectId × String :=
  (item.eventOid, item.seatZone)

def OrderPlan.zoneRequests (plan : OrderPlan) : List ZoneRequest :=
  (groupCount ValidatedItem.zoneOf plan.items).map fun g =>
    ⟨g.1.eventOid, g.1.seatZone, g.2, g.1.capacity, g.1.eventTitle⟩

def ZoneRequest.soldOut (r : ZoneRequest) : HttpException :=
  ⟨409, .soldOut r.zoneName r.title, none⟩

/-! ## Idempotency -/

/-- Python's order on pairs of strings, for `sorted`. -/
def sortedSignature (sig : List (String ×ₗ String)) : List (String ×ₗ String) :=
  sig.insertionSort (· ≤ ·)

/-- `existing_items_sig` -/
def ticketsSignature (lower : String → String) (tickets : List Ticket) : List (String ×ₗ String) :=
  sortedSignature (tickets.map fun t => toLex (t.eventId, zoneKey lower t.seatZone))

/-- `request_items_sig` -/
def itemsSignature (lower : String → String) (items : List TicketItemCreate) :
    List (String ×ₗ String) :=
  sortedSignature (items.map fun i => toLex (canonicalEventId i.eventId, zoneKey lower i.seatZone))

/-- The refusal of a request whose payload differs from the order under its key. -/
def fingerprintAnswer (lower : String → String) (existing : Order) (tickets : List Ticket)
    (orderIn : OrderCreate) : Option HttpException :=
  if existing.userId ≠ orderIn.userId ∨ tickets.length ≠ orderIn.items.length then
    some ⟨409, .idempotencyMismatch, none⟩
  else if ticketsSignature lower tickets ≠ itemsSignature lower orderIn.items then
    some ⟨409, .idempotencyItems, none⟩
  else none

/-! ## The PostgreSQL transaction -/

/-- Ten minutes in microseconds. -/
def holdWindow : ℤ := 600000000

/-- What the runtime supplies to one step: clocks, generated values, and whether the text of a seat
violation happens to contain `idempotency_key`. -/
structure Draw where
  orderId : ℕ
  orderNumber : String
  now : ℤ
  createdAt : ℤ
  mentionsKey : Bool
  paymentReference : String
  generatedTx : String
  generatedTx_fits : FitsVarchar 128 generatedTx := by decide
deriving DecidableEq

/-- The `Order` object, with the values the INSERT returned. -/
def newOrder (orderIn : OrderCreate) (idempotencyKey : Option String) (plan : OrderPlan)
    (draw : Draw) : Order where
  id := draw.orderId
  orderNumber := draw.orderNumber
  userId := orderIn.userId
  totalAmount := plan.totalAmount
  status := .pending
  paymentMethod := orderIn.paymentMethod
  expiresAt := some (draw.now + holdWindow)
  idempotencyKey := idempotencyKey
  createdAt := draw.createdAt

def ValidatedItem.ticket (orderId : ℕ) (item : ValidatedItem) : Ticket where
  orderId := orderId
  eventId := item.eventId
  seatZone := item.seatZone
  seatNumber := item.seatNumber
  price := item.price
  status := .held

/-- `new_order.tickets` -/
def OrderPlan.tickets (plan : OrderPlan) (orderId : ℕ) : List Ticket :=
  plan.items.map (ValidatedItem.ticket orderId)

def seatHeldEvent (order : Order) (tickets : List Ticket) (expiresAt : ℤ) : OutboxEvent where
  eventType := .seatHeld
  aggregateId := order.id
  payload := .seatHeld order.id order.orderNumber expiresAt
    (tickets.map fun t => (t.eventId, t.seatZone, t.seatNumber))

/-- INSERT order, INSERT tickets, INSERT outbox event: the tables after COMMIT. -/
def createTx (pg : Postgres) (orderIn : OrderCreate) (idempotencyKey : Option String)
    (plan : OrderPlan) (draw : Draw) : Except DbExc Postgres := do
  let order := newOrder orderIn idempotencyKey plan draw
  let tickets := plan.tickets draw.orderId
  let withOrder ← pg.insertOrder order
  let withTickets ← withOrder.insertTickets draw.mentionsKey tickets
  return withTickets.insertOutbox [seatHeldEvent order tickets (draw.now + holdWindow)]

/-- What the server checks of the rows of one create transaction. -/
structure Postgres.Insertable (pg : Postgres) (order : Order) (tickets : List Ticket) : Prop where
  orderFits : order.FitsColumns
  totalNonneg : 0 ≤ numeric order.totalAmount
  keyFree : ¬ (order.idempotencyKey.isSome ∧
    order.idempotencyKey ∈ pg.orders.map Order.idempotencyKey)
  userKnown : order.userId ∈ pg.users
  ticketsFit : ∀ t ∈ tickets, t.FitsColumns ∧ 0 ≤ numeric t.price
  seatsDistinct : (tickets.filterMap Ticket.seatEntry).Nodup
  seatsFree : ∀ e ∈ tickets.filterMap Ticket.seatEntry, e ∉ pg.seatIndex

/-- The tables with the rows of a create transaction. -/
def Postgres.created (pg : Postgres) (orderIn : OrderCreate) (idempotencyKey : Option String)
    (plan : OrderPlan) (draw : Draw) : Postgres :=
  let order := newOrder orderIn idempotencyKey plan draw
  { pg with
    orders := pg.orders ++ [order.stored]
    tickets := pg.tickets ++ (plan.tickets draw.orderId).map Ticket.stored
    outbox := pg.outbox ++
      [seatHeldEvent order (plan.tickets draw.orderId) (draw.now + holdWindow)] }

/-- The transaction commits exactly when the server accepts all of its rows. -/
theorem createTx_ok_iff {pg pg' : Postgres} {orderIn : OrderCreate} {idempotencyKey : Option String}
    {plan : OrderPlan} {draw : Draw} :
    createTx pg orderIn idempotencyKey plan draw = .ok pg' ↔
      pg.Insertable (newOrder orderIn idempotencyKey plan draw) (plan.tickets draw.orderId) ∧
      pg' = pg.created orderIn idempotencyKey plan draw := by
  unfold createTx
  rw [bind_ok_iff]
  constructor
  · rintro ⟨withOrder, orderIn, rest⟩
    obtain ⟨withTickets, ticketsIn, same⟩ := bind_ok_iff.mp rest
    obtain ⟨orderFits, totalNonneg, keyFree, userKnown, rfl⟩ :=
      Postgres.insertOrder_ok_iff.mp orderIn
    obtain ⟨ticketsFit, seatsDistinct, seatsFree, rfl⟩ := Postgres.insertTickets_ok_iff.mp ticketsIn
    cases same
    exact ⟨⟨orderFits, totalNonneg, keyFree, userKnown, ticketsFit, seatsDistinct, seatsFree⟩, rfl⟩
  · rintro ⟨rows, rfl⟩
    refine ⟨_, Postgres.insertOrder_ok_iff.mpr
      ⟨rows.orderFits, rows.totalNonneg, rows.keyFree, rows.userKnown, rfl⟩, bind_ok_iff.mpr
      ⟨_, Postgres.insertTickets_ok_iff.mpr
        ⟨rows.ticketsFit, rows.seatsDistinct, rows.seatsFree, rfl⟩, rfl⟩⟩

/-- A transaction whose key is in the table already fails at its first statement. -/
theorem createTx_taken {pg : Postgres} {orderIn : OrderCreate} {key : String} {plan : OrderPlan}
    {draw : Draw} (fits : (newOrder orderIn (some key) plan draw).FitsColumns)
    (nonneg : 0 ≤ numeric plan.totalAmount)
    (taken : some key ∈ pg.orders.map Order.idempotencyKey) :
    createTx pg orderIn (some key) plan draw = .error keyViolation := by
  have refused : pg.insertOrder (newOrder orderIn (some key) plan draw) = .error keyViolation :=
    Postgres.insertOrder_taken fits nonneg rfl taken
  unfold createTx
  dsimp only
  rw [refused]
  rfl

/-- The tickets of a plan are tickets of its order. -/
theorem OrderPlan.tickets_orderId (plan : OrderPlan) (orderId : ℕ) :
    ∀ t ∈ plan.tickets orderId, t.orderId = orderId := by
  intro t mem
  obtain ⟨v, -, rfl⟩ := List.mem_map.mp mem
  rfl

theorem OrderPlan.filter_tickets (plan : OrderPlan) (orderId : ℕ) :
    ((plan.tickets orderId).map Ticket.stored).filter (fun t => t.orderId = orderId) =
      (plan.tickets orderId).map Ticket.stored := by
  rw [List.filter_eq_self]
  intro t mem
  obtain ⟨t, inserted, rfl⟩ := List.mem_map.mp mem
  simp [plan.tickets_orderId _ t inserted]

/-! ## Exception handlers -/

/-- `if idempotency_key` -/
def truthyKey (idempotencyKey : Option String) : Option String :=
  idempotencyKey.filter (· ≠ "")

/-- The IntegrityError handler looks for the order that won the race for the key. -/
def racedKey (idempotencyKey : Option String) (exc : DbExc) : Option String :=
  if exc.mentionsKey then truthyKey idempotencyKey else none

/-- The answers at the end of the IntegrityError handler. -/
def integrityResponse (orderIn : OrderCreate) (exc : DbExc) : HttpException :=
  if exc.pgcode = some foreignKeyViolation ∧ contains "user_id" exc.constraint = true then
    ⟨404, .userMissing orderIn.userId, none⟩
  else if contains seatUniqueConstraint exc.constraint = true then ⟨409, .doubleBooking, none⟩
  else ⟨500, .dataIntegrity, none⟩

/-- The answer of the handler for every other exception. -/
def failureResponse (exc : DbExc) : HttpException :=
  (classifyDbError exc).getD ⟨500, .transactionFailed, none⟩

end TicketBooking
