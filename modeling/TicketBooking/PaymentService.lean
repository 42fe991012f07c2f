import TicketBooking.CreateCall

/-!
# Paying an order

`process_order_payment` (`app/services/payment_service.py`) as a machine: it locks the order row,
decides on the locked row, commits one transaction, and releases the seats of an expired hold.
`PayStep` lists everything a step can do.

`db.refresh(payment)` after the COMMIT reads what was just written; its failure is the same to the
client as a lost reply of the COMMIT, and is modelled as one.
-/

namespace TicketBooking

open Fallible

def completedPaymentConstraint : String := "uq_payments_order_completed"

/-! ## Deciding on the locked row -/

inductive PaymentDecision
  | refuse (answer : HttpException)
  | expire
  | confirm
deriving DecidableEq

def paymentDecision (order : Order) (now : ℤ) (amount : ℚ) : PaymentDecision :=
  match order.status with
  | .paid => .refuse ⟨409, .alreadyPaid order.orderNumber, none⟩
  | .confirmed => .refuse ⟨409, .alreadyPaid order.orderNumber, none⟩
  | .expired => .refuse ⟨410, .orderExpired order.orderNumber, none⟩
  | .cancelled => .refuse ⟨409, .orderCancelled order.orderNumber, none⟩
  | .pending =>
    if order.expiresAt.any (· < now) then .expire
    else if amount ≠ order.totalAmount then
      .refuse ⟨400, .amountMismatch amount order.totalAmount, none⟩
    else .confirm

/-- Only pending orders are expired or confirmed. -/
theorem paymentDecision_pending {order : Order} {now : ℤ} {amount : ℚ}
    (decided : paymentDecision order now amount = .expire ∨
      paymentDecision order now amount = .confirm) : order.status = .pending := by
  unfold paymentDecision at decided
  split at decided
  case h_5 status => exact status
  all_goals simp at decided

/-- A payment confirms a pending order in time, with the stored total. -/
theorem paymentDecision_confirm {order : Order} {now : ℤ} {amount : ℚ} :
    paymentDecision order now amount = .confirm ↔
      order.status = .pending ∧ order.expiresAt.any (· < now) = false ∧
        amount = order.totalAmount := by
  unfold paymentDecision
  split
  case h_5 status =>
    split
    case isTrue overdue => simp [overdue]
    case isFalse inTime =>
      split
      case isTrue mismatch => simp [mismatch]
      case isFalse same => simpa [status, inTime] using same
  all_goals simp_all

/-! ## The transactions -/

/-- The row a payment inserts. -/
def newPayment (order : Order) (paymentIn : PaymentCreate) (draw : Draw) : Payment where
  orderId := order.id
  paymentReference := draw.paymentReference
  amount := order.totalAmount
  provider := paymentIn.provider
  status := .completed
  -- `payment_in.provider_tx_id or f"TX-..."`
  providerTxId := ((paymentIn.providerTxId).filter (· ≠ "")).getD draw.generatedTx

/-- The row fits when the reference of the body does. -/
theorem newPayment_fits_iff {order : Order} {paymentIn : PaymentCreate} {draw : Draw} :
    (newPayment order paymentIn draw).FitsColumns ↔
      FitsVarchar 128 (paymentIn.providerTxId.getD "") := by
  have empty : FitsVarchar 128 "" := by decide
  simp only [Payment.FitsColumns, newPayment]
  cases paymentIn.providerTxId with
  | none => exact iff_of_true draw.generatedTx_fits empty
  | some reference =>
    by_cases blank : reference = ""
    · rw [blank]
      exact iff_of_true draw.generatedTx_fits empty
    · rw [Option.filter_some_pos (by simpa using blank)]
      rfl

def orderPaidEvent (order : Order) (paymentReference : String)
    (ticketsCount : ℕ) : OutboxEvent where
  eventType := .orderPaid
  aggregateId := order.id
  payload := .orderPaid order.id order.orderNumber paymentReference order.totalAmount ticketsCount

/-- INSERT payment, UPDATE order, UPDATE tickets, INSERT outbox event. -/
def confirmTx (pg : Postgres) (order : Order) (paymentIn : PaymentCreate) (draw : Draw) :
    Except DbExc Postgres := do
  let withPayment ← pg.insertPayment (newPayment order paymentIn draw)
  let ticketsCount := ((pg.ticketsOf order.id).filter fun t => t.status = .held).length
  return withPayment.confirmOrder order.id
    (orderPaidEvent order draw.paymentReference ticketsCount)

theorem confirmTx_ok {pg pg' : Postgres} {order : Order} {paymentIn : PaymentCreate} {draw : Draw}
    (confirmed : confirmTx pg order paymentIn draw = .ok pg') :
    FitsVarchar 128 (paymentIn.providerTxId.getD "") ∧
    (∀ q ∈ pg.payments, q.status = .completed → q.orderId ≠ order.id) ∧
      ∃ event, event.eventType = .orderPaid ∧ event.aggregateId = order.id ∧
        pg' = ({ pg with payments := pg.payments ++
          [{ newPayment order paymentIn draw with amount := numeric order.totalAmount }] } :
            Postgres).confirmOrder order.id event := by
  obtain ⟨withPayment, inserted, same⟩ := bind_ok_iff.mp confirmed
  obtain ⟨fits, unpaid, rfl⟩ := Postgres.insertPayment_ok inserted rfl
  cases same
  exact ⟨newPayment_fits_iff.mp fits, unpaid, _, rfl, rfl, rfl⟩

/-- Nothing but the reference of the body can refuse the confirmation of an unpaid order. -/
theorem confirmTx_of_unpaid {pg : Postgres} {order : Order}
    (unpaid : ∀ q ∈ pg.payments, q.orderId ≠ order.id) {paymentIn : PaymentCreate}
    (fits : FitsVarchar 128 (paymentIn.providerTxId.getD "")) (draw : Draw) :
    ∃ event, confirmTx pg order paymentIn draw = .ok (({ pg with payments := pg.payments ++
      [{ newPayment order paymentIn draw with amount := numeric order.totalAmount }] } :
        Postgres).confirmOrder order.id event) := by
  have free : ¬ ((newPayment order paymentIn draw).status = .completed ∧
      (newPayment order paymentIn draw).orderId ∈
        (pg.payments.filter fun q => q.status = .completed).map Payment.orderId) := by
    rintro ⟨-, taken⟩
    obtain ⟨q, mem, same⟩ := List.mem_map.mp taken
    exact unpaid q (List.mem_filter.mp mem).1 same
  refine ⟨_, bind_ok_iff.mpr ⟨_, ?_, rfl⟩⟩
  rw [Postgres.insertPayment, if_neg (not_not.mpr (newPayment_fits_iff.mpr fits)), if_neg free]
  rfl

/-- Expire one order: the UPDATEs and the outbox event of a late payment. -/
def timeoutTx (pg : Postgres) (order : Order) : Postgres :=
  pg.expireHolds [(order.id, order.orderNumber)] "timeout"

/-- The answer when the COMMIT of a confirmation raises. -/
def confirmFailure (order : Order) (exc : DbExc) : HttpException :=
  if exc.kind = .integrity ∧ contains completedPaymentConstraint exc.constraint = true then
    ⟨409, .alreadyPaid order.orderNumber, none⟩
  else escapedAnswer exc

/-! ## The machine -/

inductive PayPc
  | lock
  /-- The row is locked FOR UPDATE; `order` is what was read. -/
  | locked (order : Order)
  | releasing (release : SeatRelease)
  | done (outcome : Except HttpException Payment)
  | crashed
deriving DecidableEq

structure PayCall where
  orderId : ℕ
  paymentIn : PaymentCreate
  pc : PayPc
deriving DecidableEq

def PayCall.start (orderId : ℕ) (paymentIn : PaymentCreate) : PayCall :=
  ⟨orderId, paymentIn, .lock⟩

def PayCall.goto (c : PayCall) (pc : PayPc) : PayCall := { c with pc := pc }

@[simp] theorem PayCall.goto_pc (c : PayCall) (pc : PayPc) : (c.goto pc).pc = pc := rfl

def holdExpired : HttpException := ⟨410, .holdExpired, none⟩

/-- The next database access of the call.  `lockedElsewhere` are the order rows other transactions
hold: FOR UPDATE waits for them. -/
def PayCall.step (dbs : Databases) (lockedElsewhere : List ℕ) (fault : Fault) (draw : Draw)
    (c : PayCall) : Option (Databases × PayCall) :=
  match c.pc with
  | .lock =>
    match fault with
    -- also a lock_timeout while it waits
    | .pgRaised exc _ => some (dbs, c.goto (.done (.error (escapedAnswer exc))))
    | _ =>
      match dbs.pg.findOrder c.orderId with
      | none => some (dbs, c.goto (.done (.error ⟨404, .orderNotFound c.orderId, none⟩)))
      | some order =>
        if order.id ∈ lockedElsewhere then none else some (dbs, c.goto (.locked order))
  | .locked order =>
    match paymentDecision order draw.now c.paymentIn.amount with
    | .refuse answer => some (dbs, c.goto (.done (.error answer)))
    | .expire =>
      match dbs.pg.transact fault (.ok (timeoutTx dbs.pg order)) with
      | (pg', none) =>
        some (⟨pg', dbs.mongo⟩, c.goto (.releasing (.start (dbs.pg.heldGroups [order.id]))))
      | (pg', some exc) => some (⟨pg', dbs.mongo⟩, c.goto (.done (.error (escapedAnswer exc))))
    | .confirm =>
      match dbs.pg.transact fault (confirmTx dbs.pg order c.paymentIn draw) with
      | (pg', none) =>
        some (⟨pg', dbs.mongo⟩, c.goto (.done (.ok (newPayment order c.paymentIn draw))))
      | (pg', some exc) =>
        some (⟨pg', dbs.mongo⟩, c.goto (.done (.error (confirmFailure order exc))))
  | .releasing ⟨_, []⟩ => some (dbs, c.goto (.done (.error holdExpired)))
  | .releasing ⟨oneByOne, g :: rest⟩ =>
    let (mongo, release) := releaseStep dbs.mongo fault oneByOne g rest
    some (⟨dbs.pg, mongo⟩, c.goto (.releasing release))
  | .done _ => none
  | .crashed => none

/-- Everything a step of a payment can do. -/
inductive PayStep (dbs : Databases) (lockedElsewhere : List ℕ) (fault : Fault) (draw : Draw)
    (c : PayCall) : Databases → PayCall → Prop
  | locks {order : Order} (at_pc : c.pc = .lock) (found : dbs.pg.findOrder c.orderId = some order)
    (free : order.id ∉ lockedElsewhere) :
    PayStep dbs lockedElsewhere fault draw c dbs (c.goto (.locked order))
  /-- It ends with an error and PostgreSQL is as it was. -/
  | refused {answer : HttpException} (notReleasing : ∀ r, c.pc ≠ .releasing r) :
    PayStep dbs lockedElsewhere fault draw c dbs (c.goto (.done (.error answer)))
  | expired {order : Order} (at_pc : c.pc = .locked order)
    (decided : paymentDecision order draw.now c.paymentIn.amount = .expire) :
    PayStep dbs lockedElsewhere fault draw c ⟨timeoutTx dbs.pg order, dbs.mongo⟩
      (c.goto (.releasing (.start (dbs.pg.heldGroups [order.id]))))
  | expiredReplyLost {order : Order} {exc : DbExc} (at_pc : c.pc = .locked order)
    (decided : paymentDecision order draw.now c.paymentIn.amount = .expire)
    (lost : fault = .pgRaised exc true) :
    PayStep dbs lockedElsewhere fault draw c ⟨timeoutTx dbs.pg order, dbs.mongo⟩
      (c.goto (.done (.error (escapedAnswer exc))))
  | confirmed {order : Order} {pg' : Postgres} {outcome : Except HttpException Payment}
    (at_pc : c.pc = .locked order)
    (decided : paymentDecision order draw.now c.paymentIn.amount = .confirm)
    (statements : confirmTx dbs.pg order c.paymentIn draw = .ok pg')
    (told : outcome = .ok (newPayment order c.paymentIn draw) ∨ ∃ exc, fault = .pgRaised exc true) :
    PayStep dbs lockedElsewhere fault draw c ⟨pg', dbs.mongo⟩ (c.goto (.done outcome))
  | releases {oneByOne : Bool} {g : SeatGroup} {rest : List SeatGroup}
    (at_pc : c.pc = .releasing ⟨oneByOne, g :: rest⟩) :
    PayStep dbs lockedElsewhere fault draw c
      ⟨dbs.pg, (releaseStep dbs.mongo fault oneByOne g rest).1⟩
      (c.goto (.releasing (releaseStep dbs.mongo fault oneByOne g rest).2))
  | released {oneByOne : Bool} (at_pc : c.pc = .releasing ⟨oneByOne, []⟩) :
    PayStep dbs lockedElsewhere fault draw c dbs (c.goto (.done (.error holdExpired)))

/-- **Every step of a payment is one of these.** -/
theorem PayCall.step_cases {dbs dbs' : Databases} {lockedElsewhere : List ℕ} {fault : Fault}
    {draw : Draw} {c c' : PayCall}
    (moved : c.step dbs lockedElsewhere fault draw = some (dbs', c')) :
    PayStep dbs lockedElsewhere fault draw c dbs' c' := by
  unfold step at moved
  split at moved
  case h_1 at_pc =>
    have notReleasing : ∀ r, c.pc ≠ .releasing r := fun r => by rw [at_pc]; nofun
    split at moved
    case h_1 => cases moved; exact .refused notReleasing
    case h_2 =>
      split at moved
      case h_1 => cases moved; exact .refused notReleasing
      case h_2 order found =>
        split at moved
        case isTrue => cases moved
        case isFalse free => cases moved; exact .locks at_pc found free
  case h_2 order at_pc =>
    have notReleasing : ∀ r, c.pc ≠ .releasing r := fun r => by rw [at_pc]; nofun
    split at moved
    case h_1 => cases moved; exact .refused notReleasing
    case h_2 decided =>
      split at moved
      case h_1 replied =>
        cases moved
        cases (Postgres.transact_none replied).1
        exact .expired at_pc decided
      case h_2 replied =>
        cases moved
        rcases Postgres.transact_some replied with ⟨rfl, -⟩ | ⟨lost, statements⟩
        · exact .refused notReleasing
        · cases statements
          exact .expiredReplyLost at_pc decided lost
    case h_3 decided =>
      split at moved
      case h_1 replied =>
        cases moved
        exact .confirmed at_pc decided (Postgres.transact_none replied).1 (.inl rfl)
      case h_2 exc replied =>
        cases moved
        rcases Postgres.transact_some replied with ⟨rfl, -⟩ | ⟨lost, statements⟩
        · exact .refused notReleasing
        · exact .confirmed at_pc decided statements (.inr ⟨exc, lost⟩)
  case h_3 at_pc => cases moved; exact .released at_pc
  case h_4 at_pc => cases moved; exact .releases at_pc
  case h_5 => cases moved
  case h_6 => cases moved

end TicketBooking
