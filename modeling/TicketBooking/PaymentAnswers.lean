import TicketBooking.LifeCycle

/-!
# What the answer to a payment means

What a client may conclude from the answer of `process_order_payment`, in every later state: a
receipt means that the order is confirmed, 410 that it is expired, and a payment of the stored total
for an order that exists is answered neither 400 nor 404.

* `Order.Later` and `Ticket.stub` are what is left of a row that a client has read.
* `PayAnswer` lists the error answers with their causes; `PayCall.step_error` finds the cause.
* `PayCall.Told` is what an answer means, `PayCall.Fair` a payment that asks for the right thing;
  `pay_serves` keeps both over the steps of the running system.
-/

namespace TicketBooking

open Fallible ListUpdate StepSystem

/-! ## Rows that were read -/

/-- The same order at a later time. -/
structure Order.Later (o o' : Order) : Prop where
  id : o'.id = o.id
  orderNumber : o'.orderNumber = o.orderNumber
  totalAmount : o'.totalAmount = o.totalAmount
  final : o.status ≠ .pending → o' = o

theorem Order.Later.rfl {o : Order} : o.Later o :=
  ⟨Eq.refl _, Eq.refl _, Eq.refl _, fun _ => Eq.refl _⟩

theorem Order.Later.trans {o o' o'' : Order} (first : o.Later o') (second : o'.Later o'') :
    o.Later o'' where
  id := second.id.trans first.id
  orderNumber := second.orderNumber.trans first.orderNumber
  totalAmount := second.totalAmount.trans first.totalAmount
  final final := by
    have same := first.final final
    rw [second.final (same ▸ final), same]

/-- What a ticket says at the gate. -/
def Ticket.stub (t : Ticket) : Ticket := { t with status := .valid }

theorem Ticket.fromHeld_stub (orderIds : List ℕ) (status : TicketStatus) (t : Ticket) :
    (t.fromHeld orderIds status).stub = t.stub := by
  unfold fromHeld
  split <;> rfl

/-- The order is in the table with this status. -/
def Postgres.HasStatus (pg : Postgres) (orderId : ℕ) (status : OrderStatus) : Prop :=
  ∃ o ∈ pg.orders, o.id = orderId ∧ o.status = status

/-- The order and its tickets, as they were read at some earlier time. -/
def Postgres.Shows (pg : Postgres) (o : Order) (tickets : List Ticket) : Prop :=
  ∃ o' ∈ pg.orders, o.Later o' ∧ tickets.map Ticket.stub = (pg.ticketsOf o.id).map Ticket.stub

/-- The payment is for an order in the table, and for its total. -/
def PayCall.Fair (pg : Postgres) (c : PayCall) : Prop :=
  ∃ o ∈ pg.orders, o.id = c.orderId ∧ o.totalAmount = c.paymentIn.amount

/-- What the answer of the call means. -/
structure PayCall.Told (pg : Postgres) (c : PayCall) : Prop where
  locked : ∀ order, c.pc = .locked order → order.id = c.orderId
  releasing : ∀ release, c.pc = .releasing release → pg.HasStatus c.orderId .expired
  paid : ∀ p, c.pc = .done (.ok p) → pg.HasStatus c.orderId .confirmed
  gone : ∀ answer, c.pc = .done (.error answer) → answer.statusCode = 410 →
    pg.HasStatus c.orderId .expired
  /-- No order of the booking flow is ever cancelled. -/
  conflict : ∀ answer, c.pc = .done (.error answer) → answer.statusCode = 409 →
    answer.detail = .conflict ∨ ∃ orderNumber, answer.detail = .alreadyPaid orderNumber

section Orders

variable {lower : String → String} {catalog : Catalog} {pg pg' : Postgres} {o : Order}

/-- An order after a COMMIT. -/
theorem Commit.order_later (committed : Commit lower catalog pg pg') (ids : pg.IdsDrawn)
    (stored : o ∈ pg.orders) : ∃ o' ∈ pg'.orders, o.Later o' := by
  cases committed with
  | nothing | drawn => exact ⟨o, stored, .rfl⟩
  | created => exact ⟨o, List.mem_append_left _ stored, .rfl⟩
  | @expired rows reason distinct pending =>
    refine ⟨o.expire (rows.map Prod.fst), List.mem_map_of_mem stored, o.expire_id _, ?_, ?_, ?_⟩
    · unfold Order.expire
      split <;> rfl
    · unfold Order.expire
      split <;> rfl
    · intro final
      refine if_neg fun mem => ?_
      obtain ⟨row, inRows, same⟩ := List.mem_map.mp mem
      obtain ⟨o', stored', same', status⟩ := pending row inRows
      rw [eq_of_key_eq ids.1 stored' stored (same'.trans same)] at status
      exact final status
  | @confirmed order payment event inTable pending =>
    refine ⟨o.confirm order.id, List.mem_map_of_mem stored, o.confirm_id _, ?_, ?_, ?_⟩
    · unfold Order.confirm
      split <;> rfl
    · unfold Order.confirm
      split <;> rfl
    · intro final
      refine if_neg fun same => ?_
      rw [eq_of_key_eq ids.1 inTable stored same.symm] at pending
      exact final pending

/-- The tickets of an order after a COMMIT differ in their status only. -/
theorem Commit.stubs_later (committed : Commit lower catalog pg pg') (ids : pg.IdsDrawn)
    (stored : o ∈ pg.orders) :
    (pg'.ticketsOf o.id).map Ticket.stub = (pg.ticketsOf o.id).map Ticket.stub := by
  have released : ∀ orderIds status,
      ((pg.tickets.map (Ticket.fromHeld orderIds status)).filter fun t =>
        t.orderId = o.id).map Ticket.stub = (pg.ticketsOf o.id).map Ticket.stub := by
    intro orderIds status
    rw [filter_key_map (fun t => t.fromHeld_orderId _ _), List.map_map]
    exact List.map_congr_left fun t _ => t.fromHeld_stub orderIds status
  cases committed with
  | nothing | drawn => rfl
  | @created orderIn key plan draw planned fresh rows =>
    have other : o.id ≠ draw.orderId := fun same => fresh (same ▸ ids.2 o stored)
    exact congrArg (fun rows => rows.tickets.map Ticket.stub)
      (rowsOf_created_other (pg.drawOrderId draw.orderId) orderIn key plan draw other)
  | expired => exact released _ _
  | confirmed => exact released _ _

/-- What was read of a final order is so. -/
theorem Postgres.Shows.stored {tickets : List Ticket} (shows : pg.Shows o tickets)
    (final : o.status ≠ .pending) : o ∈ pg.orders := by
  obtain ⟨o', stored, later, -⟩ := shows
  exact later.final final ▸ stored

/-- What was read stays true. -/
theorem Postgres.Shows.later (committed : Commit lower catalog pg pg') (ids : pg.IdsDrawn)
    {tickets : List Ticket} (shows : pg.Shows o tickets) : pg'.Shows o tickets := by
  obtain ⟨o', stored, later, stubs⟩ := shows
  obtain ⟨o'', stored', later'⟩ := committed.order_later ids stored
  refine ⟨o'', stored', later.trans later', stubs.trans ?_⟩
  rw [← later.id]
  exact (committed.stubs_later ids stored).symm

/-- A final status stays. -/
theorem Postgres.HasStatus.later (committed : Commit lower catalog pg pg') (ids : pg.IdsDrawn)
    {orderId : ℕ} {status : OrderStatus} (final : status ≠ .pending)
    (has : pg.HasStatus orderId status) : pg'.HasStatus orderId status := by
  obtain ⟨o, stored, same, rfl⟩ := has
  obtain ⟨o', stored', later⟩ := committed.order_later ids stored
  exact ⟨o, later.final final ▸ stored', same, rfl⟩

theorem PayCall.Fair.later {c c' : PayCall} (committed : Commit lower catalog pg pg')
    (ids : pg.IdsDrawn) (sameOrder : c'.orderId = c.orderId)
    (samePayment : c'.paymentIn = c.paymentIn) (fair : c.Fair pg) : c'.Fair pg' := by
  obtain ⟨o, stored, same, total⟩ := fair
  obtain ⟨o', stored', later⟩ := committed.order_later ids stored
  exact ⟨o', stored', by rw [later.id, same, sameOrder],
    by rw [later.totalAmount, total, samePayment]⟩

theorem PayCall.Told.later {c : PayCall} (committed : Commit lower catalog pg pg')
    (ids : pg.IdsDrawn) (told : c.Told pg) : c.Told pg' where
  locked := told.locked
  releasing release at_pc := (told.releasing release at_pc).later committed ids (by decide)
  paid p at_pc := (told.paid p at_pc).later committed ids (by decide)
  gone answer at_pc code := (told.gone answer at_pc code).later committed ids (by decide)
  conflict := told.conflict

end Orders

/-! ## The causes of an error -/

/-- Why a payment is answered with an error. -/
inductive PayAnswer (dbs : Databases) (c : PayCall) : HttpException → Prop
  | escaped (exc : DbExc) : PayAnswer dbs c (escapedAnswer exc)
  | missing (at_pc : c.pc = .lock) (absent : dbs.pg.findOrder c.orderId = none) :
    PayAnswer dbs c ⟨404, .orderNotFound c.orderId, none⟩
  | refused {order : Order} {now : ℤ} {answer : HttpException} (at_pc : c.pc = .locked order)
    (decided : paymentDecision order now c.paymentIn.amount = .refuse answer) :
    PayAnswer dbs c answer
  | unconfirmed {order : Order} {exc : DbExc} (at_pc : c.pc = .locked order) :
    PayAnswer dbs c (confirmFailure order exc)
  | released {release : SeatRelease} (at_pc : c.pc = .releasing release) :
    PayAnswer dbs c holdExpired

section Step

variable {dbs dbs' : Databases} {lockedElsewhere : List ℕ} {fault : Fault} {draw : Draw}
  {c c' : PayCall}

theorem PayCall.step_error
    (moved : c.step dbs lockedElsewhere fault draw = some (dbs', c')) {answer : HttpException}
    (ended : c'.pc = .done (.error answer)) : PayAnswer dbs c answer := by
  unfold step at moved
  split at moved
  case h_1 at_pc =>
    split at moved
    case h_1 =>
      cases moved
      cases ended
      exact .escaped _
    case h_2 =>
      split at moved
      case h_1 absent =>
        cases moved
        cases ended
        exact .missing at_pc absent
      case h_2 =>
        split at moved
        · cases moved
        · cases moved
          cases ended
  case h_2 order at_pc =>
    split at moved
    case h_1 decided =>
      cases moved
      cases ended
      exact .refused at_pc decided
    case h_2 =>
      split at moved
      · cases moved
        cases ended
      · cases moved
        cases ended
        exact .escaped _
    case h_3 =>
      split at moved
      · cases moved
        cases ended
      · cases moved
        cases ended
        exact .unconfirmed at_pc
  case h_3 at_pc =>
    cases moved
    cases ended
    exact .released at_pc
  case h_4 =>
    cases moved
    cases ended
  case h_5 => cases moved
  case h_6 => cases moved

/-- What a step leaves of the request. -/
theorem PayStep.keeps_request (moved : PayStep dbs lockedElsewhere fault draw c dbs' c') :
    c'.orderId = c.orderId ∧ c'.paymentIn = c.paymentIn := by
  cases moved <;> exact ⟨rfl, rfl⟩

theorem escapedAnswer_conflict {exc : DbExc} (code : (escapedAnswer exc).statusCode = 409) :
    (escapedAnswer exc).detail = .conflict := by
  unfold escapedAnswer classifyDbError at *
  split
  · rfl
  · split at code
    · contradiction
    · split at code <;> cases code

/-- What a refusal tells of the order. -/
theorem paymentDecision_refuse {order : Order} {now : ℤ} {amount : ℚ} {answer : HttpException}
    (decided : paymentDecision order now amount = .refuse answer) :
    (answer.statusCode = 410 → order.status = .expired) ∧
    (answer.statusCode = 409 → order.status = .cancelled ∨
      ∃ orderNumber, answer.detail = .alreadyPaid orderNumber) ∧
    answer.statusCode ≠ 404 ∧ (answer.statusCode = 400 → amount ≠ order.totalAmount) := by
  unfold paymentDecision at decided
  split at decided
  case h_1 status | h_2 status | h_3 status | h_4 status =>
    cases decided
    simp [status]
  case h_5 status =>
    split at decided
    · cases decided
    · split at decided
      case isTrue mismatch =>
        cases decided
        simp [mismatch]
      case isFalse => cases decided

theorem confirmFailure_cases (order : Order) (exc : DbExc) :
    confirmFailure order exc = ⟨409, .alreadyPaid order.orderNumber, none⟩ ∨
      confirmFailure order exc = escapedAnswer exc := by
  unfold confirmFailure
  split
  · exact .inl rfl
  · exact .inr rfl

/-- No order of the booking flow is cancelled, or merely paid. -/
theorem Postgres.LifeCycle.statuses {pg : Postgres} (cycle : pg.LifeCycle) {o : Order}
    (stored : o ∈ pg.orders) : o.status ∈ [.pending, .confirmed, .expired] := by
  obtain ⟨phase, shape, -⟩ := (cycle.shape stored).1
  have status := shape.status
  cases phase <;> simp [status]

section Told

variable {lower : String → String} {catalog : Catalog}

/-- **What a step says is true.** -/
theorem PayCall.Told.step (told : c.Told dbs.pg) (cycle : dbs.pg.LifeCycle)
    (current : ∀ order, c.pc = .locked order → order ∈ dbs.pg.orders)
    (committed : Commit lower catalog dbs.pg dbs'.pg)
    (moved : c.step dbs lockedElsewhere fault draw = some (dbs', c')) : c'.Told dbs'.pg := by
  have stepped := PayCall.step_cases moved
  obtain ⟨sameOrder, -⟩ := stepped.keeps_request
  have later : ∀ {status}, status ≠ .pending → dbs.pg.HasStatus c.orderId status →
      dbs'.pg.HasStatus c'.orderId status := fun final has =>
    sameOrder ▸ has.later committed cycle.ids final
  constructor
  · intro order at_pc
    cases stepped with
    | locks at_lock found =>
      cases at_pc
      have same : order.id = c.orderId := by simpa using List.find?_some found
      exact same
    | refused | expired | expiredReplyLost | confirmed | releases | released => cases at_pc
  · intro release at_pc
    cases stepped with
    | @expired order at_locked =>
      refine ⟨order.expire [order.id], List.mem_map_of_mem (current order at_locked), ?_, ?_⟩
      · exact (order.expire_id _).trans (told.locked order at_locked)
      · rw [Order.expire, if_pos (List.mem_singleton_self _)]
    | releases at_releasing => exact later (by decide) (told.releasing _ at_releasing)
    | locks | refused | expiredReplyLost | confirmed | released => cases at_pc
  · intro p at_pc
    cases stepped with
    | @confirmed order pg' outcome at_locked decided statements =>
      obtain ⟨-, -, event, -, -, rfl⟩ := confirmTx_ok statements
      refine ⟨order.confirm order.id, List.mem_map_of_mem (current order at_locked), ?_, ?_⟩
      · exact (order.confirm_id _).trans (told.locked order at_locked)
      · rw [Order.confirm, if_pos rfl]
    | locks | refused | expired | expiredReplyLost | releases | released => cases at_pc
  · intro answer at_pc code
    cases PayCall.step_error moved at_pc with
    | escaped exc =>
      have codes := escapedAnswer_statusCode exc
      rw [code] at codes
      simp at codes
    | missing => cases code
    | @refused order _ _ at_locked decided =>
      refine later (by decide) ⟨order, current order at_locked, told.locked order at_locked, ?_⟩
      exact (paymentDecision_refuse decided).1 code
    | @unconfirmed order exc at_locked =>
      rcases confirmFailure_cases order exc with same | same
      · rw [same] at code
        cases code
      · have codes := escapedAnswer_statusCode exc
        rw [← same, code] at codes
        simp at codes
    | released at_releasing => exact later (by decide) (told.releasing _ at_releasing)
  · intro answer at_pc code
    cases PayCall.step_error moved at_pc with
    | escaped exc => exact .inl (escapedAnswer_conflict code)
    | missing => cases code
    | @refused order _ _ at_locked decided =>
      rcases (paymentDecision_refuse decided).2.1 code with cancelled | paid
      · have statuses := cycle.statuses (current order at_locked)
        simp [cancelled] at statuses
      · exact .inr paid
    | @unconfirmed order exc at_locked =>
      rcases confirmFailure_cases order exc with same | same
      · exact .inr ⟨order.orderNumber, by rw [same]⟩
      · rw [same] at code ⊢
        exact .inl (escapedAnswer_conflict code)
    | released => cases code

/-- A fair payment is answered neither 400 nor 404. -/
theorem PayCall.Fair.step (fair : c.Fair dbs.pg) (told : c.Told dbs.pg) (ids : dbs.pg.IdsDrawn)
    (current : ∀ order, c.pc = .locked order → order ∈ dbs.pg.orders)
    (moved : c.step dbs lockedElsewhere fault draw = some (dbs', c')) {answer : HttpException}
    (ended : c'.pc = .done (.error answer)) :
    answer.statusCode ≠ 400 ∧ answer.statusCode ≠ 404 := by
  obtain ⟨o, stored, same, total⟩ := fair
  have escapes : ∀ exc, (escapedAnswer exc).statusCode ≠ 400 ∧
      (escapedAnswer exc).statusCode ≠ 404 := by
    intro exc
    have codes := escapedAnswer_statusCode exc
    constructor
    all_goals
      intro code
      rw [code] at codes
      simp at codes
  cases PayCall.step_error moved ended with
  | escaped exc => exact escapes exc
  | missing at_lock absent =>
    have found := List.find?_eq_none.mp absent o stored
    simp [same] at found
  | @refused order _ _ at_locked decided =>
    obtain ⟨-, -, notMissing, mismatch⟩ := paymentDecision_refuse decided
    refine ⟨fun code => mismatch code ?_, notMissing⟩
    rw [← total, eq_of_key_eq ids.1 (current order at_locked) stored
      ((told.locked order at_locked).trans same.symm)]
  | @unconfirmed order exc at_locked =>
    rcases confirmFailure_cases order exc with same | same
    · simp [same]
    · rw [same]
      exact escapes exc
  | released => exact ⟨by decide, by decide⟩

end Told

end Step

/-! ## Over runs -/

/-- A fair payment, whatever has been answered. -/
structure PayCall.Serves (pg : Postgres) (c : PayCall) : Prop where
  told : c.Told pg
  fair : c.Fair pg
  accepted : ∀ answer, c.pc = .done (.error answer) →
    answer.statusCode ≠ 400 ∧ answer.statusCode ≠ 404

theorem PayCall.Serves.start {pg : Postgres} {orderId : ℕ} {paymentIn : PaymentCreate}
    (fair : (PayCall.start orderId paymentIn).Fair pg) :
    (PayCall.start orderId paymentIn).Serves pg where
  told := by
    constructor
    all_goals
      intro _ at_pc
      cases at_pc
  fair := fair
  accepted _ at_pc := by cases at_pc

section Runs

variable {cfg : Config} {ok : State → Action → Prop} {start s s' : State} {a : Action} {i : ℕ}
  {c : PayCall}

/-- What happens to a payment in a step of the system. -/
theorem pay_later (moved : step cfg s a = some s') (at_i : s.calls[i]? = some (.pay c)) :
    ∃ c', s'.calls[i]? = some (.pay c') ∧ (s'.dbs = s.dbs ∧ c' = c.goto .crashed ∨
      c' = c ∨ ∃ lockedElsewhere fault draw,
        c.step s.dbs lockedElsewhere fault draw = some (s'.dbs, c')) := by
  cases a with
  | spawn request =>
    cases moved
    have inside := (List.getElem?_eq_some_iff.mp at_i).1
    exact ⟨c, by rw [List.getElem?_append_left inside, at_i], .inr (.inl rfl)⟩
  | step j fault draw =>
    obtain ⟨⟨dbs', call'⟩, bound, rfl⟩ := Option.map_eq_some_iff.mp moved
    obtain ⟨call, at_j, stepped⟩ := Option.bind_eq_some_iff.mp bound
    by_cases same : j = i
    · subst same
      cases at_j.symm.trans at_i
      obtain ⟨⟨dbs'', c'⟩, paying, same⟩ := Option.map_eq_some_iff.mp stepped
      cases same
      exact ⟨c', getElem?_set_self _ at_i, .inr (.inr ⟨_, _, _, paying⟩)⟩
    · exact ⟨c, by rw [List.getElem?_set_ne same, at_i], .inr (.inl rfl)⟩
  | crash j =>
    obtain ⟨call, filtered, rfl⟩ := Option.map_eq_some_iff.mp moved
    obtain ⟨at_j, -⟩ := Option.filter_eq_some_iff.mp filtered
    by_cases same : j = i
    · subst same
      cases at_j.symm.trans at_i
      exact ⟨_, getElem?_set_self _ at_i, .inl ⟨rfl, rfl⟩⟩
    · exact ⟨c, by rw [List.getElem?_set_ne same, at_i], .inr (.inl rfl)⟩

/-- **A fair payment stays one, and what it is told is true.** -/
theorem pay_serves (fresh : start.Fresh) (reached : Reachable (step cfg) ok start s)
    (moved : step cfg s a = some s') (at_i : s.calls[i]? = some (.pay c))
    (serves : c.Serves s.dbs.pg) : ∃ c', s'.calls[i]? = some (.pay c') ∧
      c'.orderId = c.orderId ∧ c'.paymentIn = c.paymentIn ∧ c'.Serves s'.dbs.pg := by
  have cycle := lifeCycle_of_reachable fresh reached
  have committed := commit_of_step reached fresh.1 fresh.idsDrawn moved
  have current := (rowsLocked_of_reachable reached fresh.1 fresh.idsDrawn).current i _ at_i
  obtain ⟨c', at_i', ⟨same, rfl⟩ | rfl | ⟨lockedElsewhere, fault, draw, stepped⟩⟩ :=
    pay_later moved at_i
  · refine ⟨_, at_i', rfl, rfl, ⟨?_, same ▸ serves.fair, ?_⟩⟩
    · constructor
      all_goals
        intro _ at_pc
        cases at_pc
    · intro _ at_pc
      cases at_pc
  · exact ⟨c', at_i', rfl, rfl, serves.told.later committed cycle.ids,
      serves.fair.later committed cycle.ids rfl rfl, serves.accepted⟩
  · obtain ⟨sameOrder, samePayment⟩ := (PayCall.step_cases stepped).keeps_request
    refine ⟨c', at_i', sameOrder, samePayment, ?_, ?_, ?_⟩
    · exact serves.told.step cycle current committed stepped
    · exact serves.fair.later committed cycle.ids sameOrder samePayment
    · intro answer ended
      exact serves.fair.step serves.told cycle.ids current stepped ended

end Runs

end TicketBooking
