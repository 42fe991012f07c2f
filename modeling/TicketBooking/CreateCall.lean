import TicketBooking.OrderService
import TicketBooking.SeatRelease

/-!
# A call of `create_order_dual_db`

`CreateCall.step` is the body of `create_order_dual_db` cut at its database accesses: the look-up of
the key, the read of the catalog, one conditional update per zone, the PostgreSQL transaction, and
the compensation with one update per reserved zone.  `CreateStep` lists everything a step can do;
later proofs use it through `CreateCall.step_cases` and never unfold the step.
-/

namespace TicketBooking

inductive CreateOutcome
  /-- The new order as it is in memory: nothing is read back after COMMIT. -/
  | created (order : Order) (tickets : List Ticket)
  | replayed (order : Order) (tickets : List Ticket)
  | raised (answer : HttpException)
deriving DecidableEq

/-- Why the compensation runs: an answer that is known already, or an IntegrityError whose handler
still has work to do. -/
inductive CreateFailure
  | answer (answer : HttpException)
  | integrity (exc : DbExc)
deriving DecidableEq

inductive CreatePc
  | lookup
  | readCatalog
  /-- The reservation loop; with no zone left the transaction is next. -/
  | reserve (plan : OrderPlan) (reserved : List Reservation) (rest : List ZoneRequest)
  /-- `_release_reservations`; with no zone left the handler goes on. -/
  | release (reserved : List Reservation) (failure : CreateFailure)
  | done (outcome : CreateOutcome)
  | crashed
deriving DecidableEq

structure CreateCall where
  orderIn : OrderCreate
  idempotencyKey : Option String
  /-- The order id its transaction drew from the sequence: it names the rows of this request. -/
  attempt : Option ℕ
  pc : CreatePc
deriving DecidableEq

def CreateCall.start (orderIn : OrderCreate) (idempotencyKey : Option String) : CreateCall :=
  ⟨orderIn, idempotencyKey, none, .lookup⟩

/-- The call goes on at `pc`. -/
def CreateCall.goto (c : CreateCall) (pc : CreatePc) : CreateCall := { c with pc := pc }

@[simp] theorem CreateCall.goto_pc (c : CreateCall) (pc : CreatePc) : (c.goto pc).pc = pc := rfl
@[simp] theorem CreateCall.goto_orderIn (c : CreateCall) (pc : CreatePc) :
    (c.goto pc).orderIn = c.orderIn := rfl
@[simp] theorem CreateCall.goto_idempotencyKey (c : CreateCall) (pc : CreatePc) :
    (c.goto pc).idempotencyKey = c.idempotencyKey := rfl
@[simp] theorem CreateCall.goto_attempt (c : CreateCall) (pc : CreatePc) :
    (c.goto pc).attempt = c.attempt := rfl

/-- Both databases. -/
structure Databases where
  pg : Postgres
  mongo : Catalog
deriving DecidableEq

/-! ## PostgreSQL transactions under faults -/

/-- One transaction whose statements have the given result: the tables afterwards, and the exception
the client sees. -/
def Postgres.transact (pg : Postgres) (fault : Fault) (statements : Except DbExc Postgres) :
    Postgres × Option DbExc :=
  match statements, fault with
  | _, .pgRaised exc false => (pg, some exc)
  | .error exc, _ => (pg, some exc)
  | .ok pg', .pgRaised exc true => (pg', some exc)
  | .ok pg', _ => (pg', none)

/-- The client saw the COMMIT succeed. -/
theorem Postgres.transact_none {pg pg' : Postgres} {fault : Fault}
    {statements : Except DbExc Postgres}
    (replied : pg.transact fault statements = (pg', none)) : statements = .ok pg' ∧ fault.PgUp := by
  unfold transact at replied
  split at replied
  case h_4 pg'' _ _ notLost notAborted =>
    cases replied
    refine ⟨rfl, ?_⟩
    cases fault with
    | pgRaised exc committed => cases committed <;> simp_all
    | none | mongoRaised => trivial
  all_goals cases replied

/-- The client saw an exception: nothing is saved, or the reply of the COMMIT was lost. -/
theorem Postgres.transact_some {pg pg' : Postgres} {fault : Fault}
    {statements : Except DbExc Postgres}
    {exc : DbExc} (replied : pg.transact fault statements = (pg', some exc)) :
    (pg' = pg ∧ (fault = .pgRaised exc false ∨ statements = .error exc)) ∨
      (fault = .pgRaised exc true ∧ statements = .ok pg') := by
  unfold transact at replied
  split at replied <;> simp_all

/-- The sequence of `orders.id` hands out a value, whatever happens to the transaction. -/
def Postgres.drawOrderId (pg : Postgres) (orderId : ℕ) : Postgres :=
  { pg with orderIdsDrawn := orderId :: pg.orderIdsDrawn }

/-! ## The step function -/

/-- `wanted_oids`: without a readable id there is no catalog query. -/
def OrderCreate.wantedOids (orderIn : OrderCreate) : List ObjectId :=
  orderIn.items.filterMap fun item => ObjectId.ofString? item.eventId

/-- The handler that runs after an exception of the transaction. -/
def failureOf (exc : DbExc) : CreateFailure :=
  if exc.kind = .integrity then .integrity exc else .answer (failureResponse exc)

/-- The next database access of the call, `none` when it has ended. -/
def CreateCall.step (lower : String → String) (dbs : Databases) (fault : Fault) (draw : Draw)
    (c : CreateCall) : Option (Databases × CreateCall) :=
  match c.pc with
  | .lookup =>
    match truthyKey c.idempotencyKey with
    | none => some (dbs, c.goto .readCatalog)
    | some key =>
      match fault with
      | .pgRaised exc _ => some (dbs, c.goto (.done (.raised (escapedAnswer exc))))
      | _ =>
        match dbs.pg.findByKey key with
        | none => some (dbs, c.goto .readCatalog)
        | some existing =>
          match fingerprintAnswer lower existing (dbs.pg.ticketsOf existing.id) c.orderIn with
          | some answer => some (dbs, c.goto (.done (.raised answer)))
          | none => some (dbs, c.goto (.done (.replayed existing (dbs.pg.ticketsOf existing.id))))
  | .readCatalog =>
    match c.orderIn.wantedOids, fault with
    | _ :: _, .mongoRaised exc _ => some (dbs, c.goto (.done (.raised (escapedAnswer exc))))
    | _, _ =>
      match planOrder lower dbs.mongo c.orderIn with
      | .error answer => some (dbs, c.goto (.done (.raised answer)))
      | .ok plan => some (dbs, c.goto (.reserve plan [] plan.zoneRequests))
  | .reserve plan reserved (r :: rest) =>
    match dbs.mongo.updateOne fault r.eventOid r.zoneName r.hasRoom r.quantity with
    | (mongo, .error exc) =>
      some (⟨dbs.pg, mongo⟩, c.goto (.release reserved (.answer (escapedAnswer exc))))
    | (mongo, .ok 0) => some (⟨dbs.pg, mongo⟩, c.goto (.release reserved (.answer r.soldOut)))
    | (mongo, .ok _) =>
      some (⟨dbs.pg, mongo⟩, c.goto (.reserve plan (reserved ++ [r.reservation]) rest))
  | .reserve plan reserved [] =>
    if draw.orderId ∈ dbs.pg.orderIdsDrawn then none
    else
      let pg := dbs.pg.drawOrderId draw.orderId
      let tried := { c with attempt := some draw.orderId }
      match pg.transact fault (createTx pg c.orderIn c.idempotencyKey plan draw) with
      | (pg', none) => some (⟨pg', dbs.mongo⟩, tried.goto (.done (.created
          (newOrder c.orderIn c.idempotencyKey plan draw) (plan.tickets draw.orderId))))
      | (pg', some exc) => some (⟨pg', dbs.mongo⟩, tried.goto (.release reserved (failureOf exc)))
  | .release (r :: rest) failure =>
    -- the filter has no condition on the counter, and an exception is only logged
    let mongo := (dbs.mongo.updateOne fault r.eventOid r.zoneName (fun _ => true) (-r.quantity)).1
    some (⟨dbs.pg, mongo⟩, c.goto (.release rest failure))
  | .release [] (.answer answer) => some (dbs, c.goto (.done (.raised answer)))
  | .release [] (.integrity exc) =>
    match racedKey c.idempotencyKey exc, fault with
    | some _, .pgRaised exc' _ => some (dbs, c.goto (.done (.raised (escapedAnswer exc'))))
    | some key, _ =>
      match dbs.pg.findByKey key with
      | some winning =>
        some (dbs, c.goto (.done (.replayed winning (dbs.pg.ticketsOf winning.id))))
      | none => some (dbs, c.goto (.done (.raised (integrityResponse c.orderIn exc))))
    | none, _ => some (dbs, c.goto (.done (.raised (integrityResponse c.orderIn exc))))
  | .done _ => none
  | .crashed => none

/-! ## What a step can do -/

/-- How a call ends without touching a database. -/
inductive CreateCall.Ends (lower : String → String) (dbs : Databases) (fault : Fault)
    (c : CreateCall) : CreateOutcome → Prop
  | keyRefused {key : String} {existing : Order} {answer : HttpException}
    (at_pc : c.pc = .lookup) (truthy : truthyKey c.idempotencyKey = some key)
    (found : dbs.pg.findByKey key = some existing)
    (refused : fingerprintAnswer lower existing (dbs.pg.ticketsOf existing.id) c.orderIn =
      some answer) :
    c.Ends lower dbs fault (.raised answer)
  | keyReplayed {key : String} {existing : Order}
    (at_pc : c.pc = .lookup) (truthy : truthyKey c.idempotencyKey = some key)
    (found : dbs.pg.findByKey key = some existing)
    (matched : fingerprintAnswer lower existing (dbs.pg.ticketsOf existing.id) c.orderIn = none) :
    c.Ends lower dbs fault (.replayed existing (dbs.pg.ticketsOf existing.id))
  | invalid {answer : HttpException} (at_pc : c.pc = .readCatalog)
    (refused : planOrder lower dbs.mongo c.orderIn = .error answer) :
    c.Ends lower dbs fault (.raised answer)
  | compensated {answer : HttpException} (at_pc : c.pc = .release [] (.answer answer)) :
    c.Ends lower dbs fault (.raised answer)
  | raceLost {exc : DbExc} {key : String} {winning : Order}
    (at_pc : c.pc = .release [] (.integrity exc))
    (raced : racedKey c.idempotencyKey exc = some key)
    (found : dbs.pg.findByKey key = some winning) :
    c.Ends lower dbs fault (.replayed winning (dbs.pg.ticketsOf winning.id))
  | integrity {exc : DbExc} (at_pc : c.pc = .release [] (.integrity exc))
    (noWinner : ∀ key, racedKey c.idempotencyKey exc = some key → dbs.pg.findByKey key = none) :
    c.Ends lower dbs fault (.raised (integrityResponse c.orderIn exc))
  | keyUnread {exc : DbExc} {committed : Bool}
    (at_pc : c.pc = .lookup ∨ ∃ exc', c.pc = .release [] (.integrity exc'))
    (raised : fault = .pgRaised exc committed) :
    c.Ends lower dbs fault (.raised (escapedAnswer exc))
  | catalogUnread {exc : DbExc} {applied : Bool} (at_pc : c.pc = .readCatalog)
    (raised : fault = .mongoRaised exc applied) :
    c.Ends lower dbs fault (.raised (escapedAnswer exc))

/-- Everything a step of a create call can do. -/
inductive CreateStep (lower : String → String) (dbs : Databases) (fault : Fault) (draw : Draw)
    (c : CreateCall) : Databases → CreateCall → Prop
  | ends {outcome : CreateOutcome} (ended : c.Ends lower dbs fault outcome) :
    CreateStep lower dbs fault draw c dbs (c.goto (.done outcome))
  | keyFree (at_pc : c.pc = .lookup)
    (unused : ∀ key, truthyKey c.idempotencyKey = some key → dbs.pg.findByKey key = none) :
    CreateStep lower dbs fault draw c dbs (c.goto .readCatalog)
  | planned {plan : OrderPlan} (at_pc : c.pc = .readCatalog)
    (valid : planOrder lower dbs.mongo c.orderIn = .ok plan) :
    CreateStep lower dbs fault draw c dbs (c.goto (.reserve plan [] plan.zoneRequests))
  | reserved {plan : OrderPlan} {held : List Reservation} {r : ZoneRequest}
    {rest : List ZoneRequest} (at_pc : c.pc = .reserve plan held (r :: rest))
    (modified : dbs.mongo.modifiedCount r.eventOid r.zoneName r.hasRoom r.quantity ≠ 0) :
    CreateStep lower dbs fault draw c
      ⟨dbs.pg, dbs.mongo.incBooked r.eventOid r.zoneName r.hasRoom r.quantity⟩
      (c.goto (.reserve plan (held ++ [r.reservation]) rest))
  | soldOut {plan : OrderPlan} {held : List Reservation} {r : ZoneRequest}
    {rest : List ZoneRequest} (at_pc : c.pc = .reserve plan held (r :: rest))
    (unmodified : dbs.mongo.modifiedCount r.eventOid r.zoneName r.hasRoom r.quantity = 0) :
    CreateStep lower dbs fault draw c
      ⟨dbs.pg, dbs.mongo.incBooked r.eventOid r.zoneName r.hasRoom r.quantity⟩
      (c.goto (.release held (.answer r.soldOut)))
  | reserveRaised {plan : OrderPlan} {held : List Reservation} {r : ZoneRequest}
    {rest : List ZoneRequest} {exc : DbExc} {applied : Bool}
    (at_pc : c.pc = .reserve plan held (r :: rest)) (raised : fault = .mongoRaised exc applied) :
    CreateStep lower dbs fault draw c
      ⟨dbs.pg, if applied then dbs.mongo.incBooked r.eventOid r.zoneName r.hasRoom r.quantity
        else dbs.mongo⟩
      (c.goto (.release held (.answer (escapedAnswer exc))))
  | committed {plan : OrderPlan} {held : List Reservation} {pg' : Postgres}
    (at_pc : c.pc = .reserve plan held []) (fresh : draw.orderId ∉ dbs.pg.orderIdsDrawn)
    (statements : createTx (dbs.pg.drawOrderId draw.orderId) c.orderIn c.idempotencyKey plan draw =
      .ok pg') (replied : fault.PgUp) :
    CreateStep lower dbs fault draw c ⟨pg', dbs.mongo⟩
      (CreateCall.goto { c with attempt := some draw.orderId } (.done (.created
        (newOrder c.orderIn c.idempotencyKey plan draw) (plan.tickets draw.orderId))))
  | aborted {plan : OrderPlan} {held : List Reservation} {exc : DbExc}
    (at_pc : c.pc = .reserve plan held []) (fresh : draw.orderId ∉ dbs.pg.orderIdsDrawn)
    (cause : fault = .pgRaised exc false ∨
      createTx (dbs.pg.drawOrderId draw.orderId) c.orderIn c.idempotencyKey plan draw =
        .error exc) :
    CreateStep lower dbs fault draw c ⟨dbs.pg.drawOrderId draw.orderId, dbs.mongo⟩
      (CreateCall.goto { c with attempt := some draw.orderId } (.release held (failureOf exc)))
  | replyLost {plan : OrderPlan} {held : List Reservation} {exc : DbExc} {pg' : Postgres}
    (at_pc : c.pc = .reserve plan held []) (fresh : draw.orderId ∉ dbs.pg.orderIdsDrawn)
    (lost : fault = .pgRaised exc true)
    (statements : createTx (dbs.pg.drawOrderId draw.orderId) c.orderIn c.idempotencyKey plan draw =
      .ok pg') :
    CreateStep lower dbs fault draw c ⟨pg', dbs.mongo⟩
      (CreateCall.goto { c with attempt := some draw.orderId } (.release held (failureOf exc)))
  | gaveBack {r : Reservation} {rest : List Reservation} {failure : CreateFailure} {applied : Bool}
    (at_pc : c.pc = .release (r :: rest) failure)
    (cause : applied = true ∨ ∃ exc, fault = .mongoRaised exc applied) :
    CreateStep lower dbs fault draw c
      ⟨dbs.pg, if applied then
        dbs.mongo.incBooked r.eventOid r.zoneName (fun _ => true) (-r.quantity) else dbs.mongo⟩
      (c.goto (.release rest failure))

/-- A call ends at its look-up, at its validation, or when everything is given back. -/
theorem CreateCall.Ends.ending {lower : String → String} {dbs : Databases} {fault : Fault}
    {c : CreateCall} {outcome : CreateOutcome} (ended : c.Ends lower dbs fault outcome) :
    c.pc = .lookup ∨ c.pc = .readCatalog ∨ ∃ failure, c.pc = .release [] failure := by
  cases ended with
  | keyRefused at_pc | keyReplayed at_pc => exact .inl at_pc
  | invalid at_pc | catalogUnread at_pc => exact .inr (.inl at_pc)
  | compensated at_pc | raceLost at_pc | integrity at_pc => exact .inr (.inr ⟨_, at_pc⟩)
  | keyUnread at_pc =>
    rcases at_pc with at_pc | ⟨exc, at_pc⟩
    · exact .inl at_pc
    · exact .inr (.inr ⟨_, at_pc⟩)

theorem CreateCall.Ends.running {lower : String → String} {dbs : Databases} {fault : Fault}
    {c : CreateCall} {outcome : CreateOutcome} (ended : c.Ends lower dbs fault outcome) :
    c.pc ≠ .crashed ∧ ∀ outcome', c.pc ≠ .done outcome' := by
  rcases ended.ending with at_pc | at_pc | ⟨failure, at_pc⟩
  all_goals simp [at_pc]

/-- A call in its reservation loop goes on to the database. -/
theorem CreateCall.Ends.not_reserving {lower : String → String} {dbs : Databases} {fault : Fault}
    {c : CreateCall} {outcome : CreateOutcome} (ended : c.Ends lower dbs fault outcome)
    {plan : OrderPlan} {held : List Reservation} {rest : List ZoneRequest} :
    c.pc ≠ .reserve plan held rest := by
  rcases ended.ending with at_pc | at_pc | ⟨failure, at_pc⟩
  all_goals simp [at_pc]

/-- Only running calls make steps. -/
theorem CreateStep.running {lower : String → String} {dbs dbs' : Databases} {fault : Fault}
    {draw : Draw} {c c' : CreateCall} (moved : CreateStep lower dbs fault draw c dbs' c') :
    c.pc ≠ .crashed ∧ ∀ outcome, c.pc ≠ .done outcome := by
  cases moved with
  | ends ended => exact ended.running
  | keyFree at_pc | planned at_pc | reserved at_pc | soldOut at_pc | reserveRaised at_pc
  | committed at_pc | aborted at_pc | replyLost at_pc | gaveBack at_pc =>
    simp [at_pc]

/-- **Every step of a create call is one of these.** -/
theorem CreateCall.step_cases {lower : String → String} {dbs dbs' : Databases} {fault : Fault}
    {draw : Draw} {c c' : CreateCall} (moved : c.step lower dbs fault draw = some (dbs', c')) :
    CreateStep lower dbs fault draw c dbs' c' := by
  unfold step at moved
  split at moved
  case h_1 at_pc =>
    split at moved
    case h_1 noKey =>
      cases moved
      exact .keyFree at_pc fun key truthy => by rw [noKey] at truthy; cases truthy
    case h_2 key truthy =>
      split at moved
      case h_1 => cases moved; exact .ends (.keyUnread (.inl at_pc) rfl)
      case h_2 =>
        split at moved
        case h_1 unused =>
          cases moved
          refine .keyFree at_pc fun key' truthy' => ?_
          obtain rfl : key = key' := Option.some.inj (truthy.symm.trans truthy')
          exact unused
        case h_2 existing found =>
          split at moved
          case h_1 refused => cases moved; exact .ends (.keyRefused at_pc truthy found refused)
          case h_2 matched => cases moved; exact .ends (.keyReplayed at_pc truthy found matched)
  case h_2 at_pc =>
    split at moved
    case h_1 => cases moved; exact .ends (.catalogUnread at_pc rfl)
    case h_2 =>
      split at moved
      case h_1 refused => cases moved; exact .ends (.invalid at_pc refused)
      case h_2 valid => cases moved; exact .planned at_pc valid
  case h_3 plan held r rest at_pc =>
    split at moved
    case h_1 replied =>
      cases moved
      obtain ⟨applied, raised, rfl⟩ := Catalog.updateOne_error replied
      exact .reserveRaised at_pc raised
    case h_2 replied =>
      cases moved
      obtain ⟨rfl, count⟩ := Catalog.updateOne_ok replied
      exact .soldOut at_pc count.symm
    case h_3 n notZero replied =>
      cases moved
      obtain ⟨rfl, count⟩ := Catalog.updateOne_ok replied
      exact .reserved at_pc fun zero => notZero (count.trans zero)
  case h_4 plan held at_pc =>
    split at moved
    case isTrue => cases moved
    case isFalse fresh =>
      dsimp only at moved
      split at moved
      case h_1 replied =>
        cases moved
        obtain ⟨statements, up⟩ := Postgres.transact_none replied
        exact .committed at_pc fresh statements up
      case h_2 replied =>
        cases moved
        rcases Postgres.transact_some replied with ⟨rfl, cause⟩ | ⟨lost, statements⟩
        · exact .aborted at_pc fresh cause
        · exact .replyLost at_pc fresh lost statements
  case h_5 r rest failure at_pc =>
    obtain ⟨applied, mongo, cause⟩ :=
      dbs.mongo.updateOne_fst fault r.eventOid r.zoneName (fun _ => true) (-r.quantity)
    rw [mongo] at moved
    cases moved
    exact .gaveBack at_pc cause
  case h_6 answer at_pc => cases moved; exact .ends (.compensated at_pc)
  case h_7 exc at_pc =>
    split at moved
    case h_1 =>
      cases moved
      exact .ends (.keyUnread (.inr ⟨exc, at_pc⟩) rfl)
    case h_2 key raced _ =>
      split at moved
      case h_1 winning found => cases moved; exact .ends (.raceLost at_pc raced found)
      case h_2 unused =>
        cases moved
        refine .ends (.integrity at_pc fun key' raced' => ?_)
        obtain rfl : key = key' := Option.some.inj (raced.symm.trans raced')
        exact unused
    case h_3 noRace =>
      cases moved
      exact .ends (.integrity at_pc fun key raced => by rw [noRace] at raced; cases raced)
  case h_8 => cases moved
  case h_9 => cases moved

end TicketBooking
