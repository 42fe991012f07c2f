import TicketBooking.Commits

/-!
# The two ways a hold expires

`process_order_payment` and `_sweep_one_batch` each expire an overdue order with statements of their
own.  The first section writes the payment's statements out as the source has them, one order by its
key, and shows that they are the batch statements on a batch of one.  From one state the two calls
then go through the same states but for the reason in the outbox row: both run
`_release_counted_seats` on the same groups, whatever happens to its MongoDB calls.

A payment that is refused changes nothing: `PayPc.MayRefuse` are the places from which a call can
still be refused, and no step between them writes.
-/

namespace TicketBooking

open GroupCount ListUpdate StepSystem

/-! ## The statements of a late payment -/

/-- `order.status = "expired"` on the locked row, `UPDATE tickets ... WHERE order_id = order.id AND
status = 'held'`, and the outbox row. -/
def Postgres.expireOne (pg : Postgres) (order : Order) : Postgres :=
  { pg with
    orders := pg.orders.map fun o => if o.id = order.id then { o with status := .expired } else o
    tickets := pg.tickets.map fun t =>
      if t.orderId = order.id ∧ t.status = .held then { t with status := .cancelled } else t
    outbox := pg.outbox ++ [{
      eventType := .seatHoldExpired
      aggregateId := order.id
      payload := .seatHoldExpired order.id order.orderNumber "timeout" }] }

/-- `to_release`: the held tickets of the order, counted by event and zone. -/
def Postgres.heldGroupsOf (pg : Postgres) (order : Order) : List SeatGroup :=
  (groupCount Ticket.zoneOf
    (pg.tickets.filter fun t => t.orderId = order.id ∧ t.status = .held)).map
      fun g => ⟨g.1.eventId, g.1.seatZone, g.2⟩

theorem timeoutTx_eq (pg : Postgres) (order : Order) : timeoutTx pg order = pg.expireOne order := by
  unfold timeoutTx Postgres.expireHolds Postgres.expireOne Order.expire Ticket.fromHeld
  simp only [List.map_cons, List.map_nil, List.mem_singleton]
  rfl

theorem heldGroups_singleton (pg : Postgres) (order : Order) :
    pg.heldGroups [order.id] = pg.heldGroupsOf order := by
  unfold Postgres.heldGroups Postgres.heldGroupsOf
  simp only [List.mem_singleton]

/-! ## States that agree but for the reason -/

/-- The payload without the reason of an expiry. -/
def OutboxPayload.withoutReason : OutboxPayload → OutboxPayload
  | .seatHoldExpired orderId orderNumber _ => .seatHoldExpired orderId orderNumber ""
  | payload => payload

def OutboxEvent.withoutReason (event : OutboxEvent) : OutboxEvent :=
  { event with payload := event.payload.withoutReason }

structure Databases.SameButReason (a b : Databases) : Prop where
  users : a.pg.users = b.pg.users
  orders : a.pg.orders = b.pg.orders
  tickets : a.pg.tickets = b.pg.tickets
  payments : a.pg.payments = b.pg.payments
  outbox : a.pg.outbox.map OutboxEvent.withoutReason = b.pg.outbox.map OutboxEvent.withoutReason
  orderIdsDrawn : a.pg.orderIdsDrawn = b.pg.orderIdsDrawn
  mongo : a.mongo = b.mongo

/-- One batch of the sweep and the payment leave tables that differ in the reason only. -/
theorem sameButReason_expiry (pg : Postgres) (order : Order) (mongo : Catalog) :
    Databases.SameButReason ⟨pg.expireOne order, mongo⟩
      ⟨cleanupTx pg [(order.id, order.orderNumber)], mongo⟩ := by
  have statements := timeoutTx_eq pg order
  unfold timeoutTx at statements
  rw [← statements]
  refine ⟨rfl, rfl, rfl, rfl, ?_, rfl, rfl⟩
  simp only [cleanupTx, Postgres.expireHolds, List.map_append, List.map_cons, List.map_nil]
  rfl

/-! ## The two releases -/

section Release

/-- An upper bound of the MongoDB calls a release has left. -/
def SeatRelease.stepsLeft (r : SeatRelease) : ℕ :=
  (r.groups.map fun g => g.quantity + 2).sum - if r.oneByOne then 1 else 0

/-- Every call of a release brings it nearer to its end, whether or not it raises. -/
theorem releaseStep_lt (c : Catalog) (fault : Fault) (oneByOne : Bool) (g : SeatGroup)
    (rest : List SeatGroup) :
    (releaseStep c fault oneByOne g rest).2.stepsLeft <
      SeatRelease.stepsLeft ⟨oneByOne, g :: rest⟩ := by
  have afterGroup : (SeatRelease.start rest).stepsLeft <
      SeatRelease.stepsLeft ⟨oneByOne, g :: rest⟩ := by
    simp only [SeatRelease.stepsLeft, SeatRelease.start, List.map_cons, List.sum_cons]
    cases oneByOne <;> simp
  unfold releaseStep
  split
  case h_1 => exact afterGroup
  case h_2 =>
    split
    case isTrue oneByOne =>
      subst oneByOne
      split
      case h_1 => exact afterGroup
      case h_2 left quantity =>
        split
        case h_1 =>
          simp only [SeatRelease.stepsLeft, List.map_cons, List.sum_cons, quantity, if_true]
          omega
        case h_2 => exact afterGroup
    case isFalse grouped =>
      split
      case h_1 =>
        simp only [SeatRelease.stepsLeft, List.map_cons, List.sum_cons, if_true, grouped]
        simp
      case h_2 => exact afterGroup
      case h_3 => exact afterGroup

end Release

section Alone

variable {cfg : Config} {calls : List Call} {pay : PayCall} {sweep : SweepCall}
  {paidPg sweptPg : Postgres}

/-- **The two releases run in lockstep**, on the catalog of both, whatever happens to each MongoDB
call, and both end. -/
theorem releases_in_lockstep (environment : ℕ → Fault × Draw) (mongo : Catalog)
    (release : SeatRelease) :
    ∃ n mongo',
      run (step cfg) ⟨⟨paidPg, mongo⟩, calls ++ [.pay (pay.goto (.releasing release))]⟩
          (alone calls.length ((List.range n).map environment)) =
        some ⟨⟨paidPg, mongo'⟩, calls ++ [.pay (pay.goto (.done (.error holdExpired)))]⟩ ∧
      run (step cfg) ⟨⟨sweptPg, mongo⟩, calls ++ [.sweep (sweep.goto (.releasing 1 release))]⟩
          (alone calls.length ((List.range n).map environment)) =
        some ⟨⟨sweptPg, mongo'⟩, calls ++ [.sweep (sweep.next 1)]⟩ := by
  -- by the number of MongoDB calls the release has left
  induction left : release.stepsLeft using Nat.strong_induction_on
    generalizing environment mongo release with
  | _ left ih =>
    rcases release with ⟨oneByOne, _ | ⟨g, rest⟩⟩
    · have schedule : (List.range 1).map environment = [environment 0] := rfl
      refine ⟨1, mongo, ?_, ?_⟩
      · rw [schedule, run_alone_cons]
        rfl
      · rw [schedule, run_alone_cons]
        rfl
    · have nearer := releaseStep_lt mongo (environment 0).1 oneByOne g rest
      rw [left] at nearer
      rcases ih _ nearer (fun k => environment (k + 1))
        (releaseStep mongo (environment 0).1 oneByOne g rest).1 _ rfl with ⟨n, mongo', paid, swept⟩
      have schedule : (List.range (n + 1)).map environment =
          environment 0 :: (List.range n).map fun k => environment (k + 1) := by
        rw [List.range_succ_eq_map, List.map_cons, List.map_map]
        rfl
      refine ⟨n + 1, mongo', ?_, ?_⟩
      · rw [schedule, run_alone_cons]
        exact paid
      · rw [schedule, run_alone_cons]
        exact swept

/-- A late payment by itself: it locks its order, expires it, and its release begins. -/
theorem late_payment_alone {dbs : Databases} {o : Order} {paymentIn : PaymentCreate}
    {lock decide : Draw} (environment : List (Fault × Draw))
    (found : dbs.pg.findOrder o.id = some o) (free : o.id ∉ calls.flatMap Call.locks)
    (decided : paymentDecision o decide.now paymentIn.amount = .expire) :
    run (step cfg) ⟨dbs, calls⟩ (.spawn (.processPayment o.id paymentIn) :: alone calls.length
        ((.none, lock) :: (.none, decide) :: environment)) =
      run (step cfg) ⟨⟨dbs.pg.expireOne o, dbs.mongo⟩, calls ++
          [.pay ((PayCall.start o.id paymentIn).goto
            (.releasing (.start (dbs.pg.heldGroupsOf o))))]⟩
        (alone calls.length environment) := by
  have spawns : step cfg ⟨dbs, calls⟩ (.spawn (.processPayment o.id paymentIn)) =
      some ⟨dbs, calls ++ [.pay (.start o.id paymentIn)]⟩ := rfl
  have locks : PayCall.step dbs (calls.flatMap Call.locks) .none lock (.start o.id paymentIn) =
      some (dbs, ⟨o.id, paymentIn, .locked o⟩) := by
    simp only [PayCall.step, PayCall.start, found, if_neg free]
    rfl
  have expires : PayCall.step dbs (calls.flatMap Call.locks) .none decide
      ⟨o.id, paymentIn, .locked o⟩ = some (⟨dbs.pg.expireOne o, dbs.mongo⟩,
        (PayCall.start o.id paymentIn).goto
          (.releasing (.start (dbs.pg.heldGroupsOf o)))) := by
    simp only [PayCall.step, decided, Postgres.transact, timeoutTx_eq, heldGroups_singleton]
    rfl
  rw [run_cons, spawns, Option.bind_some, run_alone_cons, Call.step, locks, Option.map_some,
    Option.bind_some, run_alone_cons, Call.step, expires, Option.map_some, Option.bind_some]

/-- A batch of one by itself: the sweep claims the order, expires it, and the release begins. -/
theorem sweep_batch_alone {dbs : Databases} {o : Order} {batchSize maxBatches : Option ℕ}
    {claim expire : Draw} (environment : List (Fault × Draw))
    (batches : orDefault maxBatches cfg.settings.sweepMaxBatches ≠ 0)
    (claimed : dbs.pg.claimOverdue (calls.flatMap Call.locks) claim.now
      (orDefault batchSize cfg.settings.sweepBatchSize) = [(o.id, o.orderNumber)]) :
    run (step cfg) ⟨dbs, calls⟩ (.spawn (.cleanup batchSize maxBatches) :: alone calls.length
        ((.none, claim) :: (.none, expire) :: environment)) =
      run (step cfg) ⟨⟨cleanupTx dbs.pg [(o.id, o.orderNumber)], dbs.mongo⟩, calls ++
          [.sweep ((SweepCall.start cfg.settings batchSize maxBatches).goto
            (.releasing 1 (.start (dbs.pg.heldGroups [o.id]))))]⟩
        (alone calls.length environment) := by
  have spawns : step cfg ⟨dbs, calls⟩ (.spawn (.cleanup batchSize maxBatches)) =
      some ⟨dbs, calls ++ [.sweep (.start cfg.settings batchSize maxBatches)]⟩ := rfl
  have claims : SweepCall.step dbs (calls.flatMap Call.locks) .none claim
      (.start cfg.settings batchSize maxBatches) =
        some (dbs, (SweepCall.start cfg.settings batchSize maxBatches).goto
          (.claimed [(o.id, o.orderNumber)])) := by
    simp only [SweepCall.step, SweepCall.start, if_neg batches, claimed]
  have expires : SweepCall.step dbs (calls.flatMap Call.locks) .none expire
      ((SweepCall.start cfg.settings batchSize maxBatches).goto
        (.claimed [(o.id, o.orderNumber)])) =
      some (⟨cleanupTx dbs.pg [(o.id, o.orderNumber)], dbs.mongo⟩,
        (SweepCall.start cfg.settings batchSize maxBatches).goto
          (.releasing 1 (.start (dbs.pg.heldGroups [o.id])))) := rfl
  rw [run_cons, spawns, Option.bind_some, run_alone_cons, Call.step, claims, Option.map_some,
    Option.bind_some, run_alone_cons, Call.step, expires, Option.map_some, Option.bind_some]

end Alone

/-! ## Refused payments -/

/-- The answers by which a payment is refused. -/
def refusals : List ℕ := [404, 409, 400]

/-- From here the call can still be refused, or it has been. -/
def PayPc.MayRefuse : PayPc → Prop
  | .lock => True
  | .locked _ => True
  | .done (.error answer) => answer.statusCode ∈ refusals
  | _ => False

/-- "Nothing was written in any of these cases": the errors by which PostgreSQL reports a collision
or a violated constraint are not raised by a transaction that took effect. -/
def Fault.ConflictMeansAborted : Fault → Prop
  | .pgRaised exc true => isRetryableConflict exc = false ∧ exc.kind ≠ .integrity
  | _ => True

instance : (fault : Fault) → Decidable fault.ConflictMeansAborted
  | .pgRaised exc true =>
    inferInstanceAs (Decidable (isRetryableConflict exc = false ∧ exc.kind ≠ .integrity))
  | .pgRaised _ false | .none | .mongoRaised _ _ => inferInstanceAs (Decidable True)

/-- The error of a transaction that took effect is answered 503 or 500. -/
theorem Fault.ConflictMeansAborted.escapedAnswer {exc : DbExc}
    (report : (Fault.pgRaised exc true).ConflictMeansAborted) :
    (escapedAnswer exc).statusCode ∉ refusals := by
  unfold TicketBooking.escapedAnswer classifyDbError
  rw [if_neg (by simp [report.1])]
  split <;> simp [unavailableException, refusals]

theorem Fault.ConflictMeansAborted.confirmFailure {exc : DbExc}
    (report : (Fault.pgRaised exc true).ConflictMeansAborted) (order : Order) :
    (confirmFailure order exc).statusCode ∉ refusals := by
  unfold TicketBooking.confirmFailure
  rw [if_neg fun both => report.2 both.1]
  exact report.escapedAnswer

/-- A step to a place from which the call may be refused starts at one, and writes nothing. -/
theorem PayCall.step_mayRefuse {dbs dbs' : Databases} {lockedElsewhere : List ℕ} {fault : Fault}
    {draw : Draw} {c c' : PayCall} (report : fault.ConflictMeansAborted)
    (moved : c.step dbs lockedElsewhere fault draw = some (dbs', c')) (refuse : c'.pc.MayRefuse) :
    c.pc.MayRefuse ∧ dbs' = dbs := by
  unfold step at moved
  split at moved
  case h_1 at_pc =>
    rw [at_pc]
    refine ⟨trivial, ?_⟩
    split at moved
    case h_1 => cases moved; rfl
    case h_2 =>
      split at moved
      case h_1 => cases moved; rfl
      case h_2 =>
        split at moved
        case isTrue => cases moved
        case isFalse => cases moved; rfl
  case h_2 order at_pc =>
    rw [at_pc]
    refine ⟨trivial, ?_⟩
    split at moved
    case h_1 => cases moved; rfl
    case h_2 =>
      split at moved
      case h_1 => cases moved; exact refuse.elim
      case h_2 replied =>
        cases moved
        rcases Postgres.transact_some replied with ⟨rfl, -⟩ | ⟨rfl, -⟩
        · rfl
        · exact absurd refuse report.escapedAnswer
    case h_3 =>
      split at moved
      case h_1 => cases moved; exact refuse.elim
      case h_2 replied =>
        cases moved
        rcases Postgres.transact_some replied with ⟨rfl, -⟩ | ⟨rfl, -⟩
        · rfl
        · exact absurd refuse (report.confirmFailure order)
  case h_3 =>
    cases moved
    have expired : holdExpired.statusCode ∉ refusals := by decide
    exact absurd refuse expired
  case h_4 => cases moved; exact refuse.elim
  case h_5 => cases moved
  case h_6 => cases moved

/-- Call `i` does not exist yet, or can still be refused, or has been. -/
def State.MayRefuse (s : State) (i : ℕ) : Prop :=
  ∀ call, s.calls[i]? = some call → ∃ c, call = .pay c ∧ c.pc.MayRefuse

def Action.ConflictMeansAborted : Action → Prop
  | .step _ fault _ => fault.ConflictMeansAborted
  | _ => True

instance : (a : Action) → Decidable a.ConflictMeansAborted
  | .step _ fault _ => inferInstanceAs (Decidable fault.ConflictMeansAborted)
  | .spawn _ | .crash _ => inferInstanceAs (Decidable True)

section Runs

variable {cfg : Config} {ok : State → Action → Prop} {start s s' t : State} {a : Action} {i : ℕ}

/-- Read backwards: before the step the call may be refused, and its own step wrote nothing. -/
theorem step_mayRefuse (report : a.ConflictMeansAborted) (moved : step cfg s a = some s')
    (refuse : s'.MayRefuse i) :
    s.MayRefuse i ∧ ∀ fault draw, a = .step i fault draw → s'.dbs = s.dbs := by
  cases a with
  | spawn request =>
    cases moved
    refine ⟨fun call at_i => refuse call ?_, fun _ _ => by nofun⟩
    rw [List.getElem?_append_left (List.getElem?_eq_some_iff.mp at_i).1]
    exact at_i
  | step j fault draw =>
    obtain ⟨⟨dbs', call'⟩, bound, rfl⟩ := Option.map_eq_some_iff.mp moved
    obtain ⟨call, at_j, stepped⟩ := Option.bind_eq_some_iff.mp bound
    by_cases same : j = i
    · subst same
      obtain ⟨c', rfl, after⟩ := refuse call' (getElem?_set_self _ at_j)
      cases call with
      | create | sweep =>
        obtain ⟨_, _, other⟩ := Option.map_eq_some_iff.mp stepped
        cases other
      | pay c =>
        obtain ⟨⟨dbs'', c''⟩, paid, same⟩ := Option.map_eq_some_iff.mp stepped
        cases same
        obtain ⟨before, wrote⟩ := PayCall.step_mayRefuse report paid after
        refine ⟨fun call at_j' => ?_, fun _ _ _ => wrote⟩
        cases at_j.symm.trans at_j'
        exact ⟨c, rfl, before⟩
    · refine ⟨fun call at_i => refuse call ?_, fun fault' draw' own => ?_⟩
      · exact (List.getElem?_set_ne same).trans at_i
      · cases own
        exact absurd rfl same
  | crash j =>
    obtain ⟨call, filtered, rfl⟩ := Option.map_eq_some_iff.mp moved
    obtain ⟨at_j, -⟩ := Option.filter_eq_some_iff.mp filtered
    refine ⟨fun other at_i => ?_, fun _ _ => by nofun⟩
    by_cases same : j = i
    · subst same
      obtain ⟨c', crashed, after⟩ := refuse call.crash (getElem?_set_self _ at_j)
      cases call with
      | create | sweep => cases crashed
      | pay c =>
        cases crashed
        exact after.elim
    · exact refuse other ((List.getElem?_set_ne same).trans at_i)

/-- **A refused payment wrote nothing**: each of its steps left both databases as they were. -/
theorem refused_wrote_nothing {as : List Action} (executed : run (step cfg) s as = some t)
    (reports : ∀ a ∈ as, a.ConflictMeansAborted) (refuse : t.MayRefuse i) :
    StepsMeet (step cfg) s as fun s₁ a => ∀ fault draw s₂, a = .step i fault draw →
      step cfg s₁ a = some s₂ → s₂.dbs = s₁.dbs := by
  induction as using List.reverseRecOn generalizing t with
  | nil => exact stepsMeet_nil _
  | append_singleton as b ih =>
    obtain ⟨mid, ranBefore, moved⟩ := run_concat.mp executed
    obtain ⟨refuseBefore, wrote⟩ := step_mayRefuse (reports b (by simp)) moved refuse
    have earlier := ih ranBefore (fun a mem => reports a (by simp [mem])) refuseBefore
    refine (stepsMeet_concat ranBefore).mpr ⟨earlier, fun fault draw s₂ own moved' => ?_⟩
    cases moved.symm.trans moved'
    exact wrote fault draw own

/-- **The two ways a hold expires are one transition.**  On an overdue order that a batch of the
sweep would claim by itself, the payment (with any body) answers 410 and the batch expires one
order, and they leave the same databases but for the reason; every MongoDB call of the release may
fail. And a payment that is refused with 404, 409 or 400 wrote nothing, whatever runs beside it. -/
theorem hold_expires_one_way (fresh : start.Fresh) (reached : Reachable (step cfg) ok start s) :
    (∀ (o : Order) (expiresAt : ℤ) (paymentIn : PaymentCreate) (lock decide claim expire : Draw)
        (batchSize maxBatches : Option ℕ) (environment : ℕ → Fault × Draw),
      o ∈ s.dbs.pg.orders → o.status = .pending → o.expiresAt = some expiresAt →
      expiresAt < decide.now →
      orDefault maxBatches cfg.settings.sweepMaxBatches ≠ 0 →
      s.dbs.pg.claimOverdue (s.calls.flatMap Call.locks) claim.now
        (orDefault batchSize cfg.settings.sweepBatchSize) = [(o.id, o.orderNumber)] →
      ∃ n paid swept,
        run (step cfg) s (.spawn (.processPayment o.id paymentIn) :: alone s.calls.length
            ((.none, lock) :: (.none, decide) :: (List.range n).map environment)) =
          some ⟨paid, s.calls ++ [.pay ⟨o.id, paymentIn, .done (.error holdExpired)⟩]⟩ ∧
        run (step cfg) s (.spawn (.cleanup batchSize maxBatches) :: alone s.calls.length
            ((.none, claim) :: (.none, expire) :: (List.range n).map environment)) =
          some ⟨swept, s.calls ++
            [.sweep ((SweepCall.start cfg.settings batchSize maxBatches).next 1)]⟩ ∧
        paid.SameButReason swept) ∧
    ∀ (as : List Action) (t : State) (i : ℕ) (c : PayCall) (answer : HttpException),
      run (step cfg) s as = some t → (∀ a ∈ as, a.ConflictMeansAborted) →
      t.calls[i]? = some (.pay c) → c.pc = .done (.error answer) → answer.statusCode ∈ refusals →
      StepsMeet (step cfg) s as fun s₁ a => ∀ fault draw s₂, a = .step i fault draw →
        step cfg s₁ a = some s₂ → s₂.dbs = s₁.dbs := by
  constructor
  · intro o expiresAt paymentIn lock decide claim expire batchSize maxBatches environment stored
      pending expires late batches claimed
    have ids := (rowsLocked_of_reachable reached fresh.1 fresh.idsDrawn).ids
    have found : s.dbs.pg.findOrder o.id = some o := find?_key_of_mem ids.1 stored
    have free : o.id ∉ s.calls.flatMap Call.locks :=
      (Postgres.claimOverdue_mem (claimed ▸ List.mem_singleton_self _)).1
    have decided : paymentDecision o decide.now paymentIn.amount = .expire := by
      simp [paymentDecision, pending, expires, late]
    obtain ⟨n, mongo, paid, swept⟩ := @releases_in_lockstep cfg s.calls
      (PayCall.start o.id paymentIn) (SweepCall.start cfg.settings batchSize maxBatches)
      (s.dbs.pg.expireOne o) (cleanupTx s.dbs.pg [(o.id, o.orderNumber)]) environment s.dbs.mongo
      (.start (s.dbs.pg.heldGroupsOf o))
    rw [← heldGroups_singleton] at swept
    refine ⟨n, _, _, ?_, ?_, sameButReason_expiry s.dbs.pg o mongo⟩
    · exact (late_payment_alone _ found free decided).trans paid
    · exact (sweep_batch_alone _ batches claimed).trans swept
  · intro as t i c answer executed reports at_i ended refused
    refine refused_wrote_nothing executed reports fun call at_i' => ?_
    cases at_i.symm.trans at_i'
    refine ⟨c, rfl, ?_⟩
    rw [ended]
    exact refused

/-- A hold of ten minutes from time zero. -/
def heldOrder : Order := ⟨1, "ORD-1", 1, 10, .pending, "promptpay", some 600000000, none, 0⟩

def holdSchedule : List Action :=
  .spawn (.createOrder Sample.order none) :: Sample.advance 0 4 1

/-- Twenty minutes later. -/
def lateDraw : Draw := { Sample.draw 2 with now := 2 * holdWindow }

/-- A payment of another amount than the total, in time. -/
def wrongAmountSchedule : List Action :=
  .spawn (.processPayment 1 (Sample.payment 7)) :: Sample.advance 1 2 2

theorem hold_expires_one_way_after_window :
    ∃ s n paid swept t, run (step Sample.cfg) (Sample.start Sample.floor) holdSchedule = some s ∧
      run (step Sample.cfg) s (.spawn (.processPayment 1 (Sample.payment 7)) ::
          alone s.calls.length
            ((.none, lateDraw) :: (.none, lateDraw) ::
              (List.range n).map fun _ => (.none, lateDraw))) =
        some ⟨paid, s.calls ++ [.pay ⟨1, Sample.payment 7, .done (.error holdExpired)⟩]⟩ ∧
      paid.SameButReason swept ∧ run (step Sample.cfg) s wrongAmountSchedule = some t ∧
      StepsMeet (step Sample.cfg) s wrongAmountSchedule fun s₁ a => ∀ fault draw s₂,
        a = .step 1 fault draw → step Sample.cfg s₁ a = some s₂ → s₂.dbs = s₁.dbs := by
  obtain ⟨s, checked⟩ := Option.isSome_iff_exists.mp (show ((checkedRun (step Sample.cfg)
    (fun _ _ => True) (Sample.start Sample.floor) holdSchedule).filter fun s =>
      s.dbs.pg.orders = [heldOrder] ∧ s.dbs.pg.claimOverdue (s.calls.flatMap Call.locks)
        lateDraw.now 500 = [(1, "ORD-1")] ∧
      ((run (step Sample.cfg) s wrongAmountSchedule).bind fun t => t.calls[1]?) = some (.pay
        ⟨1, Sample.payment 7, .done (.error ⟨400, .amountMismatch 7 10, none⟩)⟩)).isSome = true by
        decide +kernel)
  obtain ⟨ran, facts⟩ := Option.filter_eq_some_iff.mp checked
  obtain ⟨orders, claimed, refused⟩ := of_decide_eq_true facts
  obtain ⟨t, ranRefused, at_one⟩ := Option.bind_eq_some_iff.mp refused
  have oneWay := hold_expires_one_way (Sample.fresh Sample.floor) (reachable_of_checkedRun ran)
  have stored : heldOrder ∈ s.dbs.pg.orders := orders ▸ List.mem_singleton_self _
  obtain ⟨n, paid, swept, ranPaid, -, same⟩ := oneWay.1 heldOrder 600000000 (Sample.payment 7)
    lateDraw lateDraw lateDraw lateDraw none none (fun _ => (.none, lateDraw)) stored rfl rfl
    (by decide) (by decide) claimed
  exact ⟨s, n, paid, swept, t, run_of_checkedRun ran, ranPaid, same, ranRefused,
    oneWay.2 _ t 1 _ _ ranRefused (by decide) at_one rfl (by decide)⟩

end Runs

end TicketBooking
