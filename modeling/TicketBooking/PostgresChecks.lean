import TicketBooking.ConsistencyAudit
import TicketBooking.SeatUniqueness
import TicketBooking.Amounts

/-!
# The audit checks of PostgreSQL

The SELECTs of `PG_CHECKS` in `scripts/verify_consistency.py`.  Every statement sees what is
committed when it runs, so one attempt reads the tables at many moments.  The rows of a check stand
in table order.

* `postgresChecks_ok`: tables that keep the life cycle and the seat index pass every check but
  `order_total_mismatch`.
* `postgres_checks_pass` is this for the running system, at any moments.
-/

namespace TicketBooking

open GroupCount ListUpdate StepSystem

/-! ## The checks of PostgreSQL -/

/-- An entry of `PG_CHECKS`: the SELECT answers with one text per offending row. -/
structure PgCheck where
  name : String
  what : String
  rows : Postgres → List String

def orderText (orderId : ℕ) : String := "order " ++ toString orderId

/-- `GROUP BY ... HAVING count(*) > 1` -/
def repeated {α : Type} [DecidableEq α] (as : List α) : List α :=
  ((groupCount id as).filter fun group => 1 < group.2).map Prod.fst

def Postgres.completed (pg : Postgres) : List Payment :=
  pg.payments.filter fun p => p.status = .completed

/-- `SELECT DISTINCT 'order ' || o.id FROM orders o JOIN tickets t ON t.order_id = o.id` -/
def Postgres.ordersWithTicket (pg : Postgres) (test : Order → Ticket → Bool) : List String :=
  ((pg.orders.filter fun o => (pg.ticketsOf o.id).any (test o)).map fun o => orderText o.id).dedup

def duplicateActiveSeats : PgCheck where
  name := "duplicate_active_seats"
  what := "seat is held/valid more than once"
  rows pg := (repeated pg.seatIndex).map fun seat =>
    seat.1 ++ " / " ++ seat.2.1 ++ " / " ++ seat.2.2

def doubleChargedOrders : PgCheck where
  name := "double_charged_orders"
  what := "order with more than one completed payment (double charge)"
  rows pg := (repeated (pg.completed.map Payment.orderId)).map orderText

def confirmedWithoutPayment : PgCheck where
  name := "confirmed_without_payment"
  what := "confirmed order without a completed payment"
  rows pg := (pg.orders.filter fun o => o.status = .confirmed ∧
    o.id ∉ pg.completed.map Payment.orderId).map fun o => orderText o.id

def paymentAmountMismatch : PgCheck where
  name := "payment_amount_mismatch"
  what := "completed payments do not add up to the order total"
  rows pg := (pg.orders.filter fun o => pg.completedPayments o.id ≠ [] ∧
    o.totalAmount ≠ ((pg.completedPayments o.id).map Payment.amount).sum).map fun o =>
      orderText o.id

def orderTotalMismatch : PgCheck where
  name := "order_total_mismatch"
  what := "order total differs from the sum of its ticket prices"
  rows pg := pg.orderTotalMismatch.map fun o => orderText o.id

def deadOrderWithActiveTickets : PgCheck where
  name := "dead_order_with_active_tickets"
  what := "expired/cancelled order still holds seats"
  rows pg := pg.ordersWithTicket fun o t =>
    (o.status = .expired ∨ o.status = .cancelled) ∧ (t.status = .held ∨ t.status = .valid)

def ticketStateMismatch : PgCheck where
  name := "ticket_state_mismatch"
  what := "ticket status contradicts its order (pending needs held, confirmed needs valid)"
  rows pg := pg.ordersWithTicket fun o t =>
    (o.status = .pending ∧ t.status = .valid) ∨ (o.status = .confirmed ∧ t.status = .held)

/-- `PG_CHECKS` -/
def pgChecks : List PgCheck :=
  [duplicateActiveSeats, doubleChargedOrders, confirmedWithoutPayment, paymentAmountMismatch,
    orderTotalMismatch, deadOrderWithActiveTickets, ticketStateMismatch]

def PgCheck.result (check : PgCheck) (pg : Postgres) : AuditResult :=
  ⟨check.name, check.what, (check.rows pg).length, (check.rows pg).take sampleLimit⟩

/-- `postgres_checks`; `reads k` is what the statement number `k` sees. -/
def postgresChecks (reads : ℕ → Postgres) : List AuditResult :=
  pgChecks.mapIdx fun k check => check.result (reads k)

def AuditResult.ok (r : AuditResult) : Bool := r.value = 0

/-! ## Tables that pass -/

theorem repeated_of_nodup {α : Type} [DecidableEq α] {as : List α} (distinct : as.Nodup) :
    repeated as = [] := by
  rw [repeated, List.map_eq_nil_iff, List.filter_eq_nil_iff]
  intro group mem
  have count : group.2 = as.count group.1 := groupCount_eq mem
  have once := List.nodup_iff_count_le_one.mp distinct group.1
  simp only [decide_eq_true_eq]
  omega

section Tables

variable {pg : Postgres}

theorem Life.payments_le_one {rows : OrderRows} (life : Life rows) : rows.payments.length ≤ 1 := by
  cases life <;> simp

/-- No order has two completed payments. -/
theorem Postgres.LifeCycle.paid_once (cycle : pg.LifeCycle) :
    (pg.completed.map Payment.orderId).Nodup := by
  rw [List.nodup_iff_count_le_one]
  intro orderId
  calc (pg.completed.map Payment.orderId).count orderId
      = (pg.completed.filter fun p => p.orderId = orderId).length := by
        rw [List.count, List.countP_map, List.countP_eq_length_filter]
        rfl
    _ ≤ (pg.payments.filter fun p => p.orderId = orderId).length :=
        (List.filter_sublist.filter _).length_le
    _ ≤ 1 := (cycle.life orderId).payments_le_one

theorem Postgres.ordersWithTicket_eq_nil {test : Order → Ticket → Bool}
    (fails : ∀ o ∈ pg.orders, ∀ t ∈ pg.ticketsOf o.id, test o t = false) :
    pg.ordersWithTicket test = [] := by
  have none : (pg.orders.filter fun o => (pg.ticketsOf o.id).any (test o)) = [] := by
    rw [List.filter_eq_nil_iff]
    intro o stored some
    obtain ⟨t, mem, passes⟩ := List.any_eq_true.mp some
    rw [fails o stored t mem] at passes
    cases passes
  rw [ordersWithTicket, none]
  rfl

theorem mem_completed {p : Payment} {orderId : ℕ} (mem : p ∈ pg.completedPayments orderId) :
    orderId ∈ pg.completed.map Payment.orderId := by
  obtain ⟨stored, both⟩ := List.mem_filter.mp mem
  obtain ⟨rfl, status⟩ := of_decide_eq_true both
  exact List.mem_map_of_mem (List.mem_filter.mpr ⟨stored, decide_eq_true status⟩)

/-- Every check but `order_total_mismatch` follows from the life of the orders and from the index of
the seats. -/
theorem postgresChecks_ok {check : PgCheck} (mem : check ∈ pgChecks)
    (other : check.name ≠ "order_total_mismatch") (cycle : pg.LifeCycle)
    (seats : pg.seatIndex.Nodup) : check.rows pg = [] := by
  have shape : ∀ o ∈ pg.orders, ∃ phase, pg.HasShape o phase := fun o stored =>
    (cycle.shape stored).1.exists
  simp only [pgChecks, List.mem_cons, List.not_mem_nil, or_false] at mem
  rcases mem with rfl | rfl | rfl | rfl | rfl | rfl | rfl
  · simp only [duplicateActiveSeats, repeated_of_nodup seats, List.map_nil]
  · simp only [doubleChargedOrders, repeated_of_nodup cycle.paid_once, List.map_nil]
  · simp only [confirmedWithoutPayment, List.map_eq_nil_iff, List.filter_eq_nil_iff,
      decide_eq_true_eq, not_and, not_not]
    intro o stored confirmed
    obtain ⟨phase, has⟩ := shape o stored
    cases phase with
    | pending => cases confirmed.symm.trans has.1
    | expired => cases confirmed.symm.trans has.1
    | confirmed =>
      obtain ⟨-, -, -, p, paid, -⟩ := has
      exact mem_completed (paid ▸ List.mem_singleton_self p)
  · simp only [paymentAmountMismatch, List.map_eq_nil_iff, List.filter_eq_nil_iff,
      decide_eq_true_eq, not_and, not_not]
    intro o stored paid
    obtain ⟨phase, has⟩ := shape o stored
    cases phase with
    | pending => exact absurd has.2.2 paid
    | expired => exact absurd has.2.2 paid
    | confirmed =>
      obtain ⟨-, -, -, p, one, amount⟩ := has
      rw [one, List.map_singleton, List.sum_singleton, amount]
  · exact absurd rfl other
  · refine Postgres.ordersWithTicket_eq_nil fun o stored t inOrder => ?_
    obtain ⟨phase, has⟩ := shape o stored
    cases phase with
    | pending => simp [has.1]
    | confirmed => simp [has.1]
    | expired => simp [has.2.1 t inOrder]
  · refine Postgres.ordersWithTicket_eq_nil fun o stored t inOrder => ?_
    obtain ⟨phase, has⟩ := shape o stored
    cases phase with
    | pending => simp [has.1, has.2.1 t inOrder]
    | confirmed => simp [has.1, has.2.1 t inOrder]
    | expired => simp [has.1]

end Tables

/-! ## Read at different moments -/

/-- The table at the moment of each statement. -/
def Reads (start : State) (cfg : Config) (ok : State → Action → Prop) (pg : Postgres) : Prop :=
  ∃ s, Reachable (step cfg) ok start s ∧ s.dbs.pg = pg

/-- **The rows of the booking flow pass the checks of PostgreSQL at every moment.**  Whatever
interleaves, fails or crashes, and although each statement of an attempt reads the tables at another
moment: only `order_total_mismatch` can report a row. -/
theorem postgres_checks_pass {cfg : Config} {ok : State → Action → Prop} {start : State}
    {reads : ℕ → Postgres} (fresh : start.Fresh) (moments : ∀ k, Reads start cfg ok (reads k)) :
    ∀ r ∈ postgresChecks reads, r.name ≠ "order_total_mismatch" → r.ok = true ∧ r.samples = [] := by
  intro r mem other
  obtain ⟨k, inChecks, rfl⟩ := List.mem_mapIdx.mp mem
  obtain ⟨s, reached, same⟩ := moments k
  have clean := postgresChecks_ok (List.getElem_mem inChecks) other
    (lifeCycle_of_reachable fresh reached) (seated_of_reachable fresh reached).distinct
  rw [PgCheck.result, ← same, clean]
  exact ⟨rfl, rfl⟩

/-- Half of the statements run before the order of `paidSchedule` is created, half of them after it
is paid. -/
theorem postgres_checks_pass_sample : ∃ s, run (step Sample.cfg) (Sample.start Sample.floor)
      paidSchedule = some s ∧ s.dbs.pg.orders.length = 1 ∧
    ∀ r ∈ postgresChecks (fun k => if k < 4 then (Sample.start Sample.floor).dbs.pg else s.dbs.pg),
      r.name ≠ "order_total_mismatch" → r.ok = true ∧ r.samples = [] := by
  obtain ⟨s, checked⟩ := Option.isSome_iff_exists.mp (show ((checkedRun (step Sample.cfg)
    (fun _ _ => True) (Sample.start Sample.floor) paidSchedule).filter fun s =>
      s.dbs.pg.orders.length = 1).isSome = true by decide +kernel)
  obtain ⟨ran, one⟩ := Option.filter_eq_some_iff.mp checked
  have moments : ∀ k, Reads (Sample.start Sample.floor) Sample.cfg (fun _ _ => True)
      (if k < 4 then (Sample.start Sample.floor).dbs.pg else s.dbs.pg) := by
    intro k
    by_cases early : k < 4
    · exact ⟨_, .init, (if_pos early).symm⟩
    · exact ⟨s, reachable_of_checkedRun ran, (if_neg early).symm⟩
  exact ⟨s, run_of_checkedRun ran, of_decide_eq_true one,
    postgres_checks_pass (Sample.fresh Sample.floor) moments⟩

end TicketBooking
