import TicketBooking.CounterRelease
import TicketBooking.Lib.SmallestFirst
import TicketBooking.System

/-!
# A sweep in batches

A sweep that runs by itself claims the overdue orders in batches, and every batch is a transaction
and a release of its own.  `Databases.sweptAtOnce` is the same sweep in one go: the first `k`
overdue orders expire and their seats are taken from the counters.

* `sweptAtOnce_add`: sweeping `k` orders and then `k'` is sweeping `k + k'`.
* `sweep_loop`: the batch loop, by induction on the batches left.
* `sweep_batches_at_once`: the call ends, and what it leaves depends on the number of expired orders
  only.
-/

namespace TicketBooking

open GroupCount ListUpdate SmallestFirst StepSystem

theorem Databases.eq_of_tables {a b : Databases} (users : a.pg.users = b.pg.users)
    (orders : a.pg.orders = b.pg.orders) (tickets : a.pg.tickets = b.pg.tickets)
    (payments : a.pg.payments = b.pg.payments) (outbox : a.pg.outbox = b.pg.outbox)
    (drawn : a.pg.orderIdsDrawn = b.pg.orderIdsDrawn) (mongo : a.mongo = b.mongo) : a = b := by
  rcases a with ⟨⟨_, _, _, _, _, _⟩, _⟩
  rcases b with ⟨⟨_, _, _, _, _, _⟩, _⟩
  cases users
  cases orders
  cases tickets
  cases payments
  cases outbox
  cases drawn
  cases mongo
  rfl

/-! ## Sweeping at once -/

/-- The overdue pending orders. -/
def Postgres.overdueOrders (pg : Postgres) (now : ℤ) : List Order :=
  pg.orders.filter fun o => o.overdue now

/-- The first `k` of them by `(expires_at, id)`. -/
def Postgres.firstOverdue (pg : Postgres) (now : ℤ) (k : ℕ) : List Order :=
  smallest sweepKey k (pg.overdueOrders now)

/-- The first `k` overdue orders expire with one event each, their held tickets are cancelled, and
each counter loses the cancelled tickets of its zone. -/
def Databases.sweptAtOnce (dbs : Databases) (now : ℤ) (k : ℕ) : Databases :=
  let first := dbs.pg.firstOverdue now k
  let ids := first.map Order.id
  { pg := { dbs.pg with
      orders := dbs.pg.orders.map fun o => if o.id ∈ ids then { o with status := .expired } else o
      tickets := dbs.pg.tickets.map fun t =>
        if t.orderId ∈ ids ∧ t.status = .held then { t with status := .cancelled } else t
      outbox := dbs.pg.outbox ++
        first.map fun o => seatHoldExpiredEvent "cron_cleanup" (o.id, o.orderNumber) }
    mongo := dbs.mongo.release (dbs.pg.heldCounts ids) }

/-- The ids of the orders are distinct, and the catalog counts. -/
structure Databases.Sweepable (dbs : Databases) : Prop where
  ids : (dbs.pg.orders.map Order.id).Nodup
  counting : dbs.mongo.Counting

section AtOnce

variable {dbs : Databases} {pg : Postgres} {now : ℤ} {k k' : ℕ}

theorem Postgres.overdue_keys (ids : (pg.orders.map Order.id).Nodup) :
    ((pg.overdueOrders now).map sweepKey).Nodup := by
  apply List.Nodup.of_map fun key => (ofLex key).2
  rw [List.map_map]
  exact ids.sublist (List.filter_sublist.map Order.id)

/-- The batch a sweep claims when nobody else holds a row. -/
theorem Postgres.claimOverdue_alone (pg : Postgres) (now : ℤ) (batchSize : ℕ) :
    pg.claimOverdue [] now batchSize =
      (pg.firstOverdue now batchSize).map fun o => (o.id, o.orderNumber) := by
  have free : (pg.orders.filter fun o => o.overdue now && decide (o.id ∉ ([] : List ℕ))) =
      pg.overdueOrders now := by
    apply List.filter_congr
    intro o _
    rw [decide_eq_true List.not_mem_nil, Bool.and_true]
  rw [claimOverdue, free]
  rfl

/-- The transaction of a batch. -/
theorem Databases.sweptAtOnce_pg (dbs : Databases) (now : ℤ) (k : ℕ) :
    (dbs.sweptAtOnce now k).pg =
      cleanupTx dbs.pg ((dbs.pg.firstOverdue now k).map fun o => (o.id, o.orderNumber)) := by
  rw [cleanupTx, Postgres.expireHolds, List.map_map, List.map_map]
  rfl

theorem Databases.Sweepable.sweptAtOnce (sweepable : dbs.Sweepable) (now : ℤ) (k : ℕ) :
    (dbs.sweptAtOnce now k).Sweepable where
  ids := by
    have ids : (dbs.sweptAtOnce now k).pg.orders.map Order.id = dbs.pg.orders.map Order.id := by
      simp only [Databases.sweptAtOnce, List.map_map]
      apply List.map_congr_left
      intro o _
      rw [Function.comp_apply]
      split <;> rfl
    rw [ids]
    exact sweepable.ids
  counting := sweepable.counting.release _

/-- Sweeping more orders than there are. -/
theorem Databases.sweptAtOnce_min (dbs : Databases) (now : ℤ) (k : ℕ) :
    dbs.sweptAtOnce now (min k (dbs.pg.overdueOrders now).length) = dbs.sweptAtOnce now k := by
  rw [sweptAtOnce, Postgres.firstOverdue, smallest_min, sweptAtOnce, Postgres.firstOverdue]

/-- Sweeping nothing. -/
theorem Databases.Sweepable.sweptAtOnce_zero (sweepable : dbs.Sweepable) (now : ℤ) :
    dbs.sweptAtOnce now 0 = dbs := by
  have none : dbs.pg.firstOverdue now 0 = [] := by
    rw [Postgres.firstOverdue, smallest, List.take_zero]
  have counts : dbs.mongo.release (dbs.pg.heldCounts []) = dbs.mongo := by
    apply Catalog.release_zero sweepable.counting
    intro oid name
    rw [Postgres.heldCounts, List.countP_eq_zero]
    intro t _ held
    exact List.not_mem_nil (of_decide_eq_true held).1.1
  simp only [Databases.sweptAtOnce, none, List.map_nil, counts, List.not_mem_nil, false_and,
    ↓reduceIte, List.map_id', List.append_nil]

theorem Postgres.mem_of_mem_firstOverdue {o : Order} (first : o ∈ pg.firstOverdue now k) :
    o ∈ pg.orders :=
  List.mem_of_mem_filter (mem_of_mem_smallest first)

/-- The orders that are still overdue after the first ones expired. -/
theorem overdueOrders_sweptAtOnce (ids : (dbs.pg.orders.map Order.id).Nodup) :
    (dbs.sweptAtOnce now k).pg.overdueOrders now = (dbs.pg.overdueOrders now).filter fun o =>
      o ∉ dbs.pg.firstOverdue now k := by
  have named : ∀ o ∈ dbs.pg.orders, o.id ∈ (dbs.pg.firstOverdue now k).map Order.id ↔
      o ∈ dbs.pg.firstOverdue now k := by
    intro o mem
    rw [List.mem_map]
    constructor
    · rintro ⟨o', first, same⟩
      rwa [← List.inj_on_of_nodup_map ids (Postgres.mem_of_mem_firstOverdue first) mem same]
    · exact fun first => ⟨o, first, rfl⟩
  have orders : (dbs.sweptAtOnce now k).pg.orders =
      dbs.pg.orders.map (Order.expire ((dbs.pg.firstOverdue now k).map Order.id)) := rfl
  have after : ∀ o ∈ dbs.pg.orders,
      (Order.expire ((dbs.pg.firstOverdue now k).map Order.id) o).overdue now =
        (decide (o ∉ dbs.pg.firstOverdue now k) && o.overdue now) := by
    intro o mem
    by_cases first : o ∈ dbs.pg.firstOverdue now k
    · rw [Order.expire, if_pos ((named o mem).mpr first), decide_eq_false (not_not.mpr first)]
      rfl
    · rw [Order.expire, if_neg (mt (named o mem).mp first), decide_eq_true first, Bool.true_and]
  rw [Postgres.overdueOrders, orders, List.filter_map, Postgres.overdueOrders, List.filter_filter]
  conv_rhs => rw [← List.map_id (List.filter _ _)]
  have kept : dbs.pg.orders.filter ((fun o => o.overdue now) ∘
      Order.expire ((dbs.pg.firstOverdue now k).map Order.id)) =
      dbs.pg.orders.filter fun o => decide (o ∉ dbs.pg.firstOverdue now k) && o.overdue now :=
    List.filter_congr after
  rw [kept]
  apply List.map_congr_left
  intro o kept
  rw [List.mem_filter, Bool.and_eq_true, decide_eq_true_iff] at kept
  exact if_neg (mt (named o kept.1).mp kept.2.1)

/-- The first `k + k'` orders are the first `k` and the first `k'` of the rest. -/
theorem firstOverdue_add (ids : (dbs.pg.orders.map Order.id).Nodup) :
    dbs.pg.firstOverdue now (k + k') =
      dbs.pg.firstOverdue now k ++ (dbs.sweptAtOnce now k).pg.firstOverdue now k' := by
  rw [Postgres.firstOverdue, smallest_add k k' (Postgres.overdue_keys ids)]
  congr 1
  rw [Postgres.firstOverdue, overdueOrders_sweptAtOnce ids]
  rfl

theorem Order.expire_expire (ids ids' : List ℕ) (o : Order) :
    (o.expire ids).expire ids' = o.expire (ids ++ ids') := by
  by_cases first : o.id ∈ ids
  · have once : o.expire ids = { o with status := .expired } := if_pos first
    rw [once, expire, expire, if_pos (List.mem_append_left ids' first), ite_self]
  · have kept : o.expire ids = o := if_neg first
    have second : o.id ∈ ids ++ ids' ↔ o.id ∈ ids' := by rw [List.mem_append, or_iff_right first]
    rw [kept, expire, expire]
    exact (if_congr second rfl rfl).symm

/-- A cancelled ticket is not held any more. -/
theorem Ticket.cancelled_again (ids ids' : List ℕ) (t : Ticket) :
    (t.fromHeld ids .cancelled).fromHeld ids' .cancelled = t.fromHeld (ids ++ ids') .cancelled := by
  by_cases first : t.orderId ∈ ids ∧ t.status = .held
  · have once : t.fromHeld ids .cancelled = { t with status := .cancelled } := if_pos first
    have both : t.orderId ∈ ids ++ ids' ∧ t.status = .held :=
      ⟨List.mem_append_left ids' first.1, first.2⟩
    rw [once, fromHeld, fromHeld, if_pos both]
    exact if_neg fun again => TicketStatus.noConfusion again.2
  · have kept : t.fromHeld ids .cancelled = t := if_neg first
    have second : t.orderId ∈ ids ++ ids' ∧ t.status = .held ↔
        t.orderId ∈ ids' ∧ t.status = .held := by
      rw [List.mem_append, or_and_right, or_iff_right first]
    rw [kept, fromHeld, fromHeld]
    exact (if_congr second rfl rfl).symm

/-- The held tickets of some orders, and those of other orders once the first are cancelled. -/
theorem Postgres.heldCounts_append (pg pg' : Postgres) (ids ids' : List ℕ)
    (tickets : pg'.tickets = pg.tickets.map (Ticket.fromHeld ids .cancelled)) (oid : ObjectId)
    (name : String) :
    pg.heldCounts ids oid name + pg'.heldCounts ids' oid name =
      pg.heldCounts (ids ++ ids') oid name := by
  rw [heldCounts, heldCounts, heldCounts, tickets, List.countP_map]
  apply countP_add
  intro t _
  rw [Function.comp_apply]
  by_cases first : t.orderId ∈ ids ∧ t.status = .held
  · have both : t.orderId ∈ ids ++ ids' ∧ t.status = .held :=
      ⟨List.mem_append_left ids' first.1, first.2⟩
    have again : ¬((t.fromHeld ids .cancelled).orderId ∈ ids' ∧
        (t.fromHeld ids .cancelled).status = .held) := by
      rw [Ticket.fromHeld, if_pos first]
      exact fun held => TicketStatus.noConfusion held.2
    simp only [first, both, again, true_and, and_self, false_and, decide_false, Bool.toNat_false,
      Nat.add_zero]
  · have second : t.orderId ∈ ids ++ ids' ∧ t.status = .held ↔
        t.orderId ∈ ids' ∧ t.status = .held := by
      rw [List.mem_append, or_and_right, or_iff_right first]
    have kept : t.fromHeld ids .cancelled = t := if_neg first
    simp only [first, second, kept, false_and, decide_false, Bool.toNat_false, Nat.zero_add]

/-- **Two sweeps in a row are one.** -/
theorem sweptAtOnce_add (sweepable : dbs.Sweepable) (now : ℤ) (k k' : ℕ) :
    (dbs.sweptAtOnce now k).sweptAtOnce now k' = dbs.sweptAtOnce now (k + k') := by
  have first := @firstOverdue_add dbs now k k' sweepable.ids
  have ids : (dbs.pg.firstOverdue now (k + k')).map Order.id =
      (dbs.pg.firstOverdue now k).map Order.id ++
        ((dbs.sweptAtOnce now k).pg.firstOverdue now k').map Order.id := by
    rw [first, List.map_append]
  have orders : ((dbs.sweptAtOnce now k).sweptAtOnce now k').pg.orders =
      (dbs.sweptAtOnce now (k + k')).pg.orders := by
    calc ((dbs.sweptAtOnce now k).sweptAtOnce now k').pg.orders =
        (dbs.pg.orders.map (Order.expire ((dbs.pg.firstOverdue now k).map Order.id))).map
          (Order.expire (((dbs.sweptAtOnce now k).pg.firstOverdue now k').map Order.id)) := rfl
      _ = dbs.pg.orders.map (Order.expire ((dbs.pg.firstOverdue now (k + k')).map Order.id)) := by
          rw [List.map_map, ids]
          exact List.map_congr_left fun o _ => o.expire_expire _ _
  have tickets : ((dbs.sweptAtOnce now k).sweptAtOnce now k').pg.tickets =
      (dbs.sweptAtOnce now (k + k')).pg.tickets := by
    calc ((dbs.sweptAtOnce now k).sweptAtOnce now k').pg.tickets =
        (dbs.pg.tickets.map
          (Ticket.fromHeld ((dbs.pg.firstOverdue now k).map Order.id) .cancelled)).map
          (Ticket.fromHeld (((dbs.sweptAtOnce now k).pg.firstOverdue now k').map Order.id)
            .cancelled) := rfl
      _ = dbs.pg.tickets.map
          (Ticket.fromHeld ((dbs.pg.firstOverdue now (k + k')).map Order.id) .cancelled) := by
          rw [List.map_map, ids]
          exact List.map_congr_left fun t _ => t.cancelled_again _ _
  have outbox : ((dbs.sweptAtOnce now k).sweptAtOnce now k').pg.outbox =
      (dbs.sweptAtOnce now (k + k')).pg.outbox := by
    calc ((dbs.sweptAtOnce now k).sweptAtOnce now k').pg.outbox =
        (dbs.pg.outbox ++ (dbs.pg.firstOverdue now k).map fun o =>
            seatHoldExpiredEvent "cron_cleanup" (o.id, o.orderNumber)) ++
          ((dbs.sweptAtOnce now k).pg.firstOverdue now k').map fun o =>
            seatHoldExpiredEvent "cron_cleanup" (o.id, o.orderNumber) := rfl
      _ = dbs.pg.outbox ++ (dbs.pg.firstOverdue now (k + k')).map fun o =>
            seatHoldExpiredEvent "cron_cleanup" (o.id, o.orderNumber) := by
          rw [first, List.map_append, List.append_assoc]
  have mongo : ((dbs.sweptAtOnce now k).sweptAtOnce now k').mongo =
      (dbs.sweptAtOnce now (k + k')).mongo := by
    calc ((dbs.sweptAtOnce now k).sweptAtOnce now k').mongo =
        (dbs.mongo.release (dbs.pg.heldCounts
          ((dbs.pg.firstOverdue now k).map Order.id))).release
            ((dbs.sweptAtOnce now k).pg.heldCounts
              (((dbs.sweptAtOnce now k).pg.firstOverdue now k').map Order.id)) := rfl
      _ = dbs.mongo.release (dbs.pg.heldCounts
          ((dbs.pg.firstOverdue now (k + k')).map Order.id)) := by
          rw [Catalog.release_release, ids]
          congr 1
          funext oid name
          exact Postgres.heldCounts_append _ _ _ _ rfl oid name
  exact Databases.eq_of_tables rfl orders tickets rfl outbox rfl mongo

end AtOnce

/-! ## The call by itself -/

/-- The next database access of a sweep at a fixed time, when nobody else holds a row and nothing
fails. -/
def SweepTick (now : ℤ) (x y : Databases × SweepCall) : Prop :=
  ∀ draw : Draw, draw.now = now → x.2.step x.1 [] .none draw = some y

/-- A call that makes such accesses ends where they lead. -/
theorem run_of_ticks (cfg : Config) {calls : List Call} {now : ℤ} {x y : Databases × SweepCall}
    (nobody : calls.flatMap Call.locks = []) (ticks : Relation.ReflTransGen (SweepTick now) x y) :
    ∃ n, ∀ environment : ℕ → Draw, (∀ i, (environment i).now = now) →
      run (step cfg) ⟨x.1, calls ++ [.sweep x.2]⟩
          (alone calls.length ((List.range n).map fun i => (.none, environment i))) =
        some ⟨y.1, calls ++ [.sweep y.2]⟩ := by
  induction ticks using Relation.ReflTransGen.head_induction_on with
  | refl => exact ⟨0, fun _ _ => rfl⟩
  | head tick _ ih =>
    obtain ⟨n, rest⟩ := ih
    refine ⟨n + 1, fun environment fixed => ?_⟩
    have schedule : ((List.range (n + 1)).map fun i => (Fault.none, environment i)) =
        (.none, environment 0) :: (List.range n).map fun i => (.none, environment (i + 1)) := by
      rw [List.range_succ_eq_map, List.map_cons, List.map_map]
      rfl
    rw [schedule, run_alone_cons, Call.step, nobody, tick _ (fixed 0), Option.map_some,
      Option.bind_some]
    exact rest (fun i => environment (i + 1)) fun i => fixed (i + 1)

/-- The MongoDB calls of one batch. -/
theorem sweep_releases (now : ℤ) (pg : Postgres) {mongo : Catalog} (counting : mongo.Counting)
    (c : SweepCall) (expired : ℕ) (groups : List SeatGroup) :
    Relation.ReflTransGen (SweepTick now) (⟨pg, mongo⟩, c.goto (.releasing expired (.start groups)))
      (⟨pg, mongo.release (groupCounts groups)⟩, c.goto (.releasing expired (.start []))) := by
  apply (release_groups counting groups).lift fun r : Catalog × SeatRelease =>
    ((⟨pg, r.1⟩ : Databases), c.goto (.releasing expired r.2))
  intro r r' tick draw _
  cases tick
  rfl

/-- One turn of the batch loop is a sweep of one batch at once. -/
theorem sweep_batch {dbs : Databases} (sweepable : dbs.Sweepable) (now : ℤ) {c : SweepCall}
    (at_pc : c.pc = .claim) (batches : c.batchesLeft ≠ 0) (positive : 0 < c.batchSize) :
    Relation.ReflTransGen (SweepTick now) (dbs, c)
      (dbs.sweptAtOnce now c.batchSize, c.next (dbs.pg.firstOverdue now c.batchSize).length) := by
  have claim := dbs.pg.claimOverdue_alone now c.batchSize
  cases first : dbs.pg.firstOverdue now c.batchSize with
  | nil =>
    rw [first, List.map_nil] at claim
    have none : dbs.pg.overdueOrders now = [] := (smallest_eq_nil_iff positive).mp first
    have same : dbs.sweptAtOnce now c.batchSize = dbs := by
      rw [← dbs.sweptAtOnce_min, none, List.length_nil, Nat.min_zero, sweepable.sweptAtOnce_zero]
    rw [same]
    apply Relation.ReflTransGen.single
    intro draw fixed
    simp only [SweepCall.step, at_pc, if_neg batches, fixed, claim, List.length_nil]
  | cons o rest =>
    have ids : (dbs.pg.firstOverdue now c.batchSize).map Order.id =
        ((o.id, o.orderNumber) :: rest.map fun o => (o.id, o.orderNumber)).map Prod.fst := by
      rw [first, List.map_cons, List.map_cons, List.map_map]
      rfl
    have length : (o :: rest).length =
        ((o.id, o.orderNumber) :: rest.map fun o => (o.id, o.orderNumber)).length := by
      rw [List.length_cons, List.length_cons, List.length_map]
    have pg := dbs.sweptAtOnce_pg now c.batchSize
    have mongo : (dbs.sweptAtOnce now c.batchSize).mongo = dbs.mongo.release
        (dbs.pg.heldCounts ((dbs.pg.firstOverdue now c.batchSize).map Order.id)) := rfl
    rw [first, List.map_cons] at claim pg
    rw [ids] at mongo
    rw [length]
    generalize (o.id, o.orderNumber) = row at claim pg mongo
    generalize rest.map (fun o => (o.id, o.orderNumber)) = rows at claim pg mongo
    have claims : SweepTick now (dbs, c) (dbs, c.goto (.claimed (row :: rows))) := by
      intro draw fixed
      simp only [SweepCall.step, at_pc, if_neg batches, fixed, claim]
    have expires : SweepTick now (dbs, c.goto (.claimed (row :: rows)))
        (⟨cleanupTx dbs.pg (row :: rows), dbs.mongo⟩, c.goto (.releasing (row :: rows).length
          (.start (dbs.pg.heldGroups ((row :: rows).map Prod.fst))))) := fun _ _ => rfl
    have releases := sweep_releases now (cleanupTx dbs.pg (row :: rows)) sweepable.counting c
      (row :: rows).length (dbs.pg.heldGroups ((row :: rows).map Prod.fst))
    have swept : dbs.sweptAtOnce now c.batchSize = ⟨cleanupTx dbs.pg (row :: rows),
        dbs.mongo.release (groupCounts (dbs.pg.heldGroups ((row :: rows).map Prod.fst)))⟩ := by
      rw [groupCounts_heldGroups, ← pg, ← mongo]
    have ends : SweepTick now
        (dbs.sweptAtOnce now c.batchSize, c.goto (.releasing (row :: rows).length (.start [])))
        (dbs.sweptAtOnce now c.batchSize, c.next (row :: rows).length) := fun _ _ => rfl
    rw [← swept] at releases
    exact .head claims (.head expires (releases.trans (.single ends)))

/-- The batch loop. -/
theorem sweep_loop (now : ℤ) {batchSize : ℕ} (positive : 0 < batchSize) (batches : ℕ)
    {dbs : Databases} (sweepable : dbs.Sweepable) (total : ℕ) :
    ∃ c : SweepCall, c.pc = .done (.ok (total +
        min (dbs.pg.overdueOrders now).length (batchSize * batches))) ∧
      Relation.ReflTransGen (SweepTick now) (dbs, ⟨batchSize, batches, total, .claim⟩)
        (dbs.sweptAtOnce now (min (dbs.pg.overdueOrders now).length (batchSize * batches)), c) := by
  induction batches generalizing dbs total with
  | zero =>
    have ends : SweepTick now (dbs, ⟨batchSize, 0, total, .claim⟩)
        (dbs, ⟨batchSize, 0, total, .done (.ok total)⟩) := fun _ _ => rfl
    rw [Nat.mul_zero, Nat.min_zero, sweepable.sweptAtOnce_zero]
    exact ⟨_, rfl, .single ends⟩
  | succ batches ih =>
    have batch := sweep_batch sweepable now (c := ⟨batchSize, batches + 1, total, .claim⟩) rfl
      (Nat.succ_ne_zero batches) positive
    have swept : (dbs.pg.firstOverdue now batchSize).length =
        min batchSize (dbs.pg.overdueOrders now).length := length_smallest ..
    have enough : batchSize ≤ batchSize * (batches + 1) :=
      Nat.le_mul_of_pos_right _ (Nat.succ_pos batches)
    rw [swept, SweepCall.next] at batch
    by_cases last : (dbs.pg.overdueOrders now).length < batchSize
    · have all : min (dbs.pg.overdueOrders now).length (batchSize * (batches + 1)) =
          min batchSize (dbs.pg.overdueOrders now).length := by omega
      rw [all, dbs.sweptAtOnce_min]
      rw [if_pos (by dsimp only; omega)] at batch
      exact ⟨_, rfl, batch⟩
    · have full : min batchSize (dbs.pg.overdueOrders now).length = batchSize := by omega
      have left : ((dbs.sweptAtOnce now batchSize).pg.overdueOrders now).length =
          (dbs.pg.overdueOrders now).length - batchSize := by
        rw [overdueOrders_sweptAtOnce sweepable.ids]
        exact length_rest batchSize (Postgres.overdue_keys sweepable.ids)
      have together : batchSize + min ((dbs.pg.overdueOrders now).length - batchSize)
          (batchSize * batches) =
          min (dbs.pg.overdueOrders now).length (batchSize * (batches + 1)) := by
        rw [Nat.mul_succ]
        omega
      rw [full, if_neg (Nat.lt_irrefl batchSize)] at batch
      obtain ⟨c, ended, rest⟩ := ih (sweepable.sweptAtOnce now batchSize) (total + batchSize)
      rw [left, sweptAtOnce_add sweepable, together] at rest
      rw [left, Nat.add_assoc, together] at ended
      exact ⟨c, ended, batch.trans rest⟩

/-- **A sweep in batches is a sweep at once.**  Alone and without faults the call ends, it returns
the number of orders it expired, and the databases it leaves are those of that many orders swept
together, however they were cut into batches. -/
theorem sweep_batches_at_once (cfg : Config) {dbs : Databases} {calls : List Call} (now : ℤ)
    {batchSize maxBatches : ℕ} (batch : 1 ≤ batchSize) (batches : 1 ≤ maxBatches)
    (nobody : calls.flatMap Call.locks = []) (ids : (dbs.pg.orders.map Order.id).Nodup)
    (distinct : ∀ d ∈ dbs.mongo.docs, (d.zones.map Zone.name).Nodup)
    (counters : ∀ d ∈ dbs.mongo.docs, ∀ z ∈ d.zones, 0 ≤ z.bookedCount) :
    let expired := min (dbs.pg.overdueOrders now).length (batchSize * maxBatches)
    ∃ (n : ℕ) (c : SweepCall), c.pc = .done (.ok expired) ∧
      ∀ environment : ℕ → Draw, (∀ i, (environment i).now = now) →
        run (step cfg) ⟨dbs, calls⟩ (.spawn (.cleanup (some batchSize) (some maxBatches)) ::
            alone calls.length ((List.range n).map fun i => (.none, environment i))) =
          some ⟨dbs.sweptAtOnce now expired, calls ++ [.sweep c]⟩ := by
  have given : ∀ {k : ℕ} (default : ℕ), 1 ≤ k → orDefault (some k) default = k := by
    intro k default positive
    rw [orDefault, Option.filter_some, if_pos (decide_eq_true (Nat.ne_of_gt positive)),
      Option.getD_some]
  have spawns : step cfg ⟨dbs, calls⟩ (.spawn (.cleanup (some batchSize) (some maxBatches))) =
      some ⟨dbs, calls ++ [.sweep ⟨batchSize, maxBatches, 0, .claim⟩]⟩ := by
    rw [step, Request.start, SweepCall.start, given _ batch, given _ batches]
  obtain ⟨c, ended, ticks⟩ := sweep_loop now batch maxBatches ⟨ids, distinct, counters⟩ 0
  rw [Nat.zero_add] at ended
  obtain ⟨n, ran⟩ := run_of_ticks cfg nobody ticks
  refine ⟨n, c, ended, fun environment fixed => ?_⟩
  rw [run_cons, spawns, Option.bind_some]
  exact ran environment fixed

namespace SweepSample

def order (id : ℕ) (expiresAt : ℤ) : Order :=
  ⟨id, "ORD", 1, 10, .pending, "promptpay", some expiresAt, none, 0⟩

def ticket (orderId : ℕ) (seatZone : String) : Ticket :=
  ⟨orderId, Sample.oid.hex, seatZone, none, 10, .held⟩

/-- Three overdue orders and one in time.  The counter of the second zone is too low. -/
def dbs : Databases where
  pg := {
    users := [1]
    orders := [order 1 5, order 2 3, order 3 50, order 4 4]
    tickets := [ticket 1 "A", ticket 1 "B", ticket 2 "B", ticket 3 "A", ticket 4 "A"]
    payments := []
    outbox := []
    orderIdsDrawn := [1, 2, 3, 4] }
  mongo := {
    docs := [⟨Sample.oid, "Show", [⟨"A", 10, 100, 7⟩, ⟨"B", 10, 100, 1⟩]⟩]
    ids_nodup := List.nodup_singleton _ }

end SweepSample

/-- Batches of two orders: all three orders expire, and no counter becomes negative. -/
theorem sweep_batches_at_once_sample :
    (∃ (n : ℕ) (c : SweepCall), c.pc = .done (.ok 3) ∧
      ∀ environment : ℕ → Draw, (∀ i, (environment i).now = 10) →
        run (step Sample.cfg) ⟨SweepSample.dbs, []⟩ (.spawn (.cleanup (some 2) (some 5)) ::
            alone 0 ((List.range n).map fun i => (.none, environment i))) =
          some ⟨SweepSample.dbs.sweptAtOnce 10 3, [.sweep c]⟩) ∧
    (SweepSample.dbs.sweptAtOnce 10 3).mongo.docs =
      [⟨Sample.oid, "Show", [⟨"A", 10, 100, 5⟩, ⟨"B", 10, 100, 0⟩]⟩] := by
  refine ⟨?_, by decide⟩
  exact @sweep_batches_at_once Sample.cfg SweepSample.dbs [] 10 2 5 (by decide) (by decide) rfl
    (by decide) (by decide) (by decide)

end TicketBooking
