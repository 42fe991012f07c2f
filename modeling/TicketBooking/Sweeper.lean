import TicketBooking.CreateCall

/-!
# Sweeping expired holds

`cleanup_expired_seat_holds` and `_sweep_one_batch` (`app/services/order_service.py`) as a machine:
it claims overdue rows with SKIP LOCKED, commits their expiry, releases the counted seats, and goes
on with the next batch.  `SweepStep` lists everything a step can do.
-/

namespace TicketBooking

/-- `ORDER BY expires_at, id` -/
def sweepKey (order : Order) : ℤ ×ₗ ℕ := toLex (order.expiresAt.getD 0, order.id)

def Order.overdue (order : Order) (now : ℤ) : Bool :=
  order.status = .pending && order.expiresAt.any (· < now)

/-- `SELECT id, order_number ... WHERE status = 'pending' AND expires_at < now ORDER BY expires_at,
id LIMIT batch_size FOR UPDATE SKIP LOCKED` -/
def Postgres.claimOverdue (pg : Postgres) (lockedElsewhere : List ℕ) (now : ℤ) (batchSize : ℕ) :
    List (ℕ × String) :=
  (((pg.orders.filter fun o => o.overdue now && o.id ∉ lockedElsewhere).insertionSort
    fun a b => sweepKey a ≤ sweepKey b).take batchSize).map fun o => (o.id, o.orderNumber)

/-- A claimed row is a pending order nobody else holds. -/
theorem Postgres.claimOverdue_mem {pg : Postgres} {lockedElsewhere : List ℕ} {now : ℤ}
    {batchSize : ℕ} {row : ℕ × String}
    (claimed : row ∈ pg.claimOverdue lockedElsewhere now batchSize) :
    row.1 ∉ lockedElsewhere ∧
      ∃ o ∈ pg.orders, o.id = row.1 ∧ o.orderNumber = row.2 ∧ o.status = .pending := by
  obtain ⟨o, taken, rfl⟩ := List.mem_map.mp claimed
  have sorted := List.mem_of_mem_take taken
  rw [List.mem_insertionSort, List.mem_filter] at sorted
  simp only [Order.overdue, Bool.and_eq_true, decide_eq_true_eq] at sorted
  obtain ⟨stored, ⟨pending, -⟩, free⟩ := sorted
  exact ⟨free, o, stored, rfl, rfl, pending⟩

/-- No row is claimed twice in one batch. -/
theorem Postgres.claimOverdue_nodup {pg : Postgres} (ids : (pg.orders.map Order.id).Nodup)
    (lockedElsewhere : List ℕ) (now : ℤ) (batchSize : ℕ) :
    ((pg.claimOverdue lockedElsewhere now batchSize).map Prod.fst).Nodup := by
  rw [claimOverdue, List.map_map]
  have filtered : ((pg.orders.filter fun o => o.overdue now && o.id ∉ lockedElsewhere).map
      Order.id).Nodup := ids.sublist (List.filter_sublist.map _)
  have sorted := (((pg.orders.filter fun o =>
    o.overdue now && o.id ∉ lockedElsewhere).perm_insertionSort
    fun a b => sweepKey a ≤ sweepKey b).map Order.id).nodup_iff.mpr filtered
  exact sorted.sublist ((List.take_sublist _ _).map _)

inductive SweepPc
  | claim
  /-- The rows are locked FOR UPDATE. -/
  | claimed (rows : List (ℕ × String))
  | releasing (expired : ℕ) (release : SeatRelease)
  | done (outcome : Except DbExc ℕ)
  | crashed
deriving DecidableEq

structure SweepCall where
  batchSize : ℕ
  batchesLeft : ℕ
  total : ℕ
  pc : SweepPc
deriving DecidableEq

/-- `settings.SWEEP_BATCH_SIZE` and `settings.SWEEP_MAX_BATCHES` -/
structure Settings where
  sweepBatchSize : ℕ := 500
  sweepMaxBatches : ℕ := 20
deriving DecidableEq

/-- `argument or default`: zero is falsy. -/
def orDefault (argument : Option ℕ) (default : ℕ) : ℕ := (argument.filter (· ≠ 0)).getD default

def SweepCall.start (settings : Settings) (batchSize maxBatches : Option ℕ) : SweepCall :=
  ⟨orDefault batchSize settings.sweepBatchSize, orDefault maxBatches settings.sweepMaxBatches, 0,
    .claim⟩

def SweepCall.goto (c : SweepCall) (pc : SweepPc) : SweepCall := { c with pc := pc }

@[simp] theorem SweepCall.goto_pc (c : SweepCall) (pc : SweepPc) : (c.goto pc).pc = pc := rfl

/-- The end of one turn of the batch loop, in which `expired` orders were expired. -/
def SweepCall.next (c : SweepCall) (expired : ℕ) : SweepCall where
  batchSize := c.batchSize
  batchesLeft := c.batchesLeft - 1
  total := c.total + expired
  pc := if expired < c.batchSize then .done (.ok (c.total + expired)) else .claim

def cleanupTx (pg : Postgres) (rows : List (ℕ × String)) : Postgres :=
  pg.expireHolds rows "cron_cleanup"

/-- The next database access of the call. -/
def SweepCall.step (dbs : Databases) (lockedElsewhere : List ℕ) (fault : Fault) (draw : Draw)
    (c : SweepCall) : Option (Databases × SweepCall) :=
  match c.pc with
  | .claim =>
    if c.batchesLeft = 0 then some (dbs, c.goto (.done (.ok c.total)))
    else
      match fault with
      | .pgRaised exc _ => some (dbs, c.goto (.done (.error exc)))
      | _ =>
        match dbs.pg.claimOverdue lockedElsewhere draw.now c.batchSize with
        | [] => some (dbs, c.next 0)
        | row :: rows => some (dbs, c.goto (.claimed (row :: rows)))
  | .claimed rows =>
    match dbs.pg.transact fault (.ok (cleanupTx dbs.pg rows)) with
    | (pg', none) => some (⟨pg', dbs.mongo⟩,
        c.goto (.releasing rows.length (.start (dbs.pg.heldGroups (rows.map Prod.fst)))))
    | (pg', some exc) => some (⟨pg', dbs.mongo⟩, c.goto (.done (.error exc)))
  | .releasing expired ⟨_, []⟩ => some (dbs, c.next expired)
  | .releasing expired ⟨oneByOne, g :: rest⟩ =>
    let (mongo, release) := releaseStep dbs.mongo fault oneByOne g rest
    some (⟨dbs.pg, mongo⟩, c.goto (.releasing expired release))
  | .done _ => none
  | .crashed => none

/-- Everything a step of the sweeper can do. -/
inductive SweepStep (dbs : Databases) (lockedElsewhere : List ℕ) (fault : Fault) (draw : Draw)
    (c : SweepCall) : Databases → SweepCall → Prop
  | claims {rows : List (ℕ × String)} (at_pc : c.pc = .claim)
    (claimed : dbs.pg.claimOverdue lockedElsewhere draw.now c.batchSize = rows) :
    SweepStep dbs lockedElsewhere fault draw c dbs (c.goto (.claimed rows))
  | nothing (at_pc : c.pc = .claim) : SweepStep dbs lockedElsewhere fault draw c dbs (c.next 0)
  /-- It ends and the databases are as they were. -/
  | ended {outcome : Except DbExc ℕ} (notReleasing : ∀ n r, c.pc ≠ .releasing n r) :
    SweepStep dbs lockedElsewhere fault draw c dbs (c.goto (.done outcome))
  | expired {rows : List (ℕ × String)} (at_pc : c.pc = .claimed rows) :
    SweepStep dbs lockedElsewhere fault draw c ⟨cleanupTx dbs.pg rows, dbs.mongo⟩
      (c.goto (.releasing rows.length (.start (dbs.pg.heldGroups (rows.map Prod.fst)))))
  | expiredReplyLost {rows : List (ℕ × String)} {exc : DbExc} (at_pc : c.pc = .claimed rows)
    (lost : fault = .pgRaised exc true) :
    SweepStep dbs lockedElsewhere fault draw c ⟨cleanupTx dbs.pg rows, dbs.mongo⟩
      (c.goto (.done (.error exc)))
  | releases {n : ℕ} {oneByOne : Bool} {g : SeatGroup} {rest : List SeatGroup}
    (at_pc : c.pc = .releasing n ⟨oneByOne, g :: rest⟩) :
    SweepStep dbs lockedElsewhere fault draw c
      ⟨dbs.pg, (releaseStep dbs.mongo fault oneByOne g rest).1⟩
      (c.goto (.releasing n (releaseStep dbs.mongo fault oneByOne g rest).2))
  | released {n : ℕ} {oneByOne : Bool} (at_pc : c.pc = .releasing n ⟨oneByOne, []⟩) :
    SweepStep dbs lockedElsewhere fault draw c dbs (c.next n)

/-- **Every step of a sweep is one of these.** -/
theorem SweepCall.step_cases {dbs dbs' : Databases} {lockedElsewhere : List ℕ} {fault : Fault}
    {draw : Draw} {c c' : SweepCall}
    (moved : c.step dbs lockedElsewhere fault draw = some (dbs', c')) :
    SweepStep dbs lockedElsewhere fault draw c dbs' c' := by
  unfold step at moved
  split at moved
  case h_1 at_pc =>
    have notReleasing : ∀ n r, c.pc ≠ .releasing n r := fun n r => by rw [at_pc]; nofun
    split at moved
    case isTrue => cases moved; exact .ended notReleasing
    case isFalse =>
      split at moved
      case h_1 => cases moved; exact .ended notReleasing
      case h_2 =>
        split at moved
        case h_1 => cases moved; exact .nothing at_pc
        case h_2 claimed => cases moved; exact .claims at_pc claimed
  case h_2 rows at_pc =>
    have notReleasing : ∀ n r, c.pc ≠ .releasing n r := fun n r => by rw [at_pc]; nofun
    split at moved
    case h_1 replied =>
      cases moved
      cases (Postgres.transact_none replied).1
      exact .expired at_pc
    case h_2 replied =>
      cases moved
      rcases Postgres.transact_some replied with ⟨rfl, -⟩ | ⟨lost, statements⟩
      · exact .ended notReleasing
      · cases statements
        exact .expiredReplyLost at_pc lost
  case h_3 at_pc => cases moved; exact .released at_pc
  case h_4 at_pc => cases moved; exact .releases at_pc
  case h_5 => cases moved
  case h_6 => cases moved

end TicketBooking
