import TicketBooking.Commits
import TicketBooking.Lib.SmallestFirst

/-!
# The outbox worker

`app/services/outbox_worker.py`: every replica runs `run_worker_cycle` over and over.  A cycle
expires overdue seat holds, marks pending outbox rows as processed and deletes old processed rows;
each of the three steps is isolated from the failure of the others.

* The two batch loops are one machine, `BatchCall`, run with either statement; a statement claims
  its rows with FOR UPDATE SKIP LOCKED and holds them until the COMMIT.
* `Deployment` puts any number of cycles next to the running system, whose transactions insert the
  rows.  The outbox of the booking flow is the log of what was ever inserted; here is the table.
* `DeploymentStep` lists everything an action can do.
-/

namespace TicketBooking

open ListUpdate SmallestFirst StepSystem

inductive OutboxStatus
  | pending | processed | failed
deriving DecidableEq

/-- A row of `outbox_events`.  Times are microseconds. -/
structure OutboxRow where
  id : ℕ
  event : OutboxEvent
  status : OutboxStatus
  createdAt : ℤ
  processedAt : Option ℤ
deriving DecidableEq

/-- The table with its history: the deleted rows as they were, and the ids the sequence has handed
out. -/
structure OutboxTable where
  rows : List OutboxRow
  deleted : List OutboxRow
  idsDrawn : List ℕ
deriving DecidableEq

/-- `OUTBOX_BATCH_SIZE`, `OUTBOX_MAX_BATCHES` and `OUTBOX_RETENTION_DAYS` -/
structure OutboxSettings where
  outboxBatchSize : ℕ := 1000
  outboxMaxBatches : ℕ := 20
  outboxRetentionDays : ℤ := 7
deriving DecidableEq

/-- `make_interval(days => 1)` -/
def day : ℤ := 86400 * 10 ^ 6

/-! ## The statements -/

inductive OutboxStatement
  /-- `_MARK_PROCESSED_SQL` -/
  | markProcessed
  /-- `_PURGE_SQL` -/
  | purge (days : ℤ)
deriving DecidableEq

/-- The WHERE clause. -/
def OutboxStatement.selects (now : ℤ) (row : OutboxRow) : OutboxStatement → Bool
  | .markProcessed => row.status = .pending
  | .purge days => row.status = .processed && row.createdAt < now - days * day

/-- `ORDER BY created_at, id`, or `ORDER BY created_at` alone. -/
def OutboxStatement.key (row : OutboxRow) : OutboxStatement → ℤ ×ₗ ℕ
  | .markProcessed => toLex (row.createdAt, row.id)
  | .purge _ => toLex (row.createdAt, 0)

def OutboxTable.candidates (table : OutboxTable) (statement : OutboxStatement) (now : ℤ)
    (lockedElsewhere : List ℕ) : List OutboxRow :=
  table.rows.filter fun row => statement.selects now row && row.id ∉ lockedElsewhere

/-- The candidates with these ids. -/
def OutboxTable.chosen (table : OutboxTable) (statement : OutboxStatement) (now : ℤ)
    (lockedElsewhere ids : List ℕ) : List OutboxRow :=
  (table.candidates statement now lockedElsewhere).filter fun row => row.id ∈ ids

/-- `SELECT id ... LIMIT :batch FOR UPDATE SKIP LOCKED` may answer with these ids. -/
def OutboxTable.Claims (table : OutboxTable) (statement : OutboxStatement) (now : ℤ)
    (lockedElsewhere : List ℕ) (batch : ℕ) (ids : List ℕ) : Prop :=
  IsBatch (fun row => statement.key row) batch (table.candidates statement now lockedElsewhere)
    (table.chosen statement now lockedElsewhere ids)

instance (table : OutboxTable) (statement : OutboxStatement) (now : ℤ) (lockedElsewhere : List ℕ)
    (batch : ℕ) (ids : List ℕ) :
    Decidable (table.Claims statement now lockedElsewhere batch ids) :=
  inferInstanceAs (Decidable (IsBatch _ _ _ _))

/-- `SET status = 'processed', processed_at = now()` -/
def OutboxRow.process (now : ℤ) (ids : List ℕ) (row : OutboxRow) : OutboxRow :=
  if row.id ∈ ids then { row with status := .processed, processedAt := some now } else row

/-- The UPDATE or DELETE of the claimed rows. -/
def OutboxTable.apply (table : OutboxTable) (now : ℤ) (ids : List ℕ) :
    OutboxStatement → OutboxTable
  | .markProcessed => { table with rows := table.rows.map (OutboxRow.process now ids) }
  | .purge _ =>
    { table with
      rows := table.rows.filter fun row => row.id ∉ ids
      deleted := table.deleted ++ table.rows.filter fun row => row.id ∈ ids }

def newOutboxRow (createdAt : ℤ) (id : ℕ) (event : OutboxEvent) : OutboxRow :=
  ⟨id, event, .pending, createdAt, none⟩

/-- The rows of one transaction. -/
def OutboxTable.insert (table : OutboxTable) (ids : List ℕ) (events : List OutboxEvent)
    (createdAt : ℤ) : OutboxTable :=
  { table with
    rows := table.rows ++ List.zipWith (newOutboxRow createdAt) ids events
    idsDrawn := table.idsDrawn ++ ids }

/-! ## The batch loops -/

inductive BatchPc
  | execute
  /-- The statement has run at `now`; its rows are locked until the COMMIT. -/
  | executed (ids : List ℕ) (now : ℤ)
  | done (outcome : Except DbExc ℕ)
deriving DecidableEq

structure BatchCall where
  statement : OutboxStatement
  batchSize : ℕ
  batchesLeft : ℕ
  total : ℕ
  pc : BatchPc
deriving DecidableEq

def processPendingOutboxEvents (settings : OutboxSettings) (batchSize maxBatches : Option ℕ) :
    BatchCall :=
  ⟨.markProcessed, orDefault batchSize settings.outboxBatchSize,
    orDefault maxBatches settings.outboxMaxBatches, 0, .execute⟩

/-- Zero days keep everything. -/
def purgeProcessedOutboxEvents (settings : OutboxSettings) (retentionDays : ℤ := -1)
    (batchSize : ℕ := 5000) (maxBatches : ℕ := 10) : BatchCall :=
  let days := if retentionDays < 0 then settings.outboxRetentionDays else retentionDays
  ⟨.purge days, batchSize, maxBatches, 0, if days ≤ 0 then .done (.ok 0) else .execute⟩

def BatchCall.goto (c : BatchCall) (pc : BatchPc) : BatchCall := { c with pc := pc }

/-- The end of one turn, in which `done` rows were handled. -/
def BatchCall.next (c : BatchCall) (done : ℕ) : BatchCall where
  statement := c.statement
  batchSize := c.batchSize
  batchesLeft := c.batchesLeft - 1
  total := c.total + done
  pc := if done < c.batchSize then .done (.ok (c.total + done)) else .execute

def BatchPc.locks : BatchPc → List ℕ
  | .executed ids _ => ids
  | _ => []

/-- The next database access; `ids` breaks the ties of the claim.  `now()` is the time of the BEGIN,
which the driver sends right before the first statement of the transaction: the two are one step
here, and `now()` is the clock of the statement. -/
def BatchCall.step (table : OutboxTable) (clock : ℤ) (lockedElsewhere : List ℕ) (fault : Fault)
    (ids : List ℕ) (c : BatchCall) : Option (OutboxTable × BatchCall) :=
  match c.pc with
  | .execute =>
    if c.batchesLeft = 0 then some (table, c.goto (.done (.ok c.total)))
    else
      match fault with
      | .pgRaised exc _ => some (table, c.goto (.done (.error exc)))
      | _ =>
        if table.Claims c.statement clock lockedElsewhere c.batchSize ids then
          some (table, c.goto (.executed
            ((table.chosen c.statement clock lockedElsewhere ids).map OutboxRow.id) clock))
        else none
  | .executed ids now =>
    match fault with
    | .pgRaised exc false => some (table, c.goto (.done (.error exc)))
    | .pgRaised exc true => some (table.apply now ids c.statement, c.goto (.done (.error exc)))
    | _ => some (table.apply now ids c.statement, c.next ids.length)
  | .done _ => none

/-- Everything a step of a batch loop can do. -/
inductive BatchStep (table : OutboxTable) (clock : ℤ) (lockedElsewhere : List ℕ) (fault : Fault)
    (c : BatchCall) : OutboxTable → BatchCall → Prop
  | exhausted (at_pc : c.pc = .execute) (spent : c.batchesLeft = 0) :
    BatchStep table clock lockedElsewhere fault c table (c.goto (.done (.ok c.total)))
  | raised {exc : DbExc} (running : ∀ outcome, c.pc ≠ .done outcome) (failed : ¬ fault.PgUp) :
    BatchStep table clock lockedElsewhere fault c table (c.goto (.done (.error exc)))
  | claims {ids : List ℕ} (at_pc : c.pc = .execute) (left : c.batchesLeft ≠ 0)
    (claimed : table.Claims c.statement clock lockedElsewhere c.batchSize ids) :
    BatchStep table clock lockedElsewhere fault c table (c.goto (.executed
      ((table.chosen c.statement clock lockedElsewhere ids).map OutboxRow.id) clock))
  | committed {ids : List ℕ} {now : ℤ} (at_pc : c.pc = .executed ids now) :
    BatchStep table clock lockedElsewhere fault c (table.apply now ids c.statement)
      (c.next ids.length)
  | replyLost {ids : List ℕ} {now : ℤ} {exc : DbExc} (at_pc : c.pc = .executed ids now)
    (failed : ¬ fault.PgUp) :
    BatchStep table clock lockedElsewhere fault c (table.apply now ids c.statement)
      (c.goto (.done (.error exc)))

theorem BatchCall.step_cases {table table' : OutboxTable} {clock : ℤ} {lockedElsewhere : List ℕ}
    {fault : Fault} {ids : List ℕ} {c c' : BatchCall}
    (moved : c.step table clock lockedElsewhere fault ids = some (table', c')) :
    BatchStep table clock lockedElsewhere fault c table' c' := by
  unfold step at moved
  split at moved
  case h_1 at_pc =>
    have running : ∀ outcome, c.pc ≠ .done outcome := fun outcome => by rw [at_pc]; nofun
    split at moved
    case isTrue spent => cases moved; exact .exhausted at_pc spent
    case isFalse left =>
      split at moved
      case h_1 => cases moved; exact .raised running fun up => up
      case h_2 =>
        split at moved
        case isTrue claimed => cases moved; exact .claims at_pc left claimed
        case isFalse => cases moved
  case h_2 ids now at_pc =>
    have running : ∀ outcome, c.pc ≠ .done outcome := fun outcome => by rw [at_pc]; nofun
    split at moved
    case h_1 => cases moved; exact .raised running fun up => up
    case h_2 => cases moved; exact .replyLost at_pc fun up => up
    case h_3 => cases moved; exact .committed at_pc
  case h_3 => cases moved

/-! ## One cycle -/

inductive CycleStep
  | seatHolds | outboxEvents | oldRows
deriving DecidableEq

inductive CyclePc
  /-- `cleanup_expired_seat_holds` runs as this call of the running system. -/
  | seatHolds (call : ℕ)
  /-- The outbox events or the old rows. -/
  | loop (current : CycleStep) (c : BatchCall)
  /-- `db.rollback()` in the handler of the failed step. -/
  | rollback (failed : CycleStep)
  /-- The cycle has ended; `raised` when a rollback failed. -/
  | closed (raised : Bool)
  | crashed
deriving DecidableEq

/-- One `run_worker_cycle`, with the counts of the steps that succeeded. -/
structure Cycle where
  pc : CyclePc
  counts : List (CycleStep × ℕ)
deriving DecidableEq

/-- The step that follows. -/
def CycleStep.next (settings : OutboxSettings) : CycleStep → CyclePc
  | .seatHolds => .loop .outboxEvents (processPendingOutboxEvents settings none none)
  | .outboxEvents => .loop .oldRows (purgeProcessedOutboxEvents settings)
  | .oldRows => .closed false

def Cycle.goto (c : Cycle) (pc : CyclePc) : Cycle := { c with pc := pc }

/-- The current step has ended. -/
def Cycle.finish (settings : OutboxSettings) (current : CycleStep) (outcome : Except DbExc ℕ)
    (c : Cycle) : Cycle :=
  match outcome with
  | .ok count => ⟨current.next settings, c.counts ++ [(current, count)]⟩
  | .error _ => c.goto (.rollback current)

def CyclePc.locks : CyclePc → List ℕ
  | .loop _ c => c.pc.locks
  | _ => []

/-- The outbox rows the cycle has locked. -/
def Cycle.locks (c : Cycle) : List ℕ := c.pc.locks

/-- The end of the sweep, when it has ended. -/
def State.sweepOutcome (system : State) (call : ℕ) : Option (Except DbExc ℕ) :=
  match system.calls[call]? with
  | some (.sweep ⟨_, _, _, .done outcome⟩) => some outcome
  | _ => none

def Cycle.step (settings : OutboxSettings) (system : State) (table : OutboxTable) (clock : ℤ)
    (lockedElsewhere : List ℕ) (fault : Fault) (ids : List ℕ) (c : Cycle) :
    Option (OutboxTable × Cycle) :=
  match c.pc with
  | .seatHolds call =>
    (system.sweepOutcome call).map fun outcome => (table, c.finish settings .seatHolds outcome)
  | .loop current batch =>
    match batch.pc with
    | .done outcome => some (table, c.finish settings current outcome)
    | _ => (batch.step table clock lockedElsewhere fault ids).map fun r =>
        (r.1, c.goto (.loop current r.2))
  | .rollback failed =>
    match fault with
    | .pgRaised _ _ => some (table, c.goto (.closed true))
    | _ => some (table, c.goto (failed.next settings))
  | .closed _ => none
  | .crashed => none

/-- Everything a step of a cycle can do. -/
inductive CycleMove (settings : OutboxSettings) (system : State) (table : OutboxTable) (clock : ℤ)
    (lockedElsewhere : List ℕ) (fault : Fault) (c : Cycle) : OutboxTable → Cycle → Prop
  | swept {call : ℕ} {outcome : Except DbExc ℕ} (at_pc : c.pc = .seatHolds call)
    (ended : system.sweepOutcome call = some outcome) :
    CycleMove settings system table clock lockedElsewhere fault c table
      (c.finish settings .seatHolds outcome)
  | looped {current : CycleStep} {batch : BatchCall} {outcome : Except DbExc ℕ}
    (at_pc : c.pc = .loop current batch) (ended : batch.pc = .done outcome) :
    CycleMove settings system table clock lockedElsewhere fault c table
      (c.finish settings current outcome)
  | loops {current : CycleStep} {batch batch' : BatchCall} {table' : OutboxTable}
    (at_pc : c.pc = .loop current batch)
    (moved : BatchStep table clock lockedElsewhere fault batch table' batch') :
    CycleMove settings system table clock lockedElsewhere fault c table'
      (c.goto (.loop current batch'))
  | rolledBack {failed : CycleStep} (at_pc : c.pc = .rollback failed) :
    CycleMove settings system table clock lockedElsewhere fault c table
      (c.goto (failed.next settings))
  | rollbackFailed {failed : CycleStep} (at_pc : c.pc = .rollback failed) (failed : ¬ fault.PgUp) :
    CycleMove settings system table clock lockedElsewhere fault c table (c.goto (.closed true))

theorem Cycle.step_cases {settings : OutboxSettings} {system : State} {table table' : OutboxTable}
    {clock : ℤ} {lockedElsewhere : List ℕ} {fault : Fault} {ids : List ℕ} {c c' : Cycle}
    (moved : c.step settings system table clock lockedElsewhere fault ids = some (table', c')) :
    CycleMove settings system table clock lockedElsewhere fault c table' c' := by
  unfold step at moved
  split at moved
  case h_1 at_pc =>
    obtain ⟨outcome, ended, same⟩ := Option.map_eq_some_iff.mp moved
    cases same
    exact .swept at_pc ended
  case h_2 current batch at_pc =>
    split at moved
    case h_1 ended => cases moved; exact .looped at_pc ended
    case h_2 =>
      obtain ⟨r, stepped, same⟩ := Option.map_eq_some_iff.mp moved
      cases same
      exact .loops at_pc (BatchCall.step_cases stepped)
  case h_3 failed at_pc =>
    split at moved
    case h_1 => cases moved; exact .rollbackFailed at_pc fun up => up
    case h_2 => cases moved; exact .rolledBack at_pc
  case h_4 => cases moved
  case h_5 => cases moved

/-! ## The deployment -/

structure WorkerConfig where
  booking : Config
  outbox : OutboxSettings

/-- The running system, the outbox table, the clock of the database server, and the cycles. -/
structure Deployment where
  system : State
  table : OutboxTable
  clock : ℤ
  cycles : List Cycle

inductive DeploymentAction
  /-- The booking flow moves.  A transaction that began at `createdAt` inserts its events under
  `ids`. -/
  | booking (a : Action) (ids : List ℕ) (createdAt : ℤ)
  | tick (elapsed : ℕ)
  | startCycle
  | worker (i : ℕ) (fault : Fault) (ids : List ℕ)
  | crash (i : ℕ)
deriving DecidableEq

def Deployment.lockedElsewhere (d : Deployment) (i : ℕ) : List ℕ :=
  (d.cycles.eraseIdx i).flatMap Cycle.locks

/-- What the transaction added to the log of events. -/
def State.insertedEvents (system system' : State) : List OutboxEvent :=
  system'.dbs.pg.outbox.drop system.dbs.pg.outbox.length

/-- The values are new ones of the sequence, one for each event. -/
def OutboxTable.Draws (table : OutboxTable) (ids : List ℕ) (events : List OutboxEvent) : Prop :=
  ids.length = events.length ∧ ids.Nodup ∧ ∀ id ∈ ids, id ∉ table.idsDrawn

instance (table : OutboxTable) (ids : List ℕ) (events : List OutboxEvent) :
    Decidable (table.Draws ids events) := inferInstanceAs (Decidable (_ ∧ _ ∧ _))

def Deployment.step (cfg : WorkerConfig) (d : Deployment) : DeploymentAction → Option Deployment
  | .booking a ids createdAt =>
    (TicketBooking.step cfg.booking d.system a).bind fun system =>
      let events := d.system.insertedEvents system
      if d.table.Draws ids events ∧ createdAt ≤ d.clock then
        some { d with system := system, table := d.table.insert ids events createdAt }
      else none
  | .tick elapsed => some { d with clock := d.clock + elapsed }
  | .startCycle =>
    (TicketBooking.step cfg.booking d.system (.spawn (.cleanup none none))).map fun system =>
      { d with
        system := system
        cycles := d.cycles ++ [⟨.seatHolds d.system.calls.length, []⟩] }
  | .worker i fault ids =>
    (d.cycles[i]?.bind (Cycle.step cfg.outbox d.system d.table d.clock (d.lockedElsewhere i) fault
      ids)).map fun r => { d with table := r.1, cycles := d.cycles.set i r.2 }
  | .crash i => d.cycles[i]?.map fun c => { d with cycles := d.cycles.set i (c.goto .crashed) }

/-- Everything an action can do to the deployment. -/
inductive DeploymentStep (cfg : WorkerConfig) (d : Deployment) :
    DeploymentAction → Deployment → Prop
  | booking {a : Action} {ids : List ℕ} {createdAt : ℤ} {system : State}
    (moved : TicketBooking.step cfg.booking d.system a = some system)
    (drawn : d.table.Draws ids (d.system.insertedEvents system)) (past : createdAt ≤ d.clock) :
    DeploymentStep cfg d (.booking a ids createdAt)
      { d with
        system := system
        table := d.table.insert ids (d.system.insertedEvents system) createdAt }
  | tick (elapsed : ℕ) : DeploymentStep cfg d (.tick elapsed) { d with clock := d.clock + elapsed }
  | started {system : State}
    (moved : TicketBooking.step cfg.booking d.system (.spawn (.cleanup none none)) = some system) :
    DeploymentStep cfg d .startCycle
      { d with
        system := system
        cycles := d.cycles ++ [⟨.seatHolds d.system.calls.length, []⟩] }
  | worker {i : ℕ} {fault : Fault} {ids : List ℕ} {c c' : Cycle} {table' : OutboxTable}
    (at_i : d.cycles[i]? = some c)
    (moved : CycleMove cfg.outbox d.system d.table d.clock (d.lockedElsewhere i) fault c table'
      c') :
    DeploymentStep cfg d (.worker i fault ids)
      { d with table := table', cycles := d.cycles.set i c' }
  | crash {i : ℕ} {c : Cycle} (at_i : d.cycles[i]? = some c) :
    DeploymentStep cfg d (.crash i) { d with cycles := d.cycles.set i (c.goto .crashed) }

theorem Deployment.step_cases {cfg : WorkerConfig} {d d' : Deployment} {a : DeploymentAction}
    (moved : d.step cfg a = some d') : DeploymentStep cfg d a d' := by
  cases a with
  | booking a ids createdAt =>
    obtain ⟨system, stepped, rest⟩ := Option.bind_eq_some_iff.mp moved
    dsimp only at rest
    split at rest
    case isTrue allowed => cases rest; exact .booking stepped allowed.1 allowed.2
    case isFalse => cases rest
  | tick elapsed => cases moved; exact .tick elapsed
  | startCycle => cases moved; exact .started rfl
  | worker i fault ids =>
    obtain ⟨⟨table', c'⟩, bound, rfl⟩ := Option.map_eq_some_iff.mp moved
    obtain ⟨c, at_i, stepped⟩ := Option.bind_eq_some_iff.mp bound
    exact .worker at_i (Cycle.step_cases stepped)
  | crash i =>
    obtain ⟨c, at_i, rfl⟩ := Option.map_eq_some_iff.mp moved
    exact .crash at_i

namespace OutboxSample

def cfg : WorkerConfig := ⟨Sample.cfg, {}⟩

def start : Deployment := ⟨Sample.start Sample.floor, ⟨[], [], []⟩, 0, []⟩

/-- One order is created, and its event inserted as row 1. -/
def ordered : List DeploymentAction :=
  .booking (.spawn (.createOrder Sample.order none)) [] 0 ::
    List.replicate 3 (.booking (.step 0 .none (Sample.draw 1)) [] 0) ++
    [.booking (.step 0 .none (Sample.draw 1)) [1] 0]

/-- A worker finds no overdue order, marks the event, and sleeps for eight days before it deletes
old rows. -/
def schedule : List DeploymentAction :=
  ordered ++ [.startCycle, .booking (.step 1 .none (Sample.draw 1)) [] 0, .worker 0 .none [],
    .worker 0 .none [1], .worker 0 .none [], .worker 0 .none [], .tick (8 * 86400 * 10 ^ 6),
    .worker 0 .none [1], .worker 0 .none [], .worker 0 .none []]

end OutboxSample

end TicketBooking
