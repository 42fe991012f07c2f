import TicketBooking.OutboxAccount

/-!
# A worker cycle by itself

Whatever its sweep did, a cycle goes on with the outbox.  While nobody else touches the table and
PostgreSQL is up, its batches add up to one: the oldest pending rows are marked as if by a single
statement, and then the oldest processed rows past their retention are deleted.

* `Turns` is the state of one batch loop: what it has handled so far is one batch of all its turns.
* `CycleTurns` is the state of the cycle, and `fuel` bounds the steps left.
* `cycle_drains` is the result for any schedule of the cycle.
-/

namespace TicketBooking

open GroupCount ListUpdate LockHolder SmallestFirst StepSystem

/-! ## The statement as a function of the rows -/

/-- The rows after the statement has run on these ids. -/
def OutboxStatement.rows (now : ℤ) (ids : List ℕ) (rows : List OutboxRow) :
    OutboxStatement → List OutboxRow
  | .markProcessed => rows.map (OutboxRow.process now ids)
  | .purge _ => rows.filter fun row => row.id ∉ ids

/-- The rows the statement can choose from. -/
def OutboxStatement.pool (now : ℤ) (rows : List OutboxRow) (statement : OutboxStatement) :
    List OutboxRow :=
  rows.filter fun row => statement.selects now row

section Rows

variable {statement : OutboxStatement} {now : ℤ} {rows : List OutboxRow} {table : OutboxTable}
  {ids ids' : List ℕ} {taken : List OutboxRow} {row : OutboxRow}

theorem OutboxTable.apply_rows (table : OutboxTable) (now : ℤ) (ids : List ℕ)
    (statement : OutboxStatement) :
    (table.apply now ids statement).rows = statement.rows now ids table.rows := by
  cases statement <;> rfl

theorem OutboxTable.candidates_nil (table : OutboxTable) (statement : OutboxStatement) (now : ℤ) :
    table.candidates statement now [] = statement.pool now table.rows := by
  apply List.filter_congr
  intro row _
  simp

theorem OutboxStatement.rows_nil (statement : OutboxStatement) (now : ℤ) (rows : List OutboxRow) :
    statement.rows now [] rows = rows := by
  cases statement with
  | markProcessed =>
    have same : OutboxRow.process now [] = id := by
      funext row
      exact OutboxRow.process_of_not_mem List.not_mem_nil
    rw [OutboxStatement.rows, same, List.map_id]
  | purge days => simp [OutboxStatement.rows]

/-- The statement on some rows and then on others. -/
theorem OutboxStatement.rows_append (statement : OutboxStatement) (now : ℤ) (ids ids' : List ℕ)
    (rows : List OutboxRow) :
    statement.rows now ids' (statement.rows now ids rows) =
      statement.rows now (ids ++ ids') rows := by
  cases statement with
  | markProcessed =>
    rw [OutboxStatement.rows, OutboxStatement.rows, OutboxStatement.rows, List.map_map]
    apply List.map_congr_left
    intro row _
    rw [Function.comp_apply]
    by_cases first : row.id ∈ ids <;> by_cases second : row.id ∈ ids' <;>
      simp [OutboxRow.process, first, second]
  | purge days =>
    rw [OutboxStatement.rows, OutboxStatement.rows, OutboxStatement.rows, List.filter_filter]
    apply List.filter_congr
    intro row _
    simp [Bool.and_comm]

/-- With distinct ids, the ids of some rows choose these rows. -/
theorem mem_ids_iff (distinct : (rows.map OutboxRow.id).Nodup) (sub : ∀ r ∈ taken, r ∈ rows)
    (mem : row ∈ rows) : row.id ∈ taken.map OutboxRow.id ↔ row ∈ taken := by
  constructor
  · intro chosen
    obtain ⟨twin, memTaken, same⟩ := List.mem_map.mp chosen
    obtain rfl := eq_of_key_eq distinct (sub twin memTaken) mem same
    exact memTaken
  · exact fun memTaken => List.mem_map_of_mem memTaken

theorem OutboxStatement.pool_ids (distinct : (rows.map OutboxRow.id).Nodup) :
    ((statement.pool now rows).map OutboxRow.id).Nodup :=
  distinct.sublist (List.filter_sublist.map OutboxRow.id)

/-- What is left to choose from. -/
theorem OutboxStatement.pool_rows (distinct : (rows.map OutboxRow.id).Nodup)
    (sub : ∀ r ∈ taken, r ∈ statement.pool now rows) :
    statement.pool now (statement.rows now (taken.map OutboxRow.id) rows) =
      (statement.pool now rows).filter fun r => r ∉ taken := by
  have inRows : ∀ r ∈ taken, r ∈ rows := fun r mem => (List.mem_filter.mp (sub r mem)).1
  cases statement with
  | markProcessed =>
    have pass : ∀ row ∈ rows, OutboxStatement.markProcessed.selects now
        (row.process now (taken.map OutboxRow.id)) =
        (OutboxStatement.markProcessed.selects now row && decide (row ∉ taken)) := by
      intro row mem
      by_cases chosen : row ∈ taken
      · have chosenId := (mem_ids_iff distinct inRows mem).mpr chosen
        simp [OutboxRow.process_of_mem chosenId, OutboxStatement.selects, chosen]
      · have free : row.id ∉ taken.map OutboxRow.id :=
          fun chosenId => chosen ((mem_ids_iff distinct inRows mem).mp chosenId)
        simp [OutboxRow.process_of_not_mem free, chosen]
    rw [OutboxStatement.pool, OutboxStatement.pool, OutboxStatement.rows, List.filter_map,
      List.filter_filter]
    have kept : rows.filter ((fun row => OutboxStatement.markProcessed.selects now row) ∘
        OutboxRow.process now (taken.map OutboxRow.id)) =
        rows.filter fun row =>
          decide (row ∉ taken) && OutboxStatement.markProcessed.selects now row := by
      apply List.filter_congr
      intro row mem
      rw [Function.comp_apply, pass row mem, Bool.and_comm]
    rw [kept]
    conv_rhs => rw [← List.map_id (rows.filter _)]
    apply List.map_congr_left
    intro row mem
    obtain ⟨memRow, both⟩ := List.mem_filter.mp mem
    have away : row ∉ taken := of_decide_eq_true (Bool.and_eq_true _ _ ▸ both).1
    exact OutboxRow.process_of_not_mem fun chosenId =>
      away ((mem_ids_iff distinct inRows memRow).mp chosenId)
  | purge days =>
    rw [OutboxStatement.pool, OutboxStatement.pool, OutboxStatement.rows, List.filter_filter,
      List.filter_filter]
    apply List.filter_congr
    intro row mem
    have same := mem_ids_iff distinct inRows mem
    rw [Bool.and_comm]
    congr 1
    exact decide_eq_decide.mpr (not_congr same)

theorem OutboxStatement.rows_ids (statement : OutboxStatement) (now : ℤ) (ids : List ℕ)
    (distinct : (rows.map OutboxRow.id).Nodup) :
    ((statement.rows now ids rows).map OutboxRow.id).Nodup := by
  cases statement with
  | markProcessed =>
    have same : (rows.map (OutboxRow.process now ids)).map OutboxRow.id =
        rows.map OutboxRow.id := by
      rw [List.map_map]
      exact List.map_congr_left fun row _ => row.process_id now ids
    rw [OutboxStatement.rows, same]
    exact distinct
  | purge days => exact distinct.sublist (List.filter_sublist.map OutboxRow.id)

/-- Some ids are a valid claim. -/
theorem OutboxTable.exists_claim (table : OutboxTable) (statement : OutboxStatement) (now : ℤ)
    (batch : ℕ) (distinct : (table.rows.map OutboxRow.id).Nodup) :
    ∃ ids, table.Claims statement now [] batch ids := by
  have nodup : (statement.pool now table.rows).Nodup :=
    .of_map OutboxRow.id (OutboxStatement.pool_ids distinct)
  have claim := isBatch_smallest (fun row => statement.key row) batch nodup
  refine ⟨(smallest (fun row => statement.key row) batch (statement.pool now table.rows)).map
    OutboxRow.id, ?_⟩
  rw [OutboxTable.Claims, OutboxTable.chosen, OutboxTable.candidates_nil]
  refine claim.perm ((List.perm_ext_iff_of_nodup claim.nodup (nodup.filter _)).mpr fun row => ?_)
  rw [List.mem_filter, decide_eq_true_eq]
  constructor
  · exact fun mem => ⟨claim.sub row mem, List.mem_map_of_mem mem⟩
  · intro both
    exact (mem_ids_iff (OutboxStatement.pool_ids distinct) claim.sub both.1).mp both.2

end Rows

/-! ## The turns of a loop -/

/-- The steps a loop has left. -/
def BatchCall.fuel (c : BatchCall) : ℕ :=
  match c.pc with
  | .execute => 2 * c.batchesLeft + 1
  | .executed _ _ => 2 * c.batchesLeft
  | .done _ => 0

/-- The loop began with `rows`, has `taken` some of them in whole batches, and is about to take
more: all that it has taken is one batch. -/
structure Turns (statement : OutboxStatement) (rows : List OutboxRow) (now : ℤ)
    (size batches : ℕ) (c : BatchCall) (rows' taken : List OutboxRow) : Prop where
  runs : c.statement = statement
  sized : c.batchSize = size
  left : c.batchesLeft ≤ batches
  applied : rows' = statement.rows now (taken.map OutboxRow.id) rows
  total : c.total = taken.length
  batch : IsBatch (fun row => statement.key row) (size * (batches - c.batchesLeft))
    (statement.pool now rows) taken
  claimed : ∀ ids at', c.pc = .executed ids at' → at' = now ∧ c.batchesLeft ≠ 0 ∧
    ∃ more, ids = more.map OutboxRow.id ∧
      IsBatch (fun row => statement.key row) size (statement.pool now rows') more
  done : ∀ outcome, c.pc = .done outcome → outcome = .ok taken.length ∧
    IsBatch (fun row => statement.key row) (size * batches) (statement.pool now rows) taken

section Turns

variable {statement : OutboxStatement} {now : ℤ} {rows rows' taken : List OutboxRow}
  {table table' : OutboxTable} {size batches : ℕ} {fault : Fault} {c c' : BatchCall}

theorem turns_start (settled : c.statement = statement) (sized : c.batchSize = size)
    (left : c.batchesLeft = batches) (total : c.total = 0) (begins : c.pc = .execute) :
    Turns statement rows now size batches c rows [] where
  runs := settled
  sized := sized
  left := left.le
  applied := (statement.rows_nil now rows).symm
  total := total
  batch := by
    rw [left, Nat.sub_self, Nat.mul_zero]
    exact isBatch_zero _ _
  claimed ids at' same := by cases begins.symm.trans same
  done outcome same := by cases begins.symm.trans same

/-- A turn without faults. -/
theorem BatchStep.turns (distinct : (rows.map OutboxRow.id).Nodup)
    (turns : Turns statement rows now size batches c table.rows taken) (up : fault.PgUp)
    (moved : BatchStep table now [] fault c table' c') :
    ∃ taken', Turns statement rows now size batches c' table'.rows taken' ∧ c'.fuel < c.fuel := by
  cases moved with
  | exhausted at_pc spent =>
    refine ⟨taken, ⟨turns.runs, turns.sized, turns.left, turns.applied, turns.total, turns.batch,
      nofun, fun outcome same => ?_⟩, ?_⟩
    · cases same
      have whole := turns.batch
      rw [spent, Nat.sub_zero] at whole
      exact ⟨by rw [turns.total], whole⟩
    · rw [BatchCall.fuel, BatchCall.fuel, at_pc]
      exact Nat.succ_pos _
  | raised running failed => exact (failed up).elim
  | @claims ids at_pc left claimed =>
    refine ⟨taken, ⟨turns.runs, turns.sized, turns.left, turns.applied, turns.total, turns.batch,
      fun ids' at' same => ?_, nofun⟩, ?_⟩
    · cases same
      rw [turns.runs, turns.sized, OutboxTable.Claims, OutboxTable.candidates_nil] at claimed
      refine ⟨rfl, left, _, rfl, ?_⟩
      rw [turns.runs]
      exact claimed
    · rw [BatchCall.fuel, BatchCall.fuel, at_pc]
      exact Nat.lt_succ_self _
  | replyLost at_pc failed => exact (failed up).elim
  | @committed ids at' at_pc =>
    obtain ⟨rfl, left, more, rfl, claimed⟩ := turns.claimed _ _ at_pc
    have nodup : (statement.pool at' rows).Nodup :=
      .of_map OutboxRow.id (OutboxStatement.pool_ids distinct)
    have both : IsBatch (fun row => statement.key row) (size * (batches - (c.batchesLeft - 1)))
        (statement.pool at' rows) (taken ++ more) := by
      have sum : size * (batches - (c.batchesLeft - 1)) =
          size * (batches - c.batchesLeft) + size := by
        have inside := turns.left
        rw [← Nat.mul_succ]
        congr 1
        omega
      rw [sum]
      refine turns.batch.append nodup ?_
      rw [← OutboxStatement.pool_rows distinct turns.batch.sub, ← turns.applied]
      exact claimed
    refine ⟨taken ++ more, ⟨turns.runs, turns.sized, ?_, ?_, ?_, both,
      fun ids' at'' same => (c.next_pc_ne _ _ _ same).elim, fun outcome same => ?_⟩, ?_⟩
    · exact (Nat.sub_le _ _).trans turns.left
    · rw [OutboxTable.apply_rows, turns.applied, turns.runs, OutboxStatement.rows_append,
        List.map_append]
    · rw [BatchCall.next, turns.total, List.length_map, List.length_append]
    · rw [BatchCall.next, turns.sized, List.length_map] at same
      dsimp only at same
      split at same
      case isTrue short =>
        cases same
        refine ⟨by rw [turns.total, List.length_append], both.of_short ?_ ?_⟩
        · have length := turns.batch.length
          have inside := turns.left
          have sum : size * (batches - (c.batchesLeft - 1)) =
              size * (batches - c.batchesLeft) + size := by
            rw [← Nat.mul_succ]
            congr 1
            omega
          rw [List.length_append, sum]
          omega
        · exact Nat.mul_le_mul_left _ (Nat.sub_le _ _)
      case isFalse => cases same
    · have fuel : (c.next (more.map OutboxRow.id).length).fuel ≤ 2 * (c.batchesLeft - 1) + 1 := by
        rw [BatchCall.fuel, BatchCall.next]
        dsimp only
        split <;> omega
      have before : c.fuel = 2 * c.batchesLeft := by rw [BatchCall.fuel, at_pc]
      omega

/-- A loop that has not ended can make a step. -/
theorem BatchCall.can_step (now : ℤ) (distinct : (table.rows.map OutboxRow.id).Nodup)
    (c : BatchCall) (running : ∀ outcome, c.pc ≠ .done outcome) :
    ∃ ids, (c.step table now [] .none ids).isSome = true := by
  rcases c with ⟨statement, size, left, total, pc⟩
  cases pc with
  | execute =>
    rcases Nat.eq_zero_or_pos left with spent | positive
    · refine ⟨[], ?_⟩
      dsimp only [BatchCall.step]
      rw [if_pos spent]
      rfl
    · obtain ⟨ids, claims⟩ := table.exists_claim statement now size distinct
      refine ⟨ids, ?_⟩
      dsimp only [BatchCall.step]
      rw [if_neg (Nat.ne_of_gt positive), if_pos claims]
      rfl
  | executed ids at' => exact ⟨[], rfl⟩
  | done outcome => exact (running outcome rfl).elim

end Turns

/-! ## The cycle -/

/-- What the sweep adds to the counts. -/
def sweepCounts : Except DbExc ℕ → List (CycleStep × ℕ)
  | .ok count => [(.seatHolds, count)]
  | .error _ => []

/-- The steps a cycle has left, when none of them fails. -/
def CyclePc.fuel (settings : OutboxSettings) : CyclePc → ℕ
  | .seatHolds _ => 2 * settings.outboxMaxBatches + 26
  | .rollback _ => 2 * settings.outboxMaxBatches + 25
  | .loop .outboxEvents batch => batch.fuel + 23
  | .loop _ batch => batch.fuel + 1
  | _ => 0

/-- The rows a cycle marks. -/
def Marks (settings : OutboxSettings) (now : ℤ) (rows taken : List OutboxRow) : Prop :=
  IsBatch (fun row => OutboxStatement.markProcessed.key row)
    (settings.outboxBatchSize * settings.outboxMaxBatches)
    (OutboxStatement.markProcessed.pool now rows) taken

/-- The rows it then deletes. -/
def Purges (settings : OutboxSettings) (now : ℤ) (rows gone : List OutboxRow) : Prop :=
  (settings.outboxRetentionDays ≤ 0 → gone = []) ∧
  (0 < settings.outboxRetentionDays →
    IsBatch (fun row => (OutboxStatement.purge settings.outboxRetentionDays).key row) (5000 * 10)
      ((OutboxStatement.purge settings.outboxRetentionDays).pool now rows) gone)

/-- The loop that deletes old rows, or the answer 0 of one that keeps everything. -/
def Purging (settings : OutboxSettings) (now : ℤ) (rows : List OutboxRow) (c : BatchCall)
    (rows' gone : List OutboxRow) : Prop :=
  (settings.outboxRetentionDays ≤ 0 ∧ c.pc = .done (.ok 0) ∧ rows' = rows ∧ gone = []) ∨
  (0 < settings.outboxRetentionDays ∧
    Turns (.purge settings.outboxRetentionDays) rows now 5000 10 c rows' gone)

/-- How far the cycle has come. -/
inductive CycleTurns (settings : OutboxSettings) (system : State) (now : ℤ) (rows : List OutboxRow)
    (counts : List (CycleStep × ℕ)) (outcome : Except DbExc ℕ) : Cycle → List OutboxRow → Prop
  | swept {call : ℕ} (ended : system.sweepOutcome call = some outcome) :
    CycleTurns settings system now rows counts outcome ⟨.seatHolds call, counts⟩ rows
  | failed : CycleTurns settings system now rows counts outcome
      ⟨.rollback .seatHolds, counts ++ sweepCounts outcome⟩ rows
  | marking {batch : BatchCall} {rows' taken : List OutboxRow}
    (turns : Turns .markProcessed rows now settings.outboxBatchSize settings.outboxMaxBatches batch
      rows' taken) :
    CycleTurns settings system now rows counts outcome
      ⟨.loop .outboxEvents batch, counts ++ sweepCounts outcome⟩ rows'
  | purging {batch : BatchCall} {rows' taken gone : List OutboxRow}
    (marks : Marks settings now rows taken)
    (turns : Purging settings now
      (OutboxStatement.markProcessed.rows now (taken.map OutboxRow.id) rows) batch rows' gone) :
    CycleTurns settings system now rows counts outcome
      ⟨.loop .oldRows batch, counts ++ sweepCounts outcome ++ [(.outboxEvents, taken.length)]⟩ rows'
  | closed {taken gone : List OutboxRow} (marks : Marks settings now rows taken)
    (purges : Purges settings now
      (OutboxStatement.markProcessed.rows now (taken.map OutboxRow.id) rows) gone) :
    CycleTurns settings system now rows counts outcome
      ⟨.closed false, counts ++ sweepCounts outcome ++ [(.outboxEvents, taken.length)] ++
        [(.oldRows, gone.length)]⟩
      ((OutboxStatement.purge settings.outboxRetentionDays).rows now (gone.map OutboxRow.id)
        (OutboxStatement.markProcessed.rows now (taken.map OutboxRow.id) rows))

section Cycles

variable {settings : OutboxSettings} {system : State} {now : ℤ} {rows rows' : List OutboxRow}
  {table table' : OutboxTable} {counts : List (CycleStep × ℕ)} {outcome : Except DbExc ℕ}
  {fault : Fault} {c c' : Cycle}

/-- The loop over the pending rows begins. -/
theorem marking_start (settings : OutboxSettings) (now : ℤ) (rows : List OutboxRow) :
    Turns .markProcessed rows now settings.outboxBatchSize settings.outboxMaxBatches
      (processPendingOutboxEvents settings none none) rows [] :=
  turns_start rfl rfl rfl rfl rfl

theorem purging_start (settings : OutboxSettings) (now : ℤ) (rows : List OutboxRow) :
    Purging settings now rows (purgeProcessedOutboxEvents settings) rows [] := by
  rcases le_or_gt settings.outboxRetentionDays 0 with none | keeping
  · exact .inl ⟨none, if_pos none, rfl, rfl⟩
  · exact .inr ⟨keeping, turns_start rfl rfl rfl rfl (if_neg (not_le.mpr keeping))⟩

theorem purging_fuel (settings : OutboxSettings) :
    (purgeProcessedOutboxEvents settings).fuel ≤ 21 := by
  rw [BatchCall.fuel, purgeProcessedOutboxEvents]
  dsimp only
  split <;> omega

/-- A turn of the loop over the old rows. -/
theorem BatchStep.purging {batch batch' : BatchCall} {gone : List OutboxRow}
    (distinct : (rows.map OutboxRow.id).Nodup)
    (purging : Purging settings now rows batch table.rows gone) (up : fault.PgUp)
    (moved : BatchStep table now [] fault batch table' batch') :
    ∃ gone', Purging settings now rows batch' table'.rows gone' ∧ batch'.fuel < batch.fuel := by
  rcases purging with ⟨none, ended, -, -⟩ | ⟨keeping, turns⟩
  · -- the loop has ended before it began
    cases moved with
    | exhausted at_pc => cases ended.symm.trans at_pc
    | raised running => exact (running _ ended).elim
    | claims at_pc => cases ended.symm.trans at_pc
    | committed at_pc => cases ended.symm.trans at_pc
    | replyLost at_pc => cases ended.symm.trans at_pc
  · obtain ⟨gone', turns', less⟩ := moved.turns distinct turns up
    exact ⟨gone', .inr ⟨keeping, turns'⟩, less⟩

/-- The end of that loop. -/
theorem Purging.purges {batch : BatchCall} {gone : List OutboxRow} {ended : Except DbExc ℕ}
    (purging : Purging settings now rows batch rows' gone) (at_pc : batch.pc = .done ended) :
    ended = .ok gone.length ∧ Purges settings now rows gone ∧
      rows' = (OutboxStatement.purge settings.outboxRetentionDays).rows now
        (gone.map OutboxRow.id) rows := by
  rcases purging with ⟨none, zero, rfl, rfl⟩ | ⟨keeping, turns⟩
  · cases at_pc.symm.trans zero
    refine ⟨rfl, ⟨fun _ => rfl, fun keeping => absurd none (not_le.mpr keeping)⟩, ?_⟩
    exact (OutboxStatement.rows_nil _ _ _).symm
  · obtain ⟨reported, whole⟩ := turns.done ended at_pc
    exact ⟨reported, ⟨fun none => absurd none (not_le.mpr keeping), fun _ => whole⟩, turns.applied⟩

/-- A step of the cycle without faults. -/
theorem CycleMove.turns (distinct : (rows.map OutboxRow.id).Nodup)
    (turns : CycleTurns settings system now rows counts outcome c rows')
    (same : table.rows = rows') (up : fault.PgUp)
    (moved : CycleMove settings system table now [] fault c table' c') :
    CycleTurns settings system now rows counts outcome c' table'.rows ∧
      c'.pc.fuel settings < c.pc.fuel settings := by
  have marked : ∀ ids, ((OutboxStatement.markProcessed.rows now ids rows).map
      OutboxRow.id).Nodup := fun ids => OutboxStatement.rows_ids _ now ids distinct
  cases turns with
  | @swept call ended =>
    cases moved with
    | @swept call' outcome' at_pc ended' =>
      cases at_pc
      cases ended.symm.trans ended'
      rw [same]
      cases outcome with
      | ok count =>
        refine ⟨.marking (marking_start settings now rows), ?_⟩
        have after : CyclePc.fuel settings (CycleStep.seatHolds.next settings) =
          2 * settings.outboxMaxBatches + 1 + 23 := rfl
        have before : CyclePc.fuel settings (.seatHolds call) =
          2 * settings.outboxMaxBatches + 26 := rfl
        rw [Cycle.finish, after, before]
        omega
      | error exc =>
        have counted : counts ++ sweepCounts (.error exc) = counts := List.append_nil _
        refine ⟨?_, Nat.lt_succ_self _⟩
        have rolls : CycleTurns settings system now rows counts (.error exc)
            ⟨.rollback .seatHolds, counts ++ sweepCounts (.error exc)⟩ rows := .failed
        rw [counted] at rolls
        exact rolls
    | looped at_pc => cases at_pc
    | loops at_pc => cases at_pc
    | rolledBack at_pc => cases at_pc
    | rollbackFailed at_pc => cases at_pc
  | failed =>
    cases moved with
    | rolledBack at_pc =>
      cases at_pc
      rw [same]
      exact ⟨.marking (marking_start settings now rows), Nat.lt_succ_self _⟩
    | rollbackFailed at_pc failed => exact (failed up).elim
    | swept at_pc => cases at_pc
    | looped at_pc => cases at_pc
    | loops at_pc => cases at_pc
  | @marking batch rows' taken turns =>
    cases moved with
    | loops at_pc moved =>
      cases at_pc
      rw [← same] at turns
      obtain ⟨taken', turns', less⟩ := moved.turns distinct turns up
      exact ⟨.marking turns', Nat.add_lt_add_right less _⟩
    | looped at_pc ended =>
      cases at_pc
      obtain ⟨rfl, whole⟩ := turns.done _ ended
      rw [same, turns.applied]
      refine ⟨.purging whole (purging_start settings now _), ?_⟩
      have fuel := purging_fuel settings
      have after : (CyclePc.loop .oldRows (purgeProcessedOutboxEvents settings)).fuel settings =
        (purgeProcessedOutboxEvents settings).fuel + 1 := rfl
      have before : (CyclePc.loop .outboxEvents batch).fuel settings = batch.fuel + 23 := rfl
      rw [Cycle.finish, CycleStep.next, after, before]
      omega
    | swept at_pc => cases at_pc
    | rolledBack at_pc => cases at_pc
    | rollbackFailed at_pc => cases at_pc
  | @purging batch rows' taken gone marks purging =>
    cases moved with
    | loops at_pc moved =>
      cases at_pc
      rw [← same] at purging
      obtain ⟨gone', purging', less⟩ := moved.purging (marked _) purging up
      exact ⟨.purging marks purging', Nat.add_lt_add_right less _⟩
    | looped at_pc ended =>
      cases at_pc
      obtain ⟨rfl, purges, applied⟩ := purging.purges ended
      rw [same, applied]
      exact ⟨.closed marks purges, Nat.succ_pos _⟩
    | swept at_pc => cases at_pc
    | rolledBack at_pc => cases at_pc
    | rollbackFailed at_pc => cases at_pc
  | closed =>
    cases moved with
    | swept at_pc => cases at_pc
    | looped at_pc => cases at_pc
    | loops at_pc => cases at_pc
    | rolledBack at_pc => cases at_pc
    | rollbackFailed at_pc => cases at_pc

theorem CycleTurns.distinct (distinct : (rows.map OutboxRow.id).Nodup)
    (turns : CycleTurns settings system now rows counts outcome c rows') :
    (rows'.map OutboxRow.id).Nodup := by
  have marked : ∀ ids, ((OutboxStatement.markProcessed.rows now ids rows).map
      OutboxRow.id).Nodup := fun ids => OutboxStatement.rows_ids _ now ids distinct
  cases turns with
  | swept => exact distinct
  | failed => exact distinct
  | marking turns =>
    rw [turns.applied]
    exact marked _
  | purging marks purging =>
    rcases purging with ⟨-, -, rfl, -⟩ | ⟨-, turns⟩
    · exact marked _
    · rw [turns.applied]
      exact OutboxStatement.rows_ids _ now _ (marked _)
  | closed => exact OutboxStatement.rows_ids _ now _ (marked _)

/-- Until it is closed, a cycle can make a step. -/
theorem CycleTurns.can_step (distinct : (table.rows.map OutboxRow.id).Nodup)
    (turns : CycleTurns settings system now rows counts outcome c rows') :
    c.pc = .closed false ∨
      ∃ ids, (c.step settings system table now [] .none ids).isSome = true := by
  have loops : ∀ (current : CycleStep) (batch : BatchCall) (counts : List (CycleStep × ℕ)),
      ∃ ids, (Cycle.step settings system table now [] .none ids
        ⟨.loop current batch, counts⟩).isSome = true := by
    intro current batch counts
    by_cases running : ∀ outcome, batch.pc ≠ .done outcome
    · obtain ⟨ids, moves⟩ := batch.can_step now distinct running
      refine ⟨ids, ?_⟩
      unfold Cycle.step
      dsimp only
      split
      case h_1 outcome ended => exact (running outcome ended).elim
      case h_2 => rw [Option.isSome_map]; exact moves
    · push Not at running
      obtain ⟨outcome, ended⟩ := running
      refine ⟨[], ?_⟩
      unfold Cycle.step
      dsimp only
      rw [ended]
      rfl
  cases turns with
  | swept ended =>
    refine .inr ⟨[], ?_⟩
    unfold Cycle.step
    dsimp only
    rw [ended]
    rfl
  | failed => exact .inr ⟨[], rfl⟩
  | marking => exact .inr (loops _ _ _)
  | purging => exact .inr (loops _ _ _)
  | closed => exact .inl rfl

theorem CycleTurns.of_closed
    (turns : CycleTurns settings system now rows counts outcome c rows')
    (ended : c.pc = .closed false) :
    ∃ taken gone, Marks settings now rows taken ∧
      Purges settings now (rows.map (OutboxRow.process now (taken.map OutboxRow.id))) gone ∧
      c = ⟨.closed false, counts ++ sweepCounts outcome ++ [(.outboxEvents, taken.length)] ++
        [(.oldRows, gone.length)]⟩ ∧
      rows' = (rows.map (OutboxRow.process now (taken.map OutboxRow.id))).filter
        fun row => row.id ∉ gone.map OutboxRow.id := by
  cases turns with
  | @closed taken gone marks purges => exact ⟨taken, gone, marks, purges, rfl, rfl⟩
  | swept => cases ended
  | failed => cases ended
  | marking => cases ended
  | purging => cases ended

end Cycles

/-! ## Schedules of one cycle -/

/-- Ids with the same members rewrite the same rows. -/
theorem process_congr {now : ℤ} {ids ids' : List ℕ} (same : ∀ id, id ∈ ids ↔ id ∈ ids')
    (rows : List OutboxRow) :
    rows.map (OutboxRow.process now ids) = rows.map (OutboxRow.process now ids') := by
  apply List.map_congr_left
  intro row _
  rw [OutboxRow.process, OutboxRow.process]
  simp only [same row.id]

/-- **A cycle drains the outbox.**  Whatever the sweep of a cycle did, while no other cycle holds
rows and PostgreSQL is up, the cycle ends after a bounded number of steps.  It has marked the oldest
pending rows, as many as all its batches together hold, then deleted the oldest processed rows past
their retention, and it has reported both numbers. -/
theorem cycle_drains (cfg : WorkerConfig) {d d' : Deployment} {i call : ℕ}
    {counts : List (CycleStep × ℕ)} {outcome : Except DbExc ℕ} {steps : List (Fault × List ℕ)}
    (at_i : d.cycles[i]? = some ⟨.seatHolds call, counts⟩)
    (swept : d.system.sweepOutcome call = some outcome) (nobody : d.lockedElsewhere i = [])
    (distinct : (d.table.rows.map OutboxRow.id).Nodup) (up : ∀ p ∈ steps, p.1.PgUp)
    (ran : run (Deployment.step cfg) d (steps.map fun p => .worker i p.1 p.2) = some d') :
    steps.length ≤ 2 * cfg.outbox.outboxMaxBatches + 26 ∧
    ((∃ ids, (d'.step cfg (.worker i .none ids)).isSome = true) ∨
      ∃ gone,
        let days := cfg.outbox.outboxRetentionDays
        let taken := smallest (fun row : OutboxRow => toLex (row.createdAt, row.id))
          (cfg.outbox.outboxBatchSize * cfg.outbox.outboxMaxBatches)
          (d.table.rows.filter fun row => row.status = .pending)
        let marked := d.table.rows.map (OutboxRow.process d.clock (taken.map OutboxRow.id))
        d'.cycles[i]? = some ⟨.closed false, counts ++ sweepCounts outcome ++
          [(.outboxEvents, taken.length)] ++ [(.oldRows, gone.length)]⟩ ∧
        d'.table.rows = marked.filter (fun row => row.id ∉ gone.map OutboxRow.id) ∧
        (days ≤ 0 → gone = []) ∧
        (0 < days → IsBatch (fun row => toLex (row.createdAt, 0)) 50000
          (marked.filter fun row =>
            row.status = .processed && row.createdAt < d.clock - days * day) gone)) := by
  obtain ⟨⟨c, at_i', turns, system, clock, nobody'⟩, short⟩ := run_descends
    (P := fun e => ∃ c, e.cycles[i]? = some c ∧
      CycleTurns cfg.outbox d.system d.clock d.table.rows counts outcome c e.table.rows ∧
      e.system = d.system ∧ e.clock = d.clock ∧ e.lockedElsewhere i = [])
    (fun e => ((e.cycles[i]?.map Cycle.pc).map (CyclePc.fuel cfg.outbox)).getD 0) ran
    ⟨_, at_i, .swept swept, rfl, rfl, nobody⟩ (by
      rintro e a e' mem ⟨c, at_i, turns, system, clock, nobody⟩ moved
      obtain ⟨p, inSteps, rfl⟩ := List.mem_map.mp mem
      cases Deployment.step_cases moved with
      | @worker _ _ _ c' c'' table' at_i' worked =>
        cases at_i.symm.trans at_i'
        rw [system, clock, nobody] at worked
        obtain ⟨turns', less⟩ := worked.turns distinct turns rfl (up p inSteps)
        have there := getElem?_set_self c'' at_i
        refine ⟨⟨c'', there, turns', system, clock, ?_⟩, ?_⟩
        · rw [Deployment.lockedElsewhere, List.eraseIdx_set_eq]
          exact nobody
        · rw [there, at_i]
          exact less)
  rw [List.length_map, at_i] at short
  have begins : ((some (⟨.seatHolds call, counts⟩ : Cycle)).map Cycle.pc).map
      (CyclePc.fuel cfg.outbox) = some (2 * cfg.outbox.outboxMaxBatches + 26) := rfl
  rw [begins, Option.getD_some] at short
  refine ⟨by omega, ?_⟩
  rcases turns.can_step (turns.distinct distinct) with ended | ⟨ids, moves⟩
  · obtain ⟨taken, gone, marks, purges, rfl, applied⟩ := turns.of_closed ended
    have keys : ((OutboxStatement.markProcessed.pool d.clock d.table.rows).map fun row =>
        OutboxStatement.markProcessed.key row).Nodup := by
      refine .of_map (fun key => (ofLex key).2) ?_
      rw [List.map_map]
      exact OutboxStatement.pool_ids distinct
    have oldest := isBatch_smallest (fun row => OutboxStatement.markProcessed.key row)
      (cfg.outbox.outboxBatchSize * cfg.outbox.outboxMaxBatches) (List.Nodup.of_map _ keys)
    have same : ∀ id, id ∈ taken.map OutboxRow.id ↔
        id ∈ (smallest (fun row => OutboxStatement.markProcessed.key row)
          (cfg.outbox.outboxBatchSize * cfg.outbox.outboxMaxBatches)
          (OutboxStatement.markProcessed.pool d.clock d.table.rows)).map OutboxRow.id := by
      intro id
      simp only [List.mem_map, marks.mem_iff keys]
    rw [process_congr same] at purges applied
    rw [marks.length.trans oldest.length.symm] at at_i'
    exact .inr ⟨gone, at_i', applied, purges⟩
  · refine .inl ⟨ids, ?_⟩
    rw [Deployment.step, Option.isSome_map, at_i', Option.bind_some, system, clock, nobody']
    exact moves

namespace OutboxSample

/-- The sweep of a cycle is to fail. -/
def timeout : DbExc := ⟨.operational, none, "", false⟩

/-- An order's event is pending and the sweep of a new cycle has failed. -/
def sweepFailed : List DeploymentAction :=
  ordered ++ [.startCycle, .booking (.step 1 (.pgRaised timeout false) (Sample.draw 1)) [] 0]

/-- It rolls back, marks the event, and finds no old rows. -/
def drain : List (Fault × List ℕ) :=
  [(.none, []), (.none, []), (.none, [1]), (.none, []), (.none, []), (.none, []), (.none, []),
    (.none, [])]

end OutboxSample

theorem cycle_drains_sample :
    ∃ (d d' : Deployment) (gone : List OutboxRow),
      run (Deployment.step OutboxSample.cfg) OutboxSample.start OutboxSample.sweepFailed = some d ∧
      run (Deployment.step OutboxSample.cfg) d
        (OutboxSample.drain.map fun p => .worker 0 p.1 p.2) = some d' ∧
      d'.table.rows = (d.table.rows.map (OutboxRow.process d.clock [1])).filter
        (fun row => row.id ∉ gone.map OutboxRow.id) := by
  obtain ⟨d, checked⟩ := Option.isSome_iff_exists.mp (show ((run (Deployment.step OutboxSample.cfg)
    OutboxSample.start OutboxSample.sweepFailed).filter fun d =>
      d.cycles[0]? = some ⟨.seatHolds 1, []⟩ ∧
      d.system.sweepOutcome 1 = some (.error OutboxSample.timeout) ∧ d.lockedElsewhere 0 = [] ∧
      (d.table.rows.map OutboxRow.id).Nodup ∧
      (smallest (fun row : OutboxRow => toLex (row.createdAt, row.id)) (1000 * 20)
        (d.table.rows.filter fun row => row.status = .pending)).map OutboxRow.id = [1] ∧
      ((run (Deployment.step OutboxSample.cfg) d
        (OutboxSample.drain.map fun p => .worker 0 p.1 p.2)).filter fun d' =>
          d'.cycles[0]?.map Cycle.pc = some (.closed false)).isSome = true).isSome = true by
    decide +kernel)
  obtain ⟨ran, facts⟩ := Option.filter_eq_some_iff.mp checked
  obtain ⟨at_0, swept, nobody, distinct, first, drained⟩ := of_decide_eq_true facts
  obtain ⟨d', checked'⟩ := Option.isSome_iff_exists.mp drained
  obtain ⟨ran', closed⟩ := Option.filter_eq_some_iff.mp checked'
  obtain ⟨-, ⟨ids, moves⟩ | ⟨gone, -, rows, -⟩⟩ := cycle_drains OutboxSample.cfg at_0 swept nobody
    distinct (by decide) ran'
  · obtain ⟨c, at_0', pc⟩ := Option.map_eq_some_iff.mp (of_decide_eq_true closed)
    rw [Deployment.step, Option.isSome_map, at_0', Option.bind_some, Cycle.step, pc] at moves
    cases moves
  · rw [← first]
    exact ⟨d, d', gone, ran, ran', rows⟩

end TicketBooking
