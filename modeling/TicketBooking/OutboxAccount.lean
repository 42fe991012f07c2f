import TicketBooking.Lib.GroupCount
import TicketBooking.Lib.LockHolder
import TicketBooking.OutboxWorker

/-!
# The account of the outbox

What the workers of all replicas do to the table together.  `OutboxCommit` lists the transactions:
an insert, the marking of pending rows, the deletion of old processed rows; a row that a cycle has
claimed stays as it was, so `commit_of_deployment` shows that every step is one of them.

* `OutboxTable.Sound` says that a row is pending or processed, and what was deleted was processed
  and past its retention.
* The events ever inserted are those of the rows and of the deleted rows, none lost and none twice.
* The counts that the workers report never exceed the number of rows that were marked, and reach it
  when nothing fails.
-/

namespace TicketBooking

open GroupCount ListUpdate LockHolder SmallestFirst StepSystem

/-! ## The transactions -/

/-- The COMMITs on the table, with the events they insert and the ids of the rows they rewrite. -/
inductive OutboxCommit (days clock : ℤ) (table : OutboxTable) :
    List OutboxEvent → List ℕ → OutboxTable → Prop
  | nothing : OutboxCommit days clock table [] [] table
  | inserted {ids : List ℕ} {events : List OutboxEvent} {createdAt : ℤ}
    (drawn : table.Draws ids events) (past : createdAt ≤ clock) :
    OutboxCommit days clock table events [] (table.insert ids events createdAt)
  | processed {ids : List ℕ} {now : ℤ} (distinct : ids.Nodup) (past : now ≤ clock)
    (pending : ∀ id ∈ ids, ∃ row ∈ table.rows, row.id = id ∧ row.status = .pending ∧
      row.createdAt ≤ now) :
    OutboxCommit days clock table [] ids (table.apply now ids .markProcessed)
  | purged {ids : List ℕ} {now : ℤ} (keeping : 0 < days) (past : now ≤ clock)
    (old : ∀ id ∈ ids, ∃ row ∈ table.rows, row.id = id ∧ row.status = .processed ∧
      row.createdAt < now - days * day) :
    OutboxCommit days clock table [] ids (table.apply now ids (.purge days))

/-- The status and its time agree, and lie in the past. -/
def OutboxRow.Sound (clock : ℤ) (row : OutboxRow) : Prop :=
  row.createdAt ≤ clock ∧
    ((row.status = .pending ∧ row.processedAt = none) ∨
      (row.status = .processed ∧
        ∃ at', row.processedAt = some at' ∧ row.createdAt ≤ at' ∧ at' ≤ clock))

structure OutboxTable.Sound (days clock : ℤ) (table : OutboxTable) : Prop where
  ids : ((table.rows ++ table.deleted).map OutboxRow.id).Nodup
  drawn : ∀ row ∈ table.rows ++ table.deleted, row.id ∈ table.idsDrawn
  rows : ∀ row ∈ table.rows ++ table.deleted, row.Sound clock
  /-- What is deleted was processed and older than the retention. -/
  old : ∀ row ∈ table.deleted,
    0 < days ∧ row.status = .processed ∧ row.createdAt + days * day < clock

/-- The events of the rows and of the deleted rows. -/
def OutboxTable.events (table : OutboxTable) : List OutboxEvent :=
  (table.rows ++ table.deleted).map OutboxRow.event

section Commit

variable {days clock clock' now createdAt : ℤ} {table table' : OutboxTable} {ids : List ℕ}
  {events : List OutboxEvent} {row : OutboxRow}

@[simp] theorem OutboxRow.process_id (now : ℤ) (ids : List ℕ) (row : OutboxRow) :
    (row.process now ids).id = row.id := by
  unfold process
  split <;> rfl

@[simp] theorem OutboxRow.process_event (now : ℤ) (ids : List ℕ) (row : OutboxRow) :
    (row.process now ids).event = row.event := by
  unfold process
  split <;> rfl

theorem OutboxRow.process_of_not_mem (free : row.id ∉ ids) : row.process now ids = row :=
  if_neg free

theorem OutboxRow.process_of_mem (chosen : row.id ∈ ids) :
    row.process now ids = { row with status := .processed, processedAt := some now } :=
  if_pos chosen

theorem OutboxRow.Sound.mono (sound : row.Sound clock) (later : clock ≤ clock') :
    row.Sound clock' := by
  obtain ⟨created, pending | ⟨processed, at', stamped, after, before⟩⟩ := sound
  · exact ⟨created.trans later, .inl pending⟩
  · exact ⟨created.trans later, .inr ⟨processed, at', stamped, after, before.trans later⟩⟩

theorem OutboxTable.Sound.mono (sound : table.Sound days clock) (later : clock ≤ clock') :
    table.Sound days clock' where
  ids := sound.ids
  drawn := sound.drawn
  rows row mem := (sound.rows row mem).mono later
  old row mem := by
    obtain ⟨keeping, processed, old⟩ := sound.old row mem
    exact ⟨keeping, processed, lt_of_lt_of_le old later⟩

theorem OutboxTable.Sound.row_ids (sound : table.Sound days clock) :
    (table.rows.map OutboxRow.id).Nodup :=
  sound.ids.sublist ((List.sublist_append_left _ _).map _)

/-- The new rows, as ids and events. -/
theorem map_zipWith_id (createdAt : ℤ) (lengths : ids.length = events.length) :
    (List.zipWith (newOutboxRow createdAt) ids events).map OutboxRow.id = ids := by
  induction ids generalizing events with
  | nil => rfl
  | cons id ids ih =>
    cases events with
    | nil => cases lengths
    | cons event events =>
      rw [List.zipWith_cons_cons, List.map_cons, ih (Nat.succ.inj lengths)]
      rfl

theorem map_zipWith_event (createdAt : ℤ) (lengths : ids.length = events.length) :
    (List.zipWith (newOutboxRow createdAt) ids events).map OutboxRow.event = events := by
  induction ids generalizing events with
  | nil => exact (List.length_eq_zero_iff.mp lengths.symm).symm
  | cons id ids ih =>
    cases events with
    | nil => cases lengths
    | cons event events =>
      rw [List.zipWith_cons_cons, List.map_cons, ih (Nat.succ.inj lengths)]
      rfl

theorem mem_zipWith (mem : row ∈ List.zipWith (newOutboxRow createdAt) ids events) :
    row.id ∈ ids ∧ row.status = .pending ∧ row.processedAt = none ∧ row.createdAt = createdAt := by
  induction ids generalizing events with
  | nil => cases mem
  | cons id ids ih =>
    cases events with
    | nil => cases mem
    | cons event events =>
      rcases List.mem_cons.mp mem with rfl | later
      · exact ⟨List.mem_cons_self, rfl, rfl, rfl⟩
      · obtain ⟨known, rest⟩ := ih later
        exact ⟨List.mem_cons_of_mem _ known, rest⟩

/-- Deleting moves rows from the table into the history. -/
theorem purge_perm (table : OutboxTable) (now days : ℤ) (ids : List ℕ) :
    ((table.apply now ids (.purge days)).rows ++ (table.apply now ids (.purge days)).deleted).Perm
      (table.rows ++ table.deleted) := by
  have parts : ((table.rows.filter fun row => row.id ∈ ids) ++
      (table.rows.filter fun row => row.id ∉ ids)).Perm table.rows := by
    have halves := List.filter_append_perm (fun row : OutboxRow => decide (row.id ∈ ids)) table.rows
    simpa only [decide_not] using halves
  have swapped : ((table.rows.filter fun row => row.id ∉ ids) ++
      (table.deleted ++ table.rows.filter fun row => row.id ∈ ids)).Perm
      ((table.rows.filter fun row => row.id ∉ ids) ++
        ((table.rows.filter fun row => row.id ∈ ids) ++ table.deleted)) :=
    List.perm_append_comm.append_left _
  refine swapped.trans ?_
  rw [← List.append_assoc]
  exact (List.perm_append_comm.trans parts).append_right _

theorem insert_perm (table : OutboxTable) (ids : List ℕ) (events : List OutboxEvent)
    (createdAt : ℤ) :
    ((table.insert ids events createdAt).rows ++ (table.insert ids events createdAt).deleted).Perm
      ((table.rows ++ table.deleted) ++ List.zipWith (newOutboxRow createdAt) ids events) := by
  rw [OutboxTable.insert, List.append_assoc, List.append_assoc]
  exact List.perm_append_comm.append_left _

/-- No COMMIT loses or repeats an event. -/
theorem OutboxCommit.events_perm (committed : OutboxCommit days clock table events ids table') :
    table'.events.Perm (table.events ++ events) := by
  cases committed with
  | nothing => rw [List.append_nil]
  | @inserted ids events createdAt drawn past =>
    have inserted := (insert_perm table ids events createdAt).map OutboxRow.event
    have added : (table.events ++ events) = ((table.rows ++ table.deleted) ++
        List.zipWith (newOutboxRow createdAt) ids events).map OutboxRow.event := by
      rw [List.map_append, map_zipWith_event createdAt drawn.1, OutboxTable.events]
    rw [added]
    exact inserted
  | @processed ids now =>
    have same : (table.rows.map (OutboxRow.process now ids)).map OutboxRow.event =
        table.rows.map OutboxRow.event := by
      rw [List.map_map]
      exact List.map_congr_left fun row _ => row.process_event now ids
    rw [List.append_nil, OutboxTable.events, List.map_append, OutboxTable.apply, same,
      ← List.map_append]
    exact .refl _
  | purged =>
    rw [List.append_nil]
    exact (purge_perm table _ _ ids).map _

/-- Rows that a COMMIT does not rewrite stay. -/
theorem OutboxCommit.keeps (committed : OutboxCommit days clock table events ids table')
    (mem : row ∈ table.rows) (free : row.id ∉ ids) : row ∈ table'.rows := by
  cases committed with
  | nothing => exact mem
  | inserted => exact List.mem_append_left _ mem
  | processed => exact List.mem_map.mpr ⟨row, mem, OutboxRow.process_of_not_mem free⟩
  | purged => exact List.mem_filter.mpr ⟨mem, decide_eq_true free⟩

/-- Every COMMIT keeps the table sound. -/
theorem OutboxCommit.sound (committed : OutboxCommit days clock table events ids table')
    (sound : table.Sound days clock) : table'.Sound days clock := by
  cases committed with
  | nothing => exact sound
  | @inserted ids events createdAt drawn past =>
    have parts := insert_perm table ids events createdAt
    refine ⟨?_, ?_, ?_, sound.old⟩
    · rw [((parts.map OutboxRow.id).nodup_iff), List.map_append, map_zipWith_id _ drawn.1]
      refine List.nodup_append.mpr ⟨sound.ids, drawn.2.1, fun a old b new same => ?_⟩
      obtain ⟨row, mem, rfl⟩ := List.mem_map.mp old
      exact drawn.2.2 b new (same ▸ sound.drawn row mem)
    · intro row mem
      rcases List.mem_append.mp (parts.mem_iff.mp mem) with old | new
      · exact List.mem_append_left _ (sound.drawn row old)
      · exact List.mem_append_right _ (mem_zipWith new).1
    · intro row mem
      rcases List.mem_append.mp (parts.mem_iff.mp mem) with old | new
      · exact sound.rows row old
      · obtain ⟨-, pending, unstamped, stamp⟩ := mem_zipWith new
        exact ⟨stamp ▸ past, .inl ⟨pending, unstamped⟩⟩
  | @processed ids now distinct past pending =>
    have ids' : (table.rows.map (OutboxRow.process now ids)).map OutboxRow.id =
        table.rows.map OutboxRow.id := by
      rw [List.map_map]
      exact List.map_congr_left fun row _ => row.process_id now ids
    refine ⟨?_, ?_, ?_, sound.old⟩
    · rw [OutboxTable.apply, List.map_append, ids', ← List.map_append]
      exact sound.ids
    · intro row mem
      rcases List.mem_append.mp mem with stored | gone
      · obtain ⟨before, memBefore, rfl⟩ := List.mem_map.mp stored
        rw [OutboxRow.process_id]
        exact sound.drawn before (List.mem_append_left _ memBefore)
      · exact sound.drawn row (List.mem_append_right _ gone)
    · intro row mem
      rcases List.mem_append.mp mem with stored | gone
      · obtain ⟨before, memBefore, rfl⟩ := List.mem_map.mp stored
        have was := sound.rows before (List.mem_append_left _ memBefore)
        by_cases chosen : before.id ∈ ids
        · obtain ⟨twin, memTwin, same, -, created⟩ := pending before.id chosen
          obtain rfl := eq_of_key_eq sound.row_ids memTwin memBefore same
          rw [OutboxRow.process_of_mem chosen]
          exact ⟨was.1, .inr ⟨rfl, now, rfl, created, past⟩⟩
        · rw [OutboxRow.process_of_not_mem chosen]
          exact was
      · exact sound.rows row (List.mem_append_right _ gone)
  | @purged ids now keeping past old =>
    have parts := purge_perm table now days ids
    refine ⟨?_, ?_, ?_, ?_⟩
    · rw [(parts.map OutboxRow.id).nodup_iff]
      exact sound.ids
    · exact fun row mem => sound.drawn row (parts.mem_iff.mp mem)
    · exact fun row mem => sound.rows row (parts.mem_iff.mp mem)
    · intro row mem
      rcases List.mem_append.mp mem with before | gone
      · exact sound.old row before
      · obtain ⟨memRow, chosen⟩ := List.mem_filter.mp gone
        obtain ⟨twin, memTwin, same, processed, aged⟩ := old row.id (of_decide_eq_true chosen)
        obtain rfl := eq_of_key_eq sound.row_ids memTwin memRow same
        exact ⟨keeping, processed, by omega⟩

end Commit

/-! ## Claimed rows -/

/-- What a batch loop relies on: its statement, what it has counted, and that the rows it has
claimed are in the table as the statement selected them. -/
structure BatchCall.Sound (settings : OutboxSettings) (table : OutboxTable) (clock : ℤ)
    (current : CycleStep) (c : BatchCall) : Prop where
  statement : (current = .outboxEvents ∧ c.statement = .markProcessed) ∨
    (current = .oldRows ∧ c.statement = .purge settings.outboxRetentionDays ∧
      (0 < settings.outboxRetentionDays ∨ c.pc = .done (.ok 0)))
  counted : ∀ n, c.pc = .done (.ok n) → n = c.total
  claimed : ∀ ids now, c.pc = .executed ids now → ids.Nodup ∧ now ≤ clock ∧
    ∀ id ∈ ids, ∃ row ∈ table.rows, row.id = id ∧ c.statement.selects now row = true ∧
      row.createdAt ≤ now

def Cycle.Sound (settings : OutboxSettings) (table : OutboxTable) (clock : ℤ) (c : Cycle) : Prop :=
  ∀ current batch, c.pc = .loop current batch → batch.Sound settings table clock current

structure Deployment.Sound (settings : OutboxSettings) (d : Deployment) : Prop where
  table : d.table.Sound settings.outboxRetentionDays d.clock
  cycles : ∀ (i : ℕ) c, d.cycles[i]? = some c → c.Sound settings d.table d.clock
  exclusive : Exclusive Cycle.locks d.cycles

section Claims

variable {settings : OutboxSettings} {system : State} {table table' : OutboxTable}
  {clock clock' : ℤ}
  {lockedElsewhere ids : List ℕ} {fault : Fault} {current : CycleStep} {batch batch' : BatchCall}
  {c c' : Cycle}

/-- A loop still finds its rows when others change theirs. -/
theorem BatchCall.Sound.mono (sound : batch.Sound settings table clock current)
    (kept : ∀ row ∈ table.rows, row.id ∈ batch.pc.locks → row ∈ table'.rows)
    (later : clock ≤ clock') : batch.Sound settings table' clock' current where
  statement := sound.statement
  counted := sound.counted
  claimed ids now at_pc := by
    obtain ⟨distinct, past, found⟩ := sound.claimed ids now at_pc
    refine ⟨distinct, past.trans later, fun id mem => ?_⟩
    obtain ⟨row, memRow, rfl, selected, created⟩ := found id mem
    exact ⟨row, kept row memRow (by rw [at_pc]; exact mem), rfl, selected, created⟩

theorem Cycle.Sound.mono (sound : c.Sound settings table clock)
    (kept : ∀ row ∈ table.rows, row.id ∈ c.locks → row ∈ table'.rows) (later : clock ≤ clock') :
    c.Sound settings table' clock' := by
  intro current batch at_pc
  refine (sound current batch at_pc).mono (fun row mem held => kept row mem ?_) later
  rw [Cycle.locks, at_pc]
  exact held

/-- A row that a statement has claimed. -/
theorem OutboxTable.mem_chosen {statement : OutboxStatement} {now : ℤ} {row : OutboxRow}
    (mem : row ∈ table.chosen statement now lockedElsewhere ids) :
    row ∈ table.rows ∧ statement.selects now row = true ∧ row.id ∉ lockedElsewhere := by
  rw [OutboxTable.chosen, OutboxTable.candidates, List.mem_filter, List.mem_filter] at mem
  simp only [Bool.and_eq_true, decide_eq_true_eq] at mem
  exact ⟨mem.1.1, mem.1.2⟩

theorem BatchCall.next_pc_ne (batch : BatchCall) (n : ℕ) (ids : List ℕ) (now : ℤ) :
    (batch.next n).pc ≠ .executed ids now := by
  unfold BatchCall.next
  dsimp only
  split <;> nofun

theorem BatchCall.next_locks (batch : BatchCall) (n : ℕ) : (batch.next n).pc.locks = [] := by
  unfold BatchCall.next
  dsimp only
  split <;> rfl

theorem BatchCall.next_counted {batch : BatchCall} {n m : ℕ}
    (ended : (batch.next n).pc = .done (.ok m)) : m = (batch.next n).total := by
  unfold BatchCall.next at ended ⊢
  dsimp only at ended ⊢
  split at ended
  case isTrue => cases ended; rfl
  case isFalse => cases ended

/-- The statement on the claimed rows is one of the COMMITs. -/
theorem BatchCall.Sound.applied (sound : batch.Sound settings table clock current) {now : ℤ}
    (at_pc : batch.pc = .executed ids now) :
    OutboxCommit settings.outboxRetentionDays clock table [] ids
      (table.apply now ids batch.statement) := by
  obtain ⟨distinct, past, found⟩ := sound.claimed ids now at_pc
  rcases sound.statement with ⟨-, statement⟩ | ⟨-, statement, keeping | ended⟩
  · rw [statement]
    refine .processed distinct past fun id mem => ?_
    obtain ⟨row, memRow, same, selected, created⟩ := found id mem
    rw [statement] at selected
    exact ⟨row, memRow, same, of_decide_eq_true selected, created⟩
  · rw [statement]
    refine .purged keeping past fun id mem => ?_
    obtain ⟨row, memRow, same, selected, -⟩ := found id mem
    rw [statement] at selected
    simp only [OutboxStatement.selects, Bool.and_eq_true, decide_eq_true_eq] at selected
    exact ⟨row, memRow, same, selected⟩
  · cases at_pc.symm.trans ended

/-- A loop that goes on, or ends with what it has counted. -/
theorem BatchCall.Sound.moves (sound : batch.Sound settings table clock current)
    (running : ∀ outcome, batch.pc ≠ .done outcome) (table' : OutboxTable) (batch' : BatchCall)
    (same : batch'.statement = batch.statement)
    (counted : ∀ n, batch'.pc = .done (.ok n) → n = batch'.total)
    (free : ∀ ids now, batch'.pc ≠ .executed ids now) :
    batch'.Sound settings table' clock current where
  statement := by
    rw [same]
    rcases sound.statement with marking | ⟨purging, statement, keeping | ended⟩
    · exact .inl marking
    · exact .inr ⟨purging, statement, .inl keeping⟩
    · exact (running _ ended).elim
  counted := counted
  claimed ids now at_pc := (free ids now at_pc).elim

/-- A step of a batch loop is one COMMIT on the rows it has locked. -/
theorem BatchStep.commit (sound : batch.Sound settings table clock current)
    (moved : BatchStep table clock lockedElsewhere fault batch table' batch') :
    ∃ touched, (∀ id ∈ touched, id ∈ batch.pc.locks) ∧
      OutboxCommit settings.outboxRetentionDays clock table [] touched table' := by
  cases moved with
  | exhausted | raised | claims =>
    exact ⟨[], fun id mem => (List.not_mem_nil mem).elim, .nothing⟩
  | @committed ids now at_pc | @replyLost ids now exc at_pc =>
    refine ⟨ids, fun id mem => ?_, sound.applied at_pc⟩
    rw [at_pc]
    exact mem

/-- Afterwards it is sound again, and holds only rows nobody else holds. -/
theorem BatchStep.sound (tableSound : table.Sound settings.outboxRetentionDays clock)
    (sound : batch.Sound settings table clock current)
    (moved : BatchStep table clock lockedElsewhere fault batch table' batch') :
    batch'.Sound settings table' clock current ∧ ∀ id ∈ batch'.pc.locks, id ∉ lockedElsewhere := by
  cases moved with
  | exhausted at_pc =>
    have running : ∀ outcome, batch.pc ≠ .done outcome := fun outcome => by rw [at_pc]; nofun
    refine ⟨sound.moves running table (batch.goto (.done (.ok batch.total))) rfl ?_ nofun,
      fun id held => (List.not_mem_nil held).elim⟩
    intro n ended
    cases ended
    rfl
  | @raised exc running =>
    exact ⟨sound.moves running table (batch.goto (.done (.error exc))) rfl nofun nofun,
      fun id held => (List.not_mem_nil held).elim⟩
  | @claims ids at_pc left claimed =>
    refine ⟨⟨?_, nofun, ?_⟩, ?_⟩
    · rcases sound.statement with marking | ⟨purging, statement, keeping | ended⟩
      · exact .inl marking
      · exact .inr ⟨purging, statement, .inl keeping⟩
      · cases at_pc.symm.trans ended
    · intro ids' now same
      cases same
      refine ⟨?_, le_rfl, fun id mem => ?_⟩
      · exact tableSound.row_ids.sublist
          ((List.filter_sublist.trans List.filter_sublist).map OutboxRow.id)
      · obtain ⟨row, chosen, rfl⟩ := List.mem_map.mp mem
        obtain ⟨stored, selected, -⟩ := OutboxTable.mem_chosen chosen
        exact ⟨row, stored, rfl, selected,
          (tableSound.rows row (List.mem_append_left _ stored)).1⟩
    · intro id held
      obtain ⟨row, chosen, rfl⟩ := List.mem_map.mp held
      exact (OutboxTable.mem_chosen chosen).2.2
  | @committed ids now at_pc =>
    have running : ∀ outcome, batch.pc ≠ .done outcome := fun outcome => by rw [at_pc]; nofun
    refine ⟨sound.moves running _ (batch.next ids.length) rfl (fun n => BatchCall.next_counted)
      fun _ _ => batch.next_pc_ne _ _ _, fun id held => ?_⟩
    rw [BatchCall.next_locks] at held
    exact (List.not_mem_nil held).elim
  | @replyLost ids now exc at_pc =>
    have running : ∀ outcome, batch.pc ≠ .done outcome := fun outcome => by rw [at_pc]; nofun
    exact ⟨sound.moves running _ (batch.goto (.done (.error exc))) rfl nofun nofun,
      fun id held => (List.not_mem_nil held).elim⟩

/-- The loops a cycle starts are sound. -/
theorem CycleStep.next_sound (settings : OutboxSettings) (table : OutboxTable) (clock : ℤ)
    (counts : List (CycleStep × ℕ)) (ended : CycleStep) :
    Cycle.Sound settings table clock ⟨ended.next settings, counts⟩ ∧
      (ended.next settings).locks = [] := by
  cases ended with
  | seatHolds =>
    refine ⟨?_, rfl⟩
    intro current batch at_pc
    cases at_pc
    exact ⟨.inl ⟨rfl, rfl⟩, nofun, nofun⟩
  | outboxEvents =>
    have days : (purgeProcessedOutboxEvents settings).statement =
        .purge settings.outboxRetentionDays := rfl
    by_cases keeping : settings.outboxRetentionDays ≤ 0
    · have pc : (purgeProcessedOutboxEvents settings).pc = .done (.ok 0) := if_pos keeping
      refine ⟨?_, by rw [CycleStep.next, CyclePc.locks, pc]; rfl⟩
      intro current batch at_pc
      cases at_pc
      refine ⟨.inr ⟨rfl, days, .inr pc⟩, fun n ended => ?_, fun ids now executed => ?_⟩
      · cases pc.symm.trans ended
        rfl
      · cases pc.symm.trans executed
    · have pc : (purgeProcessedOutboxEvents settings).pc = .execute := if_neg keeping
      refine ⟨?_, by rw [CycleStep.next, CyclePc.locks, pc]; rfl⟩
      intro current batch at_pc
      cases at_pc
      refine ⟨.inr ⟨rfl, days, .inl (by omega)⟩, fun n ended => ?_, fun ids now executed => ?_⟩
      · cases pc.symm.trans ended
      · cases pc.symm.trans executed
  | oldRows =>
    refine ⟨?_, rfl⟩
    intro current batch at_pc
    cases at_pc

theorem Cycle.finish_sound (settings : OutboxSettings) (table : OutboxTable) (clock : ℤ)
    (current : CycleStep) (outcome : Except DbExc ℕ) (c : Cycle) :
    (c.finish settings current outcome).Sound settings table clock ∧
      (c.finish settings current outcome).locks = [] := by
  cases outcome with
  | ok count => exact CycleStep.next_sound settings table clock _ current
  | error exc => exact ⟨nofun, rfl⟩

/-- A step of a cycle is one COMMIT on the rows it has locked; then it is sound again, and holds
only rows nobody else holds. -/
theorem CycleMove.commit (tableSound : table.Sound settings.outboxRetentionDays clock)
    (sound : c.Sound settings table clock)
    (moved : CycleMove settings system table clock lockedElsewhere fault c table' c') :
    (∃ touched, (∀ id ∈ touched, id ∈ c.locks) ∧
      OutboxCommit settings.outboxRetentionDays clock table [] touched table') ∧
    c'.Sound settings table' clock ∧ ∀ id ∈ c'.locks, id ∉ lockedElsewhere := by
  have nothing : ∃ touched, (∀ id ∈ touched, id ∈ c.locks) ∧
      OutboxCommit settings.outboxRetentionDays clock table [] touched table :=
    ⟨[], fun id mem => (List.not_mem_nil mem).elim, .nothing⟩
  cases moved with
  | @swept call outcome at_pc | @looped current batch outcome at_pc ended =>
    obtain ⟨sound', none⟩ := c.finish_sound settings table clock _ outcome
    exact ⟨nothing, sound', fun id held => by rw [none] at held; cases held⟩
  | @loops current batch batch' table' at_pc moved =>
    obtain ⟨touched, within, committed⟩ := moved.commit (sound current batch at_pc)
    obtain ⟨batchSound, free⟩ := moved.sound tableSound (sound current batch at_pc)
    refine ⟨⟨touched, fun id mem => ?_, committed⟩, ?_, free⟩
    · rw [Cycle.locks, at_pc]
      exact within id mem
    · intro current' batch'' same
      cases same
      exact batchSound
  | @rolledBack failed at_pc =>
    obtain ⟨sound', none⟩ := CycleStep.next_sound settings table clock c.counts failed
    refine ⟨nothing, sound', fun id held => ?_⟩
    have held : id ∈ (failed.next settings).locks := held
    rw [none] at held
    cases held
  | rollbackFailed => exact ⟨nothing, nofun, nofun⟩

end Claims

/-! ## Over runs -/

section Runs

variable {cfg : WorkerConfig} {ok : Deployment → DeploymentAction → Prop}
  {start d d' : Deployment} {a : DeploymentAction}

/-- The outbox is empty, no worker runs, and the booking flow has not begun. -/
structure Deployment.Fresh (d : Deployment) : Prop where
  system : d.system.Fresh
  rows : d.table.rows = []
  deleted : d.table.deleted = []
  cycles : d.cycles = []

theorem Deployment.Fresh.sound (fresh : d.Fresh) (settings : OutboxSettings) :
    d.Sound settings where
  table := by
    have none : d.table.rows ++ d.table.deleted = [] := by rw [fresh.rows, fresh.deleted]; rfl
    refine ⟨?_, ?_, ?_, ?_⟩
    · rw [none]
      exact List.nodup_nil
    · rw [none]
      exact fun row mem => (List.not_mem_nil mem).elim
    · rw [none]
      exact fun row mem => (List.not_mem_nil mem).elim
    · rw [fresh.deleted]
      exact fun row mem => (List.not_mem_nil mem).elim
  cycles i c at_i := by
    rw [fresh.cycles] at at_i
    cases at_i
  exclusive := by
    rw [fresh.cycles]
    exact .nil _

/-- Every action is one COMMIT on the table, and keeps the deployment sound. -/
theorem DeploymentStep.commit (sound : d.Sound cfg.outbox) (moved : DeploymentStep cfg d a d') :
    (∃ touched, OutboxCommit cfg.outbox.outboxRetentionDays d.clock d.table
      (d.system.insertedEvents d'.system) touched d'.table) ∧ d'.Sound cfg.outbox := by
  have idle : d.system.insertedEvents d.system = [] := List.drop_length
  cases moved with
  | @booking a ids createdAt system moved drawn past =>
    have committed : OutboxCommit cfg.outbox.outboxRetentionDays d.clock d.table _ _ _ :=
      .inserted drawn past
    refine ⟨⟨[], committed⟩, committed.sound sound.table, fun i c at_i => ?_, sound.exclusive⟩
    exact (sound.cycles i c at_i).mono (fun row mem _ => List.mem_append_left _ mem) le_rfl
  | tick elapsed =>
    have later : d.clock ≤ d.clock + elapsed := by omega
    refine ⟨⟨[], idle ▸ .nothing⟩, sound.table.mono later, fun i c at_i => ?_, sound.exclusive⟩
    exact (sound.cycles i c at_i).mono (fun row mem _ => mem) later
  | started spawned =>
    cases spawned
    refine ⟨⟨[], idle ▸ .nothing⟩, sound.table, ?_, sound.exclusive.concat rfl⟩
    refine forall_getElem?_concat sound.cycles ?_
    intro current batch same
    cases same
  | @worker i fault ids c c' table' at_i moved =>
    obtain ⟨⟨touched, within, committed⟩, moverSound, free⟩ :=
      moved.commit sound.table (sound.cycles i c at_i)
    refine ⟨⟨touched, idle ▸ committed⟩, committed.sound sound.table,
      forall_getElem?_set (fun j other away at_j => ?_) moverSound, sound.exclusive.set free⟩
    refine (sound.cycles j other at_j).mono (fun row mem held => ?_) le_rfl
    refine committed.keeps mem fun touchedRow => ?_
    exact sound.exclusive j i other c away at_j at_i row.id held (within row.id touchedRow)
  | @crash i c at_i =>
    refine ⟨⟨[], idle ▸ .nothing⟩, sound.table, forall_getElem?_set (fun j other _ at_j =>
      sound.cycles j other at_j) nofun, sound.exclusive.set nofun⟩

theorem sound_of_reachable (reached : Reachable (Deployment.step cfg) ok start d)
    (fresh : start.Fresh) : d.Sound cfg.outbox :=
  reached.invariant (P := Deployment.Sound cfg.outbox) (fresh.sound _) fun _ _ _ sound _ moved =>
    ((Deployment.step_cases moved).commit sound).2

/-- **Every step of the deployment is one COMMIT on the outbox.** -/
theorem commit_of_deployment (reached : Reachable (Deployment.step cfg) ok start d)
    (fresh : start.Fresh) (moved : d.step cfg a = some d') :
    ∃ touched, OutboxCommit cfg.outbox.outboxRetentionDays d.clock d.table
      (d.system.insertedEvents d'.system) touched d'.table :=
  ((Deployment.step_cases moved).commit (sound_of_reachable reached fresh)).1

/-- The booking flow of the deployment runs as the booking system alone. -/
theorem system_of_reachable (reached : Reachable (Deployment.step cfg) ok start d) :
    Reachable (step cfg.booking) (fun _ _ => True) start.system d.system := by
  refine reached.invariant (P := fun d => Reachable (step cfg.booking) (fun _ _ => True)
    start.system d.system) .init ?_
  intro d a d' before _ moved
  cases Deployment.step_cases moved with
  | booking booked => exact .next before trivial booked
  | started spawned => exact .next before trivial spawned
  | tick | worker | crash => exact before

/-- A COMMIT of the booking flow only appends to the log of events. -/
theorem Commit.outbox_append {lower : String → String} {catalog : Catalog} {pg pg' : Postgres}
    (committed : Commit lower catalog pg pg') : ∃ events, pg'.outbox = pg.outbox ++ events := by
  cases committed with
  | nothing | drawn => exact ⟨[], (List.append_nil _).symm⟩
  | created | expired | confirmed => exact ⟨_, rfl⟩

/-- What a step adds to the log of events. -/
theorem inserted_of_reachable (reached : Reachable (Deployment.step cfg) ok start d)
    (fresh : start.Fresh) (moved : d.step cfg a = some d') :
    d'.system.dbs.pg.outbox =
      d.system.dbs.pg.outbox ++ d.system.insertedEvents d'.system := by
  have same : d.system.dbs.pg.outbox = d.system.dbs.pg.outbox ++ d.system.insertedEvents d.system :=
    by rw [State.insertedEvents, List.drop_length, List.append_nil]
  cases Deployment.step_cases moved with
  | booking booked =>
    obtain ⟨idle, -⟩ := fresh.system
    obtain ⟨events, appended⟩ := (commit_of_step (system_of_reachable reached) idle
      fresh.system.idsDrawn booked).outbox_append
    rw [State.insertedEvents, appended, List.drop_left]
  | started spawned => cases spawned; exact same
  | tick | worker | crash => exact same

theorem log_of_reachable (reached : Reachable (Deployment.step cfg) ok start d)
    (fresh : start.Fresh) : d.system.dbs.pg.outbox.Perm d.table.events := by
  refine reached.invariant₂ (P := fun d => d.system.dbs.pg.outbox.Perm d.table.events) ?_ ?_
  · obtain ⟨-, -, -, -, noEvents⟩ := fresh.system
    rw [noEvents, OutboxTable.events, fresh.rows, fresh.deleted]
    exact .refl _
  · intro d a d' before logged _ moved
    obtain ⟨touched, committed⟩ := commit_of_deployment before fresh moved
    rw [inserted_of_reachable before fresh moved]
    exact (logged.append_right _).trans committed.events_perm.symm

/-- **No event is lost and none is kept twice**: the events that the booking flow has inserted are
those of the rows and of the deleted rows, the ids of all of them are distinct, and a row is deleted
only when it was processed and is older than the retention. -/
theorem outbox_account (reached : Reachable (Deployment.step cfg) ok start d)
    (fresh : start.Fresh) :
    d.system.dbs.pg.outbox.Perm ((d.table.rows ++ d.table.deleted).map OutboxRow.event) ∧
      ((d.table.rows ++ d.table.deleted).map OutboxRow.id).Nodup ∧
      (∀ row ∈ d.table.rows, (row.status = .pending ∧ row.processedAt = none) ∨
        (row.status = .processed ∧ ∃ at', row.processedAt = some at' ∧ row.createdAt ≤ at')) ∧
      ∀ row ∈ d.table.deleted, 0 < cfg.outbox.outboxRetentionDays ∧ row.status = .processed ∧
        row.createdAt + cfg.outbox.outboxRetentionDays * day < d.clock := by
  have sound := (sound_of_reachable reached fresh).table
  refine ⟨log_of_reachable reached fresh, sound.ids, fun row mem => ?_, sound.old⟩
  rcases (sound.rows row (List.mem_append_left _ mem)).2 with pending | ⟨processed, at', stamp⟩
  · exact .inl pending
  · exact .inr ⟨processed, at', stamp.1, stamp.2.1⟩

theorem OutboxSample.fresh : OutboxSample.start.Fresh :=
  ⟨Sample.fresh Sample.floor, rfl, rfl, rfl⟩

/-- The event of an order, marked and deleted eight days later. -/
theorem outbox_account_sample :
    ∃ d row, run (Deployment.step OutboxSample.cfg) OutboxSample.start OutboxSample.schedule =
        some d ∧
      d.table.deleted = [row] ∧ d.system.dbs.pg.outbox.Perm [row.event] ∧
      row.createdAt + 7 * day < d.clock := by
  obtain ⟨d, checked⟩ := Option.isSome_iff_exists.mp (show ((checkedRun
    (Deployment.step OutboxSample.cfg) (fun _ _ => True) OutboxSample.start
    OutboxSample.schedule).filter fun d => d.table.rows = [] ∧ d.table.deleted.length = 1).isSome =
      true by decide +kernel)
  obtain ⟨ran, tables⟩ := Option.filter_eq_some_iff.mp checked
  obtain ⟨noRows, one⟩ := of_decide_eq_true tables
  obtain ⟨row, deleted⟩ := List.length_eq_one_iff.mp one
  obtain ⟨log, -, -, old⟩ := outbox_account (reachable_of_checkedRun ran) OutboxSample.fresh
  rw [noRows, deleted] at log
  exact ⟨d, row, run_of_checkedRun ran, deleted, log,
    (old row (deleted ▸ List.mem_singleton_self row)).2.2⟩

end Runs

/-! ## Counting -/

/-- What a loop will report. -/
def BatchCall.counted (c : BatchCall) : ℕ :=
  match c.pc with
  | .done (.error _) => 0
  | _ => c.total

def CyclePc.counting : CyclePc → ℕ
  | .loop .outboxEvents batch => batch.counted
  | _ => 0

/-- The outbox events among the reported counts. -/
def handledCounts (counts : List (CycleStep × ℕ)) : ℕ :=
  ((counts.filter fun count => count.1 = .outboxEvents).map Prod.snd).sum

/-- The outbox events the cycle has reported, or will report when nothing goes wrong. -/
def Cycle.handled (c : Cycle) : ℕ := handledCounts c.counts + c.pc.counting

/-- The rows that were ever marked as processed. -/
def OutboxTable.handled (table : OutboxTable) : ℕ :=
  (table.rows ++ table.deleted).countP fun row => row.status = .processed

/-- No PostgreSQL access of a worker fails, and no worker stops. -/
def DeploymentAction.WorkersUp : DeploymentAction → Prop
  | .worker _ fault _ => fault.PgUp
  | .crash _ => False
  | _ => True

instance : (a : DeploymentAction) → Decidable a.WorkersUp
  | .worker _ fault _ => inferInstanceAs (Decidable fault.PgUp)
  | .crash _ => inferInstanceAs (Decidable False)
  | .booking _ _ _ => inferInstanceAs (Decidable True)
  | .tick _ => inferInstanceAs (Decidable True)
  | .startCycle => inferInstanceAs (Decidable True)

section Counts

variable {settings : OutboxSettings} {system : State} {table table' : OutboxTable}
  {clock days now : ℤ}
  {lockedElsewhere ids : List ℕ} {fault : Fault} {current : CycleStep} {batch batch' : BatchCall}
  {c c' : Cycle}

/-- Pending rows that are marked count from then on. -/
theorem OutboxTable.handled_mark (sound : table.Sound days clock) (distinct : ids.Nodup)
    (pending : ∀ id ∈ ids, ∃ row ∈ table.rows, row.id = id ∧ row.status = .pending) :
    (table.apply now ids .markProcessed).handled = table.handled + ids.length := by
  have chosen : (table.rows.countP fun row => row.id ∈ ids) = ids.length := by
    have perm := filter_mem_keys_perm sound.row_ids distinct fun id mem => by
      obtain ⟨row, memRow, rfl, -⟩ := pending id mem
      exact List.mem_map_of_mem memRow
    rw [List.countP_eq_length_filter, ← perm.length_eq, List.length_map]
  have marked : (table.rows.map (OutboxRow.process now ids)).countP
      (fun row => row.status = .processed) =
      table.rows.countP (fun row => row.status = .processed) + ids.length := by
    rw [List.countP_map, ← chosen]
    refine (countP_add fun row mem => ?_).symm
    rw [Function.comp_apply]
    by_cases inBatch : row.id ∈ ids
    · obtain ⟨twin, memTwin, same, status⟩ := pending row.id inBatch
      obtain rfl := eq_of_key_eq sound.row_ids memTwin mem same
      simp [OutboxRow.process_of_mem inBatch, status, inBatch]
    · simp [OutboxRow.process_of_not_mem inBatch, inBatch]
  rw [OutboxTable.handled, OutboxTable.handled, OutboxTable.apply, List.countP_append,
    List.countP_append, marked]
  dsimp only
  omega

theorem OutboxTable.handled_purge (table : OutboxTable) (now days : ℤ) (ids : List ℕ) :
    (table.apply now ids (.purge days)).handled = table.handled :=
  (purge_perm table now days ids).countP_eq _

theorem OutboxTable.handled_insert (table : OutboxTable) (ids : List ℕ)
    (events : List OutboxEvent) (createdAt : ℤ) :
    (table.insert ids events createdAt).handled = table.handled := by
  have none : (List.zipWith (newOutboxRow createdAt) ids events).countP
      (fun row => row.status = .processed) = 0 := by
    rw [List.countP_eq_zero]
    intro row mem processed
    obtain ⟨-, pending, -⟩ := mem_zipWith mem
    rw [pending] at processed
    cases of_decide_eq_true processed
  rw [OutboxTable.handled, (insert_perm table ids events createdAt).countP_eq, List.countP_append,
    none]
  rfl

/-- Counted rows are marked rows; without a fault, marked rows are counted. -/
theorem BatchStep.counts (tableSound : table.Sound settings.outboxRetentionDays clock)
    (sound : batch.Sound settings table clock .outboxEvents)
    (moved : BatchStep table clock lockedElsewhere fault batch table' batch') :
    batch'.counted + table.handled ≤ batch.counted + table'.handled ∧
      (fault.PgUp → batch'.counted + table.handled = batch.counted + table'.handled) := by
  have marking : batch.statement = .markProcessed := by
    rcases sound.statement with marking | purging
    · exact marking.2
    · cases purging.1
  have marks : ∀ {ids : List ℕ} {now : ℤ}, batch.pc = .executed ids now →
      (table.apply now ids batch.statement).handled = table.handled + ids.length := by
    intro ids now at_pc
    obtain ⟨distinct, -, found⟩ := sound.claimed ids now at_pc
    rw [marking]
    refine OutboxTable.handled_mark tableSound distinct fun id mem => ?_
    obtain ⟨row, memRow, same, selected, -⟩ := found id mem
    rw [marking] at selected
    exact ⟨row, memRow, same, of_decide_eq_true selected⟩
  cases moved with
  | exhausted at_pc =>
    have before : batch.counted = batch.total := by rw [BatchCall.counted, at_pc]
    exact ⟨by rw [before]; exact le_rfl, fun _ => by rw [before]; rfl⟩
  | raised running failed =>
    exact ⟨Nat.add_le_add_right (Nat.zero_le _) _, fun up => (failed up).elim⟩
  | claims at_pc =>
    have before : batch.counted = batch.total := by rw [BatchCall.counted, at_pc]
    exact ⟨by rw [before]; exact le_rfl, fun _ => by rw [before]; rfl⟩
  | @committed ids now at_pc =>
    have before : batch.counted = batch.total := by rw [BatchCall.counted, at_pc]
    have after : (batch.next ids.length).counted = batch.total + ids.length := by
      by_cases short : ids.length < batch.batchSize
      · simp only [BatchCall.counted, BatchCall.next, if_pos short]
      · simp only [BatchCall.counted, BatchCall.next, if_neg short]
    rw [before, after, marks at_pc]
    omega
  | @replyLost ids now exc at_pc failed =>
    refine ⟨?_, fun up => (failed up).elim⟩
    have after : (batch.goto (.done (.error exc))).counted = 0 := rfl
    rw [after, marks at_pc]
    omega

theorem handledCounts_append (counts : List (CycleStep × ℕ)) (current : CycleStep) (count : ℕ) :
    handledCounts (counts ++ [(current, count)]) =
      handledCounts counts + if current = .outboxEvents then count else 0 := by
  rw [handledCounts, List.filter_append, List.map_append, List.sum_append, handledCounts]
  cases current <;> rfl

theorem CycleStep.next_counting (settings : OutboxSettings) (current : CycleStep) :
    (current.next settings).counting = 0 := by
  cases current <;> rfl

/-- A step that ends has reported what it counted. -/
theorem Cycle.finish_handled (settings : OutboxSettings) (outcome : Except DbExc ℕ)
    (counted : ∀ n, outcome = .ok n → c.pc.counting = if current = .outboxEvents then n else 0)
    (failed : ∀ exc, outcome = .error exc → c.pc.counting = 0) :
    (c.finish settings current outcome).handled = c.handled := by
  cases outcome with
  | ok count =>
    rw [Cycle.handled, Cycle.handled, Cycle.finish, handledCounts_append, counted count rfl,
      CycleStep.next_counting, Nat.add_zero]
  | error exc =>
    rw [Cycle.handled, Cycle.handled, failed exc rfl]
    rfl

theorem CycleMove.counts (tableSound : table.Sound settings.outboxRetentionDays clock)
    (sound : c.Sound settings table clock)
    (moved : CycleMove settings system table clock lockedElsewhere fault c table' c') :
    c'.handled + table.handled ≤ c.handled + table'.handled ∧
      (fault.PgUp → c'.handled + table.handled = c.handled + table'.handled) := by
  cases moved with
  | @swept call outcome at_pc =>
    have same : (c.finish settings .seatHolds outcome).handled = c.handled := by
      refine Cycle.finish_handled settings outcome (fun n _ => ?_) fun exc _ => ?_ <;>
        rw [at_pc] <;> rfl
    rw [same]
    exact ⟨le_rfl, fun _ => rfl⟩
  | @looped current batch outcome at_pc ended =>
    have loop := sound current batch at_pc
    have same : (c.finish settings current outcome).handled = c.handled := by
      refine Cycle.finish_handled settings outcome (fun n ok => ?_) fun exc error => ?_
      · have total := loop.counted n (ended.trans (congrArg _ ok))
        rcases loop.statement with ⟨rfl, -⟩ | ⟨rfl, -⟩
        · rw [at_pc, CyclePc.counting, BatchCall.counted, ended, ok, total]
          rfl
        · rw [at_pc]
          rfl
      · rcases loop.statement with ⟨rfl, -⟩ | ⟨rfl, -⟩
        · rw [at_pc, CyclePc.counting, BatchCall.counted, ended, error]
        · rw [at_pc]
          rfl
    rw [same]
    exact ⟨le_rfl, fun _ => rfl⟩
  | @loops current batch batch' table' at_pc moved =>
    have loop := sound current batch at_pc
    rcases loop.statement with ⟨rfl, -⟩ | ⟨rfl, statement, -⟩
    · obtain ⟨le, eq⟩ := moved.counts tableSound loop
      rw [Cycle.handled, Cycle.handled, at_pc]
      simp only [Cycle.goto, CyclePc.counting]
      exact ⟨by omega, fun up => by have := eq up; omega⟩
    · have same : table'.handled = table.handled := by
        cases moved with
        | exhausted | raised | claims => rfl
        | committed | replyLost =>
          rw [statement]
          exact OutboxTable.handled_purge _ _ _ _
      rw [Cycle.handled, Cycle.handled, at_pc, same]
      exact ⟨le_rfl, fun _ => rfl⟩
  | @rolledBack failed at_pc =>
    have same : (c.goto (failed.next settings)).handled = c.handled := by
      rw [Cycle.handled, Cycle.handled, at_pc]
      exact congrArg _ (failed.next_counting settings)
    rw [same]
    exact ⟨le_rfl, fun _ => rfl⟩
  | rollbackFailed at_pc =>
    rw [Cycle.handled, Cycle.handled, at_pc]
    exact ⟨le_rfl, fun _ => rfl⟩

end Counts

/-- **No event is handled twice**: whatever the workers of all replicas do, and whichever of their
transactions fail, the counts they report add up to at most the number of rows ever marked as
processed; and to exactly that number when nothing fails on the workers' side. -/
theorem handled_counts {cfg : WorkerConfig} {ok : Deployment → DeploymentAction → Prop}
    {start d : Deployment} (reached : Reachable (Deployment.step cfg) ok start d)
    (fresh : start.Fresh) :
    (d.cycles.map Cycle.handled).sum ≤ d.table.handled ∧
      ((∀ s a, ok s a → a.WorkersUp) → (d.cycles.map Cycle.handled).sum = d.table.handled) := by
  refine reached.invariant₂ (P := fun d => (d.cycles.map Cycle.handled).sum ≤ d.table.handled ∧
    ((∀ s a, ok s a → a.WorkersUp) → (d.cycles.map Cycle.handled).sum = d.table.handled)) ?_ ?_
  · rw [fresh.cycles, OutboxTable.handled, fresh.rows, fresh.deleted]
    exact ⟨le_rfl, fun _ => rfl⟩
  intro d a d' before counts allowed moved
  have sound := sound_of_reachable before fresh
  cases Deployment.step_cases moved with
  | booking =>
    dsimp only
    rw [OutboxTable.handled_insert]
    exact counts
  | tick => exact counts
  | started =>
    simp only [List.map_append, List.map_cons, List.map_nil, List.sum_append, List.sum_cons,
      List.sum_nil]
    exact counts
  | @worker i fault ids c c' table' at_i worked =>
    obtain ⟨le, eq⟩ := worked.counts sound.table (sound.cycles i c at_i)
    have sums := sum_map_set Cycle.handled c' at_i
    refine ⟨by have := counts.1; dsimp only; omega, fun up => ?_⟩
    have here := eq (up d _ allowed)
    have all := counts.2 up
    dsimp only
    omega
  | @crash i c at_i =>
    have sums := sum_map_set Cycle.handled (c.goto .crashed) at_i
    have less : (c.goto .crashed).handled ≤ c.handled :=
      Nat.add_le_add_left (Nat.zero_le _) _
    refine ⟨by have := counts.1; dsimp only; omega, fun up => (up d _ allowed).elim⟩

theorem handled_counts_sample :
    ∃ d, run (Deployment.step OutboxSample.cfg) OutboxSample.start OutboxSample.schedule = some d ∧
      (d.cycles.map Cycle.handled).sum = d.table.handled ∧ d.table.handled = 1 := by
  obtain ⟨d, checked⟩ := Option.isSome_iff_exists.mp (show ((checkedRun
    (Deployment.step OutboxSample.cfg) (fun _ a => a.WorkersUp) OutboxSample.start
    OutboxSample.schedule).filter fun d => d.table.handled = 1).isSome = true by decide +kernel)
  obtain ⟨ran, one⟩ := Option.filter_eq_some_iff.mp checked
  exact ⟨d, run_of_checkedRun ran, (handled_counts (reachable_of_checkedRun ran)
    OutboxSample.fresh).2 fun _ _ up => up, of_decide_eq_true one⟩

end TicketBooking
