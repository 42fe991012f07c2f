import TicketBooking.UserSystem
import TicketBooking.Lib.SmallestFirst
import Mathlib.Algebra.Order.BigOperators.Group.List

/-!
# Whole runs of the backfill

`main` of `scripts/backfill.py` as a machine over the table and its checkpoint, with nobody else
writing: sweeps of batches behind a cursor, each sweep after the first from id 0.  A run can be
killed between any two steps; a batch is one transaction, so it is committed or it is not.

* `BackfillState.Tracks` is the invariant of all runs: the rows named by the committed batches are
  completed, no other row has changed, and `rows_done` counts them.
* `sweep_runs` is the inner loop, `main_runs` the outer one.
-/

namespace TicketBooking

open StepSystem

/-! ## The program -/

/-- `MAX_SWEEPS` -/
def maxSweeps : ℕ := 5

/-- The arguments of `main`. -/
structure BackfillArgs where
  batchSize : ℕ
  restart : Bool
  dryRun : Bool
  size_ok : 1 ≤ batchSize ∧ batchSize ≤ 500
deriving DecidableEq

/-- Where `main` stands. -/
inductive BackfillPc
  /-- It counts the remaining rows and loads the checkpoint. -/
  | load
  /-- In the inner loop, with the cursor. -/
  | batch (sweep lastId : ℕ)
  /-- After the inner loop. -/
  | recount (sweep : ℕ)
  | exited (code : ℕ)
deriving DecidableEq

/-- The database, the running job, and the ids of the rows that each committed batch has updated. -/
structure BackfillState where
  users : Users
  checkpoint : Checkpoint
  job : Option (BackfillArgs × BackfillPc)
  batches : List (List ℕ)

inductive BackfillAction
  | start (args : BackfillArgs)
  | advance
  /-- The process is gone: killed, or after its exit. -/
  | kill
deriving DecidableEq

/-- `count_remaining` -/
def Users.countRemaining (users : Users) : ℕ :=
  (users.rows.filter fun row => row.toNames.NeedsBackfill).length

/-- One step of `main`. -/
def BackfillState.advance (s : BackfillState) (args : BackfillArgs) : BackfillPc → BackfillState
  | .load =>
    if args.dryRun then { s with job := some (args, .exited 0) }
    else { s with job := some (args, .batch 1 (if args.restart then 0 else s.checkpoint.lastId)) }
  | .batch sweep lastId =>
    match runBatch s.users s.checkpoint lastId args.batchSize [] with
    | .error _ => { s with job := none }
    | .ok (report, users, checkpoint) =>
      if report.rowsSeen = 0 then { s with job := some (args, .recount sweep) }
      else {
        users := users
        checkpoint := checkpoint
        job := some (args, .batch sweep report.newLastId)
        batches := s.batches ++ [(s.users.batch lastId args.batchSize []).map UserRow.id] }
  | .recount sweep =>
    if s.users.countRemaining = 0 then { s with job := some (args, .exited 0) }
    else if sweep < maxSweeps then { s with job := some (args, .batch (sweep + 1) 0) }
    else { s with job := some (args, .exited 1) }
  | .exited code => { s with job := some (args, .exited code) }

/-- At most one job runs at a time. -/
def backfillStep (s : BackfillState) : BackfillAction → Option BackfillState
  | .start args => if s.job = none then some { s with job := some (args, .load) } else none
  | .advance => s.job.map fun (args, pc) => s.advance args pc
  | .kill => some { s with job := none }

/-! ## One batch -/

section Batch

variable {users users' : Users} {row : UserRow} {lastId batchSize : ℕ}

/-- The rows that a batch chooses from. -/
def Users.waiting (users : Users) (lastId : ℕ) : List UserRow :=
  users.rows.filter fun row => lastId < row.id ∧ row.toNames.NeedsBackfill

theorem Users.mem_waiting : row ∈ users.waiting lastId ↔
    row ∈ users.rows ∧ lastId < row.id ∧ row.toNames.NeedsBackfill := by
  rw [waiting, List.mem_filter, decide_eq_true_iff]

theorem Users.waiting_ids (users : Users) (lastId : ℕ) :
    ((users.waiting lastId).map UserRow.id).Nodup :=
  users.ids_nodup.sublist (List.filter_sublist.map _)

theorem Users.batch_eq (users : Users) (lastId batchSize : ℕ) : users.batch lastId batchSize [] =
    SmallestFirst.smallest UserRow.id batchSize (users.waiting lastId) := by
  have same : (users.rows.filter fun row =>
      lastId < row.id ∧ row.toNames.NeedsBackfill ∧ row.id ∉ ([] : List ℕ)) =
      users.waiting lastId := by
    refine List.filter_congr fun row _ => ?_
    simp
  rw [batch, same]
  rfl

theorem UserRow.backfilled_complete (row : UserRow) : ¬ row.backfilled.toNames.NeedsBackfill := by
  intro needs
  rcases needs with noFirst | noLast
  · exact Option.some_ne_none _ noFirst
  · exact Option.some_ne_none _ noLast

/-- A batch leaves a complete row alone. -/
theorem UserRow.backfilled_of_complete (row : UserRow) (complete : ¬ row.toNames.NeedsBackfill) :
    row.backfilled = row := by
  obtain ⟨noFirst, noLast⟩ := not_or.mp complete
  obtain ⟨first, hasFirst⟩ := Option.ne_none_iff_exists'.mp noFirst
  obtain ⟨last, hasLast⟩ := Option.ne_none_iff_exists'.mp noLast
  have same : row.toNames.backfilled = row.toNames := by
    ext1
    · rfl
    · simp only [Names.backfilled, hasFirst, Option.getD_some]
    · simp only [Names.backfilled, hasLast, Option.getD_some]
  rw [UserRow.backfilled, same]

/-- What a batch reports and what it writes. -/
theorem runBatch_spec {checkpoint checkpoint' : Checkpoint} {report : BatchReport}
    (ran : runBatch users checkpoint lastId batchSize [] = .ok (report, users', checkpoint')) :
    report.rowsSeen = (users.batch lastId batchSize []).length ∧
    checkpoint'.rowsDone = checkpoint.rowsDone + (users.batch lastId batchSize []).length ∧
    (∀ last, (users.batch lastId batchSize []).getLast? = some last →
      report.newLastId = last.id) ∧
    users'.rows = users.rows.map fun row =>
      if row ∈ users.batch lastId batchSize [] then row.backfilled else row := by
  have rows : users'.rows = users.rows.map fun row =>
      if row ∈ users.batch lastId batchSize [] then row.backfilled else row := by
    rw [runBatch_ok ran]
    refine List.map_congr_left fun row _ => ?_
    split <;> rfl
  rw [runBatch] at ran
  split at ran
  · rename_i nothing
    cases ran
    rw [List.getLast?_eq_none_iff.mp nothing] at rows ⊢
    refine ⟨rfl, rfl, fun last absent => ?_, rows⟩
    cases absent
  · rename_i last found
    obtain ⟨users'', -, same⟩ := Fallible.map_ok_iff.mp ran
    cases same
    refine ⟨rfl, rfl, fun last' found' => ?_, rows⟩
    rw [found] at found'
    cases found'
    rfl

/-- A batch does not fail when the derived parts fit their columns. -/
theorem runBatch_isOk (checkpoint : Checkpoint) (lastId batchSize : ℕ)
    (fits : ∀ row ∈ users.rows, row.toNames.backfilled.FitsColumns) :
    ∃ result, runBatch users checkpoint lastId batchSize [] = .ok result := by
  rw [runBatch]
  split
  · exact ⟨_, rfl⟩
  · have allFit : ∀ row ∈ users.rows, (if row ∈ users.batch lastId batchSize [] then
        row.toNames.backfilled else row.toNames).FitsColumns := by
      intro row mem
      split
      case isTrue => exact fits row mem
      case isFalse => exact (users.fit row mem).1
    dsimp only
    rw [Users.rename, dif_pos allFit]
    exact ⟨_, rfl⟩

/-- After a batch nobody who waits is left behind the cursor. -/
theorem batch_cursor {last : UserRow}
    (found : (users.batch lastId batchSize []).getLast? = some last)
    (rows : users'.rows = users.rows.map fun row =>
      if row ∈ users.batch lastId batchSize [] then row.backfilled else row) :
    lastId < last.id ∧ last ∈ users.rows ∧
    ∀ row ∈ users'.rows, row.toNames.NeedsBackfill → row.id ≤ lastId ∨ last.id < row.id := by
  have taken : last ∈ users.batch lastId batchSize [] := List.mem_of_getLast? found
  rw [Users.batch_eq] at taken
  obtain ⟨inTable, beyond, -⟩ := Users.mem_waiting.mp (SmallestFirst.mem_of_mem_smallest taken)
  refine ⟨beyond, inTable, fun row mem needs => ?_⟩
  rw [rows] at mem
  obtain ⟨old, memOld, rfl⟩ := List.mem_map.mp mem
  by_cases hit : old ∈ users.batch lastId batchSize []
  · rw [if_pos hit] at needs
    exact absurd needs old.backfilled_complete
  · rw [if_neg hit] at needs ⊢
    by_contra between
    push Not at between
    rw [Users.batch_eq] at hit
    exact hit (SmallestFirst.mem_smallest_of_le (users.waiting_ids lastId)
      (Users.mem_waiting.mpr ⟨memOld, between.1, needs⟩) taken between.2)

end Batch

/-! ## What all runs together have done -/

/-- The committed batches account for every change since `start`. -/
structure BackfillState.Tracks (start s : BackfillState) : Prop where
  rows : s.users.rows = start.users.rows.map fun row =>
    if row.id ∈ s.batches.flatten then row.backfilled else row
  nodup : s.batches.flatten.Nodup
  needed : ∀ row ∈ start.users.rows, row.id ∈ s.batches.flatten → row.toNames.NeedsBackfill
  known : ∀ id ∈ s.batches.flatten, id ∈ start.users.rows.map UserRow.id
  counted : s.checkpoint.rowsDone = start.checkpoint.rowsDone + s.batches.flatten.length

section Tracks

variable {start s s' : BackfillState} {args : BackfillArgs} {pc : BackfillPc}

theorem BackfillState.Tracks.refl (noBatches : start.batches = []) : start.Tracks start where
  rows := by
    rw [noBatches]
    simp
  nodup := by
    rw [noBatches]
    exact List.nodup_nil
  needed := by
    rw [noBatches]
    exact nofun
  known := by
    rw [noBatches]
    exact nofun
  counted := by
    rw [noBatches]
    rfl

/-- A row that waits is as it was at the start, and no batch has named it. -/
theorem BackfillState.Tracks.waiting (tracks : start.Tracks s) {row : UserRow}
    (mem : row ∈ s.users.rows) (needs : row.toNames.NeedsBackfill) :
    row ∈ start.users.rows ∧ row.id ∉ s.batches.flatten := by
  rw [tracks.rows] at mem
  obtain ⟨old, memOld, rfl⟩ := List.mem_map.mp mem
  by_cases named : old.id ∈ s.batches.flatten
  · rw [if_pos named] at needs
    exact absurd needs old.backfilled_complete
  · rw [if_neg named]
    exact ⟨memOld, named⟩

theorem BackfillState.Tracks.of_mem_batch (tracks : start.Tracks s) {lastId batchSize : ℕ}
    {row : UserRow} (taken : row ∈ s.users.batch lastId batchSize []) :
    row ∈ start.users.rows ∧ row.id ∉ s.batches.flatten ∧ row.toNames.NeedsBackfill := by
  obtain ⟨mem, needs⟩ := Users.mem_batch taken
  obtain ⟨atStart, unnamed⟩ := tracks.waiting mem needs
  exact ⟨atStart, unnamed, needs⟩

/-- The rows after one more batch, by the ids that all batches have named. -/
theorem BackfillState.Tracks.rows_batch (tracks : start.Tracks s) (lastId batchSize : ℕ) :
    (s.users.rows.map fun row =>
      if row ∈ s.users.batch lastId batchSize [] then row.backfilled else row) =
    start.users.rows.map fun row =>
      if row.id ∈ s.batches.flatten ++ (s.users.batch lastId batchSize []).map UserRow.id
      then row.backfilled else row := by
  rw [tracks.rows, List.map_map]
  refine List.map_congr_left fun row mem => ?_
  rw [Function.comp]
  by_cases old : row.id ∈ s.batches.flatten
  · have done : row.backfilled ∉ s.users.batch lastId batchSize [] := fun taken =>
      row.backfilled_complete (tracks.of_mem_batch taken).2.2
    rw [if_pos old, if_neg done, if_pos (List.mem_append_left _ old)]
  · rw [if_neg old]
    by_cases taken : row ∈ s.users.batch lastId batchSize []
    · rw [if_pos taken, if_pos (List.mem_append_right _ (List.mem_map_of_mem taken))]
    · have unnamed : row.id ∉ s.batches.flatten ++
          (s.users.batch lastId batchSize []).map UserRow.id := by
        intro hit
        rcases List.mem_append.mp hit with isOld | new
        · exact old isOld
        · obtain ⟨other, isTaken, same⟩ := List.mem_map.mp new
          rw [start.users.eq_of_id_eq (tracks.of_mem_batch isTaken).1 mem same] at isTaken
          exact taken isTaken
      rw [if_neg taken, if_neg unnamed]

/-- A committed batch. -/
theorem BackfillState.Tracks.batch (tracks : start.Tracks s) {lastId batchSize : ℕ}
    {users' : Users} {checkpoint' : Checkpoint} (job : Option (BackfillArgs × BackfillPc))
    (rows : users'.rows = s.users.rows.map fun row =>
      if row ∈ s.users.batch lastId batchSize [] then row.backfilled else row)
    (done : checkpoint'.rowsDone =
      s.checkpoint.rowsDone + (s.users.batch lastId batchSize []).length) :
    start.Tracks ⟨users', checkpoint', job,
      s.batches ++ [(s.users.batch lastId batchSize []).map UserRow.id]⟩ := by
  have named : (s.batches ++ [(s.users.batch lastId batchSize []).map UserRow.id]).flatten =
      s.batches.flatten ++ (s.users.batch lastId batchSize []).map UserRow.id := by
    rw [List.flatten_append, List.flatten_singleton]
  constructor
  · rw [named, rows]
    exact tracks.rows_batch lastId batchSize
  · rw [named, List.nodup_append]
    refine ⟨tracks.nodup, ?_, ?_⟩
    · rw [Users.batch_eq]
      exact SmallestFirst.smallest_nodup (s.users.waiting_ids lastId)
    · rintro id old _ new rfl
      obtain ⟨row, taken, rfl⟩ := List.mem_map.mp new
      exact (tracks.of_mem_batch taken).2.1 old
  · rw [named]
    intro row mem hit
    rcases List.mem_append.mp hit with old | new
    · exact tracks.needed row mem old
    · obtain ⟨taken, isTaken, same⟩ := List.mem_map.mp new
      rw [← start.users.eq_of_id_eq (tracks.of_mem_batch isTaken).1 mem same]
      exact (tracks.of_mem_batch isTaken).2.2
  · rw [named]
    intro id hit
    rcases List.mem_append.mp hit with old | new
    · exact tracks.known id old
    · obtain ⟨taken, isTaken, rfl⟩ := List.mem_map.mp new
      exact List.mem_map_of_mem (tracks.of_mem_batch isTaken).1
  · rw [named, List.length_append, List.length_map, ← Nat.add_assoc, ← tracks.counted]
    exact done

/-- Where the job stands makes no difference. -/
theorem BackfillState.Tracks.withJob (tracks : start.Tracks s)
    (job : Option (BackfillArgs × BackfillPc)) : start.Tracks { s with job } :=
  ⟨tracks.rows, tracks.nodup, tracks.needed, tracks.known, tracks.counted⟩

/-- Only a committed batch changes anything. -/
theorem BackfillState.Tracks.advance (tracks : start.Tracks s) (args : BackfillArgs)
    (pc : BackfillPc) : start.Tracks (s.advance args pc) := by
  cases pc with
  | load =>
    rw [BackfillState.advance]
    split <;> exact tracks.withJob _
  | batch sweep lastId =>
    rw [BackfillState.advance]
    split
    case h_1 => exact tracks.withJob _
    case h_2 report users' checkpoint' ran =>
      obtain ⟨-, done, -, rows⟩ := runBatch_spec ran
      split
      case isTrue => exact tracks.withJob _
      case isFalse => exact tracks.batch _ rows done
  | recount sweep =>
    rw [BackfillState.advance]
    split
    case isTrue => exact tracks.withJob _
    case isFalse => split <;> exact tracks.withJob _
  | exited code => exact tracks.withJob _

theorem tracks_step {a : BackfillAction} (tracks : start.Tracks s)
    (moved : backfillStep s a = some s') : start.Tracks s' := by
  cases a with
  | start args =>
    rw [backfillStep] at moved
    split at moved
    case isTrue =>
      cases moved
      exact tracks.withJob _
    case isFalse => cases moved
  | advance =>
    obtain ⟨⟨args, pc⟩, -, rfl⟩ := Option.map_eq_some_iff.mp moved
    exact tracks.advance args pc
  | kill =>
    cases moved
    exact tracks.withJob _

/-- **All runs, killed or not.** -/
theorem tracks_run {actions : List BackfillAction} (tracks : start.Tracks s)
    (ran : run backfillStep s actions = some s') : start.Tracks s' :=
  run_invariant ran tracks fun _ _ _ tracked moved => tracks_step tracked moved

theorem BackfillState.Tracks.fits (tracks : start.Tracks s)
    (fits : ∀ row ∈ start.users.rows, row.toNames.backfilled.FitsColumns) :
    ∀ row ∈ s.users.rows, row.toNames.backfilled.FitsColumns := by
  rw [tracks.rows, List.forall_mem_map]
  intro row mem
  split
  case isTrue => exact fits row mem
  case isFalse => exact fits row mem

end Tracks

/-! ## The last run -/

section Main

variable {start s : BackfillState} {args : BackfillArgs}

/-- Some steps of the job lead from `s` to `t`. -/
def AdvancesTo (s t : BackfillState) : Prop :=
  ∃ k, run backfillStep s (List.replicate k .advance) = some t

theorem AdvancesTo.refl (s : BackfillState) : AdvancesTo s s := ⟨0, rfl⟩

theorem AdvancesTo.step {t : BackfillState} {pc : BackfillPc} (job : s.job = some (args, pc))
    (rest : AdvancesTo (s.advance args pc) t) : AdvancesTo s t := by
  obtain ⟨k, ran⟩ := rest
  refine ⟨k + 1, ?_⟩
  rw [List.replicate_succ, run_cons, backfillStep, job]
  exact ran

theorem AdvancesTo.trans {t u : BackfillState} (first : AdvancesTo s t) (second : AdvancesTo t u) :
    AdvancesTo s u := by
  obtain ⟨j, ran⟩ := first
  obtain ⟨k, ran'⟩ := second
  refine ⟨j + k, ?_⟩
  rw [List.replicate_add, run_append, ran]
  exact ran'

/-- What a turn of the inner loop does. -/
theorem advance_batch (sweep lastId : ℕ) (args : BackfillArgs)
    (fits : ∀ row ∈ s.users.rows, row.toNames.backfilled.FitsColumns) :
    s.users.batch lastId args.batchSize [] = [] ∧
      s.advance args (.batch sweep lastId) = { s with job := some (args, .recount sweep) } ∨
    ∃ last, (s.users.batch lastId args.batchSize []).getLast? = some last ∧
      (s.advance args (.batch sweep lastId)).job = some (args, .batch sweep last.id) ∧
      (s.advance args (.batch sweep lastId)).users.rows = s.users.rows.map fun row =>
        if row ∈ s.users.batch lastId args.batchSize [] then row.backfilled else row := by
  obtain ⟨⟨report, users', checkpoint'⟩, ran⟩ :=
    runBatch_isOk s.checkpoint lastId args.batchSize fits
  obtain ⟨seen, -, cursor, rows⟩ := runBatch_spec ran
  rw [BackfillState.advance, ran]
  dsimp only
  cases last : (s.users.batch lastId args.batchSize []).getLast? with
  | none =>
    have empty := List.getLast?_eq_none_iff.mp last
    rw [empty] at seen
    exact .inl ⟨empty, if_pos seen⟩
  | some last' =>
    have nonempty : report.rowsSeen ≠ 0 := by
      rw [seen]
      intro none
      rw [List.length_eq_zero_iff.mp none] at last
      cases last
    rw [if_neg nonempty]
    exact .inr ⟨last', rfl, by rw [cursor last' last], rows⟩

/-- **The inner loop** ends, and leaves nobody beyond the cursor that it started from. -/
theorem sweep_runs (fits : ∀ row ∈ start.users.rows, row.toNames.backfilled.FitsColumns)
    {bound : ℕ} (below : ∀ row ∈ start.users.rows, row.id ≤ bound) {sweep lastId : ℕ}
    (tracks : start.Tracks s) (job : s.job = some (args, .batch sweep lastId)) :
    ∃ t, AdvancesTo s t ∧ t.job = some (args, .recount sweep) ∧ start.Tracks t ∧
      ∀ row ∈ t.users.rows, row.toNames.NeedsBackfill → row ∈ s.users.rows ∧ row.id ≤ lastId := by
  induction left : bound - lastId using Nat.strong_induction_on generalizing s lastId with
  | _ n ih =>
    rcases advance_batch sweep lastId args (tracks.fits fits) with
      ⟨empty, moved⟩ | ⟨last, found, moved, rows⟩
    · refine ⟨_, .step job (.refl _), by rw [moved], tracks.advance args _, ?_⟩
      rw [moved]
      intro row mem needs
      refine ⟨mem, ?_⟩
      by_contra beyond
      push Not at beyond
      rw [Users.batch_eq, SmallestFirst.smallest_eq_nil_iff args.size_ok.1] at empty
      have waits := Users.mem_waiting.mpr ⟨mem, beyond, needs⟩
      rw [empty] at waits
      cases waits
    · obtain ⟨later, inTable, cursor⟩ := batch_cursor found rows
      have small : last.id ≤ bound := by
        rw [tracks.rows] at inTable
        obtain ⟨old, mem, rfl⟩ := List.mem_map.mp inTable
        split <;> exact below old mem
      obtain ⟨t, ran, done, tracked, behind⟩ := ih (bound - last.id) (by omega)
        (tracks.advance args (.batch sweep lastId)) moved rfl
      refine ⟨t, .step job ran, done, tracked, fun row mem needs => ?_⟩
      obtain ⟨inMid, le⟩ := behind row mem needs
      have old : row ∈ s.users.rows := by
        rw [rows] at inMid
        obtain ⟨row', mem', rfl⟩ := List.mem_map.mp inMid
        by_cases taken : row' ∈ s.users.batch lastId args.batchSize []
        · rw [if_pos taken] at needs
          exact absurd needs row'.backfilled_complete
        · rwa [if_neg taken]
      refine ⟨old, ?_⟩
      rcases cursor row inMid needs with behindCursor | ahead
      · exact behindCursor
      · omega

theorem countRemaining_eq_zero_iff {users : Users} :
    users.countRemaining = 0 ↔ ∀ row ∈ users.rows, ¬ row.toNames.NeedsBackfill := by
  rw [Users.countRemaining, List.length_eq_zero_iff, List.filter_eq_nil_iff]
  simp only [decide_eq_true_eq]

/-- **The outer loop**: the first sweep may start anywhere, the second one starts from id 0. -/
theorem main_runs (fits : ∀ row ∈ start.users.rows, row.toNames.backfilled.FitsColumns)
    (serial : ∀ row ∈ start.users.rows, 0 < row.id) (tracks : start.Tracks s)
    (job : s.job = some (args, .load)) (real : args.dryRun = false) :
    ∃ t, AdvancesTo s t ∧ t.job = some (args, .exited 0) ∧ start.Tracks t ∧
      t.users.countRemaining = 0 := by
  obtain ⟨bound, below⟩ : ∃ bound, ∀ row ∈ start.users.rows, row.id ≤ bound :=
    ⟨(start.users.rows.map UserRow.id).sum, fun row mem =>
      List.le_sum_of_mem (List.mem_map_of_mem mem)⟩
  have exits : ∀ {t sweep}, t.job = some (args, .recount sweep) → start.Tracks t →
      t.users.countRemaining = 0 → ∃ u, AdvancesTo t u ∧ u.job = some (args, .exited 0) ∧
        start.Tracks u ∧ u.users.countRemaining = 0 := by
    intro t sweep counting tracked nobody
    have moved : t.advance args (.recount sweep) = { t with job := some (args, .exited 0) } :=
      if_pos nobody
    refine ⟨_, .step counting (.refl _), by rw [moved], tracked.advance args _, ?_⟩
    rw [moved]
    exact nobody
  have loaded : (s.advance args .load).job = some (args, .batch 1
      (if args.restart then 0 else s.checkpoint.lastId)) := by
    rw [BackfillState.advance, real]
    rfl
  obtain ⟨t, ran, counting, tracked, -⟩ :=
    sweep_runs fits below (tracks.advance args .load) loaded
  by_cases nobody : t.users.countRemaining = 0
  · obtain ⟨u, ran', exited⟩ := exits counting tracked nobody
    exact ⟨u, .step job (ran.trans ran'), exited⟩
  · -- the first sweep has started beyond some rows
    have again : t.advance args (.recount 1) = { t with job := some (args, .batch 2 0) } := by
      rw [BackfillState.advance, if_neg nobody]
      rfl
    obtain ⟨u, ran', counting', tracked', behind⟩ :=
      sweep_runs fits below (tracked.advance args (.recount 1)) (by rw [again])
    have finished : u.users.countRemaining = 0 := by
      rw [countRemaining_eq_zero_iff]
      intro row mem needs
      have atStart := (tracked'.waiting mem needs).1
      have zero := (behind row mem needs).2
      have positive := serial row atStart
      omega
    obtain ⟨v, ran'', exited⟩ := exits counting' tracked' finished
    exact ⟨v, .step job (ran.trans (.step counting (ran'.trans ran''))), exited⟩

/-- What the batches of all runs have made of a table in which nobody waits any more. -/
theorem BackfillState.Tracks.finished {t : BackfillState} (tracks : start.Tracks t)
    (finished : t.users.countRemaining = 0) :
    t.users.rows = start.users.rows.map UserRow.backfilled ∧
    t.batches.flatten.Perm ((start.users.rows.filter fun row =>
      row.toNames.NeedsBackfill).map UserRow.id) := by
  rw [countRemaining_eq_zero_iff] at finished
  have unnamed : ∀ row ∈ start.users.rows, row.id ∉ t.batches.flatten →
      ¬ row.toNames.NeedsBackfill := by
    intro row mem notNamed
    apply finished row
    rw [tracks.rows]
    exact List.mem_map.mpr ⟨row, mem, if_neg notNamed⟩
  constructor
  · rw [tracks.rows]
    refine List.map_congr_left fun row mem => ?_
    split
    case isTrue => rfl
    case isFalse notNamed => exact (row.backfilled_of_complete (unnamed row mem notNamed)).symm
  · rw [List.perm_ext_iff_of_nodup tracks.nodup
      (start.users.ids_nodup.sublist (List.filter_sublist.map _))]
    intro id
    constructor
    · intro named
      obtain ⟨row, mem, rfl⟩ := List.mem_map.mp (tracks.known id named)
      exact List.mem_map_of_mem
        (List.mem_filter.mpr ⟨mem, decide_eq_true (tracks.needed row mem named)⟩)
    · intro needed
      obtain ⟨row, inFilter, rfl⟩ := List.mem_map.mp needed
      obtain ⟨mem, needs⟩ := List.mem_filter.mp inFilter
      by_contra notNamed
      exact unnamed row mem notNamed (of_decide_eq_true needs)

end Main

/-! ## Completion -/

/-- The database before the first run. -/
def BackfillState.start (users : Users) (checkpoint : Checkpoint) : BackfillState :=
  ⟨users, checkpoint, none, []⟩

/-- Only the parts may differ, and only where they were NULL. -/
def UserRow.KeptBy (row row' : UserRow) : Prop :=
  row' = { row with firstName := row'.firstName, lastName := row'.lastName } ∧
  (row.firstName ≠ none → row'.firstName = row.firstName) ∧
  (row.lastName ≠ none → row'.lastName = row.lastName)

theorem UserRow.keptBy_backfilled (row : UserRow) : row.KeptBy row.backfilled := by
  refine ⟨rfl, fun hasFirst => ?_, fun hasLast => ?_⟩
  · obtain ⟨first, same⟩ := Option.ne_none_iff_exists'.mp hasFirst
    simp only [UserRow.backfilled, Names.backfilled, same, Option.getD_some]
  · obtain ⟨last, same⟩ := Option.ne_none_iff_exists'.mp hasLast
    simp only [UserRow.backfilled, Names.backfilled, same, Option.getD_some]

/-- **The backfill completes, resumes and never overwrites.** -/
theorem backfill_completes {users : Users} {checkpoint : Checkpoint}
    (fits : ∀ row ∈ users.rows, row.toNames.backfilled.FitsColumns)
    (serial : ∀ row ∈ users.rows, 0 < row.id) {earlier : List BackfillAction} {s : BackfillState}
    (ran : run backfillStep (.start users checkpoint) earlier = some s) (idle : s.job = none)
    {args : BackfillArgs} (real : args.dryRun = false) :
    ∃ k t, run backfillStep s (.start args :: List.replicate k .advance) = some t ∧
      t.job = some (args, .exited 0) ∧
      (∀ row ∈ t.users.rows, row.firstName ≠ none ∧ row.lastName ≠ none) ∧
      List.Forall₂ UserRow.KeptBy users.rows t.users.rows ∧
      t.batches.flatten.Perm
        ((users.rows.filter fun row => row.toNames.NeedsBackfill).map UserRow.id) ∧
      t.checkpoint.rowsDone = checkpoint.rowsDone + t.batches.flatten.length := by
  have tracks := tracks_run (.refl rfl) ran
  have started : backfillStep s (.start args) = some { s with job := some (args, .load) } :=
    if_pos idle
  obtain ⟨t, ⟨k, advanced⟩, exited, tracked, nobody⟩ :=
    main_runs fits serial (tracks_step tracks started) rfl real
  obtain ⟨rows, batches⟩ := tracked.finished nobody
  refine ⟨k, t, ?_, exited, fun row mem => ?_, ?_, batches, tracked.counted⟩
  · rw [run_cons, started]
    exact advanced
  · exact not_or.mp (countRemaining_eq_zero_iff.mp nobody row mem)
  · rw [rows, List.forall₂_map_right_iff]
    exact List.forall₂_same.mpr fun row _ => row.keptBy_backfilled

/-- The default arguments. -/
def BackfillArgs.default : BackfillArgs := ⟨50, false, false, by decide⟩

/-- A run that is killed before its batch commits, and one that resumes beyond all ids. -/
theorem account_completed_after_kill : ∃ k t,
    run backfillStep (.start Sample.oneAccount ⟨7, 3⟩)
      (.start .default :: List.replicate k .advance) = some t ∧
    t.job = some (.default, .exited 0) ∧
    (∀ row ∈ t.users.rows, row.firstName ≠ none ∧ row.lastName ≠ none) ∧
    List.Forall₂ UserRow.KeptBy Sample.oneAccount.rows t.users.rows ∧
    t.batches.flatten.Perm
      ((Sample.oneAccount.rows.filter fun row => row.toNames.NeedsBackfill).map UserRow.id) ∧
    t.checkpoint.rowsDone = 3 + t.batches.flatten.length := by
  have killed : run backfillStep (.start Sample.oneAccount ⟨7, 3⟩)
      [.start .default, .advance, .kill] = some (.start Sample.oneAccount ⟨7, 3⟩) := rfl
  apply backfill_completes ?_ ?_ killed rfl rfl
  · decide +kernel
  · decide +kernel

end TicketBooking
