import TicketBooking.LifeCycle
import Mathlib.Data.List.Sort
import Mathlib.Data.List.Dedup

/-!
# Guards in the database

`upgrade` of `alembic/versions/0007_db_guards.py` on a database in use: it checks the rows, builds a
unique index over the completed payments CONCURRENTLY, and adds and validates five CHECK
constraints, while anyone writes, statements fail or wait for locks in vain, and the process may be
killed and started again.

* `GuardSystem` is the database with the upgrade; PostgreSQL's part is what its manual says of
  indexes built and dropped CONCURRENTLY and of constraints that are NOT VALID.
* `GuardSystem.Sound` is the invariant; `sound_write` and `sound_statement` keep it.
* `guards_hold`: once the revision is recorded, the rules hold whoever writes, and the upgrade has
  changed no row.
* `upgrade_alone`: a run that nothing disturbs records the revision exactly when the rows obey the
  rules, whatever earlier runs have left behind; otherwise its check refuses (`Refuses`), and
  nothing has changed.
-/

namespace TicketBooking

open StepSystem

/-! ## The rules -/

inductive GuardTable
  | users | orders | tickets | payments | outboxEvents
deriving DecidableEq

/-- A row as the guards see it. -/
structure GuardRow where
  id : ℕ
  /-- Of a payment. -/
  orderId : ℕ
  /-- The status, or the role of a user. -/
  value : String
deriving DecidableEq

abbrev GuardRows := GuardTable → List GuardRow

/-- The keys of `STATUS_CHECKS`, in order. -/
def statusChecks : List GuardTable := [.users, .orders, .tickets, .payments, .outboxEvents]

/-- The values of `STATUS_CHECKS`. -/
def GuardTable.allowed : GuardTable → List String
  | .users => ["fan", "organizer", "admin"]
  | .orders => ["pending", "paid", "confirmed", "expired", "cancelled"]
  | .tickets => ["held", "valid", "used", "refunded", "cancelled"]
  | .payments => ["pending", "completed", "failed", "refunded"]
  | .outboxEvents => ["pending", "processed", "failed"]

def GuardRow.Completed (r : GuardRow) : Prop := r.value = "completed"

instance (r : GuardRow) : Decidable r.Completed := inferInstanceAs (Decidable (_ = _))

/-- The two rows may stand in `payments` together. -/
def GuardRow.Compatible (r r' : GuardRow) : Prop :=
  r.Completed → r'.Completed → r.orderId ≠ r'.orderId

instance (r r' : GuardRow) : Decidable (r.Compatible r') :=
  inferInstanceAs (Decidable (_ → _ → _))

/-- At most one completed payment per order. -/
def GuardRows.OnePaid (data : GuardRows) : Prop := (data .payments).Pairwise GuardRow.Compatible

instance (data : GuardRows) : Decidable data.OnePaid :=
  inferInstanceAs (Decidable (List.Pairwise _ _))

def GuardRows.InValues (data : GuardRows) (t : GuardTable) : Prop :=
  ∀ r ∈ data t, r.value ∈ t.allowed

instance (data : GuardRows) (t : GuardTable) : Decidable (data.InValues t) :=
  inferInstanceAs (Decidable (∀ r ∈ data t, _))

def GuardRows.Obey (data : GuardRows) : Prop := data.OnePaid ∧ ∀ t, data.InValues t

/-! ## The check of the rows -/

inductive GuardProblem
  /-- Orders, and how many completed payments they have. -/
  | doubleCharge (orders : List (ℕ × ℕ))
  | outsideValues (table : GuardTable) (bad : List String)
deriving DecidableEq

/-- `GROUP BY order_id HAVING count(*) > 1 ORDER BY order_id LIMIT 5` -/
def GuardRows.duplicates (data : GuardRows) : List (ℕ × ℕ) :=
  let paid := ((data .payments).filter fun r => r.Completed).map GuardRow.orderId
  (((paid.dedup.filter fun o => 1 < paid.count o).insertionSort (· ≤ ·)).take 5).map fun o =>
    (o, paid.count o)

/-- `SELECT DISTINCT ... NOT IN ... LIMIT 5` -/
def GuardRows.bad (data : GuardRows) (t : GuardTable) : List String :=
  (((data t).map GuardRow.value).filter (· ∉ t.allowed)).dedup.take 5

section Check

variable {data : GuardRows}

theorem take_five_eq_nil {α : Type} {as : List α} : as.take 5 = [] ↔ as = [] := by
  simp [List.take_eq_nil_iff]

/-- The first query finds nothing exactly when no order was charged twice. -/
theorem GuardRows.duplicates_eq_nil : data.duplicates = [] ↔ data.OnePaid := by
  have sorted : ∀ as : List ℕ, as.insertionSort (· ≤ ·) = [] ↔ as = [] := fun as => by
    rw [← List.length_eq_zero_iff, List.length_insertionSort, List.length_eq_zero_iff]
  have nodup : data.OnePaid ↔
      (((data .payments).filter fun r => r.Completed).map GuardRow.orderId).Nodup := by
    unfold OnePaid List.Nodup
    rw [List.pairwise_map, List.pairwise_filter]
    simp only [decide_eq_true_eq]
    rfl
  unfold duplicates
  dsimp only
  rw [List.map_eq_nil_iff, take_five_eq_nil, sorted, List.filter_eq_nil_iff, nodup,
    List.nodup_iff_count_le_one]
  constructor
  · intro single o
    by_cases mem : o ∈ ((data .payments).filter fun r => r.Completed).map GuardRow.orderId
    · simpa using single o (List.mem_dedup.mpr mem)
    · rw [List.count_eq_zero_of_not_mem mem]
      exact Nat.zero_le 1
  · intro single o _
    simpa using single o

theorem GuardRows.bad_eq_nil {t : GuardTable} : data.bad t = [] ↔ data.InValues t := by
  unfold bad InValues
  rw [take_five_eq_nil, List.dedup_eq_nil, List.filter_eq_nil_iff]
  simp

end Check

/-! ## The database -/

inductive IndexState
  | absent
  /-- First scan of a concurrent build; other transactions are not checked yet. -/
  | building
  /-- Second scan; other transactions are checked. -/
  | checking
  /-- A build or a DROP has failed. -/
  | invalid (enforces : Bool)
  | valid
deriving DecidableEq

def IndexState.enforces : IndexState → Bool
  | .checking | .valid => true
  | .invalid enforces => enforces
  | .absent | .building => false

/-- No build is going on. -/
def IndexState.Resting (index : IndexState) : Prop := index ≠ .building ∧ index ≠ .checking

instance (index : IndexState) : Decidable index.Resting := inferInstanceAs (Decidable (_ ∧ _))

theorem IndexState.invalid_resting (enforces : Bool) : (IndexState.invalid enforces).Resting := by
  constructor <;> nofun

inductive CheckState
  | absent
  /-- New rows are checked. -/
  | notValid
  | valid
deriving DecidableEq

inductive UpgradePc
  | duplicates
  | vocabulary (todo : List GuardTable) (problems : List GuardProblem)
  | dropInvalid
  | create
  | firstScan
  | secondScan
  /-- The `except` of the index build. -/
  | dropIndex
  /-- Is the constraint of the first table there? -/
  | known (todo : List GuardTable)
  | add (attempt : ℕ) (t : GuardTable) (todo : List GuardTable)
  | validate (attempt : ℕ) (t : GuardTable) (todo : List GuardTable)
deriving DecidableEq

/-- A run of `upgrade`. -/
structure Upgrade where
  pc : UpgradePc
  /-- The constraints its transaction has added; it holds ACCESS EXCLUSIVE on their tables. -/
  added : List GuardTable
  validated : List GuardTable
deriving DecidableEq

def Upgrade.begin : Upgrade := ⟨.duplicates, [], []⟩

structure GuardSystem where
  data : GuardRows
  index : IndexState
  checks : GuardTable → CheckState
  /-- 0007 is in `alembic_version`. -/
  recorded : Bool
  upgrade : Option Upgrade

/-! ### Writes -/

inductive RowWrite
  | insert (row : GuardRow)
  | update (row : GuardRow)
  | delete (id : ℕ)
deriving DecidableEq

/-- The rows after the write, under the primary key. -/
def RowWrite.apply (rows : List GuardRow) : RowWrite → Option (List GuardRow)
  | .insert row => if row.id ∈ rows.map GuardRow.id then none else some (rows ++ [row])
  | .update row => if row.id ∈ rows.map GuardRow.id then
      some (rows.map fun r => if r.id = row.id then row else r)
    else none
  | .delete id => some (rows.filter fun r => r.id ≠ id)

def RowWrite.row : RowWrite → Option GuardRow
  | .insert row | .update row => some row
  | .delete _ => none

/-- The guards let the row in. -/
def GuardSystem.Accepts (s : GuardSystem) (t : GuardTable) (row : GuardRow) : Prop :=
  (s.checks t ≠ .absent → row.value ∈ t.allowed) ∧
  (t = .payments → s.index.enforces = true →
    ∀ r ∈ s.data .payments, r.id ≠ row.id → r.Compatible row)

instance (s : GuardSystem) (t : GuardTable) (row : GuardRow) : Decidable (s.Accepts t row) :=
  inferInstanceAs (Decidable ((_ → _) ∧ (_ → _ → ∀ r ∈ _, _ → _)))

def GuardRows.set (data : GuardRows) (t : GuardTable) (rows : List GuardRow) : GuardRows :=
  fun t' => if t' = t then rows else data t'

/-! ### The upgrade -/

/-- How a statement fails. -/
inductive DdlFault
  | none
  /-- 55P03 -/
  | lockNotAvailable
  | other
  /-- An error or a kill, after a DROP INDEX CONCURRENTLY has marked the index invalid; `enforces`
  says that it has not yet told the writers to leave the index alone. -/
  | dropHalfway (enforces : Bool)
deriving DecidableEq

def upgradeAttempts : ℕ := 5

def GuardSystem.goto (s : GuardSystem) (u : Upgrade) (pc : UpgradePc) : GuardSystem :=
  { s with upgrade := some { u with pc } }

/-- The exception leaves `upgrade`; its transaction is rolled back. -/
def GuardSystem.raise (s : GuardSystem) : GuardSystem := { s with upgrade := none }

def GuardSystem.setIndex (s : GuardSystem) (index : IndexState) : GuardSystem := { s with index }

/-- The COMMIT, with the row of `alembic_version`. -/
def GuardSystem.commit (s : GuardSystem) (u : Upgrade) : GuardSystem :=
  { s with
    checks := fun t => if t ∈ u.validated then .valid else if t ∈ u.added then .notValid
      else s.checks t
    recorded := true
    upgrade := none }

/-- What `DROP INDEX CONCURRENTLY IF EXISTS` leaves of an index. -/
def IndexState.afterDrop : IndexState → DdlFault → IndexState
  | _, .none => .absent
  | .absent, .dropHalfway _ => .absent
  | index, .dropHalfway enforces => .invalid (enforces && index.enforces)
  | index, .lockNotAvailable | index, .other => index

/-- The next statement of the upgrade. -/
def GuardSystem.statement (s : GuardSystem) (u : Upgrade) (fault : DdlFault) : GuardSystem :=
  match u.pc with
  | .duplicates =>
    if fault ≠ .none then s.raise
    else s.goto u (.vocabulary statusChecks
      (if s.data.duplicates = [] then [] else [.doubleCharge s.data.duplicates]))
  | .vocabulary [] problems => if problems = [] then s.goto u .dropInvalid else s.raise
  | .vocabulary (t :: todo) problems =>
    if fault ≠ .none then s.raise
    else s.goto u (.vocabulary todo
      (problems ++ if s.data.bad t = [] then [] else [.outsideValues t (s.data.bad t)]))
  | .dropInvalid =>
    match s.index with
    | .invalid _ =>
      if fault ≠ .none then (s.setIndex (s.index.afterDrop fault)).raise
      else (s.setIndex .absent).goto u .create
    | _ => if fault ≠ .none then s.raise else s.goto u .create
  | .create =>
    if fault ≠ .none then s.goto u .dropIndex
    else match s.index with
      | .absent => (s.setIndex .building).goto u .firstScan
      -- IF NOT EXISTS: also for an invalid index
      | _ => s.goto u (.known statusChecks)
  | .firstScan =>
    if fault ≠ .none ∨ ¬ s.data.OnePaid then (s.setIndex (.invalid false)).goto u .dropIndex
    else (s.setIndex .checking).goto u .secondScan
  | .secondScan =>
    if fault ≠ .none ∨ ¬ s.data.OnePaid then (s.setIndex (.invalid true)).goto u .dropIndex
    else (s.setIndex .valid).goto u (.known statusChecks)
  | .dropIndex => (s.setIndex (s.index.afterDrop fault)).raise
  | .known [] => if fault ≠ .none then s.raise else s.commit u
  | .known (t :: todo) =>
    if fault ≠ .none then s.raise
    else if s.checks t = .absent then s.goto u (.add 1 t todo)
    else s.goto u (.validate 1 t todo)
  | .add attempt t todo =>
    match fault with
    | .none => s.goto { u with added := t :: u.added } (.validate 1 t todo)
    | .lockNotAvailable =>
      if attempt = upgradeAttempts then s.raise else s.goto u (.add (attempt + 1) t todo)
    | .other | .dropHalfway _ => s.raise
  | .validate attempt t todo =>
    match fault with
    | .none =>
      if s.data.InValues t then s.goto { u with validated := t :: u.validated } (.known todo)
      else s.raise
    | .lockNotAvailable =>
      if attempt = upgradeAttempts then s.raise else s.goto u (.validate (attempt + 1) t todo)
    | .other | .dropHalfway _ => s.raise

/-- What an interrupted build leaves behind. -/
def IndexState.interrupted : IndexState → IndexState
  | .building => .invalid false
  | .checking => .invalid true
  | index => index

inductive GuardAction
  | write (t : GuardTable) (w : RowWrite)
  | start
  | statement (fault : DdlFault)
  | kill
deriving DecidableEq

def GuardSystem.step (s : GuardSystem) : GuardAction → Option GuardSystem
  | .write t w =>
    -- ACCESS EXCLUSIVE: the write waits
    if s.upgrade.any fun u => t ∈ u.added then none
    else if ∀ row ∈ w.row, s.Accepts t row then
      (w.apply (s.data t)).map fun rows => { s with data := s.data.set t rows }
    else none
  | .start =>
    if s.recorded = false ∧ s.upgrade = none then
      some { s with upgrade := some .begin }
    else none
  | .statement fault => s.upgrade.map fun u => s.statement u fault
  | .kill => s.upgrade.map fun _ => (s.setIndex s.index.interrupted).raise

/-! ## The invariant -/

/-- What each stage of the upgrade relies on. -/
def Upgrade.Ready (s : GuardSystem) (u : Upgrade) : Prop :=
  match u.pc with
  | .duplicates | .vocabulary _ _ | .dropInvalid | .dropIndex =>
    s.index.Resting ∧ u.added = []
  | .create => (s.index = .absent ∨ s.index = .valid) ∧ u.added = []
  | .firstScan => s.index = .building ∧ u.added = []
  | .secondScan => s.index = .checking ∧ u.added = []
  | .known todo => s.index = .valid ∧ ∀ t ∉ todo, t ∈ u.validated
  | .add _ t todo => s.index = .valid ∧ ∀ t' ∉ t :: todo, t' ∈ u.validated
  | .validate _ t todo => s.index = .valid ∧ (s.checks t ≠ .absent ∨ t ∈ u.added) ∧
      ∀ t' ∉ t :: todo, t' ∈ u.validated

/-- What the guards that exist say of the rows, and the stage of the upgrade. -/
structure GuardSystem.Sound (s : GuardSystem) : Prop where
  keys : ∀ t, ((s.data t).map GuardRow.id).Nodup
  paid : s.index = .valid → s.data.OnePaid
  values : ∀ t, s.checks t = .valid → s.data.InValues t
  settled : s.upgrade = none → s.index.Resting
  /-- What the transaction has validated, it holds or an earlier constraint holds. -/
  validated : ∀ u, s.upgrade = some u → ∀ t ∈ u.validated,
    s.data.InValues t ∧ (s.checks t ≠ .absent ∨ t ∈ u.added)
  ready : ∀ u, s.upgrade = some u → u.Ready s
  recorded : s.recorded = true →
    s.upgrade = none ∧ s.index = .valid ∧ ∀ t, s.checks t = .valid

/-- Before the upgrade: PostgreSQL keeps the guards that exist. -/
structure GuardSystem.Before (s : GuardSystem) : Prop where
  keys : ∀ t, ((s.data t).map GuardRow.id).Nodup
  paid : s.index = .valid → s.data.OnePaid
  values : ∀ t, s.checks t = .valid → s.data.InValues t
  unrecorded : s.recorded = false
  idle : s.upgrade = none ∧ s.index.Resting

/-! ### Writes keep it -/

section Writes

variable {rows rows' : List GuardRow} {w : RowWrite}

theorem GuardRow.Compatible.symm {r r' : GuardRow} (compatible : r.Compatible r') :
    r'.Compatible r :=
  fun paid' paid same => compatible paid paid' same.symm

theorem RowWrite.apply_keys (applied : w.apply rows = some rows')
    (keys : (rows.map GuardRow.id).Nodup) : (rows'.map GuardRow.id).Nodup := by
  cases w with
  | insert row =>
    obtain ⟨fresh, same⟩ := Option.ite_none_left_eq_some.mp applied
    cases same
    rw [List.map_append]
    exact List.nodup_append.mpr ⟨keys, List.nodup_singleton _, fun a mem b single same => fresh
      (List.mem_singleton.mp single ▸ same ▸ mem)⟩
  | update row =>
    obtain ⟨-, same⟩ := Option.ite_none_right_eq_some.mp applied
    cases same
    have ids : (rows.map fun r => if r.id = row.id then row else r).map GuardRow.id =
        rows.map GuardRow.id := by
      rw [List.map_map]
      refine List.map_congr_left fun r _ => ?_
      dsimp only [Function.comp]
      split
      case isTrue same => exact same.symm
      case isFalse => rfl
    rw [ids]
    exact keys
  | delete id =>
    cases applied
    exact keys.sublist (List.filter_sublist.map _)

/-- What holds of the old rows and of the new one. -/
theorem RowWrite.apply_forall {P : GuardRow → Prop} (applied : w.apply rows = some rows')
    (old : ∀ r ∈ rows, P r) (new : ∀ row ∈ w.row, P row) : ∀ r ∈ rows', P r := by
  intro r mem
  cases w with
  | insert row =>
    obtain ⟨-, same⟩ := Option.ite_none_left_eq_some.mp applied
    cases same
    rcases List.mem_append.mp mem with before | single
    · exact old r before
    · exact List.mem_singleton.mp single ▸ new row rfl
  | update row =>
    obtain ⟨-, same⟩ := Option.ite_none_right_eq_some.mp applied
    cases same
    obtain ⟨r', before, rfl⟩ := List.mem_map.mp mem
    split
    · exact new row rfl
    · exact old r' before
  | delete id =>
    cases applied
    exact old r (List.mem_filter.mp mem).1

/-- The unique index lets no second completed payment in. -/
theorem RowWrite.apply_compatible (applied : w.apply rows = some rows')
    (keys : (rows.map GuardRow.id).Nodup) (old : rows.Pairwise GuardRow.Compatible)
    (new : ∀ row ∈ w.row, ∀ r ∈ rows, r.id ≠ row.id → r.Compatible row) :
    rows'.Pairwise GuardRow.Compatible := by
  cases w with
  | insert row =>
    obtain ⟨fresh, same⟩ := Option.ite_none_left_eq_some.mp applied
    cases same
    refine List.pairwise_append.mpr ⟨old, List.pairwise_singleton _ _, fun r mem r' single => ?_⟩
    cases List.mem_singleton.mp single
    exact new row rfl r mem fun same => fresh (List.mem_map.mpr ⟨r, mem, same⟩)
  | update row =>
    obtain ⟨-, same⟩ := Option.ite_none_right_eq_some.mp applied
    cases same
    refine List.pairwise_map.mpr (((List.pairwise_map.mp keys).and old).imp_of_mem ?_)
    intro r r' mem mem' ⟨apart, compatible⟩
    by_cases hit : r.id = row.id
    · rw [if_pos hit, if_neg (hit ▸ apart.symm)]
      exact (new row rfl r' mem' (hit ▸ apart.symm)).symm
    · rw [if_neg hit]
      split
      · exact new row rfl r mem hit
      · exact compatible
  | delete id =>
    cases applied
    exact old.filter _

end Writes

section Sound

variable {s s' : GuardSystem} {u : Upgrade}

theorem sound_write (sound : s.Sound) {t : GuardTable} {w : RowWrite}
    (moved : s.step (.write t w) = some s') : s'.Sound := by
  obtain ⟨unlocked, branch⟩ := Option.ite_none_left_eq_some.mp moved
  obtain ⟨accepts, mapped⟩ := Option.ite_none_right_eq_some.mp branch
  obtain ⟨rows, applied, rfl⟩ := Option.map_eq_some_iff.mp mapped
  -- a table under a constraint keeps its values
  have kept : ∀ t', (s.checks t' ≠ .absent ∨ ∃ u, s.upgrade = some u ∧ t' ∈ u.added) →
      s.data.InValues t' → (s.data.set t rows).InValues t' := by
    intro t' guarded values
    unfold GuardRows.InValues GuardRows.set
    split
    case isTrue same =>
      subst same
      refine RowWrite.apply_forall applied values fun row written => ?_
      refine (accepts row written).1 ?_
      rcases guarded with checked | ⟨u, running, locked⟩
      · exact checked
      · simp [running, locked] at unlocked
    case isFalse => exact values
  constructor
  · intro t'
    change ((s.data.set t rows t').map GuardRow.id).Nodup
    unfold GuardRows.set
    split
    case isTrue same => exact RowWrite.apply_keys applied (same ▸ sound.keys t')
    case isFalse => exact sound.keys t'
  · intro valid
    change (s.data.set t rows .payments).Pairwise GuardRow.Compatible
    unfold GuardRows.set
    split
    case isTrue same =>
      subst same
      refine RowWrite.apply_compatible applied (sound.keys _) (sound.paid valid) ?_
      intro row written
      exact (accepts row written).2 rfl (by rw [show s.index = .valid from valid]; rfl)
    case isFalse => exact sound.paid valid
  · intro t' valid
    exact kept t' (.inl (by rw [show s.checks t' = .valid from valid]; decide))
      (sound.values t' valid)
  · exact sound.settled
  · intro u running t' mem
    obtain ⟨values, guarded⟩ := sound.validated u running t' mem
    exact ⟨kept t' (guarded.imp_right fun locked => ⟨u, running, locked⟩) values, guarded⟩
  · exact sound.ready
  · exact sound.recorded

/-! ### The upgrade keeps it -/

/-- The upgrade has moved on, with another state of the index perhaps. -/
theorem GuardSystem.Sound.next {index : IndexState} {u' : Option Upgrade} (sound : s.Sound)
    (running : s.upgrade = some u) (paid : index = .valid → s.data.OnePaid)
    (settled : u' = none → index.Resting)
    (validated : ∀ v, u' = some v → ∀ t ∈ v.validated,
      s.data.InValues t ∧ (s.checks t ≠ .absent ∨ t ∈ v.added))
    (ready : ∀ v, u' = some v → v.Ready { s with index }) :
    ({ s with index := index, upgrade := u' } : GuardSystem).Sound where
  keys := sound.keys
  paid := paid
  values := sound.values
  settled := settled
  validated := validated
  ready := ready
  recorded done := by
    obtain ⟨idle, -⟩ := sound.recorded done
    cases idle.symm.trans running

theorem GuardSystem.Sound.raise {index : IndexState} (sound : s.Sound)
    (running : s.upgrade = some u) (paid : index = .valid → s.data.OnePaid)
    (settled : index.Resting) : (s.setIndex index).raise.Sound :=
  sound.next running paid (fun _ => settled) (fun v none => by cases none)
    (fun v none => by cases none)

theorem GuardSystem.Sound.goto {index : IndexState} {pc : UpgradePc} (sound : s.Sound)
    (running : s.upgrade = some u) (paid : index = .valid → s.data.OnePaid)
    (ready : Upgrade.Ready { s with index } { u with pc }) : ((s.setIndex index).goto u pc).Sound :=
  sound.next running paid (fun none => by cases none)
    (fun v same => by
      cases same
      exact sound.validated u running)
    (fun v same => by
      cases same
      exact ready)

theorem GuardSystem.Sound.commit (sound : s.Sound) (running : s.upgrade = some u)
    (valid : s.index = .valid) (all : ∀ t, t ∈ u.validated) : (s.commit u).Sound where
  keys := sound.keys
  paid := sound.paid
  values t _ := (sound.validated u running t (all t)).1
  settled _ := by
    change s.index.Resting
    rw [valid]
    decide
  validated v none := by cases none
  ready v none := by cases none
  recorded _ := ⟨rfl, valid, fun t => if_pos (all t)⟩

theorem IndexState.afterDrop_resting {index : IndexState} (resting : index.Resting)
    (fault : DdlFault) : (index.afterDrop fault).Resting := by
  cases fault with
  | none => exact (by decide : IndexState.absent.Resting)
  | lockNotAvailable | other => cases index <;> exact resting
  | dropHalfway enforces =>
    cases index with
    | absent => exact resting
    | building | checking | invalid | valid => exact invalid_resting _

/-- Only a DROP that did nothing leaves a valid index. -/
theorem IndexState.valid_of_afterDrop {index : IndexState} {fault : DdlFault}
    (valid : index.afterDrop fault = .valid) : index = .valid := by
  cases fault with
  | none => cases valid
  | lockNotAvailable | other => cases index <;> exact valid
  | dropHalfway enforces => cases index <;> cases valid

theorem GuardSystem.Sound.dropped (sound : s.Sound) (running : s.upgrade = some u)
    (resting : s.index.Resting) (fault : DdlFault) :
    (s.setIndex (s.index.afterDrop fault)).raise.Sound :=
  sound.raise running (fun valid => sound.paid (IndexState.valid_of_afterDrop valid))
    (IndexState.afterDrop_resting resting fault)

theorem mem_statusChecks (t : GuardTable) : t ∈ statusChecks := by cases t <;> decide

theorem sound_statement (sound : s.Sound) (running : s.upgrade = some u) (fault : DdlFault) :
    (s.statement u fault).Sound := by
  have ready := sound.ready u running
  unfold Upgrade.Ready at ready
  have notValid : ∀ {index : IndexState}, index ≠ .valid → index = .valid → s.data.OnePaid :=
    fun other valid => absurd valid other
  have resting : s.index = .valid → s.index.Resting := by
    intro valid
    rw [valid]
    decide
  unfold GuardSystem.statement
  split
  case h_1 at_pc =>
    rw [at_pc] at ready
    split
    · exact sound.raise running sound.paid ready.1
    · exact sound.goto running sound.paid ready
  case h_2 at_pc =>
    rw [at_pc] at ready
    split
    · exact sound.goto running sound.paid ready
    · exact sound.raise running sound.paid ready.1
  case h_3 at_pc =>
    rw [at_pc] at ready
    split
    · exact sound.raise running sound.paid ready.1
    · exact sound.goto running sound.paid ready
  case h_4 at_pc =>
    rw [at_pc] at ready
    obtain ⟨rests, noneAdded⟩ := ready
    split
    case h_1 =>
      split
      · exact sound.dropped running rests fault
      · exact sound.goto running (notValid (by decide)) ⟨.inl rfl, noneAdded⟩
    case h_2 notInvalid =>
      split
      · exact sound.raise running sound.paid rests
      · refine sound.goto running sound.paid ⟨?_, noneAdded⟩
        revert rests notInvalid
        cases s.index <;> simp [IndexState.Resting]
  case h_5 at_pc =>
    rw [at_pc] at ready
    obtain ⟨index, noneAdded⟩ := ready
    split
    · refine sound.goto running sound.paid ⟨?_, noneAdded⟩
      change s.index.Resting
      rcases index with same | same
      · rw [same]
        decide
      · exact resting same
    · split
      case h_1 => exact sound.goto running (notValid (by decide)) ⟨rfl, noneAdded⟩
      case h_2 notAbsent =>
        rcases index with same | same
        · exact absurd same notAbsent
        · exact sound.goto running sound.paid
            ⟨same, fun t missing => absurd (mem_statusChecks t) missing⟩
  case h_6 at_pc =>
    rw [at_pc] at ready
    split
    · exact sound.goto running (notValid (by decide)) ⟨IndexState.invalid_resting _, ready.2⟩
    · exact sound.goto running (notValid (by decide)) ⟨rfl, ready.2⟩
  case h_7 at_pc =>
    rw [at_pc] at ready
    split
    · exact sound.goto running (notValid (by decide)) ⟨IndexState.invalid_resting _, ready.2⟩
    case isFalse clean =>
      push Not at clean
      exact sound.goto running (fun _ => clean.2)
        ⟨rfl, fun t missing => absurd (mem_statusChecks t) missing⟩
  case h_8 at_pc =>
    rw [at_pc] at ready
    exact sound.dropped running ready.1 fault
  case h_9 at_pc =>
    rw [at_pc] at ready
    split
    · exact sound.raise running sound.paid (resting ready.1)
    · exact sound.commit running ready.1 fun t => ready.2 t List.not_mem_nil
  case h_10 t todo at_pc =>
    rw [at_pc] at ready
    split
    · exact sound.raise running sound.paid (resting ready.1)
    · split
      · exact sound.goto running sound.paid ready
      case isFalse known => exact sound.goto running sound.paid ⟨ready.1, .inl known, ready.2⟩
  case h_11 attempt t todo at_pc =>
    rw [at_pc] at ready
    split
    · refine sound.next running sound.paid (fun none => by cases none) ?_ ?_
      · intro v same t' mem
        cases same
        obtain ⟨values, guarded⟩ := sound.validated u running t' mem
        exact ⟨values, guarded.imp_right (List.mem_cons_of_mem t)⟩
      · intro v same
        cases same
        exact ⟨ready.1, .inr List.mem_cons_self, ready.2⟩
    · split
      · exact sound.raise running sound.paid (resting ready.1)
      · exact sound.goto running sound.paid ready
    all_goals exact sound.raise running sound.paid (resting ready.1)
  case h_12 attempt t todo at_pc =>
    rw [at_pc] at ready
    split
    · split
      case isTrue values =>
        refine sound.next running sound.paid (fun none => by cases none) ?_ ?_
        · intro v same t' mem
          cases same
          rcases List.mem_cons.mp mem with rfl | before
          · exact ⟨values, ready.2.1⟩
          · exact sound.validated u running t' before
        · intro v same
          cases same
          refine ⟨ready.1, fun t' missing => ?_⟩
          by_cases new : t' = t
          · exact List.mem_cons.mpr (.inl new)
          · exact List.mem_cons_of_mem t (ready.2.2 t' (by simp [new, missing]))
      · exact sound.raise running sound.paid (resting ready.1)
    · split
      · exact sound.raise running sound.paid (resting ready.1)
      · exact sound.goto running sound.paid ready
    all_goals exact sound.raise running sound.paid (resting ready.1)

theorem sound_step (sound : s.Sound) {a : GuardAction} (moved : s.step a = some s') : s'.Sound := by
  cases a with
  | write => exact sound_write sound moved
  | start =>
    obtain ⟨⟨unrecorded, idle⟩, same⟩ := Option.ite_none_right_eq_some.mp moved
    cases same
    refine ⟨sound.keys, sound.paid, sound.values, fun none => (by cases none), ?_, ?_, ?_⟩
    · intro u same t mem
      cases same
      cases mem
    · intro u same
      cases same
      exact ⟨sound.settled idle, rfl⟩
    · intro recorded
      cases unrecorded.symm.trans recorded
  | statement fault =>
    obtain ⟨u, running, rfl⟩ := Option.map_eq_some_iff.mp moved
    exact sound_statement sound running fault
  | kill =>
    obtain ⟨u, running, rfl⟩ := Option.map_eq_some_iff.mp moved
    refine sound.raise running ?_ ?_
    · cases same : s.index with
      | valid => exact fun _ => sound.paid same
      | absent | building | checking | invalid => exact fun valid => by cases valid
    · cases same : s.index with
      | absent | valid => exact by decide
      | building => exact IndexState.invalid_resting false
      | checking => exact IndexState.invalid_resting true
      | invalid enforces => exact IndexState.invalid_resting enforces

end Sound

/-! ## Over runs -/

section Runs

variable {start s s' : GuardSystem} {u : Upgrade} {as : List GuardAction}

theorem GuardSystem.Before.sound (before : start.Before) : start.Sound where
  keys := before.keys
  paid := before.paid
  values := before.values
  settled _ := before.idle.2
  validated u running := by cases before.idle.1.symm.trans running
  ready u running := by cases before.idle.1.symm.trans running
  recorded recorded := by cases before.unrecorded.symm.trans recorded

theorem sound_of_run (sound : start.Sound) (ran : run GuardSystem.step start as = some s) :
    s.Sound :=
  run_invariant ran sound fun _ _ _ sound moved => sound_step sound moved

/-- The write of an action. -/
def GuardAction.written : GuardAction → Option (GuardTable × RowWrite)
  | .write t w => some (t, w)
  | _ => none

/-- A write without any guard. -/
def writeRow (data : GuardRows) (p : GuardTable × RowWrite) : Option GuardRows :=
  (p.2.apply (data p.1)).map (data.set p.1)

/-- **No statement of the upgrade changes a row.** -/
theorem statement_data (s : GuardSystem) (u : Upgrade) (fault : DdlFault) :
    (s.statement u fault).data = s.data := by
  unfold GuardSystem.statement
  repeat' split
  all_goals rfl

/-- The revision stays recorded while the upgrade is not running. -/
theorem recorded_step {a : GuardAction} (sound : s.Sound) (moved : s.step a = some s')
    (recorded : s.recorded = true) : s'.recorded = true := by
  obtain ⟨idle, -⟩ := sound.recorded recorded
  cases a with
  | write t w =>
    obtain ⟨-, branch⟩ := Option.ite_none_left_eq_some.mp moved
    obtain ⟨-, mapped⟩ := Option.ite_none_right_eq_some.mp branch
    obtain ⟨rows, -, rfl⟩ := Option.map_eq_some_iff.mp mapped
    exact recorded
  | start =>
    obtain ⟨⟨unrecorded, -⟩, -⟩ := Option.ite_none_right_eq_some.mp moved
    cases unrecorded.symm.trans recorded
  | statement | kill =>
    obtain ⟨u, running, -⟩ := Option.map_eq_some_iff.mp moved
    cases idle.symm.trans running

theorem recorded_run (sound : s.Sound) (ran : run GuardSystem.step s as = some s')
    (recorded : s.recorded = true) : s'.recorded = true :=
  (run_invariant ran (P := fun s => s.Sound ∧ s.recorded = true) ⟨sound, recorded⟩
    fun _ _ _ before moved => ⟨sound_step before.1 moved, recorded_step before.1 moved before.2⟩).2

theorem writes_step {a : GuardAction} (moved : s.step a = some s') :
    run writeRow s.data a.written.toList = some s'.data := by
  cases a with
  | write t w =>
    obtain ⟨-, branch⟩ := Option.ite_none_left_eq_some.mp moved
    obtain ⟨-, mapped⟩ := Option.ite_none_right_eq_some.mp branch
    obtain ⟨rows, applied, rfl⟩ := Option.map_eq_some_iff.mp mapped
    change ((w.apply (s.data t)).map (s.data.set t)).bind some = some (s.data.set t rows)
    rw [applied]
    rfl
  | start =>
    obtain ⟨-, same⟩ := Option.ite_none_right_eq_some.mp moved
    cases same
    rfl
  | statement fault =>
    obtain ⟨u, -, rfl⟩ := Option.map_eq_some_iff.mp moved
    exact congrArg some (statement_data s u fault).symm
  | kill =>
    obtain ⟨u, -, rfl⟩ := Option.map_eq_some_iff.mp moved
    rfl

/-- The rows are what the writes have made of them. -/
theorem writes_run (ran : run GuardSystem.step start as = some s) :
    run writeRow start.data (as.filterMap GuardAction.written) = some s.data := by
  refine run_history ran (P := fun as s =>
    run writeRow start.data (as.filterMap GuardAction.written) = some s.data) rfl ?_
  intro before s a s' _ earlier moved
  have last : [a].filterMap GuardAction.written = a.written.toList := by
    rw [List.filterMap_cons]
    cases a.written <;> rfl
  rw [List.filterMap_append, run_append, earlier, last]
  exact writes_step moved

/-- **The guards hold.**  Whatever the schema has of them before, whoever writes what in between,
and however often the upgrade is refused, fails, waits in vain, is killed and started again:

* the upgrade changes no row;
* once 0007 is recorded, in every later state no order has two completed payments and every status
  and role is a known one. -/
theorem guards_hold (before : start.Before) (ran : run GuardSystem.step start as = some s) :
    run writeRow start.data (as.filterMap GuardAction.written) = some s.data ∧
    (s.recorded = true → ∀ later s', run GuardSystem.step s later = some s' → s'.data.Obey) := by
  refine ⟨writes_run ran, fun recorded later s' afterwards => ?_⟩
  have sound := sound_of_run before.sound ran
  have sound' := sound_of_run sound afterwards
  obtain ⟨-, valid, checked⟩ := sound'.recorded (recorded_run sound afterwards recorded)
  exact ⟨sound'.paid valid, fun t => sound'.values t (checked t)⟩

/-! ## An undisturbed run -/

/-- Statements of the upgrade that succeed, with nobody else at work. -/
def Alone (s s' : GuardSystem) : Prop :=
  ∃ n, run GuardSystem.step s (List.replicate n (.statement .none)) = some s'

theorem Alone.refl (s : GuardSystem) : Alone s s := ⟨0, rfl⟩

theorem Alone.next (running : s.upgrade = some u) (rest : Alone (s.statement u .none) s') :
    Alone s s' := by
  obtain ⟨n, ran⟩ := rest
  refine ⟨n + 1, ?_⟩
  rw [List.replicate_succ, run_cons, GuardSystem.step, running]
  exact ran

/-- The constraints are added where they are missing, validated and committed. -/
theorem alone_known (todo : List GuardTable) : ∀ {s : GuardSystem} {u : Upgrade},
    s.upgrade = some u → u.pc = .known todo → s.data.Obey →
      ∃ s', Alone s s' ∧ s'.recorded = true ∧ s'.data = s.data := by
  induction todo with
  | nil =>
    intro s u running at_pc obey
    refine ⟨s.commit u, .next running ?_, rfl, rfl⟩
    rw [GuardSystem.statement, at_pc]
    exact .refl _
  | cons t todo ih =>
    intro s u running at_pc obey
    have validates : ∀ v : Upgrade, ∃ s', Alone (s.goto v (.validate 1 t todo)) s' ∧
        s'.recorded = true ∧ s'.data = s.data := by
      intro v
      obtain ⟨s', alone, recorded, same⟩ := ih (s := s.goto { v with
        validated := t :: v.validated } (.known todo)) rfl rfl obey
      refine ⟨s', .next rfl ?_, recorded, same⟩
      have values : (s.goto v (.validate 1 t todo)).data.InValues t := obey.2 t
      rw [GuardSystem.statement]
      dsimp only
      rw [if_pos values]
      exact alone
    by_cases known : s.checks t = .absent
    · obtain ⟨s', alone, recorded, same⟩ := validates { u with
        pc := .add 1 t todo, added := t :: u.added }
      refine ⟨s', .next running ?_, recorded, same⟩
      rw [GuardSystem.statement, at_pc]
      dsimp only
      rw [if_neg (by decide), if_pos known]
      exact .next rfl alone
    · obtain ⟨s', alone, recorded, same⟩ := validates u
      refine ⟨s', .next running ?_, recorded, same⟩
      rw [GuardSystem.statement, at_pc]
      dsimp only
      rw [if_neg (by decide), if_neg known]
      exact alone

/-- What the check of the rows reports. -/
def GuardRows.problems (data : GuardRows) (todo : List GuardTable) : List GuardProblem :=
  (if data.duplicates = [] then [] else [.doubleCharge data.duplicates]) ++
    todo.flatMap fun t => if data.bad t = [] then [] else [.outsideValues t (data.bad t)]

theorem GuardRows.problems_eq_nil {data : GuardRows} :
    data.problems statusChecks = [] ↔ data.Obey := by
  have nil_of : ∀ (p : Prop) [Decidable p] (problem : GuardProblem),
      (if p then [] else [problem]) = [] ↔ p := by
    intro p _ problem
    split
    case isTrue holds => simp [holds]
    case isFalse fails => simp [fails]
  rw [problems, List.append_eq_nil_iff, nil_of, duplicates_eq_nil, List.flatMap_eq_nil_iff]
  refine and_congr_right fun _ => ⟨fun clean t => ?_, fun clean t _ => ?_⟩
  · exact bad_eq_nil.mp ((nil_of _ _).mp (clean t (mem_statusChecks t)))
  · exact (nil_of _ _).mpr (bad_eq_nil.mpr (clean t))

/-- The SELECTs of the check find what `problems` says. -/
theorem alone_vocabulary {s' : GuardSystem} (todo : List GuardTable) :
    ∀ {s : GuardSystem} {u : Upgrade} (problems : List GuardProblem), s.upgrade = some u →
      u.pc = .vocabulary todo problems →
      Alone (s.goto u (.vocabulary [] (problems ++ todo.flatMap fun t =>
        if s.data.bad t = [] then [] else [.outsideValues t (s.data.bad t)]))) s' →
      Alone s s' := by
  induction todo with
  | nil =>
    intro s u problems running at_pc rest
    have same : s.goto u (.vocabulary [] (problems ++ [])) = s := by
      rw [List.append_nil, ← at_pc, GuardSystem.goto, ← running]
    exact same ▸ rest
  | cons t todo ih =>
    intro s u problems running at_pc rest
    refine .next running ?_
    rw [GuardSystem.statement, at_pc]
    dsimp only
    rw [if_neg (by decide)]
    refine ih _ rfl rfl ?_
    rw [List.append_assoc]
    exact rest

/-- From `create` on: a build from scratch, or an index that is there. -/
theorem alone_create (running : s.upgrade = some u) (at_pc : u.pc = .create)
    (index : s.index = .absent ∨ s.index = .valid) (obey : s.data.Obey) :
    ∃ s', Alone s s' ∧ s'.recorded = true ∧ s'.data = s.data := by
  rcases index with absent | valid
  · obtain ⟨s', alone, recorded, same⟩ := alone_known statusChecks
      (s := (s.setIndex .valid).goto u (.known statusChecks)) rfl rfl obey
    have clean : ¬ (DdlFault.none ≠ .none ∨ ¬ s.data.OnePaid) := by simp [obey.1]
    refine ⟨s', .next running ?_, recorded, same⟩
    rw [GuardSystem.statement, at_pc]
    dsimp only
    rw [if_neg (by decide), absent]
    refine .next rfl ?_
    change Alone (if DdlFault.none ≠ .none ∨ ¬ s.data.OnePaid then _ else _) s'
    rw [if_neg clean]
    refine .next rfl ?_
    change Alone (if DdlFault.none ≠ .none ∨ ¬ s.data.OnePaid then _ else _) s'
    rw [if_neg clean]
    exact alone
  · obtain ⟨s', alone, recorded, same⟩ := alone_known statusChecks (s := s.goto u
      (.known statusChecks)) rfl rfl obey
    refine ⟨s', .next running ?_, recorded, same⟩
    rw [GuardSystem.statement, at_pc]
    dsimp only
    rw [if_neg (by decide), valid]
    exact alone

theorem alone_dropInvalid (running : s.upgrade = some u) (at_pc : u.pc = .dropInvalid)
    (rests : s.index.Resting) (obey : s.data.Obey) :
    ∃ s', Alone s s' ∧ s'.recorded = true ∧ s'.data = s.data := by
  have dropped : s.statement u .none = match s.index with
      | .invalid _ => (s.setIndex .absent).goto u .create
      | _ => s.goto u .create := by
    rw [GuardSystem.statement, at_pc]
    cases s.index <;> rfl
  suffices ∃ s', Alone (s.statement u .none) s' ∧ s'.recorded = true ∧ s'.data = s.data by
    obtain ⟨s', alone, recorded, same⟩ := this
    exact ⟨s', .next running alone, recorded, same⟩
  cases index : s.index with
  | absent =>
    rw [dropped, index]
    exact alone_create rfl rfl (.inl index) obey
  | valid =>
    rw [dropped, index]
    exact alone_create rfl rfl (.inr index) obey
  | invalid enforces =>
    rw [dropped, index]
    exact alone_create (s := (s.setIndex .absent).goto u .create) rfl rfl (.inl rfl) obey
  | building => exact absurd index rests.1
  | checking => exact absurd index rests.2

/-- The check has found problems: its next statement is the `raise RuntimeError` that lists them. -/
def GuardSystem.Refuses (s : GuardSystem) (problems : List GuardProblem) : Prop :=
  s.upgrade = some { Upgrade.begin with pc := .vocabulary [] problems } ∧ problems ≠ []

/-- **The upgrade starts from anything.**  When an upgrade that is not recorded is run with nothing
disturbing it, whatever earlier runs have left of the index and the constraints: it records 0007
when the rows obey the rules; otherwise its last statement is the refusal of its own check, with all
the problems of the rows, and nothing at all has changed. -/
theorem upgrade_alone (before : start.Before) (ran : run GuardSystem.step start as = some s)
    (unrecorded : s.recorded = false) (idle : s.upgrade = none) :
    ∃ n s', run GuardSystem.step s (.start :: List.replicate n (.statement .none)) = some s' ∧
      s'.data = s.data ∧ (s.data.Obey → s'.recorded = true) ∧
      (¬ s.data.Obey → s' = s ∧ ∃ m t, n = m + 1 ∧
        run GuardSystem.step s (.start :: List.replicate m (.statement .none)) = some t ∧
        t.Refuses (s.data.problems statusChecks)) := by
  have rests := (sound_of_run before.sound ran).settled idle
  have started : s.step .start = some { s with upgrade := some .begin } :=
    if_pos ⟨unrecorded, idle⟩
  -- the check of the rows, up to its verdict
  have checked : ∀ s', Alone (s.goto .begin (.vocabulary [] (s.data.problems statusChecks))) s' →
      Alone { s with upgrade := some .begin } s' := by
    intro s' rest
    refine .next rfl ?_
    exact alone_vocabulary statusChecks _ rfl rfl rest
  by_cases obey : s.data.Obey
  · obtain ⟨s', alone, recorded, same⟩ := alone_dropInvalid
      (s := s.goto .begin .dropInvalid) rfl rfl rests obey
    have verdict : Alone (s.goto .begin (.vocabulary [] (s.data.problems statusChecks))) s' := by
      refine .next rfl ?_
      change Alone (if s.data.problems statusChecks = [] then _ else _) s'
      rw [if_pos (GuardRows.problems_eq_nil.mpr obey)]
      exact alone
    obtain ⟨n, rest⟩ := checked s' verdict
    refine ⟨n, s', ?_, same, fun _ => recorded, absurd obey⟩
    rw [run_cons, started]
    exact rest
  · have found : s.data.problems statusChecks ≠ [] :=
      fun clean => obey (GuardRows.problems_eq_nil.mp clean)
    obtain ⟨m, rest⟩ := checked _ (.refl _)
    have reached : run GuardSystem.step s (.start :: List.replicate m (.statement .none)) =
        some (s.goto .begin (.vocabulary [] (s.data.problems statusChecks))) := by
      rw [run_cons, started]
      exact rest
    refine ⟨m + 1, s, ?_, rfl, fun holds => absurd holds obey, fun _ => ⟨rfl, m, _, rfl, reached,
      rfl, found⟩⟩
    rw [List.replicate_succ', ← List.cons_append, run_append, reached, Option.bind_some]
    change some (if s.data.problems statusChecks = [] then _ else _) = some s
    rw [if_neg found, GuardSystem.raise, GuardSystem.goto, ← idle]

/-! ## Over the booking flow -/

def PaymentStatus.text : PaymentStatus → String
  | .pending => "pending"
  | .completed => "completed"
  | .failed => "failed"
  | .refunded => "refunded"

/-- What the booking flow writes under any interleaving and any fault never stops the upgrade. -/
theorem onePaid_of_reachable {cfg : Config} {ok : State → Action → Prop} {start s : State}
    (fresh : start.Fresh) (reached : Reachable (step cfg) ok start s) {data : GuardRows}
    (payments : (data .payments).map (fun r => (r.orderId, r.value)) =
      s.dbs.pg.payments.map fun p => (p.orderId, p.status.text)) : data.OnePaid := by
  have cycle := lifeCycle_of_reachable fresh reached
  have single : (s.dbs.pg.payments.map Payment.orderId).Nodup := by
    refine List.nodup_iff_count_le_one.mpr fun orderId => ?_
    have same : (s.dbs.pg.payments.map Payment.orderId).count orderId =
        (s.dbs.pg.rowsOf orderId).payments.length := by
      rw [List.count_eq_countP, List.countP_map, List.countP_eq_length_filter]
      rfl
    have life := cycle.life orderId
    rw [same]
    generalize s.dbs.pg.rowsOf orderId = rows at life ⊢
    cases life <;> exact by simp
  have orders : (data .payments).map GuardRow.orderId = s.dbs.pg.payments.map Payment.orderId := by
    have firsts := congrArg (List.map Prod.fst) payments
    rwa [List.map_map, List.map_map] at firsts
  rw [← orders] at single
  exact (List.pairwise_map.mp single).imp fun apart _ _ => apart

end Runs

/-! ## A run -/

namespace Sample

/-- One paid order, and the index of a build that has failed. -/
def guardSystem : GuardSystem where
  data
    | .orders => [⟨7, 0, "confirmed"⟩]
    | .payments => [⟨1, 7, "completed"⟩]
    | _ => []
  index := .invalid true
  checks _ := .absent
  recorded := false
  upgrade := none

theorem guardSystem_before : guardSystem.Before where
  keys t := by cases t <;> decide
  paid valid := by cases valid
  values t valid := by cases valid
  unrecorded := rfl
  idle := ⟨rfl, IndexState.invalid_resting true⟩

/-- The build is killed in its second scan. -/
def killedUpgrade : List GuardAction :=
  .start :: List.replicate 10 (.statement .none) ++ [.kill]

/-- It is started again, waits for a lock once, and somebody writes meanwhile. -/
def guardSchedule : List GuardAction :=
  killedUpgrade ++ [.write .payments (.insert ⟨2, 8, "failed"⟩), .start] ++
    List.replicate 12 (.statement .none) ++ [.statement .lockNotAvailable] ++
    List.replicate 15 (.statement .none)

end Sample

/-- Afterwards a second completed payment is refused. -/
theorem guards_hold_sample : ∃ s, run GuardSystem.step Sample.guardSystem Sample.guardSchedule =
      some s ∧ s.recorded = true ∧ s.data.Obey ∧
    (s.step (.write .payments (.insert ⟨3, 7, "completed"⟩))).isNone = true := by
  obtain ⟨s, checked⟩ := Option.isSome_iff_exists.mp (show ((run GuardSystem.step
    Sample.guardSystem Sample.guardSchedule).filter fun s => s.recorded &&
      (s.step (.write .payments (.insert ⟨3, 7, "completed"⟩))).isNone).isSome = true by
        decide +kernel)
  obtain ⟨ran, facts⟩ := Option.filter_eq_some_iff.mp checked
  obtain ⟨recorded, refused⟩ := Bool.and_eq_true_iff.mp facts
  obtain ⟨-, holds⟩ := guards_hold Sample.guardSystem_before ran
  exact ⟨s, ran, recorded, holds recorded [] s rfl, refused⟩

theorem upgrade_alone_sample : ∃ s n s', run GuardSystem.step Sample.guardSystem
      Sample.killedUpgrade = some s ∧ s.index = .invalid true ∧
    run GuardSystem.step s (.start :: List.replicate n (.statement .none)) = some s' ∧
    s'.recorded = true := by
  obtain ⟨s, checked⟩ := Option.isSome_iff_exists.mp (show ((run GuardSystem.step
    Sample.guardSystem Sample.killedUpgrade).filter fun s => s.index = .invalid true ∧
      s.recorded = false ∧ s.upgrade = none ∧ s.data.OnePaid ∧
        ∀ t ∈ statusChecks, s.data.InValues t).isSome = true by decide +kernel)
  obtain ⟨ran, facts⟩ := Option.filter_eq_some_iff.mp checked
  obtain ⟨left, unrecorded, idle, paid, values⟩ := of_decide_eq_true facts
  obtain ⟨n, s', alone, -, recorded, -⟩ := upgrade_alone Sample.guardSystem_before ran unrecorded
    idle
  exact ⟨s, n, s', ran, left, alone, recorded ⟨paid, fun t => values t (mem_statusChecks t)⟩⟩

end TicketBooking
