import TicketBooking.BackfillRuns
import TicketBooking.ContractRollback
import TicketBooking.DualWrite

/-!
# The checks of the migration

`main` of `scripts/verify_migration.py` without its snapshots: the checks of
`scripts/sql/verify_users_migration.sql` that belong to a stage, each with the answer of its query
and what the report says of it.

* `UsersDb` is the rollout with the columns and the indexes of `users`; the step `contract` is
  revision 0005.
* Every statement sees what is committed when it runs, so the look at the flag and the query of a
  check get tables of their own.
* `\s` of PostgreSQL depends on the locale of the database and stays the parameter `space`.
* `stages_exact` says for which tables a stage exits with 0, `pass_is_final` that the table stays
  complete after the stage of the backfill has passed.
-/

namespace TicketBooking

open StepSystem Words

/-! ## The database -/

def WriteMode.value : WriteMode → String
  | .legacy => "legacy"
  | .dual => "dual"
  | .new => "new"

def ReadSource.value : ReadSource → String
  | .legacy => "legacy"
  | .new => "new"

/-- `SELECT value FROM feature_flags WHERE key = :key` -/
def Flags.value (flags : Flags) (key : String) : Option String :=
  if key = "user_name_write_mode" then some flags.write.value
  else if key = "user_name_read_source" then some flags.read.value
  else none

/-- The rollout, with the names of the columns and of the indexes of `users`. -/
structure UsersDb extends Rollout where
  columns : List String
  indexes : List String
deriving DecidableEq

/-- Something of the action reads or writes `full_name`. -/
def RolloutAction.UsesFullName (flags : Flags) : RolloutAction → Prop
  | .write (.create _ _ _) | .write (.update _ _ _ _) => flags.includeLegacy = true
  | .write (.backfill _ _ _) => True
  | .flip => False

instance (flags : Flags) : (a : RolloutAction) → Decidable (a.UsesFullName flags)
  | .write (.create _ _ _) | .write (.update _ _ _ _) => inferInstanceAs (Decidable (_ = true))
  | .write (.backfill _ _ _) => .isTrue trivial
  | .flip => .isFalse id

inductive DbAction
  | rollout (a : RolloutAction)
  /-- `upgrade` of revision 0005. -/
  | contract (busy : ℕ)
deriving DecidableEq

def DbAction.Allowed (db : UsersDb) : DbAction → Prop
  | .rollout a => a.Allowed db.toRollout
  | .contract _ => True

instance (db : UsersDb) : (a : DbAction) → Decidable (a.Allowed db)
  | .rollout a => inferInstanceAs (Decidable (a.Allowed db.toRollout))
  | .contract _ => .isTrue trivial

/-- `DROP COLUMN full_name` -/
def UsersDb.contracted (db : UsersDb) (users : Users) : UsersDb where
  flags := db.flags
  users := users
  columns := db.columns.filter (· ≠ "full_name")
  indexes := db.indexes

def dbStep (hashPassword : String → String → String) (db : UsersDb) : DbAction → Option UsersDb
  | .rollout a =>
    if a.UsesFullName db.flags → "full_name" ∈ db.columns then
      (rolloutStep hashPassword db.toRollout a).map fun rollout => { db with toRollout := rollout }
    else none
  | .contract busy =>
    if "full_name" ∈ db.columns then (upgrade db.flags busy db.users).toOption.map db.contracted
    else none

/-! ## The queries -/

inductive Stage
  | beforeBackfill | afterBackfill | afterContract
deriving DecidableEq

inductive QueryError
  | undefinedColumn
deriving DecidableEq

/-- `SELECT count(*) FROM users WHERE …`, where the condition reads these columns. -/
def UsersDb.countUsers (db : UsersDb) (columns : List String) (condition : UserRow → Bool) :
    Except QueryError ℕ :=
  if ∀ column ∈ columns, column ∈ db.columns then .ok (db.users.rows.countP condition)
  else .error .undefinedColumn

/-- `regexp_replace(s, '\s+', ' ', 'g')` -/
def regexpReplace (space : Char → Bool) (s : String) : String :=
  String.ofList (squeeze space ' ' s.toList)

/-- The WHERE of `legacy_new_disagree`. -/
def Names.sqlDisagrees (space : Char → Bool) (names : Names) : Bool :=
  match names.fullName, names.firstName with
  | some full, some first => regexpReplace space (btrim full) ≠
      regexpReplace space (btrim (concatWs (some first) names.lastName))
  | _, _ => false

/-- A block of the file, with the meaning of its statement. -/
structure MigrationCheck where
  name : String
  stages : List Stage
  /-- `none` is `info`. -/
  expect : Option ℕ
  what : String
  /-- The flag and the value of `skip_when`. -/
  skipWhen : Option (String × String)
  sql : UsersDb → Except QueryError ℕ

def totalUsers : MigrationCheck where
  name := "total_users"
  stages := [.beforeBackfill, .afterBackfill, .afterContract]
  expect := none
  what := "how many users exist right now (grows while traffic_gen is running)"
  skipWhen := none
  sql db := db.countUsers [] fun _ => true

def backfillRemaining : MigrationCheck where
  name := "backfill_remaining"
  stages := [.beforeBackfill]
  expect := none
  what := "users the backfill still has to migrate (first_name or last_name is NULL)"
  skipWhen := none
  sql db := db.countUsers ["first_name", "last_name"] fun row =>
    row.firstName = none ∨ row.lastName = none

def legacyOnlyTotal : MigrationCheck where
  name := "legacy_only_total"
  stages := [.beforeBackfill]
  expect := none
  what := "users that have the legacy full_name but no first_name yet"
  skipWhen := none
  sql db := db.countUsers ["full_name", "first_name"] fun row =>
    row.fullName ≠ none ∧ row.firstName = none

def usersWithoutAnyName : MigrationCheck where
  name := "users_without_any_name"
  stages := [.beforeBackfill, .afterBackfill]
  expect := some 0
  what := "DATA LOSS - users with neither full_name nor first_name"
  skipWhen := none
  sql db := db.countUsers ["full_name", "first_name"] fun row =>
    row.fullName = none ∧ row.firstName = none

def legacyNewDisagree (space : Char → Bool) : MigrationCheck where
  name := "legacy_new_disagree"
  stages := [.beforeBackfill, .afterBackfill]
  expect := some 0
  what := "full_name and first_name+last_name are both set but spell different names " ++
    "(whitespace ignored)"
  skipWhen := some ("user_name_write_mode", "new")
  sql db := db.countUsers ["full_name", "first_name", "last_name"] fun row =>
    row.toNames.sqlDisagrees space

def notMigrated : MigrationCheck where
  name := "not_migrated"
  stages := [.afterBackfill, .afterContract]
  expect := some 0
  what := "users still missing first_name or last_name after the backfill"
  skipWhen := none
  sql db := db.countUsers ["first_name", "last_name"] fun row =>
    row.firstName = none ∨ row.lastName = none

def emptyFirstName : MigrationCheck where
  name := "empty_first_name"
  stages := [.afterBackfill, .afterContract]
  expect := some 0
  what := "users whose first_name is an empty string (every user needs a first name)"
  skipWhen := none
  sql db := db.countUsers ["first_name"] fun row => row.firstName.map btrim = some ""

def fullNameColumnDropped : MigrationCheck where
  name := "full_name_column_dropped"
  stages := [.afterContract]
  expect := some 0
  what := "the legacy column must be gone after Phase 5"
  skipWhen := none
  sql db := .ok (db.columns.countP (· = "full_name"))

def newColumnsPresent : MigrationCheck where
  name := "new_columns_present"
  stages := [.afterContract]
  expect := some 2
  what := "first_name and last_name must both still exist"
  skipWhen := none
  sql db := .ok (db.columns.countP (· ∈ ["first_name", "last_name"]))

def lastNameIndexPresent : MigrationCheck where
  name := "last_name_index_present"
  stages := [.afterContract]
  expect := some 1
  what := "idx_users_last_name (Phase 1) must survive the contract"
  skipWhen := none
  sql db := .ok (db.indexes.countP (· = "idx_users_last_name"))

/-- The checks of the file, without the queries of the snapshot, which belong to no stage. -/
def migrationChecks (space : Char → Bool) : List MigrationCheck :=
  [totalUsers, backfillRemaining, legacyOnlyTotal, usersWithoutAnyName, legacyNewDisagree space,
    notMigrated, emptyFirstName, fullNameColumnDropped, newColumnsPresent, lastNameIndexPresent]

/-! ## The report -/

inductive Verdict
  | skip (reason : String)
  | info (value : ℕ)
  | pass (value : ℕ)
  | fail (value : ℕ) (note : String)
deriving DecidableEq

def Verdict.failed : Verdict → Bool
  | .fail _ _ => true
  | .skip _ | .info _ | .pass _ => false

/-- `should_skip` -/
def MigrationCheck.shouldSkip (check : MigrationCheck) (db : UsersDb) : Option String :=
  check.skipWhen.bind fun (key, wanted) =>
    if db.flags.value key = some wanted then some (key ++ " is '" ++ wanted ++ "'") else none

/-- What the report says of an answer. -/
def MigrationCheck.judge (check : MigrationCheck) (value : ℕ) : Verdict :=
  match check.expect with
  | none => .info value
  | some expected =>
    if value = expected then .pass value
    else .fail value ("  <- expected " ++ toString expected ++ ": " ++ check.what)

/-- The line of a check; the flag is read in `atFlag`, the query runs in `atQuery`. -/
def MigrationCheck.verdict (check : MigrationCheck) (atFlag atQuery : UsersDb) :
    Except QueryError Verdict :=
  match check.shouldSkip atFlag with
  | some reason => .ok (.skip reason)
  | none => (check.sql atQuery).map check.judge

/-- The checks that belong to the stage. -/
def stageChecks (space : Char → Bool) (stage : Stage) : List MigrationCheck :=
  (migrationChecks space).filter fun check => stage ∈ check.stages

/-- The loop of `main`; `seen` has the databases that the statements of a check see. -/
def verifyStage (space : Char → Bool) (stage : Stage) (seen : String → UsersDb × UsersDb) :
    Except QueryError (List (String × Verdict)) :=
  (stageChecks space stage).mapM fun check =>
    (check.verdict (seen check.name).1 (seen check.name).2).map fun verdict =>
      (check.name, verdict)

/-- What `main` returns, or the status that an exception ends the script with. -/
def exitStatus : Except QueryError (List (String × Verdict)) → ℕ
  | .ok lines => if lines.countP (fun line => line.2.failed) = 0 then 0 else 1
  | .error _ => 1

/-- The line of the check is no FAIL. -/
def MigrationCheck.Passes (check : MigrationCheck) (atFlag atQuery : UsersDb) : Prop :=
  ∃ verdict, check.verdict atFlag atQuery = .ok verdict ∧ verdict.failed = false

section Report

variable {check : MigrationCheck} {atFlag atQuery : UsersDb} {space : Char → Bool} {stage : Stage}
  {seen : String → UsersDb × UsersDb}

theorem judge_failed {value : ℕ} : (check.judge value).failed = false ↔
    ∀ expected ∈ check.expect, value = expected := by
  rw [MigrationCheck.judge]
  cases check.expect with
  | none => exact iff_of_true rfl nofun
  | some expected =>
    simp only [Option.mem_def, Option.some.injEq, forall_eq']
    split
    · rename_i same
      exact iff_of_true rfl same
    · rename_i differs
      exact iff_of_false nofun differs

/-- A check passes when it is skipped, or its query has the expected answer. -/
theorem passes_iff : check.Passes atFlag atQuery ↔ check.shouldSkip atFlag ≠ none ∨
    ∃ value, check.sql atQuery = .ok value ∧ ∀ expected ∈ check.expect, value = expected := by
  rw [MigrationCheck.Passes, MigrationCheck.verdict]
  cases check.shouldSkip atFlag with
  | some reason => exact iff_of_true ⟨_, rfl, rfl⟩ (.inl (Option.some_ne_none reason))
  | none =>
    simp only [ne_eq, not_true_eq_false, false_or, Fallible.map_ok_iff]
    constructor
    · rintro ⟨verdict, ⟨value, answered, rfl⟩, passed⟩
      exact ⟨value, answered, judge_failed.mp passed⟩
    · rintro ⟨value, answered, same⟩
      exact ⟨_, ⟨value, answered, rfl⟩, judge_failed.mpr same⟩

theorem passes_expect_iff {expected : ℕ} (unskipped : check.shouldSkip atFlag = none)
    (expect : check.expect = some expected) :
    check.Passes atFlag atQuery ↔ check.sql atQuery = .ok expected := by
  rw [passes_iff, unskipped, expect]
  simp only [ne_eq, not_true_eq_false, false_or, Option.mem_def, Option.some.injEq, forall_eq',
    exists_eq_right]

/-- An `info` passes when its query has an answer. -/
theorem passes_info {value : ℕ} (expect : check.expect = none)
    (answered : check.sql atQuery = .ok value) : check.Passes atFlag atQuery := by
  refine passes_iff.mpr (.inr ⟨value, answered, fun expected isExpected => ?_⟩)
  rw [expect] at isExpected
  cases isExpected

/-- **A stage exits with 0 when each of its checks passes.** -/
theorem exitStatus_eq_zero_iff : exitStatus (verifyStage space stage seen) = 0 ↔
    ∀ check ∈ stageChecks space stage,
      check.Passes (seen check.name).1 (seen check.name).2 := by
  have passed : exitStatus (verifyStage space stage seen) = 0 ↔
      ∃ lines, verifyStage space stage seen = .ok lines ∧
        ∀ line ∈ lines, line.2.failed = false := by
    cases verifyStage space stage seen with
    | error => exact iff_of_false nofun fun ⟨_, raised, _⟩ => by cases raised
    | ok lines =>
      rw [exitStatus]
      simp only [Except.ok.injEq, exists_eq_left', List.countP_eq_zero, Bool.not_eq_true]
      split
      · rename_i none
        exact iff_of_true rfl none
      · rename_i some
        exact iff_of_false nofun some
  rw [passed, verifyStage, Fallible.mapM_all_iff]
  simp only [Fallible.map_ok_iff]
  refine forall_congr' fun check => forall_congr' fun _ => ?_
  constructor
  · rintro ⟨line, ⟨verdict, judged, rfl⟩, passed⟩
    exact ⟨verdict, judged, passed⟩
  · rintro ⟨verdict, judged, passed⟩
    exact ⟨_, ⟨verdict, judged, rfl⟩, passed⟩

end Report

/-! ## The answers -/

section Answers

variable {db : UsersDb} {columns : List String} {condition : UserRow → Bool} {names : Names}
  {space : Char → Bool} {s t : String}

/-- A count of 0. -/
theorem countUsers_eq_zero_iff : db.countUsers columns condition = .ok 0 ↔
    (∀ column ∈ columns, column ∈ db.columns) ∧
      ∀ row ∈ db.users.rows, condition row = false := by
  rw [UsersDb.countUsers]
  split
  · rename_i present
    rw [Except.ok.injEq, List.countP_eq_zero]
    simp only [Bool.not_eq_true]
    exact ⟨fun none => ⟨present, none⟩, And.right⟩
  · rename_i absent
    exact iff_of_false nofun fun ⟨present, _⟩ => absent present

/-- The characters of the name columns. -/
def Names.chars (names : Names) : List Char :=
  (names.fullName.getD "").toList ++ (names.firstName.getD "").toList ++
    (names.lastName.getD "").toList

/-- Python and the database see the same whitespace in the names. -/
def Names.SpacedAlike (space : Char → Bool) (names : Names) : Prop :=
  ∀ c ∈ names.chars, space c = isSpace c

instance (space : Char → Bool) (names : Names) : Decidable (names.SpacedAlike space) :=
  List.decidableBAll (fun c => space c = isSpace c) names.chars

theorem btrim_of_strip (stripped : strip s = s) : btrim s = s := by
  have spaces : ∀ c : Char, (c == ' ') = true → isSpace c = true := by
    intro c isBlank
    rw [eq_of_beq isBlank]
    decide
  rw [btrim, trim_of_imp spaces (toList_strip_eq stripped), String.ofList_toList]

/-- Texts without padding have the same words when they are equal up to whitespace. -/
theorem regexpReplace_inj (strippedS : strip s = s) (strippedT : strip t = t)
    (alikeS : ∀ c ∈ s.toList, space c = isSpace c)
    (alikeT : ∀ c ∈ t.toList, space c = isSpace c) :
    regexpReplace space s = regexpReplace space t ↔ wordsOf s = wordsOf t := by
  rw [regexpReplace, regexpReplace, String.ofList_inj, squeeze_congr ' ' alikeS,
    squeeze_congr ' ' alikeT]
  exact squeeze_inj (by decide) (toList_strip_eq strippedS) (toList_strip_eq strippedT)

/-- The characters of a joined name are those of its parts, and a blank. -/
theorem mem_joinNames {first last : String} (strippedFirst : strip first = first)
    (strippedLast : strip last = last) {c : Char}
    (mem : c ∈ (joinNames (some first) (some last)).toList) :
    c ∈ first.toList ∨ c = ' ' ∨ c ∈ last.toList := by
  have spelt : concatWs (some first) (some last) = first ++ " " ++ last := rfl
  rw [← btrim_concatWs strippedFirst strippedLast, btrim, String.toList_ofList, trim] at mem
  have inside := (List.dropWhile_suffix _).subset ((List.rdropWhile_prefix _ _).subset mem)
  rw [spelt, String.toList_append, String.toList_append] at inside
  simpa [or_assoc] using inside

/-- **The query finds the rows whose names have different words.** -/
theorem sqlDisagrees_iff (blank : space ' ' = true) (written : names.AsWritten)
    (alike : names.SpacedAlike space) : names.sqlDisagrees space = true ↔ names.Disagree := by
  cases written with
  | full => exact iff_of_false nofun id
  | @parts fullName first last cleanFull cleanFirst strippedLast =>
    cases fullName with
    | none => exact iff_of_false nofun id
    | some full =>
      have strippedFull := (clean_eq_self_iff.mp cleanFull).1
      have strippedFirst := (clean_eq_self_iff.mp cleanFirst).1
      have strippedJoined :=
        (clean_eq_self_iff.mp (clean_joinNames cleanFirst (some last))).1
      have alikeFull : ∀ c ∈ full.toList, space c = isSpace c := fun c mem =>
        alike c (List.mem_append_left _ (List.mem_append_left _ mem))
      have alikeJoined : ∀ c ∈ (joinNames (some first) (some last)).toList,
          space c = isSpace c := by
        intro c mem
        rcases mem_joinNames strippedFirst strippedLast mem with inFirst | rfl | inLast
        · exact alike c (List.mem_append_left _ (List.mem_append_right _ inFirst))
        · rw [blank]
          decide
        · exact alike c (List.mem_append_right _ inLast)
      have same := regexpReplace_inj strippedFull strippedJoined alikeFull alikeJoined
      rw [wordsOf_joinNames] at same
      simp only [Names.sqlDisagrees, btrim_of_strip strippedFull,
        btrim_concatWs strippedFirst strippedLast, decide_eq_true_eq, ne_eq, same]
      rfl

end Answers

/-! ## Reachable databases -/

/-- The columns and the index of revision 0004. -/
structure UsersDb.Expanded (db : UsersDb) : Prop where
  firstName : "first_name" ∈ db.columns
  lastName : "last_name" ∈ db.columns
  single : db.columns.countP (· ∈ ["first_name", "last_name"]) = 2
  index : db.indexes.countP (· = "idx_users_last_name") = 1

/-- The invariant: the rollout is in its phase, and no name is padded as long as there are two
representations. -/
structure UsersDb.Sound (db : UsersDb) : Prop extends db.Expanded where
  inPhase : db.toRollout.InPhase
  written : "full_name" ∈ db.columns → ∀ row ∈ db.users.rows, row.toNames.AsWritten

section Runs

variable {hashPassword : String → String → String} {db db' start : UsersDb} {a : DbAction}

theorem upgrade_ready {stored : Flags} {busy : ℕ} {users contracted : Users}
    (upgraded : upgrade stored busy users = .ok contracted) : stored = ⟨.new, .new⟩ := by
  rw [upgrade] at upgraded
  split at upgraded
  case isFalse => cases upgraded
  case isTrue ready => exact ready.1

theorem UsersDb.Expanded.contracted (expanded : db.Expanded) (users : Users) :
    (db.contracted users).Expanded where
  firstName := List.mem_filter.mpr ⟨expanded.firstName, by decide⟩
  lastName := List.mem_filter.mpr ⟨expanded.lastName, by decide⟩
  single := by
    rw [← expanded.single, UsersDb.contracted, List.countP_filter]
    refine List.countP_congr fun column _ => ?_
    simp only [Bool.and_eq_true, decide_eq_true_eq, and_iff_left_iff_imp]
    rintro named rfl
    revert named
    decide
  index := expanded.index

/-- The drop takes nothing that the phase (new, new) needs. -/
theorem contracted_inPhase {users : Users} (inPhase : db.toRollout.InPhase)
    (flags : db.flags = ⟨.new, .new⟩)
    (rows : users.rows = db.users.rows.map fun row => { row with toNames := row.withoutFull }) :
    (db.contracted users).toRollout.InPhase := by
  refine ⟨inPhase.documented, fun row mem => ?_⟩
  change row ∈ users.rows at mem
  rw [rows] at mem
  obtain ⟨row, inTable, rfl⟩ := List.mem_map.mp mem
  change Names.InPhase _ db.flags
  have before := inPhase.rows row inTable
  rw [flags] at before ⊢
  rcases before with ⟨readLegacy, -⟩ | ⟨-, first, last, hasFirst, hasLast, named, -⟩
  · cases readLegacy
  · exact .inr ⟨by decide, first, last, hasFirst, hasLast, named, fun dual => by cases dual⟩

theorem dbStep_sound (sound : db.Sound) (allowed : a.Allowed db)
    (moved : dbStep hashPassword db a = some db') : db'.Sound := by
  cases a with
  | rollout a =>
    obtain ⟨-, moved⟩ := Option.ite_none_right_eq_some.mp moved
    obtain ⟨rollout, stepped, rfl⟩ := Option.map_eq_some_iff.mp moved
    refine ⟨⟨sound.firstName, sound.lastName, sound.single, sound.index⟩,
      rollout_step sound.inPhase allowed stepped, fun present => ?_⟩
    have written := sound.written present
    cases a with
    | write a =>
      obtain ⟨-, stepped⟩ := Option.ite_none_right_eq_some.mp stepped
      obtain ⟨users, wrote, rfl⟩ := Option.map_eq_some_iff.mp stepped
      exact asWritten_invariant.step wrote written
    | flip =>
      obtain ⟨flags, -, rfl⟩ := Option.map_eq_some_iff.mp stepped
      exact written
  | contract busy =>
    obtain ⟨-, moved⟩ := Option.ite_none_right_eq_some.mp moved
    obtain ⟨users, upgraded, rfl⟩ := toOption_map_eq_some moved
    refine ⟨sound.toExpanded.contracted users,
      contracted_inPhase sound.inPhase (upgrade_ready upgraded) (upgrade_ok upgraded).2,
      fun present => ?_⟩
    obtain ⟨-, other⟩ := List.mem_filter.mp present
    simp at other

theorem dbSound_of_reachable (legacy : start.flags = ⟨.legacy, .legacy⟩)
    (rows : ∀ row ∈ start.users.rows, row.toNames.NotMigrated ∧ row.toNames.AsWritten)
    (expanded : start.Expanded)
    (reached : Reachable (dbStep hashPassword) (fun db a => a.Allowed db) start db) :
    db.Sound := by
  refine reached.invariant ⟨expanded, ⟨?_, fun row mem => ?_⟩, fun _ row mem => (rows row mem).2⟩
    fun _ _ _ sound allowed moved => dbStep_sound sound allowed moved
  · rw [legacy]
    simp [Flags.Documented]
  · rw [legacy]
    exact .inl ⟨rfl, (rows row mem).1⟩

end Runs

/-! ## The stages -/

/-- Only blanks are trimmed to nothing. -/
theorem wordsOf_of_btrim {s : String} (nothing : btrim s = "") : wordsOf s = [] := by
  have blanks := forall_of_trim_eq_nil (String.ofList_eq_empty_iff.mp nothing)
  refine words_eq_nil_of_forall fun c mem => ?_
  rw [eq_of_beq (blanks c mem)]
  decide

/-- In a phase with two representations, they agree. -/
theorem Names.InPhase.agrees {names : Names} {flags : Flags} (inPhase : names.InPhase flags)
    (notNew : flags.write ≠ .new) : ¬ names.Disagree := by
  obtain ⟨fullName, firstName, lastName⟩ := names
  intro disagree
  cases fullName with
  | none => exact disagree
  | some full =>
    rcases inPhase with ⟨-, noFirst, -⟩ | ⟨notLegacy, first, last, hasFirst, hasLast, -, agree⟩
    · cases noFirst
      exact disagree
    · cases hasFirst
      cases hasLast
      refine disagree (agree ?_)
      cases write : flags.write with
      | legacy => exact absurd write notLegacy
      | dual => rfl
      | new => exact absurd write notNew

section Stages

variable {atFlag atQuery : UsersDb} {space : Char → Bool}

/-- An `info` passes where its columns exist. -/
theorem passes_count {check : MigrationCheck} {columns : List String}
    {condition : UserRow → Bool} (expect : check.expect = none)
    (sql : check.sql atQuery = atQuery.countUsers columns condition)
    (present : ∀ column ∈ columns, column ∈ atQuery.columns) : check.Passes atFlag atQuery :=
  passes_info expect (sql.trans (if_pos present))

theorem totalUsers_passes : totalUsers.Passes atFlag atQuery :=
  passes_count rfl rfl (List.forall_mem_nil _)

theorem backfillRemaining_passes (expanded : atQuery.Expanded) :
    backfillRemaining.Passes atFlag atQuery := by
  refine passes_count rfl rfl ?_
  simpa using ⟨expanded.firstName, expanded.lastName⟩

theorem legacyOnlyTotal_passes (expanded : atQuery.Expanded)
    (present : "full_name" ∈ atQuery.columns) : legacyOnlyTotal.Passes atFlag atQuery := by
  refine passes_count rfl rfl ?_
  simpa using ⟨present, expanded.firstName⟩

/-- Every row of a phase has a name. -/
theorem usersWithoutAnyName_passes (sound : atQuery.Sound)
    (present : "full_name" ∈ atQuery.columns) :
    usersWithoutAnyName.Passes atFlag atQuery := by
  refine (passes_expect_iff rfl rfl).mpr (countUsers_eq_zero_iff.mpr ⟨?_, fun row mem => ?_⟩)
  · simpa using ⟨present, sound.firstName⟩
  · rw [decide_eq_false_iff_not]
    rintro ⟨noFull, noFirst⟩
    rcases sound.inPhase.rows row mem with ⟨-, -, -, named⟩ | ⟨-, first, last, hasFirst, -⟩
    · rw [noFull] at named
      exact named rfl
    · rw [noFirst] at hasFirst
      cases hasFirst

theorem shouldSkip_legacyNewDisagree :
    (legacyNewDisagree space).shouldSkip atFlag = none ↔ atFlag.flags.write ≠ .new := by
  have skip : (legacyNewDisagree space).shouldSkip atFlag =
      if some atFlag.flags.write.value = some "new" then
        some ("user_name_write_mode" ++ " is '" ++ "new" ++ "'")
      else none := rfl
  rw [skip]
  cases atFlag.flags.write <;> decide

/-- While `full_name` is written, it agrees with the parts. -/
theorem legacyNewDisagree_passes (blank : space ' ' = true) (sound : atQuery.Sound)
    (present : "full_name" ∈ atQuery.columns)
    (alike : ∀ row ∈ atQuery.users.rows, row.toNames.SpacedAlike space)
    (steady : atQuery.flags.write = .new → atFlag.flags.write = .new) :
    (legacyNewDisagree space).Passes atFlag atQuery := by
  by_cases new : atFlag.flags.write = .new
  · exact passes_iff.mpr (.inl fun kept => shouldSkip_legacyNewDisagree.mp kept new)
  · have kept : (legacyNewDisagree space).shouldSkip atFlag = none :=
      shouldSkip_legacyNewDisagree.mpr new
    refine (passes_expect_iff kept rfl).mpr (countUsers_eq_zero_iff.mpr ⟨?_, fun row mem => ?_⟩)
    · simpa using ⟨present, sound.firstName, sound.lastName⟩
    · rw [← Bool.not_eq_true, sqlDisagrees_iff blank (sound.written present row mem)
        (alike row mem)]
      exact (sound.inPhase.rows row mem).agrees fun isNew => new (steady isNew)

theorem notMigrated_passes_iff (expanded : atQuery.Expanded) :
    notMigrated.Passes atFlag atQuery ↔
      ∀ row ∈ atQuery.users.rows, ¬ row.toNames.NeedsBackfill := by
  rw [passes_expect_iff rfl rfl]
  refine countUsers_eq_zero_iff.trans ?_
  simp only [decide_eq_false_iff_not]
  have present : ∀ column ∈ ["first_name", "last_name"], column ∈ atQuery.columns := by
    simpa using ⟨expanded.firstName, expanded.lastName⟩
  exact and_iff_right present

/-- Every first name has a word. -/
theorem emptyFirstName_passes (sound : atQuery.Sound) :
    emptyFirstName.Passes atFlag atQuery := by
  refine (passes_expect_iff rfl rfl).mpr (countUsers_eq_zero_iff.mpr ⟨?_, fun row mem => ?_⟩)
  · simpa using sound.firstName
  · rw [decide_eq_false_iff_not]
    intro empty
    obtain ⟨first, hasFirst, nothing⟩ := Option.map_eq_some_iff.mp empty
    rcases sound.inPhase.rows row mem with ⟨-, noFirst, -⟩ | ⟨-, first', last, isFirst, -, named, -⟩
    · rw [noFirst] at hasFirst
      cases hasFirst
    · cases isFirst.symm.trans hasFirst
      exact named (wordsOf_of_btrim nothing)

theorem fullNameColumnDropped_passes_iff :
    fullNameColumnDropped.Passes atFlag atQuery ↔ "full_name" ∉ atQuery.columns := by
  rw [passes_expect_iff rfl rfl, fullNameColumnDropped, Except.ok.injEq, List.countP_eq_zero]
  simp only [decide_eq_true_eq]
  exact ⟨fun none mem => none _ mem rfl, fun absent column mem named => absent (named ▸ mem)⟩

theorem newColumnsPresent_passes (expanded : atQuery.Expanded) :
    newColumnsPresent.Passes atFlag atQuery :=
  (passes_expect_iff rfl rfl).mpr (congrArg Except.ok expanded.single)

theorem lastNameIndexPresent_passes (expanded : atQuery.Expanded) :
    lastNameIndexPresent.Passes atFlag atQuery :=
  (passes_expect_iff rfl rfl).mpr (congrArg Except.ok expanded.index)

variable {seen : String → UsersDb × UsersDb}

/-- The checks see databases of the invariant, and the write mode does not become `new` between the
look at the flag and the query. -/
structure SeenSound (space : Char → Bool) (seen : String → UsersDb × UsersDb) : Prop where
  sound : ∀ name, (seen name).2.Sound
  alike : ∀ name, ∀ row ∈ (seen name).2.users.rows, row.toNames.SpacedAlike space
  steady : ∀ name, (seen name).2.flags.write = .new → (seen name).1.flags.write = .new

theorem beforeBackfill_passes (blank : space ' ' = true) (reads : SeenSound space seen)
    (present : ∀ name, "full_name" ∈ (seen name).2.columns) :
    exitStatus (verifyStage space .beforeBackfill seen) = 0 := by
  rw [exitStatus_eq_zero_iff]
  have checks : stageChecks space .beforeBackfill = [totalUsers, backfillRemaining,
      legacyOnlyTotal, usersWithoutAnyName, legacyNewDisagree space] := rfl
  simp only [checks, List.forall_mem_cons]
  exact ⟨totalUsers_passes, backfillRemaining_passes (reads.sound _).toExpanded,
    legacyOnlyTotal_passes (reads.sound _).toExpanded (present _),
    usersWithoutAnyName_passes (reads.sound _) (present _),
    legacyNewDisagree_passes blank (reads.sound _) (present _) (reads.alike _) (reads.steady _),
    List.forall_mem_nil _⟩

theorem afterBackfill_passes_iff (blank : space ' ' = true) (reads : SeenSound space seen)
    (present : ∀ name, "full_name" ∈ (seen name).2.columns) :
    exitStatus (verifyStage space .afterBackfill seen) = 0 ↔
      ∀ row ∈ (seen "not_migrated").2.users.rows, ¬ row.toNames.NeedsBackfill := by
  rw [exitStatus_eq_zero_iff]
  have checks : stageChecks space .afterBackfill = [totalUsers, usersWithoutAnyName,
      legacyNewDisagree space, notMigrated, emptyFirstName] := rfl
  simp only [checks, List.forall_mem_cons]
  have agree := legacyNewDisagree_passes blank (reads.sound "legacy_new_disagree") (present _)
    (reads.alike _) (reads.steady _)
  rw [notMigrated_passes_iff (reads.sound _).toExpanded]
  exact ⟨fun all => all.2.2.2.1, fun complete => ⟨totalUsers_passes,
    usersWithoutAnyName_passes (reads.sound _) (present _), agree, complete,
    emptyFirstName_passes (reads.sound _), List.forall_mem_nil _⟩⟩

theorem afterContract_passes_iff (reads : SeenSound space seen) :
    exitStatus (verifyStage space .afterContract seen) = 0 ↔
      (∀ row ∈ (seen "not_migrated").2.users.rows, ¬ row.toNames.NeedsBackfill) ∧
      "full_name" ∉ (seen "full_name_column_dropped").2.columns := by
  rw [exitStatus_eq_zero_iff]
  have checks : stageChecks space .afterContract = [totalUsers, notMigrated, emptyFirstName,
      fullNameColumnDropped, newColumnsPresent, lastNameIndexPresent] := rfl
  simp only [checks, List.forall_mem_cons]
  rw [notMigrated_passes_iff (reads.sound _).toExpanded, fullNameColumnDropped_passes_iff]
  exact ⟨fun all => ⟨all.2.1, all.2.2.2.1⟩, fun ⟨complete, dropped⟩ => ⟨totalUsers_passes,
    complete, emptyFirstName_passes (reads.sound _), dropped,
    newColumnsPresent_passes (reads.sound _).toExpanded,
    lastNameIndexPresent_passes (reads.sound _).toExpanded, List.forall_mem_nil _⟩⟩

end Stages

/-- **Every stage is right about the rollout.**  The statements of a stage run while the rollout
goes on, each on a database that is reachable from legacy rows. -/
theorem stages_exact {hashPassword : String → String → String} {space : Char → Bool}
    {start : UsersDb} {seen : String → UsersDb × UsersDb} (blank : space ' ' = true)
    (legacy : start.flags = ⟨.legacy, .legacy⟩)
    (rows : ∀ row ∈ start.users.rows, row.toNames.NotMigrated ∧ row.toNames.AsWritten)
    (expanded : start.Expanded)
    (reached : ∀ name, Reachable (dbStep hashPassword) (fun db a => a.Allowed db) start
      (seen name).2)
    (alike : ∀ name, ∀ row ∈ (seen name).2.users.rows, row.toNames.SpacedAlike space)
    (steady : ∀ name, (seen name).2.flags.write = .new → (seen name).1.flags.write = .new) :
    ((∀ name, "full_name" ∈ (seen name).2.columns) →
      exitStatus (verifyStage space .beforeBackfill seen) = 0 ∧
      (exitStatus (verifyStage space .afterBackfill seen) = 0 ↔
        ∀ row ∈ (seen "not_migrated").2.users.rows, ¬ row.toNames.NeedsBackfill)) ∧
    (exitStatus (verifyStage space .afterContract seen) = 0 ↔
      (∀ row ∈ (seen "not_migrated").2.users.rows, ¬ row.toNames.NeedsBackfill) ∧
      "full_name" ∉ (seen "full_name_column_dropped").2.columns) := by
  have reads : SeenSound space seen :=
    ⟨fun name => dbSound_of_reachable legacy rows expanded (reached name), alike, steady⟩
  exact ⟨fun present => ⟨beforeBackfill_passes blank reads present,
    afterBackfill_passes_iff blank reads present⟩, afterContract_passes_iff reads⟩

/-! ## After a PASS -/

section Complete

variable {hashPassword : String → String → String} {db db' : UsersDb} {a : DbAction}

theorem Flags.next_write {flags flags' : Flags} (moved : flags.next = some flags')
    (past : flags.write ≠ .legacy) : flags'.write ≠ .legacy := by
  obtain ⟨write, read⟩ := flags
  cases write with
  | legacy => exact absurd rfl past
  | dual => cases read <;> cases moved <;> decide
  | new => cases moved

theorem Names.Migrated.complete {names : Names} {agree : Prop} (migrated : names.Migrated agree) :
    ¬ names.NeedsBackfill := by
  obtain ⟨first, last, hasFirst, hasLast, -⟩ := migrated
  rintro (noFirst | noLast)
  · cases noFirst.symm.trans hasFirst
  · cases noLast.symm.trans hasLast

/-- What dual write stores has both parts. -/
theorem derived_complete {fullName firstName lastName : Option String}
    (written : (derived (clean fullName) (clean firstName) (clean lastName)).AsWritten) :
    ¬ (derived (clean fullName) (clean firstName) (clean lastName)).NeedsBackfill := by
  rcases derived_written fullName firstName lastName with
    ⟨full, first, last, resolved, -⟩ | ⟨resolved, -⟩
  · rw [resolved]
    rintro (noFirst | noLast)
    · cases noFirst
    · cases noLast
  · rw [resolved] at written
    cases written

/-- A write in the phase (dual, legacy). -/
theorem complete_write {rollout : Rollout} {a : UserAction} (dual : db.flags = ⟨.dual, .legacy⟩)
    (moved : rolloutStep hashPassword db.toRollout (.write a) = some rollout)
    (written : ∀ row ∈ rollout.users.rows, row.toNames.AsWritten)
    (complete : ∀ row ∈ db.users.rows, ¬ row.toNames.NeedsBackfill) :
    ∀ row ∈ rollout.users.rows, ¬ row.toNames.NeedsBackfill := by
  obtain ⟨reads, moved⟩ := Option.ite_none_right_eq_some.mp moved
  obtain ⟨users, wrote, rfl⟩ := Option.map_eq_some_iff.mp moved
  intro row mem
  have stored := written row mem
  rcases (userStep_rows wrote).mp mem with new | ⟨old, -⟩
  · cases a with
    | create flags draw userIn =>
      cases List.mem_singleton.mp new
      cases (show flags = db.flags from reads).trans dual
      exact derived_complete stored
    | update flags now userId userIn =>
      obtain ⟨user, found, rfl⟩ := List.mem_map.mp new
      cases (show flags = db.flags from reads).trans dual
      have inTable := (Users.find_eq_some_iff.mp (Option.mem_toList.mp found)).1
      rw [UserRow.updated_toNames] at stored ⊢
      by_cases something : userIn.toNames = ⟨none, none, none⟩
      · rw [Names.updated, if_pos something]
        exact complete user inTable
      · rw [updated_eq something] at stored ⊢
        exact derived_complete stored
    | backfill lastId batchSize locked =>
      obtain ⟨user, taken, rfl⟩ := List.mem_map.mp new
      exact UserRow.backfilled_complete user
  · exact complete row old

/-- From dual write on, a complete table stays complete. -/
theorem complete_step (sound : db.Sound) (allowed : a.Allowed db)
    (moved : dbStep hashPassword db a = some db') (past : db.flags.write ≠ .legacy)
    (complete : ∀ row ∈ db.users.rows, ¬ row.toNames.NeedsBackfill) :
    db'.flags.write ≠ .legacy ∧ ∀ row ∈ db'.users.rows, ¬ row.toNames.NeedsBackfill := by
  have sound' := dbStep_sound sound allowed moved
  -- where the read source has moved, the phase has complete rows only
  have ofNew : db'.flags.read = .new → ∀ row ∈ db'.users.rows, ¬ row.toNames.NeedsBackfill := by
    intro new row mem
    rcases sound'.inPhase.rows row mem with ⟨readLegacy, -⟩ | ⟨-, migrated⟩
    · rw [new] at readLegacy
      cases readLegacy
    · exact migrated.complete
  cases a with
  | rollout a =>
    obtain ⟨guard, moved⟩ := Option.ite_none_right_eq_some.mp moved
    obtain ⟨rollout, stepped, rfl⟩ := Option.map_eq_some_iff.mp moved
    cases a with
    | write a =>
      have flags : rollout.flags = db.flags := by
        obtain ⟨-, stepped⟩ := Option.ite_none_right_eq_some.mp stepped
        obtain ⟨users, -, rfl⟩ := Option.map_eq_some_iff.mp stepped
        rfl
      refine ⟨flags ▸ past, ?_⟩
      cases read : db.flags.read with
      | new => exact ofNew (flags ▸ read)
      | legacy =>
        have dual : db.flags = ⟨.dual, .legacy⟩ := by
          have write := sound.inPhase.documented.write_dual read past
          rw [← write, ← read]
        have present : "full_name" ∈ db.columns := by
          refine guard ?_
          cases a with
          | create | update => rw [RolloutAction.UsesFullName, dual]; rfl
          | backfill => trivial
        exact complete_write dual stepped (sound'.written present) complete
    | flip =>
      obtain ⟨flags, flipped, rfl⟩ := Option.map_eq_some_iff.mp stepped
      obtain ⟨-, next⟩ := Option.ite_none_right_eq_some.mp flipped
      exact ⟨Flags.next_write next past, complete⟩
  | contract busy =>
    obtain ⟨-, moved⟩ := Option.ite_none_right_eq_some.mp moved
    obtain ⟨users, upgraded, rfl⟩ := toOption_map_eq_some moved
    refine ⟨past, ofNew ?_⟩
    exact congrArg Flags.read (upgrade_ready upgraded)

theorem complete_of_reachable {start : UsersDb} (sound : start.Sound)
    (past : start.flags.write ≠ .legacy)
    (complete : ∀ row ∈ start.users.rows, ¬ row.toNames.NeedsBackfill)
    (reached : Reachable (dbStep hashPassword) (fun db a => a.Allowed db) start db) :
    ∀ row ∈ db.users.rows, ¬ row.toNames.NeedsBackfill := by
  have invariant : db.Sound ∧ db.flags.write ≠ .legacy ∧
      ∀ row ∈ db.users.rows, ¬ row.toNames.NeedsBackfill := by
    refine reached.invariant (P := fun db => db.Sound ∧ db.flags.write ≠ .legacy ∧
      ∀ row ∈ db.users.rows, ¬ row.toNames.NeedsBackfill) ⟨sound, past, complete⟩
      fun db a db' holds allowed moved => ?_
    obtain ⟨sound, past, complete⟩ := holds
    exact ⟨dbStep_sound sound allowed moved, complete_step sound allowed moved past complete⟩
  exact invariant.2.2

end Complete

/-- **A PASS after the backfill is final.**  Once the stage has passed in dual write, no later row
lacks a part, the read source may move, and revision 0005 refuses only because of the flags. -/
theorem pass_is_final {hashPassword : String → String → String} {space : Char → Bool}
    {start later : UsersDb} {seen : String → UsersDb × UsersDb}
    (legacy : start.flags = ⟨.legacy, .legacy⟩)
    (rows : ∀ row ∈ start.users.rows, row.toNames.NotMigrated ∧ row.toNames.AsWritten)
    (expanded : start.Expanded)
    (reached : Reachable (dbStep hashPassword) (fun db a => a.Allowed db) start
      (seen "not_migrated").2)
    (passed : exitStatus (verifyStage space .afterBackfill seen) = 0)
    (past : (seen "not_migrated").2.flags.write ≠ .legacy)
    (onwards : Reachable (dbStep hashPassword) (fun db a => a.Allowed db)
      (seen "not_migrated").2 later) :
    (∀ row ∈ later.users.rows, ¬ row.toNames.NeedsBackfill) ∧
    (later.flags = ⟨.dual, .legacy⟩ →
      ∃ db, dbStep hashPassword later (.rollout .flip) = some db) ∧
    ∀ busy, upgrade later.flags busy later.users = .error .notReady →
      later.flags ≠ ⟨.new, .new⟩ := by
  have sound := dbSound_of_reachable legacy rows expanded reached
  have check := exitStatus_eq_zero_iff.mp passed notMigrated (by simp [stageChecks,
    migrationChecks, notMigrated])
  have complete := complete_of_reachable sound past
    ((notMigrated_passes_iff sound.toExpanded).mp check) onwards
  refine ⟨complete, fun dual => ?_, fun busy refused new => ?_⟩
  · have flipped : nextFlags later.users later.flags = some ⟨.dual, .new⟩ := by
      rw [nextFlags, if_pos fun _ => complete, dual]
      rfl
    refine ⟨{ later with flags := ⟨.dual, .new⟩ }, ?_⟩
    have free : RolloutAction.UsesFullName later.flags .flip → "full_name" ∈ later.columns :=
      False.elim
    rw [dbStep, if_pos free, rolloutStep, flipped]
    rfl
  · rw [upgrade, if_pos ⟨new, complete⟩] at refused
    split at refused
    · cases renamed : later.users.rename fun row => row.toNames.withoutFull with
      | error kind =>
        rw [renamed] at refused
        cases refused
      | ok users =>
        rw [renamed] at refused
        cases refused
    · cases refused

namespace Sample

/-- `\s` in the C locale. -/
def asciiSpace (c : Char) : Bool := c ∈ [' ', '\t', '\n', '\x0b', '\x0c', '\r']

/-- Ann's account, and the columns and indexes of revision 0004. -/
def legacyDb : UsersDb where
  flags := ⟨.legacy, .legacy⟩
  users := oneAccount
  columns := ["id", "email", "username", "hashed_password", "full_name", "role", "created_at",
    "updated_at", "first_name", "last_name"]
  indexes := ["users_pkey", "idx_users_last_name"]

theorem legacyDb_expanded : legacyDb.Expanded where
  firstName := by decide
  lastName := by decide
  single := by decide
  index := by decide

theorem legacyDb_rows : ∀ row ∈ legacyDb.users.rows,
    row.toNames.NotMigrated ∧ row.toNames.AsWritten := by
  intro row mem
  have names : row.toNames = ⟨some "Ann Lee", none, none⟩ := by
    revert row
    decide +kernel
  rw [names]
  exact ⟨⟨rfl, rfl, by decide +kernel⟩, .full (by decide +kernel)⟩

end Sample

/-- Ann's row has been filled: both stages of the backfill pass. -/
theorem stages_exact_sample :
    ∃ db, run (dbStep Sample.hashPassword) Sample.legacyDb
        [.rollout .flip, .rollout (.write (.backfill 0 50 []))] = some db ∧
      exitStatus (verifyStage Sample.asciiSpace .beforeBackfill fun _ => (db, db)) = 0 ∧
      exitStatus (verifyStage Sample.asciiSpace .afterBackfill fun _ => (db, db)) = 0 := by
  obtain ⟨db, checked⟩ := Option.isSome_iff_exists.mp (show ((checkedRun
      (dbStep Sample.hashPassword) (fun db a => a.Allowed db) Sample.legacyDb
      [.rollout .flip, .rollout (.write (.backfill 0 50 []))]).filter fun db =>
        "full_name" ∈ db.columns ∧ ∀ row ∈ db.users.rows,
          row.toNames.SpacedAlike Sample.asciiSpace ∧ ¬ row.toNames.NeedsBackfill).isSome = true
    by decide +kernel)
  obtain ⟨ran, holds⟩ := Option.filter_eq_some_iff.mp checked
  obtain ⟨present, rows⟩ := of_decide_eq_true holds
  have verdicts : exitStatus (verifyStage Sample.asciiSpace .beforeBackfill fun _ => (db, db)) = 0 ∧
      (exitStatus (verifyStage Sample.asciiSpace .afterBackfill fun _ => (db, db)) = 0 ↔
        ∀ row ∈ db.users.rows, ¬ row.toNames.NeedsBackfill) :=
    (stages_exact (by decide) rfl Sample.legacyDb_rows Sample.legacyDb_expanded
      (fun _ => reachable_of_checkedRun ran) (fun _ row mem => (rows row mem).1) fun _ => id).1
      fun _ => present
  exact ⟨db, run_of_checkedRun ran, verdicts.1,
    verdicts.2.mpr fun row mem => (rows row mem).2⟩

/-- The stage passes, both flags move on and the column is dropped: Ann keeps her parts. -/
theorem pass_is_final_sample :
    ∃ db later, run (dbStep Sample.hashPassword) Sample.legacyDb
        [.rollout .flip, .rollout (.write (.backfill 0 50 []))] = some db ∧
      run (dbStep Sample.hashPassword) db [.rollout .flip, .rollout .flip, .contract 0] =
        some later ∧
      ∀ row ∈ later.users.rows, ¬ row.toNames.NeedsBackfill := by
  obtain ⟨db, checked⟩ := Option.isSome_iff_exists.mp (show ((checkedRun
      (dbStep Sample.hashPassword) (fun db a => a.Allowed db) Sample.legacyDb
      [.rollout .flip, .rollout (.write (.backfill 0 50 []))]).filter fun db =>
        exitStatus (verifyStage Sample.asciiSpace .afterBackfill fun _ => (db, db)) = 0 ∧
        db.flags.write ≠ .legacy ∧
        (checkedRun (dbStep Sample.hashPassword) (fun db a => a.Allowed db) db
          [.rollout .flip, .rollout .flip, .contract 0]).isSome = true).isSome = true
    by decide +kernel)
  obtain ⟨ran, holds⟩ := Option.filter_eq_some_iff.mp checked
  obtain ⟨passed, past, goesOn⟩ := of_decide_eq_true holds
  obtain ⟨later, onwards⟩ := Option.isSome_iff_exists.mp goesOn
  have final := pass_is_final rfl Sample.legacyDb_rows Sample.legacyDb_expanded
    (reachable_of_checkedRun ran) passed past (reachable_of_checkedRun onwards)
  exact ⟨db, later, run_of_checkedRun ran, run_of_checkedRun onwards, final.1⟩

end TicketBooking
