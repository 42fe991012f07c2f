import TicketBooking.NamePhases

/-!
# Losing no name in the migration

The whole migration at once: stored flags that move in the documented order, replicas and calls in
flight that act on the flags they have seen, backfill batches, and revision 0005 with its readiness
check and its later DROP COLUMN.  `Migration.acknowledged` remembers for every user the `full_name`
of the last response that a create or a PUT gave.

`Names.kept` are the words of a name that a row will still have when the parts are all that is left.
A run in which every response shows what its row keeps, as `Names.SafePut` asks of each call, ends
with every acknowledged name in the parts.
-/

namespace TicketBooking

open StepSystem

/-! ## What a row keeps -/

/-- Both parts are set or none is. -/
def Names.Paired (names : Names) : Prop := names.firstName = none ↔ names.lastName = none

/-- The words of the two parts. -/
def Names.parts (names : Names) : List (List Char) :=
  spelled names.firstName ++ spelled names.lastName

/-- The words that are left of the name once a batch has filled the parts and `full_name` is
gone. -/
def Names.kept (names : Names) : List (List Char) :=
  if names.firstName = none then spelled names.fullName else names.parts

section Kept

variable {names stored : Names} {fullName firstName lastName : Option String}

theorem kept_of_first {first : String} (hasFirst : names.firstName = some first) :
    names.kept = names.parts := by
  rw [Names.kept, hasFirst, if_neg (Option.some_ne_none first)]

theorem kept_of_none (noFirst : names.firstName = none) : names.kept = spelled names.fullName := by
  rw [Names.kept, if_pos noFirst]

theorem parts_of_none (paired : names.Paired) (noFirst : names.firstName = none) :
    names.parts = [] := by
  rw [Names.parts, noFirst, paired.mp noFirst]
  rfl

/-- A response from the new columns shows the parts. -/
theorem spelled_shown_new (names : Names) : spelled (names.shown .new).fullName = names.parts := by
  rw [shown_new, spelled_truthy, wordsOf_joinNames, Names.parts]

/-- A response from `full_name` shows it, or the parts where there is none. -/
theorem spelled_shown_legacy (names : Names) : spelled (names.shown .legacy).fullName =
    match names.fullName.bind truthy with
    | some full => wordsOf full
    | none => names.parts := by
  rw [shown_legacy_fullName]
  cases names.fullName.bind truthy with
  | some full => rfl
  | none => rw [Option.none_or, spelled_truthy, wordsOf_joinNames, Names.parts]

theorem spelled_bind_truthy (value : Option String) :
    spelled (value.bind truthy) = spelled value := by
  cases value with
  | none => rfl
  | some s => exact spelled_truthy s

/-- The row has parts, or no name at all. -/
def Names.Contractible (names : Names) : Prop :=
  names.firstName = none → spelled names.fullName = []

/-- What a response needs of the row to show what it keeps: from the new columns, that there are
parts or no name; from `full_name`, that it does not contradict the parts. -/
def Names.ShowsKept (names : Names) : ReadSource → Prop
  | .new => names.Contractible
  | .legacy => names.firstName ≠ none → ∀ full ∈ names.fullName.bind truthy,
    wordsOf full = names.parts

theorem shown_kept_iff (paired : names.Paired) (read : ReadSource) :
    spelled (names.shown read).fullName = names.kept ↔ names.ShowsKept read := by
  cases read with
  | new =>
    rw [spelled_shown_new]
    by_cases noFirst : names.firstName = none
    · rw [kept_of_none noFirst, parts_of_none paired noFirst]
      exact ⟨fun blank _ => blank.symm, fun contractible => (contractible noFirst).symm⟩
    · rw [Names.kept, if_neg noFirst]
      exact iff_of_true rfl fun absent => absurd absent noFirst
  | legacy =>
    rw [spelled_shown_legacy]
    by_cases noFirst : names.firstName = none
    · rw [kept_of_none noFirst, ← spelled_bind_truthy]
      refine iff_of_true ?_ fun hasFirst => absurd noFirst hasFirst
      cases names.fullName.bind truthy with
      | some full => rfl
      | none => exact parts_of_none paired noFirst
    · rw [Names.kept, if_neg noFirst, Names.ShowsKept]
      cases names.fullName.bind truthy with
      | some full => simp [noFirst]
      | none => simp

/-- A batch fills the parts with what the row keeps. -/
theorem backfilled_parts (paired : names.Paired) (needs : names.NeedsBackfill) :
    names.backfilled.parts = names.kept := by
  obtain ⟨fullName, firstName, lastName⟩ := names
  have noFirst : firstName = none := needs.elim id paired.mpr
  have noLast : lastName = none := paired.mp noFirst
  subst noFirst noLast
  rw [kept_of_none rfl]
  simp only [Names.parts, Names.backfilled, namesFor, Option.getD_none, if_pos, spelled_some]
  exact spelled_splitFullName fullName

/-- The words a request asks for, given the parts it hands to `resolve_names`. -/
def asked (fullName firstName lastName : Option String) : List (List Char) :=
  spelled fullName ++ (spelled firstName ++ spelled lastName)

/-- What a request with one name shape resolves to: all representations, or none at all. -/
theorem derived_cases (oneShape : spelled fullName = [] ∨
    spelled firstName = [] ∧ spelled lastName = []) :
    (∃ full first last, derived (clean fullName) (clean firstName) (clean lastName) =
        ⟨some full, some first, some last⟩ ∧
      wordsOf full = asked fullName firstName lastName ∧ wordsOf full ≠ [] ∧
      (wordsOf full = wordsOf first ++ wordsOf last ↔
        ¬ (spelled fullName = [] ∧ spelled firstName = []))) ∨
    derived (clean fullName) (clean firstName) (clean lastName) = ⟨none, none, none⟩ ∧
      asked fullName firstName lastName = [] := by
  by_cases named : spelled fullName ≠ [] ∨ spelled firstName ≠ []
  · obtain ⟨full, first, last, resolved, firstNamed, spells, words⟩ := derived_spells oneShape named
    refine .inl ⟨full, first, last, resolved, words, ?_, iff_of_true spells ?_⟩
    · rw [spells]
      exact List.append_ne_nil_of_left_ne_nil firstNamed _
    · intro ⟨noFull, noFirst⟩
      rcases named with hasFull | hasFirst
      · exact hasFull noFull
      · exact hasFirst noFirst
  · push Not at named
    obtain ⟨noFull, noFirst⟩ := named
    rw [asked, noFull, noFirst, clean_eq_none.mpr noFull, clean_eq_none.mpr noFirst]
    cases cleanLast : clean lastName with
    | none => exact .inr ⟨rfl, clean_eq_none.mp cleanLast⟩
    | some last =>
      -- only a last name: it stands for all columns
      obtain ⟨stripped, nonempty, words⟩ := clean_spec cleanLast
      have lastNamed := wordsOf_ne_nil_of_clean cleanLast
      refine .inl ⟨last, _, last, derived_of_last stripped nonempty, words.symm, lastNamed,
        iff_of_false (fun same => ?_) (not_not.mpr ⟨rfl, rfl⟩)⟩
      rw [wordsOf_head lastNamed] at same
      simp at same

/-- The row after DROP COLUMN. -/
def Names.withoutFull (names : Names) : Names := ⟨none, names.firstName, names.lastName⟩

theorem withoutFull_kept (contractible : names.Contractible) :
    names.withoutFull.kept = names.kept := by
  by_cases noFirst : names.firstName = none
  · rw [kept_of_none noFirst, contractible noFirst]
    exact kept_of_none noFirst
  · rw [Names.kept, Names.kept, if_neg noFirst]
    exact if_neg noFirst

end Kept

/-! ## Safe calls -/

/-- Where revision 0005 stands: not started, past its check, done. -/
inductive Revision
  | pending | checked | dropped
deriving DecidableEq

/-- A write in mode legacy does not touch the parts.  A row that has them must spell what the
request asks for, unless the response is read from them; a row without them is written before the
check of 0005, and the response is read from `full_name`. -/
def Names.SafeLegacyWrite (stored : Names) (asks : List (List Char)) (read : ReadSource)
    (revision : Revision) : Prop :=
  asks = [] ∨ if stored.firstName = none then read = .legacy ∧ revision = .pending
    else read = .legacy → asks = stored.parts

/-- A write after which the response shows what the row keeps.  Mode dual derives all columns from a
last name alone when there is nothing else to fill in, and mode new clears the parts when it is
asked for no name. -/
def Names.SafeWrite (stored : Names) (fullName firstName lastName : Option String)
    (revision : Revision) : Flags → Prop
  | ⟨.legacy, read⟩ => stored.SafeLegacyWrite (asked fullName firstName lastName) read revision
  | ⟨.dual, read⟩ => read = .legacy → spelled fullName = [] → spelled firstName = [] →
    spelled lastName = []
  | ⟨.new, _⟩ => asked fullName firstName lastName = [] → spelled stored.fullName = []

/-- A PUT after which the response shows what the row keeps. -/
def Names.SafePut (stored sent : Names) (flags : Flags) (revision : Revision) : Prop :=
  if sent = ⟨none, none, none⟩ then stored.ShowsKept flags.read
  else stored.SafeWrite sent.fullName (stored.filled sent flags.includeLegacy).1
    (stored.filled sent flags.includeLegacy).2 revision flags

instance (names : Names) : Decidable names.Contractible := inferInstanceAs (Decidable (_ → _ = _))

instance (names : Names) : (read : ReadSource) → Decidable (names.ShowsKept read)
  | .new => inferInstanceAs (Decidable names.Contractible)
  | .legacy => inferInstanceAs (Decidable (names.firstName ≠ none →
    ∀ full ∈ names.fullName.bind truthy, wordsOf full = names.parts))

instance (stored : Names) (asks : List (List Char)) (read : ReadSource) (revision : Revision) :
    Decidable (stored.SafeLegacyWrite asks read revision) :=
  inferInstanceAs (Decidable (asks = [] ∨ if stored.firstName = none then
    read = .legacy ∧ revision = .pending else read = .legacy → asks = stored.parts))

instance (stored : Names) (fullName firstName lastName : Option String) (revision : Revision) :
    (flags : Flags) → Decidable (stored.SafeWrite fullName firstName lastName revision flags)
  | ⟨.legacy, read⟩ => inferInstanceAs (Decidable (stored.SafeLegacyWrite _ read revision))
  | ⟨.dual, read⟩ => inferInstanceAs (Decidable (read = .legacy → _ = _ → _ = _ → _ = _))
  | ⟨.new, _⟩ => inferInstanceAs (Decidable (_ = _ → _ = _))

instance (stored sent : Names) (flags : Flags) (revision : Revision) :
    Decidable (stored.SafePut sent flags revision) :=
  inferInstanceAs (Decidable (if sent = ⟨none, none, none⟩ then stored.ShowsKept flags.read
    else stored.SafeWrite _ _ _ revision flags))

section Safe

variable {stored sent : Names} {flags : Flags} {revision : Revision}
  {fullName firstName lastName : Option String}

/-- What one write leaves of a row, and what its response shows. -/
structure Names.WrittenWell (names : Names) (read : ReadSource) (revision : Revision) : Prop where
  paired : names.Paired
  shows : spelled (names.shown read).fullName = names.kept
  contractible : revision ≠ .pending → names.Contractible

theorem writtenWell_iff {names : Names} {read : ReadSource} (paired : names.Paired) :
    names.WrittenWell read revision ↔
      names.ShowsKept read ∧ (revision ≠ .pending → names.Contractible) := by
  rw [← shown_kept_iff paired]
  constructor
  · intro well
    exact ⟨well.shows, well.contractible⟩
  · intro ⟨shows, contractible⟩
    exact ⟨paired, shows, contractible⟩

theorem writtenWell_of_first {names : Names} {read : ReadSource} (paired : names.Paired)
    (hasFirst : names.firstName ≠ none) :
    names.WrittenWell read revision ↔ names.ShowsKept read := by
  rw [writtenWell_iff paired, and_iff_left]
  exact fun _ noFirst => absurd noFirst hasFirst

/-- A row that a write leaves without a full name. -/
theorem writtenWell_of_blank {read : ReadSource}
    (paired : Names.Paired ⟨none, firstName, lastName⟩) :
    Names.WrittenWell ⟨none, firstName, lastName⟩ read revision := by
  refine (writtenWell_iff paired).mpr ⟨?_, fun _ _ => rfl⟩
  cases read with
  | legacy => exact fun _ full absent => by cases absent
  | new => exact fun _ => rfl

theorem both_some {first last : String} : Names.Paired ⟨fullName, some first, some last⟩ :=
  iff_of_false (Option.some_ne_none first) (Option.some_ne_none last)

theorem neither_some : Names.Paired ⟨fullName, none, none⟩ := Iff.rfl

/-- Next to parts, a full name that is not blank is shown by a response from `full_name` only. -/
theorem showsKept_iff {full : String} {read : ReadSource} (hasFirst : firstName ≠ none)
    (named : wordsOf full ≠ []) : Names.ShowsKept ⟨some full, firstName, lastName⟩ read ↔
      (read = .legacy → wordsOf full = spelled firstName ++ spelled lastName) := by
  have isTruthy : truthy full = some full := by
    refine truthy_of_ne fun empty => named ?_
    rw [empty]
    rfl
  cases read with
  | legacy => simp [Names.ShowsKept, Names.parts, hasFirst, isTruthy]
  | new => exact iff_of_true (fun absent => absurd absent hasFirst) fun legacy => by cases legacy

/-- Mode legacy, when the request asks for a name. -/
theorem safeLegacyWrite_iff (paired : stored.Paired) {full : String} {asks : List (List Char)}
    {read : ReadSource} (words : wordsOf full = asks) (named : wordsOf full ≠ []) :
    Names.WrittenWell ⟨some full, stored.firstName, stored.lastName⟩ read revision ↔
      stored.SafeLegacyWrite asks read revision := by
  subst words
  rw [Names.SafeLegacyWrite, or_iff_right named]
  by_cases noFirst : stored.firstName = none
  · have general : Names.WrittenWell ⟨some full, stored.firstName, stored.lastName⟩ read revision ↔
        _ := writtenWell_iff paired
    have notContractible :
        ¬ Names.Contractible ⟨some full, stored.firstName, stored.lastName⟩ := fun contractible =>
      named (contractible noFirst)
    rw [if_pos noFirst, general]
    constructor
    · intro ⟨shows, contractible⟩
      refine ⟨?_, by_contra fun started => notContractible (contractible started)⟩
      cases read with
      | legacy => rfl
      | new => exact absurd shows notContractible
    · intro ⟨readLegacy, pending⟩
      subst readLegacy
      exact ⟨fun hasFirst => absurd noFirst hasFirst, fun started => absurd pending started⟩
  · have general : Names.WrittenWell ⟨some full, stored.firstName, stored.lastName⟩ read revision ↔
        _ := writtenWell_of_first paired noFirst
    rw [if_neg noFirst, general]
    exact showsKept_iff noFirst named

/-- **A write is safe exactly when it is written well**, by the mode and by what the request
resolves to. -/
theorem safeWrite_iff (paired : stored.Paired)
    (newReads : flags.write = .new → flags.read = .new)
    (oneShape : spelled fullName = [] ∨ spelled firstName = [] ∧ spelled lastName = []) :
    (stored.overwritten (derived (clean fullName) (clean firstName) (clean lastName))
      flags.write).WrittenWell flags.read revision ↔
      stored.SafeWrite fullName firstName lastName revision flags := by
  obtain ⟨write, read⟩ := flags
  cases write with
  | legacy =>
    rcases derived_cases oneShape with ⟨full, first, last, resolved, words, named, -⟩ |
      ⟨resolved, nothing⟩
    · rw [resolved]
      exact safeLegacyWrite_iff paired words named
    · rw [resolved]
      exact iff_of_true (writtenWell_of_blank paired) (.inl nothing)
  | dual =>
    rcases derived_cases oneShape with ⟨full, first, last, resolved, words, named, spells⟩ |
      ⟨resolved, nothing⟩
    · have shows : Names.ShowsKept ⟨some full, some first, some last⟩ read ↔
          (read = .legacy → wordsOf full = wordsOf first ++ wordsOf last) :=
        showsKept_iff (Option.some_ne_none _) named
      rw [resolved, Names.overwritten,
        writtenWell_of_first both_some (Option.some_ne_none _), shows, spells]
      rw [words] at named
      constructor
      · intro notBoth legacy noFull noFirst
        exact absurd ⟨noFull, noFirst⟩ (notBoth legacy)
      · rintro safe legacy ⟨noFull, noFirst⟩
        apply named
        rw [asked, noFull, noFirst, safe legacy noFull noFirst]
        rfl
    · rw [resolved]
      refine iff_of_true (writtenWell_of_blank neither_some) fun _ _ _ => ?_
      exact (List.append_eq_nil_iff.mp (List.append_eq_nil_iff.mp nothing).2).2
  | new =>
    have readNew : read = .new := newReads rfl
    subst readNew
    rcases derived_cases oneShape with ⟨full, first, last, resolved, words, named, -⟩ |
      ⟨resolved, nothing⟩
    · rw [resolved, Names.overwritten, writtenWell_of_first both_some (Option.some_ne_none _)]
      exact iff_of_true (fun absent => absurd absent (Option.some_ne_none _))
        fun blank => absurd (words.trans blank) named
    · rw [resolved, Names.overwritten, writtenWell_iff neither_some]
      constructor
      · rintro ⟨contractible, -⟩ -
        exact contractible rfl
      · intro safe
        exact ⟨fun _ => safe nothing, fun _ _ => safe nothing⟩

/-- A registration. -/
theorem safeCreate_iff {userIn : UserCreate} (oneShape : userIn.toNames.OneShape)
    (newReads : flags.write = .new → flags.read = .new) :
    (resolveNames userIn.fullName userIn.firstName userIn.lastName flags.write).WrittenWell
      flags.read revision ↔
      (flags.write = .legacy → flags.read = .legacy ∧ revision = .pending) := by
  rw [resolveNames_eq, safeWrite_iff neither_some newReads (spelled_oneShape oneShape)]
  have named := userIn.named
  obtain ⟨write, read⟩ := flags
  cases write with
  | legacy =>
    have asks : asked userIn.fullName userIn.firstName userIn.lastName ≠ [] := by
      intro nothing
      obtain ⟨noFull, noParts⟩ := List.append_eq_nil_iff.mp nothing
      rcases named with full | first
      · exact full noFull
      · exact first (List.append_eq_nil_iff.mp noParts).1
    rw [Names.SafeWrite, Names.SafeLegacyWrite, or_iff_right asks, if_pos rfl]
    exact ⟨fun safe _ => safe, fun safe => safe rfl⟩
  | dual =>
    refine iff_of_true (fun _ noFull noFirst => ?_) fun legacy => by cases legacy
    rcases named with full | first
    · exact absurd noFull full
    · exact absurd noFirst first
  | new => exact iff_of_true (fun _ => rfl) fun legacy => by cases legacy

/-- A PUT. -/
theorem safePut_iff (paired : stored.Paired)
    (contractible : revision ≠ .pending → stored.Contractible) (oneShape : sent.OneShape)
    (newReads : flags.write = .new → flags.read = .new) :
    (stored.updated sent flags).WrittenWell flags.read revision ↔
      stored.SafePut sent flags revision := by
  rw [Names.SafePut]
  by_cases something : sent = ⟨none, none, none⟩
  · rw [if_pos something, Names.updated, if_pos something, writtenWell_iff paired]
    exact and_iff_left contractible
  · rw [if_neg something, updated_eq something]
    exact safeWrite_iff paired newReads (filled_oneShape oneShape _)

end Safe

/-! ## The migration -/

/-- Everything the migration moves. -/
structure Migration where
  users : Users
  /-- The rows of `feature_flags`. -/
  stored : Flags
  /-- What the cache of a replica has, or a call in flight has read. -/
  seen : ℕ → Flags
  /-- The `full_name` of the last response of a create or a PUT for a user; at the start the stored
  one. -/
  acknowledged : ℕ → Option String
  revision : Revision

inductive MigrationAction
  /-- An administrator moves a flag. -/
  | flip
  /-- A cache is refreshed, or a call reads its flags. -/
  | refresh (view : ℕ)
  /-- The cache is refreshed between the two `get_flag` of a call. -/
  | reread (view : ℕ)
  | create (view : ℕ) (draw : UserDraw) (userIn : UserCreate)
  | update (view : ℕ) (now : ℤ) (userId : ℕ) (userIn : UserUpdate)
  | backfill (lastId batchSize : ℕ) (locked : List ℕ)
  /-- The readiness check of 0005 passes. -/
  | check
  /-- The lock timeout of 0005 has run out in its last attempt. -/
  | giveUp
  | dropColumn
deriving DecidableEq

/-- `_check_ready_to_contract` -/
def ReadyToContract (stored : Flags) (users : Users) : Prop :=
  stored = ⟨.new, .new⟩ ∧ ∀ row ∈ users.rows, ¬ row.toNames.NeedsBackfill

instance (stored : Flags) (users : Users) : Decidable (ReadyToContract stored users) :=
  inferInstanceAs (Decidable (_ ∧ _))

/-- Legacy rows, and flags nobody has moved. -/
def Migration.start (users : Users) : Migration where
  users := users
  stored := ⟨.legacy, .legacy⟩
  seen := fun _ => ⟨.legacy, .legacy⟩
  acknowledged := fun userId => (users.find userId).bind fun row => row.fullName
  revision := .pending

/-- The client has the response of a call that committed. -/
def Migration.acknowledge (s : Migration) (response : UserResponse) (users : Users) : Migration :=
  { s with
    users := users
    acknowledged := Function.update s.acknowledged response.id response.fullName }

section System

variable (hashPassword : String → String → String)

/-- One step; a call that is refused, or that needs the dropped column, changes nothing. -/
def migrate (s : Migration) : MigrationAction → Option Migration
  | .flip => s.stored.next.map fun stored => { s with stored }
  | .refresh view => some { s with seen := Function.update s.seen view s.stored }
  | .reread view =>
    some { s with seen := Function.update s.seen view { s.seen view with read := s.stored.read } }
  | .create view draw userIn =>
    -- the INSERT names full_name unless the mode is new
    if s.revision = .dropped ∧ (s.seen view).write ≠ .new then none
    else (createUser hashPassword (s.seen view) draw 0 s.users s.users userIn).toOption.map
      fun (response, users) => s.acknowledge response users
  | .update view now userId userIn =>
    if s.revision = .dropped ∧ (s.seen view).includeLegacy then none
    else (updateUser (s.seen view) now s.users s.users userId userIn).toOption.map
      fun (response, users) => s.acknowledge response users
  | .backfill lastId batchSize locked =>
    if s.revision = .dropped then none
    else (userStep hashPassword s.users (.backfill lastId batchSize locked)).map
      fun users => { s with users }
  | .check =>
    if s.revision = .pending ∧ ReadyToContract s.stored s.users then
      some { s with revision := .checked }
    else none
  | .giveUp => if s.revision = .checked then some { s with revision := .pending } else none
  | .dropColumn =>
    if s.revision = .checked then
      (s.users.rename fun row => row.toNames.withoutFull).toOption.map
        fun users => { s with users, revision := .dropped }
    else none

/-- The body of the call has one name shape. -/
def MigrationAction.OneShape : MigrationAction → Prop
  | .create _ _ userIn => userIn.toNames.OneShape
  | .update _ _ _ userIn => userIn.toNames.OneShape
  | _ => True

instance : (a : MigrationAction) → Decidable a.OneShape
  | .create _ _ userIn => inferInstanceAs (Decidable userIn.toNames.OneShape)
  | .update _ _ _ userIn => inferInstanceAs (Decidable userIn.toNames.OneShape)
  | .flip | .refresh _ | .reread _ | .backfill _ _ _ | .check | .giveUp | .dropColumn =>
      .isTrue trivial

/-- The condition on a step. -/
def MigrationAction.Safe (s : Migration) : MigrationAction → Prop
  | .create view _ _ => (s.seen view).write = .legacy →
    (s.seen view).read = .legacy ∧ s.revision = .pending
  | .update view _ userId userIn => ∀ row ∈ s.users.rows, row.id = userId →
    row.toNames.SafePut userIn.toNames (s.seen view) s.revision
  | _ => True

instance (s : Migration) : (a : MigrationAction) → Decidable (a.Safe s)
  | .create _ _ _ => inferInstanceAs (Decidable (_ = _ → _ = _ ∧ _ = _))
  | .update _ _ _ _ => inferInstanceAs
      (Decidable (∀ row ∈ s.users.rows, _ = _ → Names.SafePut _ _ _ _))
  | .flip | .refresh _ | .reread _ | .backfill _ _ _ | .check | .giveUp | .dropColumn =>
      .isTrue trivial

/-- After 0005 the parts of every user spell the acknowledged name. -/
def Migration.NoNameLost (s : Migration) : Prop :=
  s.revision = .dropped → ∀ row ∈ s.users.rows,
    wordsOf (joinNames row.firstName row.lastName) = spelled (s.acknowledged row.id)

instance (s : Migration) : Decidable s.NoNameLost :=
  inferInstanceAs (Decidable (_ = _ → ∀ row ∈ s.users.rows, _ = _))

/-- The invariant of safe runs. -/
structure Migration.Keeps (s : Migration) : Prop where
  documented : s.stored.Documented
  newReads : ∀ view, (s.seen view).write = .new → (s.seen view).read = .new
  readMoved : ∀ view, (s.seen view).read = .new → s.stored.read = .new
  paired : ∀ row ∈ s.users.rows, row.toNames.Paired
  kept : ∀ row ∈ s.users.rows, spelled (s.acknowledged row.id) = row.toNames.kept
  contractible : s.revision ≠ .pending → ∀ row ∈ s.users.rows, row.toNames.Contractible

variable {hashPassword} {s s' : Migration}

theorem Migration.Keeps.noNameLost (keeps : s.Keeps) : s.NoNameLost := by
  intro dropped row mem
  rw [keeps.kept row mem, wordsOf_joinNames]
  by_cases noFirst : row.toNames.firstName = none
  · have contractible := keeps.contractible (by rw [dropped]; decide) row mem
    rw [kept_of_none noFirst, contractible noFirst]
    exact parts_of_none (keeps.paired row mem) noFirst
  · rw [Names.kept, if_neg noFirst, Names.parts]

/-! ### Steps -/

/-- A call that writes one row and answers with it. -/
theorem Migration.Keeps.acknowledge_iff (keeps : s.Keeps) {a : UserAction} {w : UserRow}
    {users' : Users} {read : ReadSource} (moved : userStep hashPassword s.users a = some users')
    (single : a.written hashPassword s.users = [w]) :
    (s.acknowledge (buildUserResponse w read) users').Keeps ↔
      w.toNames.WrittenWell read s.revision := by
  have rows : ∀ r ∈ users'.rows, r = w ∨ r ∈ s.users.rows ∧ r.id ≠ w.id := by
    intro r mem
    rcases (userStep_rows moved).mp mem with written | ⟨old, others⟩
    · rw [single] at written
      exact .inl (List.mem_singleton.mp written)
    · exact .inr ⟨old, others w (by rw [single]; exact List.mem_singleton_self w)⟩
  have shown : (s.acknowledge (buildUserResponse w read) users').acknowledged w.id =
      (w.toNames.shown read).fullName := Function.update_self _ _ _
  constructor
  · intro after
    have inTable : w ∈ users'.rows :=
      (userStep_rows moved).mpr (.inl (by rw [single]; exact List.mem_singleton_self w))
    have shows := after.kept w inTable
    rw [shown] at shows
    exact ⟨after.paired w inTable, shows, fun started => after.contractible started w inTable⟩
  · intro well
    refine ⟨keeps.documented, keeps.newReads, keeps.readMoved, ?_, ?_, ?_⟩
    · intro r mem
      rcases rows r mem with rfl | ⟨old, -⟩
      · exact well.paired
      · exact keeps.paired r old
    · intro r mem
      rcases rows r mem with rfl | ⟨old, other⟩
      · rw [shown]
        exact well.shows
      · have kept : (s.acknowledge (buildUserResponse w read) users').acknowledged r.id =
            s.acknowledged r.id := Function.update_of_ne other _ _
        rw [kept]
        exact keeps.kept r old
    · intro started r mem
      rcases rows r mem with rfl | ⟨old, -⟩
      · exact well.contractible started
      · exact keeps.contractible started r old

/-- A batch spells the parts it fills from the full name, and acknowledges nothing. -/
theorem Migration.Keeps.backfill (keeps : s.Keeps) {lastId batchSize : ℕ} {locked : List ℕ}
    {users' : Users}
    (moved : userStep hashPassword s.users (.backfill lastId batchSize locked) = some users') :
    Migration.Keeps { s with users := users' } := by
  have rows : ∀ r ∈ users'.rows, (∃ row ∈ s.users.rows, row.toNames.NeedsBackfill ∧ row.id = r.id ∧
      r.toNames = row.toNames.backfilled) ∨ r ∈ s.users.rows := by
    intro r mem
    rcases (userStep_rows moved).mp mem with written | ⟨old, -⟩
    · obtain ⟨row, taken, rfl⟩ := List.mem_map.mp written
      obtain ⟨inTable, needs⟩ := Users.mem_batch taken
      exact .inl ⟨row, inTable, needs, rfl, rfl⟩
    · exact .inr old
  refine ⟨keeps.documented, keeps.newReads, keeps.readMoved, ?_, ?_, ?_⟩
  · intro r mem
    rcases rows r mem with ⟨row, -, -, -, filled⟩ | old
    · rw [filled]
      exact iff_of_false (Option.some_ne_none _) (Option.some_ne_none _)
    · exact keeps.paired r old
  · intro r mem
    rcases rows r mem with ⟨row, inTable, needs, same, filled⟩ | old
    · rw [filled, ← same]
      have acknowledged := keeps.kept row inTable
      rw [kept_of_first rfl, backfilled_parts (keeps.paired row inTable) needs]
      exact acknowledged
    · exact keeps.kept r old
  · intro started r mem
    rcases rows r mem with ⟨row, -, -, -, filled⟩ | old
    · rw [filled]
      exact fun noFirst => absurd noFirst (Option.some_ne_none _)
    · exact keeps.contractible started r old

/-- A view that takes over flags from the table. -/
theorem Migration.Keeps.see (keeps : s.Keeps) {view : ℕ} {flags : Flags}
    (newReads : flags.write = .new → flags.read = .new)
    (readMoved : flags.read = .new → s.stored.read = .new) :
    Migration.Keeps { s with seen := Function.update s.seen view flags } := by
  refine ⟨keeps.documented, fun other => ?_, fun other => ?_, keeps.paired, keeps.kept,
    keeps.contractible⟩
  · by_cases same : other = view
    · subst same
      simp only [Function.update_self]
      exact newReads
    · simp only [Function.update_of_ne same]
      exact keeps.newReads other
  · by_cases same : other = view
    · subst same
      simp only [Function.update_self]
      exact readMoved
    · simp only [Function.update_of_ne same]
      exact keeps.readMoved other

/-- The column goes when every row has its parts. -/
theorem Migration.Keeps.dropColumn (keeps : s.Keeps) (checked : s.revision = .checked)
    {users' : Users} (dropped : s.users.rename (fun row => row.toNames.withoutFull) = .ok users') :
    Migration.Keeps { s with users := users', revision := .dropped } := by
  have rows : ∀ r ∈ users'.rows, ∃ row ∈ s.users.rows, row.id = r.id ∧
      r.toNames = row.toNames.withoutFull := by
    intro r mem
    rw [Users.rename_ok dropped] at mem
    obtain ⟨row, inTable, rfl⟩ := List.mem_map.mp mem
    exact ⟨row, inTable, rfl, rfl⟩
  refine ⟨keeps.documented, keeps.newReads, keeps.readMoved, ?_, ?_, ?_⟩
  · intro r mem
    obtain ⟨row, inTable, -, without⟩ := rows r mem
    rw [without]
    exact keeps.paired row inTable
  · intro r mem
    obtain ⟨row, inTable, same, without⟩ := rows r mem
    have acknowledged := keeps.kept row inTable
    rw [without, ← same, withoutFull_kept
      (keeps.contractible (by rw [checked]; decide) row inTable)]
    exact acknowledged
  · intro _ r mem
    obtain ⟨row, -, -, without⟩ := rows r mem
    rw [without]
    exact fun _ => rfl

theorem Migration.keeps_start {users : Users}
    (legacy : ∀ row ∈ users.rows, row.firstName = none ∧ row.lastName = none) :
    (Migration.start users).Keeps := by
  refine ⟨by simp [Migration.start, Flags.Documented], ?_, ?_, ?_, ?_, ?_⟩
  · intro view write
    cases write
  · intro view read
    cases read
  · intro row mem
    exact iff_of_true (legacy row mem).1 (legacy row mem).2
  · intro row mem
    have found : users.find row.id = some row := Users.find_eq_some_iff.mpr ⟨mem, rfl⟩
    have acknowledged : (Migration.start users).acknowledged row.id = row.fullName := by
      simp only [Migration.start, found, Option.bind_some]
    rw [kept_of_none (legacy row mem).1, acknowledged]
  · intro started
    exact absurd rfl started

/-- **A step keeps every acknowledged name exactly when it is safe.** -/
theorem Migration.Keeps.step_iff (keeps : s.Keeps) {a : MigrationAction} (oneShape : a.OneShape)
    (moved : migrate hashPassword s a = some s') : s'.Keeps ↔ a.Safe s := by
  cases a with
  | flip =>
    obtain ⟨stored, flipped, rfl⟩ := Option.map_eq_some_iff.mp moved
    refine iff_of_true ?_ trivial
    exact ⟨Flags.next_documented flipped, keeps.newReads,
      fun view read => Flags.next_read flipped (keeps.readMoved view read), keeps.paired,
      keeps.kept, keeps.contractible⟩
  | refresh view =>
    cases moved
    exact iff_of_true (keeps.see keeps.documented.read_new id) trivial
  | reread view =>
    cases moved
    refine iff_of_true (keeps.see ?_ id) trivial
    intro write
    exact keeps.readMoved view (keeps.newReads view write)
  | create view draw userIn =>
    obtain ⟨-, moved⟩ := Option.ite_none_left_eq_some.mp moved
    obtain ⟨⟨response, users⟩, created, rfl⟩ := toOption_map_eq_some moved
    obtain ⟨-, rfl⟩ := createUser_ok created
    have stepped : userStep hashPassword s.users (.create (s.seen view) draw userIn) = some users :=
      userStep_create created
    refine (keeps.acknowledge_iff stepped rfl).trans ?_
    exact safeCreate_iff oneShape (keeps.newReads view)
  | update view now userId userIn =>
    obtain ⟨-, moved⟩ := Option.ite_none_left_eq_some.mp moved
    obtain ⟨⟨response, users⟩, updated, rfl⟩ := toOption_map_eq_some moved
    obtain ⟨user, found, -, rfl⟩ := updateUser_ok updated
    obtain ⟨mem, isUser⟩ := Users.find_eq_some_iff.mp found
    have stepped : userStep hashPassword s.users (.update (s.seen view) now userId userIn) =
        some users := userStep_update updated
    have single : (UserAction.update (s.seen view) now userId userIn).written hashPassword s.users =
        [user.updated userIn (s.seen view) now] := by
      rw [UserAction.written, found]
      rfl
    refine (keeps.acknowledge_iff stepped single).trans ?_
    rw [UserRow.updated_toNames, safePut_iff (keeps.paired user mem)
      (fun started => keeps.contractible started user mem) oneShape (keeps.newReads view)]
    constructor
    · intro safe row memRow isRow
      rw [s.users.eq_of_id_eq memRow mem (isRow.trans isUser.symm)]
      exact safe
    · intro safe
      exact safe user mem isUser
  | backfill lastId batchSize locked =>
    obtain ⟨-, moved⟩ := Option.ite_none_left_eq_some.mp moved
    obtain ⟨users, filled, rfl⟩ := Option.map_eq_some_iff.mp moved
    exact iff_of_true (keeps.backfill filled) trivial
  | check =>
    obtain ⟨⟨-, -, complete⟩, same⟩ := Option.ite_none_right_eq_some.mp moved
    cases same
    refine iff_of_true ?_ trivial
    refine ⟨keeps.documented, keeps.newReads, keeps.readMoved, keeps.paired, keeps.kept, ?_⟩
    intro _ row mem noFirst
    exact absurd (.inl noFirst) (complete row mem)
  | giveUp =>
    obtain ⟨-, same⟩ := Option.ite_none_right_eq_some.mp moved
    cases same
    refine iff_of_true ?_ trivial
    exact ⟨keeps.documented, keeps.newReads, keeps.readMoved, keeps.paired, keeps.kept,
      fun started => absurd rfl started⟩
  | dropColumn =>
    obtain ⟨checked, moved⟩ := Option.ite_none_right_eq_some.mp moved
    obtain ⟨users, dropped, rfl⟩ := toOption_map_eq_some moved
    exact iff_of_true (keeps.dropColumn checked dropped) trivial

end System

/-- **The migration loses no acknowledged name** in a run whose steps are all safe. -/
theorem safe_migration_loses_no_name {hashPassword : String → String → String} {users : Users}
    {as : List MigrationAction}
    (legacy : ∀ row ∈ users.rows, row.firstName = none ∧ row.lastName = none)
    (oneShape : ∀ a ∈ as, a.OneShape)
    (safe : StepsMeet (migrate hashPassword) (Migration.start users) as fun s a => a.Safe s) :
    Along (migrate hashPassword) (Migration.start users) as Migration.NoNameLost := by
  have both : StepsMeet (migrate hashPassword) (Migration.start users) as
      fun s a => a.OneShape ∧ a.Safe s := by
    intro before a isPrefix s ran
    exact ⟨oneShape a (isPrefix.subset (by simp)), safe before a isPrefix s ran⟩
  have keeps : Along (migrate hashPassword) (Migration.start users) as Migration.Keeps :=
    Along.of_stepsMeet (Migration.keeps_start legacy)
      (fun s a s' keeps allowed moved => (keeps.step_iff allowed.1 moved).mpr allowed.2) both
  intro before isPrefix s ran
  exact (keeps before isPrefix s ran).noNameLost

/-- Two replicas: one has dual write, the other one may act on the old flags for a while. -/
def twoReplicas (second : MigrationAction) : List MigrationAction :=
  [.flip, .refresh 0, .update 0 1 1 Sample.rename, second, .refresh 1, .backfill 0 50 [],
    .flip, .flip, .refresh 0, .refresh 1, .check, .dropColumn]

theorem renamed_account_migrated :
    Along (migrate Sample.hashPassword) (Migration.start Sample.oneAccount)
      (twoReplicas (.update 0 2 1 Sample.renameAgain)) Migration.NoNameLost := by
  obtain ⟨s, checked⟩ := Option.isSome_iff_exists.mp (show (checkedRun (migrate Sample.hashPassword)
    (fun s a => a.Safe s) (Migration.start Sample.oneAccount)
    (twoReplicas (.update 0 2 1 Sample.renameAgain))).isSome = true by decide +kernel)
  apply safe_migration_loses_no_name ?_ ?_ (stepsMeet_of_checkedRun checked)
  · decide +kernel
  · decide +kernel

/-- The second PUT goes to the other replica, which still writes `full_name` only: 0005 drops the
name that its response acknowledged. -/
theorem stale_replica_loses_name :
    ∃ s, run (migrate Sample.hashPassword) (Migration.start Sample.oneAccount)
      (twoReplicas (.update 1 2 1 Sample.renameAgain)) = some s ∧ ¬ s.NoNameLost := by
  have lost : ((run (migrate Sample.hashPassword) (Migration.start Sample.oneAccount)
      (twoReplicas (.update 1 2 1 Sample.renameAgain))).map fun s => decide s.NoNameLost) =
        some false := by
    decide +kernel
  obtain ⟨s, ran, no⟩ := Option.map_eq_some_iff.mp lost
  exact ⟨s, ran, of_decide_eq_false no⟩

end TicketBooking
