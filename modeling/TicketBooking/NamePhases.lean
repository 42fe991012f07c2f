import TicketBooking.UserSystem

/-!
# The phases of the migration

The documented rollout moves the pair of flags (write mode, read source) through (legacy, legacy),
(dual, legacy), a complete backfill, (dual, new) and (new, new), with each flip taking effect
everywhere at once.  `Names.InPhase` says which rows may exist in a phase; every response that a
call gives in a reachable state passes the check of `scripts/traffic_gen.py`.
-/

namespace TicketBooking

open StepSystem

/-! ## The check of the traffic generator -/

/-- `normalise` -/
def normalise (text : Option String) : String :=
  " ".intercalate ((wordsOf (text.getD "")).map String.ofList)

/-- The checks of `check_user_body` on the names. -/
def Names.Sound (names : Names) : Prop :=
  names.fullName ≠ none ∧ names.firstName ≠ none ∧
  normalise names.fullName =
    normalise (some (names.firstName.getD "" ++ " " ++ names.lastName.getD ""))

instance (names : Names) : Decidable names.Sound := inferInstanceAs (Decidable (_ ∧ _ ∧ _))

theorem sound_of_wordsOf {full first : String} {last : Option String}
    (same : wordsOf full = wordsOf first ++ spelled last) :
    Names.Sound ⟨some full, some first, last⟩ := by
  refine ⟨Option.some_ne_none _, Option.some_ne_none _, ?_⟩
  have spaced := wordsOf_spaced first (last.getD "")
  simp only [normalise, Option.getD_some, spaced, same, spelled]

/-! ## Rows of a phase -/

/-- A row nobody has migrated yet. -/
def Names.NotMigrated (names : Names) : Prop :=
  names.firstName = none ∧ names.lastName = none ∧ spelled names.fullName ≠ []

/-- A row with both parts. -/
def Names.Migrated (names : Names) (agree : Prop) : Prop :=
  ∃ first last, names.firstName = some first ∧ names.lastName = some last ∧ wordsOf first ≠ [] ∧
    (agree → spelled names.fullName = wordsOf first ++ wordsOf last)

/-- The rows a phase has: unmigrated ones until the read source moves, migrated ones from dual write
on, with a full name that agrees as long as it is written. -/
def Names.InPhase (names : Names) (flags : Flags) : Prop :=
  (flags.read = .legacy ∧ names.NotMigrated) ∨
  (flags.write ≠ .legacy ∧ names.Migrated (flags.write = .dual))

/-- A body with one name shape at a time. -/
def Names.OneShape (sent : Names) : Prop :=
  sent.fullName = none ∨ sent.firstName = none ∧ sent.lastName = none

instance (names : Names) : Decidable names.NotMigrated :=
  inferInstanceAs (Decidable (_ ∧ _ ∧ _ ≠ _))

instance (sent : Names) : Decidable sent.OneShape := inferInstanceAs (Decidable (_ ∨ _ ∧ _))

section Phases

variable {names stored sent : Names} {flags : Flags}

/-! ### Reading -/

theorem shown_of_notMigrated (notMigrated : names.NotMigrated) : ∃ full, wordsOf full ≠ [] ∧
    names.fullName = some full ∧ names.shown .legacy =
      ⟨some full, some (splitFullName (some full)).1, some (splitFullName (some full)).2⟩ := by
  obtain ⟨fullName, firstName, lastName⟩ := names
  obtain ⟨rfl, rfl, named⟩ := notMigrated
  obtain ⟨full, rfl, isFull⟩ := exists_of_spelled named
  refine ⟨full, named, rfl, ?_⟩
  simp only [Names.shown, Option.bind_some, isFull, Option.some_or]

theorem shown_legacy_of_first {first full : String} (hasFirst : names.firstName = some first)
    (hasFull : names.fullName = some full) (nonempty : truthy full = some full) :
    names.shown .legacy = ⟨some full, some first, names.lastName⟩ := by
  simp only [Names.shown, hasFirst, hasFull, Option.bind_some, nonempty, Option.some_or]

/-- What is shown of a row of the phase passes the check. -/
theorem shown_sound (documented : flags.Documented) (inPhase : names.InPhase flags) :
    (names.shown flags.read).Sound := by
  rcases inPhase with ⟨read, notMigrated⟩ | ⟨write, first, last, hasFirst, hasLast, named, agree⟩
  · obtain ⟨full, -, -, shown⟩ := shown_of_notMigrated notMigrated
    rw [read, shown]
    exact sound_of_wordsOf (wordsOf_head_append full)
  · cases read : flags.read with
    | legacy =>
      have same := agree (documented.write_dual read write)
      have fullNamed : spelled names.fullName ≠ [] := by
        rw [same]
        exact List.append_ne_nil_of_left_ne_nil named _
      obtain ⟨full, hasFull, nonempty⟩ := exists_of_spelled fullNamed
      rw [shown_legacy_of_first hasFirst hasFull nonempty, hasLast]
      rw [hasFull] at same
      exact sound_of_wordsOf same
    | new =>
      have joined : truthy (joinNames names.firstName names.lastName) =
          some (joinNames names.firstName names.lastName) := by
        apply truthy_of_ne
        intro empty
        have blank := congrArg wordsOf empty
        rw [wordsOf_joinNames, hasFirst] at blank
        exact named (List.append_eq_nil_iff.mp blank).1
      rw [shown_new, joined, hasFirst]
      exact sound_of_wordsOf (wordsOf_joinNames _ _)

/-! ### Writing -/

/-- A write keeps to the phase when what it stores spells one name. -/
theorem overwritten_inPhase (documented : flags.Documented) {full first last : String}
    (old : stored = ⟨none, none, none⟩ ∨ stored.InPhase flags) (named : wordsOf first ≠ [])
    (spells : wordsOf full = wordsOf first ++ wordsOf last) :
    (stored.overwritten ⟨some full, some first, some last⟩ flags.write).InPhase flags := by
  cases write : flags.write with
  | legacy =>
    have noParts : stored.firstName = none ∧ stored.lastName = none := by
      rcases old with rfl | ⟨-, notMigrated⟩ | ⟨notLegacy, -⟩
      · exact ⟨rfl, rfl⟩
      · exact ⟨notMigrated.1, notMigrated.2.1⟩
      · exact absurd write notLegacy
    refine .inl ⟨documented.read_legacy write, noParts.1, noParts.2, ?_⟩
    rw [Names.overwritten, spelled_some, spells]
    exact List.append_ne_nil_of_left_ne_nil named _
  | dual =>
    refine .inr ⟨by rw [write]; decide, first, last, rfl, rfl, named, fun _ => ?_⟩
    exact spells
  | new =>
    refine .inr ⟨by rw [write]; decide, first, last, rfl, rfl, named, fun dual => ?_⟩
    rw [write] at dual
    cases dual

/-- The first name that a PUT in the split shape resolves is not blank. -/
theorem filled_named (inPhase : stored.InPhase flags)
    (sends : ¬ (sent.firstName = none ∧ sent.lastName = none))
    (notBlank : sent.firstName ≠ none → clean sent.firstName ≠ none) :
    spelled (stored.filled sent flags.includeLegacy).1 ≠ [] := by
  have sentNamed : ∀ other : String, wordsOf other ≠ [] →
      spelled (sent.firstName.or (some other)) ≠ [] := by
    intro other named
    cases sentFirst : sent.firstName with
    | none => exact named
    | some first =>
      rw [sentFirst] at notBlank
      exact fun blank => notBlank (Option.some_ne_none first) (clean_eq_none.mpr blank)
  rcases inPhase with ⟨read, noFirst, -, named⟩ | ⟨-, first, last, hasFirst, -, named, -⟩
  · obtain ⟨full, hasFull, isFull⟩ := exists_of_spelled named
    have legacy : flags.includeLegacy = true := by simp [Flags.includeLegacy, read]
    have source : (if flags.includeLegacy then stored.fullName.bind truthy else none) =
        some full := by
      rw [legacy, if_pos rfl, hasFull]
      exact isFull
    rw [hasFull] at named
    rw [filled_of_full sends noFirst source]
    exact sentNamed _ (wordsOf_head_ne_nil named)
  · rw [filled_of_first sends hasFirst]
    exact sentNamed first named

/-- With the parts that a PUT fills a body still has one shape. -/
theorem filled_oneShape (oneShape : sent.OneShape) (includeLegacy : Bool) :
    spelled sent.fullName = [] ∨ spelled (stored.filled sent includeLegacy).1 = [] ∧
      spelled (stored.filled sent includeLegacy).2 = [] := by
  rcases oneShape with noFull | noParts
  · rw [noFull]
    exact .inl rfl
  · rw [Names.filled, if_pos noParts]
    exact .inr ⟨rfl, rfl⟩

/-- And so has the body of a registration. -/
theorem spelled_oneShape (oneShape : sent.OneShape) :
    spelled sent.fullName = [] ∨ spelled sent.firstName = [] ∧ spelled sent.lastName = [] := by
  rcases oneShape with noFull | ⟨noFirst, noLast⟩
  · rw [noFull]
    exact .inl rfl
  · rw [noFirst, noLast]
    exact .inr ⟨rfl, rfl⟩

theorem UserCreate.named (userIn : UserCreate) :
    spelled userIn.fullName ≠ [] ∨ spelled userIn.firstName ≠ [] := by
  rcases userIn.name_presence with full | first
  · exact .inl fun blank => full (clean_eq_none.mpr blank)
  · exact .inr fun blank => first (clean_eq_none.mpr blank)

theorem updated_inPhase (documented : flags.Documented) (inPhase : stored.InPhase flags)
    (oneShape : sent.OneShape) (fullNotBlank : sent.fullName ≠ none → clean sent.fullName ≠ none)
    (firstNotBlank : sent.firstName ≠ none → clean sent.firstName ≠ none) :
    (stored.updated sent flags).InPhase flags := by
  by_cases something : sent = ⟨none, none, none⟩
  · rw [Names.updated, if_pos something]
    exact inPhase
  · have shape : _ ∨ spelled (stored.filled sent flags.includeLegacy).1 = [] ∧ _ :=
      filled_oneShape oneShape flags.includeLegacy
    have named : spelled sent.fullName ≠ [] ∨
        spelled (stored.filled sent flags.includeLegacy).1 ≠ [] := by
      by_cases noParts : sent.firstName = none ∧ sent.lastName = none
      · refine .inl fun blank => fullNotBlank (fun noFull => something ?_) (clean_eq_none.mpr blank)
        exact Names.ext noFull noParts.1 noParts.2
      · exact .inr (filled_named inPhase noParts firstNotBlank)
    obtain ⟨full, first, last, resolved, firstNamed, spells, -⟩ := derived_spells shape named
    rw [updated_eq something, resolved]
    exact overwritten_inPhase documented (.inr inPhase) firstNamed spells

/-- A batch migrates the rows it takes. -/
theorem backfilled_inPhase (inPhase : names.InPhase flags) (write : flags.write ≠ .legacy)
    (needs : names.NeedsBackfill) : names.backfilled.InPhase flags := by
  rcases inPhase with ⟨-, notMigrated⟩ | ⟨-, first, last, hasFirst, hasLast, -⟩
  · obtain ⟨fullName, firstName, lastName⟩ := names
    obtain ⟨rfl, rfl, named⟩ := notMigrated
    obtain ⟨full, rfl, -⟩ := exists_of_spelled named
    refine .inr ⟨write, _, _, rfl, rfl, wordsOf_head_ne_nil named, fun _ => ?_⟩
    simp only [namesFor, Option.getD_none, if_pos]
    exact wordsOf_head_append full
  · rcases needs with noFirst | noLast
    · rw [hasFirst] at noFirst
      cases noFirst
    · rw [hasLast] at noLast
      cases noLast

end Phases

/-! ## The rollout -/

/-- The flips of the rollout: the read source moves when nothing is left to backfill. -/
def nextFlags (users : Users) (flags : Flags) : Option Flags :=
  if flags = ⟨.dual, .legacy⟩ → ∀ row ∈ users.rows, ¬ row.toNames.NeedsBackfill then flags.next
  else none

structure Rollout where
  flags : Flags
  users : Users
deriving DecidableEq

inductive RolloutAction
  | write (a : UserAction)
  | flip
deriving DecidableEq

/-- The call has read these flags. -/
def UserAction.Reads (flags : Flags) : UserAction → Prop
  | .create flags' _ _ | .update flags' _ _ _ => flags' = flags
  | .backfill _ _ _ => True

instance (flags : Flags) : (a : UserAction) → Decidable (a.Reads flags)
  | .create _ _ _ | .update _ _ _ _ => inferInstanceAs (Decidable (_ = _))
  | .backfill _ _ _ => .isTrue trivial

/-- The bodies of the action have one name shape, and batches run from dual write on. -/
def RolloutAction.Allowed (s : Rollout) : RolloutAction → Prop
  | .write (.create _ _ userIn) => userIn.toNames.OneShape
  | .write (.update _ _ _ userIn) => userIn.toNames.OneShape
  | .write (.backfill _ _ _) => s.flags.write ≠ .legacy
  | .flip => True

instance (s : Rollout) : (a : RolloutAction) → Decidable (a.Allowed s)
  | .write (.create _ _ userIn) => inferInstanceAs (Decidable userIn.toNames.OneShape)
  | .write (.update _ _ _ userIn) => inferInstanceAs (Decidable userIn.toNames.OneShape)
  | .write (.backfill _ _ _) => inferInstanceAs (Decidable (_ ≠ _))
  | .flip => .isTrue trivial

section Rollouts

variable (hashPassword : String → String → String)

def rolloutStep (s : Rollout) : RolloutAction → Option Rollout
  | .write a =>
    if a.Reads s.flags then (userStep hashPassword s.users a).map fun users => { s with users }
    else none
  | .flip => (nextFlags s.users s.flags).map fun flags => { s with flags }

/-- Requests and what a call of `user_service` is given for them. -/
inductive UserRequest
  | create (draw : UserDraw) (choice : ℕ) (seen : Users) (userIn : UserCreate)
  | update (now : ℤ) (seen : Users) (userId : ℕ) (userIn : UserUpdate)
  | get (userId : ℕ)
  | list (page pageSize : ℕ)

/-- The users in the answer to a request, none in an error. -/
def UserRequest.responses (s : Rollout) : UserRequest → List UserResponse
  | .create draw choice seen userIn =>
    ((createUser hashPassword s.flags draw choice seen s.users userIn).toOption.map Prod.fst).toList
  | .update now seen userId userIn =>
    ((updateUser s.flags now seen s.users userId userIn).toOption.map Prod.fst).toList
  | .get userId => (getUserById s.users s.flags.read userId).toOption.toList
  | .list page pageSize => (getUsersPaginated s.users s.flags.read page pageSize).1

def UserRequest.OneShape : UserRequest → Prop
  | .create _ _ _ userIn => userIn.toNames.OneShape
  | .update _ _ _ userIn => userIn.toNames.OneShape
  | .get _ | .list _ _ => True

/-- The invariant: the flags are documented and the rows are those of the phase. -/
structure Rollout.InPhase (s : Rollout) : Prop where
  documented : s.flags.Documented
  rows : ∀ row ∈ s.users.rows, row.toNames.InPhase s.flags

variable {hashPassword} {s s' : Rollout} {flags : Flags} {users users' : Users}

theorem rolloutStep_write {a : UserAction} (reads : a.Reads flags)
    (moved : userStep hashPassword users a = some users') :
    rolloutStep hashPassword ⟨flags, users⟩ (.write a) = some ⟨flags, users'⟩ := by
  simp only [rolloutStep, if_pos reads, moved, Option.map_some]

theorem created_inPhase (documented : flags.Documented) {userIn : UserCreate}
    (oneShape : userIn.toNames.OneShape) (draw : UserDraw) :
    (userIn.row hashPassword flags draw).toNames.InPhase flags := by
  obtain ⟨full, first, last, resolved, firstNamed, spells, -⟩ :=
    derived_spells (spelled_oneShape oneShape) userIn.named
  rw [UserCreate.row, resolveNames_eq, resolved]
  exact overwritten_inPhase documented (.inl rfl) firstNamed spells

theorem putRow_inPhase (documented : flags.Documented) {row : UserRow} {userIn : UserUpdate}
    (inPhase : row.toNames.InPhase flags) (oneShape : userIn.toNames.OneShape) (now : ℤ) :
    (row.updated userIn flags now).toNames.InPhase flags := by
  rw [UserRow.updated_toNames]
  exact updated_inPhase documented inPhase oneShape userIn.fullName_not_blank
    userIn.firstName_not_blank

theorem rollout_write (inPhase : s.InPhase) {a : UserAction}
    (allowed : (RolloutAction.write a).Allowed s) (reads : a.Reads s.flags)
    (moved : userStep hashPassword s.users a = some users') :
    ∀ row ∈ users'.rows, row.toNames.InPhase s.flags := by
  intro row mem
  rcases (userStep_rows moved).mp mem with written | ⟨old, -⟩
  · cases a with
    | create flags draw userIn =>
      obtain rfl : flags = s.flags := reads
      rw [List.mem_singleton.mp written]
      exact created_inPhase inPhase.documented allowed draw
    | update flags now userId userIn =>
      obtain rfl : flags = s.flags := reads
      obtain ⟨user, found, rfl⟩ := List.mem_map.mp written
      have mem := (Users.find_eq_some_iff.mp (Option.mem_toList.mp found)).1
      exact putRow_inPhase inPhase.documented (inPhase.rows user mem) allowed now
    | backfill lastId batchSize locked =>
      obtain ⟨user, taken, rfl⟩ := List.mem_map.mp written
      obtain ⟨mem, needs⟩ := Users.mem_batch taken
      exact backfilled_inPhase (inPhase.rows user mem) allowed needs
  · exact inPhase.rows row old

/-- The rows of a phase are rows of the next one. -/
theorem rollout_flip (inPhase : s.InPhase) (flipped : nextFlags s.users s.flags = some flags) :
    Rollout.InPhase ⟨flags, s.users⟩ := by
  obtain ⟨⟨write, read⟩, users⟩ := s
  obtain ⟨-, rows⟩ := inPhase
  obtain ⟨complete, moved⟩ := Option.ite_none_right_eq_some.mp flipped
  refine ⟨Flags.next_documented moved, fun row mem => ?_⟩
  cases write with
  | legacy =>
    cases read with
    | legacy =>
      cases moved
      rcases rows row mem with unmigrated | ⟨notLegacy, -⟩
      · exact .inl unmigrated
      · exact absurd rfl notLegacy
    | new => cases moved
  | dual =>
    cases read with
    | legacy =>
      cases moved
      rcases rows row mem with ⟨-, noFirst, -⟩ | migrated
      · exact absurd (.inl noFirst) (complete rfl row mem)
      · exact .inr migrated
    | new =>
      cases moved
      rcases rows row mem with ⟨readLegacy, -⟩ | ⟨-, first, last, hasFirst, hasLast, named, -⟩
      · cases readLegacy
      · exact .inr ⟨by simp, first, last, hasFirst, hasLast, named, fun dual => by cases dual⟩
  | new => cases moved

theorem rollout_step (inPhase : s.InPhase) {a : RolloutAction} (allowed : a.Allowed s)
    (moved : rolloutStep hashPassword s a = some s') : s'.InPhase := by
  cases a with
  | write a =>
    obtain ⟨reads, moved⟩ := Option.ite_none_right_eq_some.mp moved
    obtain ⟨users, stepped, rfl⟩ := Option.map_eq_some_iff.mp moved
    have rows := rollout_write inPhase allowed reads stepped
    exact ⟨inPhase.documented, rows⟩
  | flip =>
    obtain ⟨flags, flipped, rfl⟩ := Option.map_eq_some_iff.mp moved
    exact rollout_flip inPhase flipped

/-- A response in a state of the invariant is built from a row of the phase. -/
theorem responses_sound (inPhase : s.InPhase) {request : UserRequest} (oneShape : request.OneShape)
    {response : UserResponse} (mem : response ∈ request.responses hashPassword s) :
    response.toNames.Sound := by
  cases request with
  | create draw choice seen userIn =>
    obtain ⟨⟨response', after⟩, created, rfl⟩ := toOption_map_eq_some (Option.mem_toList.mp mem)
    obtain ⟨-, rfl⟩ := createUser_ok created
    exact shown_sound inPhase.documented (created_inPhase inPhase.documented oneShape draw)
  | update now seen userId userIn =>
    obtain ⟨⟨response', after⟩, updated, rfl⟩ := toOption_map_eq_some (Option.mem_toList.mp mem)
    obtain ⟨user, found, -, rfl⟩ := updateUser_ok updated
    have inTable := (Users.find_eq_some_iff.mp found).1
    exact shown_sound inPhase.documented
      (putRow_inPhase inPhase.documented (inPhase.rows user inTable) oneShape now)
  | get userId =>
    rw [UserRequest.responses, getUserById] at mem
    cases found : s.users.find userId with
    | none =>
      rw [found] at mem
      cases mem
    | some user =>
      rw [found] at mem
      rw [List.mem_singleton.mp mem]
      exact shown_sound inPhase.documented (inPhase.rows user (Users.find_eq_some_iff.mp found).1)
  | list page pageSize =>
    obtain ⟨user, onPage, rfl⟩ := List.mem_map.mp mem
    have inTable := (List.mem_insertionSort _).mp
      (List.mem_of_mem_drop (List.mem_of_mem_take onPage))
    exact shown_sound inPhase.documented (inPhase.rows user inTable)

end Rollouts

/-- **Every response is name-consistent through the whole rollout.** -/
theorem rollout_responses_sound {hashPassword : String → String → String} {start s : Rollout}
    (legacy : start.flags = ⟨.legacy, .legacy⟩)
    (rows : ∀ row ∈ start.users.rows, row.toNames.NotMigrated)
    (reached : Reachable (rolloutStep hashPassword) (fun s a => a.Allowed s) start s)
    {request : UserRequest} (oneShape : request.OneShape) :
    ∀ response ∈ request.responses hashPassword s, response.toNames.Sound := by
  have inPhase : s.InPhase := by
    refine reached.invariant ⟨?_, ?_⟩ fun s a s' inPhase allowed moved =>
      rollout_step inPhase allowed moved
    · rw [legacy]
      simp [Flags.Documented]
    · intro row mem
      rw [legacy]
      exact .inl ⟨rfl, rows row mem⟩
  intro response mem
  exact responses_sound inPhase oneShape mem

/-- One account goes through the whole rollout. -/
theorem rollout_of_one_account :
    ∃ s, run (rolloutStep Sample.hashPassword) ⟨⟨.legacy, .legacy⟩, Sample.oneAccount⟩
      [.flip, .write (.backfill 0 50 []), .flip, .flip] = some s ∧
    ∀ response ∈ (UserRequest.update 1 s.users 1 Sample.newLastName).responses
      Sample.hashPassword s, response.toNames.Sound := by
  obtain ⟨s, checked⟩ := Option.isSome_iff_exists.mp (show (checkedRun
    (rolloutStep Sample.hashPassword) (fun s a => a.Allowed s)
      ⟨⟨.legacy, .legacy⟩, Sample.oneAccount⟩
    [.flip, .write (.backfill 0 50 []), .flip, .flip]).isSome = true by decide +kernel)
  refine ⟨s, run_of_checkedRun checked, ?_⟩
  apply rollout_responses_sound rfl ?_ (reachable_of_checkedRun checked)
  · exact .inl rfl
  · decide +kernel

/-- A batch before dual write, and a PUT of a full name: the response has the parts of the old
name. -/
theorem early_batch_unsound :
    (∀ row ∈ Sample.oneAccount.rows, row.toNames.NotMigrated) ∧
    rolloutStep Sample.hashPassword ⟨⟨.legacy, .legacy⟩, Sample.oneAccount⟩
      (.write (.backfill 0 50 [])) = some ⟨⟨.legacy, .legacy⟩, Sample.backfilledAccount⟩ ∧
    (UserRequest.update 1 Sample.backfilledAccount 1 Sample.rename).OneShape ∧
    ∃ response ∈ (UserRequest.update 1 Sample.backfilledAccount 1 Sample.rename).responses
      Sample.hashPassword ⟨⟨.legacy, .legacy⟩, Sample.backfilledAccount⟩,
      ¬ response.toNames.Sound := by
  refine ⟨by decide +kernel, ?_, .inr ⟨rfl, rfl⟩, by decide +kernel⟩
  exact rolloutStep_write trivial Sample.backfilledAccount_step

end TicketBooking
