import TicketBooking.UserService

/-!
# Registrations, PUTs and the backfill

`userStep` is the system of everything that writes to the table `users`; a refused call changes
nothing and is not a step.  `userStep_rows` says once what a step does to the rows: the rows of
`UserAction.written` come in, each in the place of the row with its id, and no other row changes.
-/

namespace TicketBooking

open ListUpdate StepSystem

/-! ## The table -/

section Table

variable {users users' : Users} {row r : UserRow}

theorem Users.ids_nodup (users : Users) : (users.rows.map UserRow.id).Nodup :=
  List.pairwise_map.mpr (users.apart.imp fun apart => apart.1)

theorem Users.eq_of_id_eq (memR : r ∈ users.rows) (memRow : row ∈ users.rows)
    (same : r.id = row.id) : r = row :=
  eq_of_key_eq users.ids_nodup memR memRow same

theorem Users.find_eq_some_iff {userId : ℕ} :
    users.find userId = some row ↔ row ∈ users.rows ∧ row.id = userId := by
  constructor
  · intro found
    exact ⟨List.mem_of_find?_eq_some found, by simpa using List.find?_some found⟩
  · intro ⟨mem, same⟩
    rw [Users.find, ← same]
    exact find?_key_of_mem users.ids_nodup mem

theorem Users.insert_ok (inserted : users.insert row = .ok users') :
    row.FitsColumns ∧ (∀ other ∈ users.rows, other.Apart row) ∧
    users'.rows = users.rows ++ [row] := by
  rw [insert] at inserted
  split at inserted
  case isFalse => cases inserted
  case isTrue fits =>
    split at inserted
    case isFalse => cases inserted
    case isTrue free =>
      cases inserted
      exact ⟨fits, free, rfl⟩

theorem Users.update_ok (updated : users.update row = .ok users') :
    (∀ other ∈ users.rows, other.id ≠ row.id → other.Apart row) ∧
    users'.rows = replaceRow row users.rows := by
  rw [update] at updated
  split at updated
  case isFalse => cases updated
  case isTrue fits =>
    split at updated
    case isFalse => cases updated
    case isTrue free =>
      cases updated
      exact ⟨free, rfl⟩

theorem Users.rename_ok {rename : UserRow → Names} (renamed : users.rename rename = .ok users') :
    users'.rows = users.rows.map fun row => { row with toNames := rename row } := by
  rw [Users.rename] at renamed
  split at renamed
  case isTrue => cases renamed; rfl
  case isFalse => cases renamed

theorem mem_replaceRow {rows : List UserRow} {old : UserRow} (mem : old ∈ rows)
    (same : old.id = row.id) :
    r ∈ replaceRow row rows ↔ r = row ∨ r ∈ rows ∧ r.id ≠ row.id := by
  constructor
  · intro inRows
    obtain ⟨r', memR', rfl⟩ := List.mem_map.mp inRows
    by_cases hit : r'.id = row.id
    · rw [if_pos hit]
      exact .inl rfl
    · rw [if_neg hit]
      exact .inr ⟨memR', hit⟩
  · intro cases
    rcases cases with rfl | ⟨memR, other⟩
    · exact List.mem_map.mpr ⟨old, mem, if_pos same⟩
    · exact List.mem_map.mpr ⟨r, memR, if_neg other⟩

theorem anyOf_mem {choice : ℕ} {rows : List UserRow} (first : anyOf choice rows = some row) :
    row ∈ rows := List.mem_of_getElem? first

theorem anyOf_eq_none_iff {choice : ℕ} {rows : List UserRow} :
    anyOf choice rows = none ↔ rows = [] := by
  rw [anyOf, List.getElem?_eq_none_iff]
  constructor
  · intro outside
    by_contra nonempty
    have positive : 0 < rows.length := List.length_pos_iff.mpr nonempty
    have inside := Nat.mod_lt choice positive
    omega
  · intro empty
    rw [empty]
    exact Nat.zero_le _

/-- Every row of a list may come first. -/
theorem exists_anyOf {rows : List UserRow} (mem : row ∈ rows) :
    ∃ choice, anyOf choice rows = some row := by
  obtain ⟨i, inside, rfl⟩ := List.mem_iff_getElem.mp mem
  refine ⟨i, ?_⟩
  rw [anyOf, Nat.mod_eq_of_lt inside]
  exact List.getElem?_eq_getElem inside

end Table

/-! ## What a PUT reads -/

section Filled

variable {stored sent : Names} {includeLegacy : Bool}

theorem filled_of_first {first : String}
    (sends : ¬ (sent.firstName = none ∧ sent.lastName = none))
    (hasFirst : stored.firstName = some first) : stored.filled sent includeLegacy =
      (sent.firstName.or (some first), sent.lastName.or stored.lastName) := by
  rw [Names.filled, if_neg sends, hasFirst]

theorem filled_of_full {full : String}
    (sends : ¬ (sent.firstName = none ∧ sent.lastName = none)) (noFirst : stored.firstName = none)
    (hasFull : (if includeLegacy then stored.fullName.bind truthy else none) = some full) :
    stored.filled sent includeLegacy = (sent.firstName.or (some (splitFullName (some full)).1),
      sent.lastName.or (some (splitFullName (some full)).2)) := by
  rw [Names.filled, if_neg sends, noFirst, hasFull]

end Filled

/-! ## What a write stores and a response shows -/

section Columns

variable {names stored sent : Names} {flags : Flags}

/-- The columns that the mode writes. -/
def Names.overwritten (stored resolved : Names) : WriteMode → Names
  | .legacy => { stored with fullName := resolved.fullName }
  | .dual => resolved
  | .new => { resolved with fullName := stored.fullName }

/-- An INSERT writes over NULLs. -/
theorem resolveNames_eq (fullName firstName lastName : Option String) (mode : WriteMode) :
    resolveNames fullName firstName lastName mode = Names.overwritten ⟨none, none, none⟩
      (derived (clean fullName) (clean firstName) (clean lastName)) mode := by
  cases mode <;> rfl

theorem updated_eq (something : sent ≠ ⟨none, none, none⟩) : stored.updated sent flags =
    stored.overwritten (derived (clean sent.fullName)
      (clean (stored.filled sent flags.includeLegacy).1)
      (clean (stored.filled sent flags.includeLegacy).2)) flags.write := by
  rw [Names.updated, if_neg something]
  dsimp only
  cases flags.write <;> rfl

theorem exists_of_spelled {value : Option String} (named : spelled value ≠ []) :
    ∃ s, value = some s ∧ truthy s = some s := by
  cases value with
  | none => exact absurd rfl named
  | some s =>
    refine ⟨s, rfl, truthy_of_ne fun empty => named ?_⟩
    rw [empty]
    rfl

theorem spelled_truthy (s : String) : spelled (truthy s) = wordsOf s := by
  by_cases empty : s = ""
  · rw [empty]
    rfl
  · rw [truthy_of_ne empty, spelled_some]

theorem shown_new (names : Names) : names.shown .new =
    ⟨truthy (joinNames names.firstName names.lastName), names.firstName, names.lastName⟩ := rfl

theorem shown_legacy_fullName (names : Names) : (names.shown .legacy).fullName =
    (names.fullName.bind truthy).or (truthy (joinNames names.firstName names.lastName)) := by
  simp only [Names.shown]
  split <;> rfl

end Columns

/-! ## The flags of the rollout -/

/-- The pairs of flags of the rollout. -/
def Flags.Documented (flags : Flags) : Prop :=
  flags ∈ [⟨.legacy, .legacy⟩, ⟨.dual, .legacy⟩, ⟨.dual, .new⟩, ⟨.new, .new⟩]

/-- The order of the flips. -/
def Flags.next : Flags → Option Flags
  | ⟨.legacy, .legacy⟩ => some ⟨.dual, .legacy⟩
  | ⟨.dual, .legacy⟩ => some ⟨.dual, .new⟩
  | ⟨.dual, .new⟩ => some ⟨.new, .new⟩
  | _ => none

section Flags

variable {flags flags' : Flags}

theorem Flags.next_documented (moved : flags.next = some flags') : flags'.Documented := by
  obtain ⟨write, read⟩ := flags
  cases write <;> cases read <;> cases moved <;> simp [Flags.Documented]

theorem Flags.next_read (moved : flags.next = some flags') (read : flags.read = .new) :
    flags'.read = .new := by
  obtain ⟨write, read'⟩ := flags
  subst read
  cases write <;> cases moved
  rfl

theorem Flags.Documented.read_legacy (documented : flags.Documented)
    (write : flags.write = .legacy) : flags.read = .legacy := by
  obtain ⟨write', read⟩ := flags
  subst write
  cases read with
  | legacy => rfl
  | new => simp [Flags.Documented] at documented

theorem Flags.Documented.write_dual (documented : flags.Documented) (read : flags.read = .legacy)
    (write : flags.write ≠ .legacy) : flags.write = .dual := by
  obtain ⟨write', read'⟩ := flags
  subst read
  cases write' with
  | legacy => exact absurd rfl write
  | dual => rfl
  | new => simp [Flags.Documented] at documented

theorem Flags.Documented.read_new (documented : flags.Documented) (write : flags.write = .new) :
    flags.read = .new := by
  cases read : flags.read with
  | legacy =>
    have dual := documented.write_dual read (by rw [write]; decide)
    rw [write] at dual
    cases dual
  | new => rfl

end Flags

/-! ## Calls -/

section Calls

variable {hashPassword : String → String → String} {flags : Flags} {draw : UserDraw} {choice : ℕ}
  {seen users users' : Users} {userIn : UserCreate} {response : UserResponse}

theorem createUser_ok
    (created : createUser hashPassword flags draw choice seen users userIn =
      .ok (response, users')) :
    users.insert (userIn.row hashPassword flags draw) = .ok users' ∧
    response = buildUserResponse (userIn.row hashPassword flags draw) flags.read := by
  rw [createUser] at created
  split at created
  · cases created
  · dsimp only at created
    split at created
    · cases created
    · cases created
    · rename_i inserted
      cases created
      exact ⟨inserted, rfl⟩

/-- What the INSERT lets through passes the pre-check on the same table. -/
theorem createUser_of_insert (inserted : users.insert (userIn.row hashPassword flags draw) =
    .ok users') : createUser hashPassword flags draw choice users users userIn =
      .ok (buildUserResponse (userIn.row hashPassword flags draw) flags.read, users') := by
  have free := (Users.insert_ok inserted).2.1
  have nobody : users.rows.filter (fun row =>
      row.email = userIn.email ∨ row.username = userIn.username) = [] := by
    rw [List.filter_eq_nil_iff]
    intro other mem
    have apart : other.email ≠ userIn.email ∧ other.username ≠ userIn.username := (free other mem).2
    simpa using apart
  rw [createUser, anyOf_eq_none_iff.mpr nobody]
  dsimp only
  rw [inserted]

/-- The age of the snapshot that the pre-check sees makes no difference to a call that succeeds. -/
theorem createUser_seen
    (created : createUser hashPassword flags draw choice seen users userIn =
      .ok (response, users')) :
    createUser hashPassword flags draw 0 users users userIn = .ok (response, users') := by
  obtain ⟨inserted, rfl⟩ := createUser_ok created
  exact createUser_of_insert inserted

variable {now : ℤ} {userId : ℕ} {user : UserRow} {update : UserUpdate}

/-- The changed row, up to `updated_at`. -/
theorem UserRow.updated_eq (user : UserRow) (update : UserUpdate) (flags : Flags) (now : ℤ) :
    ∃ updatedAt, user.updated update flags now = { user with
      toNames := user.toNames.updated update.toNames flags
      email := update.email.getD user.email
      updatedAt := updatedAt } := by
  rw [UserRow.updated]
  split
  case isTrue same => exact ⟨user.updatedAt, same.symm⟩
  case isFalse => exact ⟨now, rfl⟩

@[simp] theorem UserRow.updated_id : (user.updated update flags now).id = user.id := by
  obtain ⟨at_, same⟩ := user.updated_eq update flags now
  rw [same]

@[simp] theorem UserRow.updated_email :
    (user.updated update flags now).email = update.email.getD user.email := by
  obtain ⟨at_, same⟩ := user.updated_eq update flags now
  rw [same]

@[simp] theorem UserRow.updated_hashedPassword :
    (user.updated update flags now).hashedPassword = user.hashedPassword := by
  obtain ⟨at_, same⟩ := user.updated_eq update flags now
  rw [same]

@[simp] theorem UserRow.updated_toNames :
    (user.updated update flags now).toNames = user.toNames.updated update.toNames flags := by
  obtain ⟨at_, same⟩ := user.updated_eq update flags now
  rw [same]

theorem updateUser_ok
    (updated : updateUser flags now seen users userId update = .ok (response, users')) :
    ∃ user, users.find userId = some user ∧
      users.update (user.updated update flags now) = .ok users' ∧
      response = buildUserResponse (user.updated update flags now) flags.read := by
  rw [updateUser] at updated
  split at updated
  · cases updated
  · rename_i user found
    dsimp only at updated
    split at updated
    · cases updated
    · split at updated
      · cases updated
      · cases updated
      · rename_i stored
        cases updated
        exact ⟨user, found, stored, rfl⟩

/-- What the UPDATE lets through passes the look for the e-mail on the same table. -/
theorem updateUser_of_update (found : users.find userId = some user)
    (stored : users.update (user.updated update flags now) = .ok users') :
    updateUser flags now users users userId update =
      .ok (buildUserResponse (user.updated update flags now) flags.read, users') := by
  have free := (Users.update_ok stored).1
  have isUser : user.id = userId := (Users.find_eq_some_iff.mp found).2
  have nobody : ¬ (update.email.getD user.email ≠ user.email ∧ ∃ other ∈ users.rows,
      other.email = update.email.getD user.email ∧ other.id ≠ userId) := by
    intro ⟨_, other, mem, taken, different⟩
    rw [UserRow.updated_id, isUser] at free
    apply (free other mem different).2.1
    rw [UserRow.updated_email]
    exact taken
  rw [updateUser, found]
  dsimp only
  rw [if_neg nobody, stored]

/-- The age of the snapshot makes no difference to a PUT that succeeds either. -/
theorem updateUser_seen
    (updated : updateUser flags now seen users userId update = .ok (response, users')) :
    updateUser flags now users users userId update = .ok (response, users') := by
  obtain ⟨user, found, stored, rfl⟩ := updateUser_ok updated
  exact updateUser_of_update found stored

end Calls

/-- The row once a batch has been over it. -/
def UserRow.backfilled (row : UserRow) : UserRow := { row with toNames := row.toNames.backfilled }

@[simp] theorem UserRow.backfilled_id (row : UserRow) : row.backfilled.id = row.id := rfl

/-! ## Steps -/

inductive UserAction
  | create (flags : Flags) (draw : UserDraw) (userIn : UserCreate)
  | update (flags : Flags) (now : ℤ) (userId : ℕ) (userIn : UserUpdate)
  | backfill (lastId batchSize : ℕ) (locked : List ℕ)
deriving DecidableEq

section Steps

variable (hashPassword : String → String → String)

/-- The table after an action, `none` where it is refused. -/
def userStep (users : Users) : UserAction → Option Users
  | .create flags draw userIn =>
    (createUser hashPassword flags draw 0 users users userIn).toOption.map Prod.snd
  | .update flags now userId userIn =>
    (updateUser flags now users users userId userIn).toOption.map Prod.snd
  | .backfill lastId batchSize locked =>
    (runBatch users ⟨0, 0⟩ lastId batchSize locked).toOption.map fun (_, users, _) => users

/-- The rows that the action writes, as they are after it. -/
def UserAction.written (users : Users) : UserAction → List UserRow
  | .create flags draw userIn => [userIn.row hashPassword flags draw]
  | .update flags now userId userIn =>
    (users.find userId).toList.map fun user => user.updated userIn flags now
  | .backfill lastId batchSize locked =>
    (users.batch lastId batchSize locked).map fun user =>
      { user with toNames := user.toNames.backfilled }

/-- The calls of the action have read this write mode. -/
def UserAction.InMode (mode : WriteMode) : UserAction → Prop
  | .create flags _ _ | .update flags _ _ _ => flags.write = mode
  | .backfill _ _ _ => True

instance (mode : WriteMode) (a : UserAction) : Decidable (a.InMode mode) :=
  match a with
  | .create _ _ _ | .update _ _ _ _ => inferInstanceAs (Decidable (_ = _))
  | .backfill _ _ _ => .isTrue trivial

/-- The system while the write mode is the same everywhere. -/
def modeStep (mode : WriteMode) (users : Users) (a : UserAction) : Option Users :=
  if a.InMode mode then userStep hashPassword users a else none

variable {hashPassword} {users users' : Users} {a : UserAction} {r : UserRow}

theorem modeStep_eq_some_iff {mode : WriteMode} :
    modeStep hashPassword mode users a = some users' ↔
      a.InMode mode ∧ userStep hashPassword users a = some users' :=
  Option.ite_none_right_eq_some

theorem toOption_map_eq_some {ε α β : Type} {x : Except ε α} {f : α → β} {b : β}
    (result : x.toOption.map f = some b) : ∃ a, x = .ok a ∧ f a = b := by
  obtain ⟨a, ok, same⟩ := Option.map_eq_some_iff.mp result
  cases x with
  | error => cases ok
  | ok a' => cases ok; exact ⟨a, rfl, same⟩

/-- A registration that succeeds is a step, whatever table its pre-check has seen. -/
theorem userStep_create {flags : Flags} {draw : UserDraw} {choice : ℕ} {seen : Users}
    {userIn : UserCreate} {response : UserResponse}
    (created : createUser hashPassword flags draw choice seen users userIn =
      .ok (response, users')) :
    userStep hashPassword users (.create flags draw userIn) = some users' := by
  rw [userStep, createUser_seen created]
  rfl

/-- A PUT that succeeds is a step, whatever table its look for the e-mail has seen. -/
theorem userStep_update {flags : Flags} {now : ℤ} {userId : ℕ} {seen : Users}
    {userIn : UserUpdate} {response : UserResponse}
    (updated : updateUser flags now seen users userId userIn = .ok (response, users')) :
    userStep hashPassword users (.update flags now userId userIn) = some users' := by
  rw [userStep, updateUser_seen updated]
  rfl

theorem Users.mem_batch {lastId batchSize : ℕ} {locked : List ℕ}
    (taken : r ∈ users.batch lastId batchSize locked) :
    r ∈ users.rows ∧ r.toNames.NeedsBackfill := by
  have inFilter := (List.mem_insertionSort _).mp (List.mem_of_mem_take taken)
  simp only [List.mem_filter, decide_eq_true_eq] at inFilter
  exact ⟨inFilter.1, inFilter.2.2.1⟩

theorem runBatch_ok {checkpoint checkpoint' : Checkpoint} {lastId batchSize : ℕ} {locked : List ℕ}
    {report : BatchReport}
    (ran : runBatch users checkpoint lastId batchSize locked = .ok (report, users', checkpoint')) :
    users'.rows = users.rows.map fun row => { row with
      toNames := if row ∈ users.batch lastId batchSize locked then row.toNames.backfilled
        else row.toNames } := by
  rw [runBatch] at ran
  split at ran
  · rename_i nothing
    cases ran
    rw [List.getLast?_eq_none_iff.mp nothing]
    simp
  · obtain ⟨users'', renamed, same⟩ := Fallible.map_ok_iff.mp ran
    cases same
    exact Users.rename_ok renamed

/-- **What a step does to the table.** -/
theorem userStep_rows (moved : userStep hashPassword users a = some users') :
    r ∈ users'.rows ↔ r ∈ a.written hashPassword users ∨
      r ∈ users.rows ∧ ∀ w ∈ a.written hashPassword users, r.id ≠ w.id := by
  cases a with
  | create flags draw userIn =>
    obtain ⟨⟨response, after⟩, created, rfl⟩ := toOption_map_eq_some moved
    obtain ⟨-, free, rows⟩ := Users.insert_ok (createUser_ok created).1
    rw [rows, List.mem_append, UserAction.written, List.mem_singleton]
    constructor
    · intro cases
      rcases cases with old | new
      · refine .inr ⟨old, fun w mem => ?_⟩
        rw [List.mem_singleton.mp mem]
        exact (free r old).1
      · exact .inl new
    · intro cases
      rcases cases with new | ⟨old, -⟩
      · exact .inr new
      · exact .inl old
  | update flags now userId userIn =>
    obtain ⟨⟨response, after⟩, updated, rfl⟩ := toOption_map_eq_some moved
    obtain ⟨user, found, stored, -⟩ := updateUser_ok updated
    have mem := (Users.find_eq_some_iff.mp found).1
    rw [(Users.update_ok stored).2, mem_replaceRow mem UserRow.updated_id.symm, UserAction.written,
      found]
    simp
  | backfill lastId batchSize locked =>
    obtain ⟨⟨report, after, checkpoint⟩, ran, rfl⟩ := toOption_map_eq_some moved
    rw [runBatch_ok ran, UserAction.written]
    constructor
    · intro inMap
      obtain ⟨row, mem, rfl⟩ := List.mem_map.mp inMap
      by_cases taken : row ∈ users.batch lastId batchSize locked
      · rw [if_pos taken]
        exact .inl (List.mem_map.mpr ⟨row, taken, rfl⟩)
      · rw [if_neg taken]
        refine .inr ⟨mem, fun w written same => taken ?_⟩
        obtain ⟨user, userTaken, rfl⟩ := List.mem_map.mp written
        rw [users.eq_of_id_eq mem (Users.mem_batch userTaken).1 same]
        exact userTaken
    · intro cases
      rcases cases with written | ⟨old, others⟩
      · obtain ⟨user, taken, rfl⟩ := List.mem_map.mp written
        exact List.mem_map.mpr ⟨user, (Users.mem_batch taken).1, by rw [if_pos taken]⟩
      · have kept : r ∉ users.batch lastId batchSize locked := fun taken =>
          others _ (List.mem_map.mpr ⟨r, taken, rfl⟩) rfl
        exact List.mem_map.mpr ⟨r, old, by rw [if_neg kept]⟩

end Steps

/-! ## A small example -/

namespace Sample

/-- Ann signs up; the body has the legacy shape. -/
def annSignsUp : UserCreate where
  fullName := some "Ann Lee"
  firstName := none
  lastName := none
  email := "ann@x.com"
  username := "ann"
  password := "secret1"
  names_length := by decide +kernel
  username_length := by decide +kernel
  username_pattern := by decide +kernel
  password_length := by decide +kernel
  name_presence := by decide +kernel

/-- Another Ann has the same e-mail but for its case. -/
def otherAnnSignsUp : UserCreate where
  fullName := some "Ann Roe"
  firstName := none
  lastName := none
  email := "Ann@x.com"
  username := "ann2"
  password := "secret2"
  names_length := by decide +kernel
  username_length := by decide +kernel
  username_pattern := by decide +kernel
  password_length := by decide +kernel
  name_presence := by decide +kernel

/-- A body with both shapes, which spell different names. -/
def mixedSignsUp : UserCreate where
  fullName := some "Ann Lee"
  firstName := some "Bob"
  lastName := none
  email := "bob@x.com"
  username := "bob"
  password := "secret1"
  names_length := by decide +kernel
  username_length := by decide +kernel
  username_pattern := by decide +kernel
  password_length := by decide +kernel
  name_presence := by decide +kernel

/-- One word of more than a hundred characters. -/
def longWordSignsUp : UserCreate where
  fullName := some (String.ofList (List.replicate 101 'a'))
  firstName := none
  lastName := none
  email := "a@x.com"
  username := "aaa"
  password := "secret1"
  names_length := by decide +kernel
  username_length := by decide +kernel
  username_pattern := by decide +kernel
  password_length := by decide +kernel
  name_presence := by decide +kernel

/-- A PUT of the last name. -/
def newLastName : UserUpdate where
  fullName := none
  firstName := none
  lastName := some " Roe "
  email := none
  names_length := by decide +kernel
  some_field := by decide +kernel
  fullName_not_blank := by decide +kernel
  firstName_not_blank := by decide +kernel

/-- The name has two spaces in it. -/
def spacedSignsUp : UserCreate where
  fullName := some "Ann  Lee"
  firstName := none
  lastName := none
  email := "ann@x.com"
  username := "ann"
  password := "secret1"
  names_length := by decide +kernel
  username_length := by decide +kernel
  username_pattern := by decide +kernel
  password_length := by decide +kernel
  name_presence := by decide +kernel

/-- A PUT that carries one part and a full name as well. -/
def mixedPut : UserUpdate where
  fullName := some "Sam Roe"
  firstName := some "Bob"
  lastName := none
  email := none
  names_length := by decide +kernel
  some_field := by decide +kernel
  fullName_not_blank := by decide +kernel
  firstName_not_blank := by decide +kernel

/-- A PUT of a first name of two words. -/
def newFirstName : UserUpdate where
  fullName := none
  firstName := some " Ann Marie"
  lastName := none
  email := none
  names_length := by decide +kernel
  some_field := by decide +kernel
  fullName_not_blank := by decide +kernel
  firstName_not_blank := by decide +kernel

/-- Another one. -/
def renameAgain : UserUpdate where
  fullName := some "Cy Poe"
  firstName := none
  lastName := none
  email := none
  names_length := by decide +kernel
  some_field := by decide +kernel
  fullName_not_blank := by decide +kernel
  firstName_not_blank := by decide +kernel

/-- A PUT of another full name. -/
def rename : UserUpdate where
  fullName := some "Bob Ray"
  firstName := none
  lastName := none
  email := none
  names_length := by decide +kernel
  some_field := by decide +kernel
  fullName_not_blank := by decide +kernel
  firstName_not_blank := by decide +kernel

def annLogsIn : UserLogin := ⟨"ann@x.com", "secret1", by decide +kernel⟩

/-- The hash and the check of a scheme without salt. -/
def hashPassword (_ password : String) : String := "hashed:" ++ password

def verifyPassword (password hashed : String) : Option Bool := some (hashed = "hashed:" ++ password)

theorem verifyPassword_hashPassword (salt p q : String) :
    verifyPassword p (hashPassword salt q) = some (decide (p = q)) := by
  rw [verifyPassword, hashPassword, Option.some.injEq, decide_eq_decide]
  constructor
  · intro same
    have chars := congrArg String.toList same
    rw [String.toList_append, String.toList_append, List.append_right_inj] at chars
    exact (String.toList_inj.mp chars).symm
  · intro same
    rw [same]

def lower (s : String) : String := String.ofList (s.toList.map Char.toLower)

/-- What Ann's registration does. -/
def annAction : UserAction := .create ⟨.legacy, .legacy⟩ ⟨1, "salt", 0⟩ annSignsUp

def otherAnnAction : UserAction := .create ⟨.legacy, .legacy⟩ ⟨2, "salt", 1⟩ otherAnnSignsUp

/-- Bob signs up after many ids were drawn for nothing. -/
def bobAction : UserAction := .create ⟨.legacy, .legacy⟩ ⟨2500, "salt", 1⟩ mixedSignsUp

def annRow : UserRow := annSignsUp.row hashPassword ⟨.legacy, .legacy⟩ ⟨1, "salt", 0⟩

def mixedAction : UserAction := .create ⟨.dual, .legacy⟩ ⟨1, "salt", 0⟩ mixedSignsUp

def longWordAction : UserAction := .create ⟨.legacy, .legacy⟩ ⟨1, "salt", 0⟩ longWordSignsUp

/-- The table with her account. -/
def oneAccount : Users :=
  (run (userStep hashPassword) Users.empty [annAction]).get (by decide +kernel)

theorem oneAccount_run :
    run (userStep hashPassword) Users.empty [annAction] = some oneAccount :=
  (Option.some_get _).symm

def longWordAccount : Users :=
  (run (userStep hashPassword) Users.empty [longWordAction]).get (by decide +kernel)

theorem longWordAccount_run :
    run (userStep hashPassword) Users.empty [longWordAction] = some longWordAccount :=
  (Option.some_get _).symm

def twoAccounts : Users :=
  (run (userStep hashPassword) Users.empty [annAction, otherAnnAction]).get (by decide +kernel)

theorem twoAccounts_run :
    run (userStep hashPassword) Users.empty [annAction, otherAnnAction] = some twoAccounts :=
  (Option.some_get _).symm

/-- Two accounts that are far apart. -/
def distantAccounts : Users :=
  (run (userStep hashPassword) Users.empty [annAction, bobAction]).get (by decide +kernel)

theorem distantAccounts_run :
    run (userStep hashPassword) Users.empty [annAction, bobAction] = some distantAccounts :=
  (Option.some_get _).symm

/-- The table after a batch. -/
def backfilledAccount : Users :=
  (run (userStep hashPassword) oneAccount [.backfill 0 50 []]).get (by decide +kernel)

theorem backfilledAccount_step :
    userStep hashPassword oneAccount (.backfill 0 50 []) = some backfilledAccount := by
  have ran : run (userStep hashPassword) oneAccount [.backfill 0 50 []] = some backfilledAccount :=
    (Option.some_get _).symm
  obtain ⟨users, moved, same⟩ := Option.bind_eq_some_iff.mp ran
  cases same
  exact moved

/-- The two accounts that are far apart, after a batch. -/
def distantBackfilled : Users :=
  (run (userStep hashPassword) Users.empty [annAction, bobAction, .backfill 0 50 []]).get
    (by decide +kernel)

theorem distantBackfilled_run :
    run (userStep hashPassword) Users.empty [annAction, bobAction, .backfill 0 50 []] =
      some distantBackfilled :=
  (Option.some_get _).symm

def mixedAccount : Users :=
  (run (modeStep hashPassword .dual) Users.empty [mixedAction]).get (by decide +kernel)

theorem mixedAccount_run :
    run (modeStep hashPassword .dual) Users.empty [mixedAction] = some mixedAccount :=
  (Option.some_get _).symm

/-- The table with one account that dual write stored with two spaces in its full name. -/
def spacedAccount : Users :=
  (run (modeStep hashPassword .dual) Users.empty
    [.create ⟨.dual, .new⟩ ⟨1, "salt", 0⟩ spacedSignsUp]).get (by decide +kernel)

def spacedRow : UserRow := spacedSignsUp.row hashPassword ⟨.dual, .new⟩ ⟨1, "salt", 0⟩

def putTwice : Users :=
  (run (userStep hashPassword) spacedAccount [.update ⟨.dual, .new⟩ 1 1 newLastName,
    .update ⟨.dual, .new⟩ 2 1 newFirstName]).get (by decide +kernel)

theorem putTwice_run : run (userStep hashPassword) spacedAccount
    [.update ⟨.dual, .new⟩ 1 1 newLastName, .update ⟨.dual, .new⟩ 2 1 newFirstName] =
      some putTwice :=
  (Option.some_get _).symm

def putMixed : Users :=
  (run (userStep hashPassword) spacedAccount [.update ⟨.dual, .new⟩ 1 1 mixedPut]).get
    (by decide +kernel)

theorem putMixed_run : run (userStep hashPassword) spacedAccount
    [.update ⟨.dual, .new⟩ 1 1 mixedPut] = some putMixed :=
  (Option.some_get _).symm

end Sample

end TicketBooking
