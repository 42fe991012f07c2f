import TicketBooking.UserNames
import TicketBooking.DbErrors
import TicketBooking.Lib.Fallible
import TicketBooking.Lib.ListUpdate
import TicketBooking.Lib.StepSystem
import Mathlib.Data.List.Sort
import Mathlib.Data.List.Nodup

/-!
# Users

`app/services/user_service.py`, the bodies of `app/schemas/user.py` and `run_batch` of
`scripts/backfill.py`, over the table `users`.

* `Users` carries its primary key, its two unique columns and the widths of its columns.
* A call that stores something is one step, at its COMMIT: a PUT holds the lock of its row from its
  first SELECT on, and of the other rows it only looks at the e-mails.  `createUser_seen` and
  `updateUser_seen` say that the older snapshot `seen` of these checks does not matter, so a call
  that succeeds with any of them is a step (`userStep_create`, `userStep_update`).
* `userStep` is the system of registrations, PUTs and backfill batches; a refused call changes
  nothing and is not a step.
-/

namespace TicketBooking

open StepSystem

/-! ## Bodies -/

/-- `max_length` of the name fields. -/
def Names.WithinLength (names : Names) : Prop :=
  (names.fullName.getD "").length ≤ 150 ∧ (names.firstName.getD "").length ≤ 100 ∧
  (names.lastName.getD "").length ≤ 100

instance (names : Names) : Decidable names.WithinLength := inferInstanceAs (Decidable (_ ∧ _ ∧ _))

/-- `[a-zA-Z0-9_-]` -/
def isUsernameChar (c : Char) : Bool := c.isAlphanum || c == '_' || c == '-'

/-- Body of `POST /users`.  The role it may name is never read. -/
structure UserCreate extends Names where
  email : String
  username : String
  password : String
  names_length : toNames.WithinLength
  username_length : 3 ≤ username.length ∧ username.length ≤ 50
  username_pattern : username.toList.all isUsernameChar = true
  password_length : 6 ≤ password.length ∧ password.length ≤ 100
  name_presence : clean fullName ≠ none ∨ clean firstName ≠ none
deriving DecidableEq

/-- Body of `PUT /users/{id}`. -/
structure UserUpdate extends Names where
  email : Option String
  names_length : toNames.WithinLength
  some_field : ¬ (email = none ∧ fullName = none ∧ firstName = none ∧ lastName = none)
  fullName_not_blank : fullName ≠ none → clean fullName ≠ none
  firstName_not_blank : firstName ≠ none → clean firstName ≠ none
deriving DecidableEq

/-- Body of `POST /users/login`. -/
structure UserLogin where
  email : String
  password : String
  password_length : 1 ≤ password.length ∧ password.length ≤ 100
deriving DecidableEq

structure UserResponse extends Names where
  id : ℕ
  email : String
  username : String
  role : String
  createdAt : ℤ
  updatedAt : ℤ
deriving DecidableEq

/-- The answers that are not a user. -/
inductive UserError
  /-- 404 User with ID {user_id} was not found -/
  | notFound (userId : ℕ)
  /-- 409 A user with this {field} already exists -/
  | conflict (field : String)
  /-- 401 Incorrect email or password -/
  | unauthorized
  /-- A database exception that no handler of the service catches. -/
  | unhandled (kind : ExcKind)
deriving DecidableEq

/-! ## The table -/

/-- A row of `users`; after 0005 `fullName` is `none`. -/
structure UserRow extends Names where
  id : ℕ
  email : String
  username : String
  hashedPassword : String
  role : String
  createdAt : ℤ
  updatedAt : ℤ
deriving DecidableEq

def Names.FitsColumns (names : Names) : Prop :=
  FitsVarchar 255 (names.fullName.getD "") ∧ FitsVarchar 100 (names.firstName.getD "") ∧
  FitsVarchar 100 (names.lastName.getD "")

instance Names.decidableFitsColumns (names : Names) : Decidable names.FitsColumns :=
  inferInstanceAs (Decidable (_ ∧ _ ∧ _))

def UserRow.FitsColumns (row : UserRow) : Prop :=
  row.toNames.FitsColumns ∧ FitsVarchar 255 row.email ∧ FitsVarchar 100 row.username ∧
  FitsVarchar 255 row.hashedPassword

instance UserRow.decidableFitsColumns (row : UserRow) : Decidable row.FitsColumns :=
  inferInstanceAs (Decidable (_ ∧ _ ∧ _ ∧ _))

/-- The two rows may stand in one table. -/
def UserRow.Apart (a b : UserRow) : Prop :=
  a.id ≠ b.id ∧ a.email ≠ b.email ∧ a.username ≠ b.username

instance (a b : UserRow) : Decidable (a.Apart b) := inferInstanceAs (Decidable (_ ∧ _ ∧ _))

theorem UserRow.Apart.symm {a b : UserRow} (apart : a.Apart b) : b.Apart a :=
  ⟨apart.1.symm, apart.2.1.symm, apart.2.2.symm⟩

structure Users where
  rows : List UserRow
  apart : rows.Pairwise UserRow.Apart
  fit : ∀ row ∈ rows, row.FitsColumns
deriving DecidableEq

def Users.empty : Users := ⟨[], List.Pairwise.nil, by simp⟩

def Users.find (users : Users) (userId : ℕ) : Option UserRow :=
  users.rows.find? fun row => row.id = userId

/-- The row that a SELECT without ORDER BY yields first: any of them. -/
def anyOf (choice : ℕ) (rows : List UserRow) : Option UserRow := rows[choice % rows.length]?

/-- INSERT: the width of a value is checked before the unique indexes. -/
def Users.insert (users : Users) (row : UserRow) : Except ExcKind Users :=
  if fits : row.FitsColumns then
    if free : ∀ other ∈ users.rows, other.Apart row then
      .ok {
        rows := users.rows ++ [row]
        apart := List.pairwise_append.mpr ⟨users.apart, List.pairwise_singleton _ _,
          fun other mem _ same => List.mem_singleton.mp same ▸ free other mem⟩
        fit := fun r mem => (List.mem_append.mp mem).elim (users.fit r)
          fun same => List.mem_singleton.mp same ▸ fits }
    else .error .integrity
  else .error .data

/-- `rows` with one row replaced. -/
def replaceRow (row : UserRow) (rows : List UserRow) : List UserRow :=
  rows.map fun r => if r.id = row.id then row else r

theorem pairwise_replaceRow {row : UserRow} {rows : List UserRow}
    (apart : rows.Pairwise UserRow.Apart)
    (free : ∀ other ∈ rows, other.id ≠ row.id → other.Apart row) :
    (replaceRow row rows).Pairwise UserRow.Apart := by
  refine List.pairwise_map.mpr (apart.imp_of_mem fun {a b} memA memB both => ?_)
  by_cases isA : a.id = row.id
  · have notB : b.id ≠ row.id := fun isB => both.1 (isA.trans isB.symm)
    rw [if_pos isA, if_neg notB]
    exact (free b memB notB).symm
  · rw [if_neg isA]
    by_cases isB : b.id = row.id
    · rw [if_pos isB]
      exact free a memA isA
    · rw [if_neg isB]
      exact both

theorem forall_replaceRow {P : UserRow → Prop} {row : UserRow} {rows : List UserRow}
    (old : ∀ r ∈ rows, P r) (new : P row) : ∀ r ∈ replaceRow row rows, P r := by
  intro r mem
  obtain ⟨r', inRows, rfl⟩ := List.mem_map.mp mem
  split
  · exact new
  · exact old r' inRows

/-- UPDATE of one row by its primary key. -/
def Users.update (users : Users) (row : UserRow) : Except ExcKind Users :=
  if fits : row.FitsColumns then
    if free : ∀ other ∈ users.rows, other.id ≠ row.id → other.Apart row then
      .ok {
        rows := replaceRow row users.rows
        apart := pairwise_replaceRow users.apart free
        fit := forall_replaceRow users.fit fits }
    else .error .integrity
  else .error .data

/-- UPDATE of the name columns of some rows, in one transaction. -/
def Users.rename (users : Users) (rename : UserRow → Names) : Except ExcKind Users :=
  if fits : ∀ row ∈ users.rows, (rename row).FitsColumns then
    .ok {
      rows := users.rows.map fun row => { row with toNames := rename row }
      apart := List.pairwise_map.mpr users.apart
      fit := fun r mem => by
        obtain ⟨row, inRows, rfl⟩ := List.mem_map.mp mem
        exact ⟨fits row inRows, (users.fit row inRows).2⟩ }
  else .error .data

/-! ## Reading -/

/-- The name fields of `build_user_response`. -/
def Names.shown (names : Names) : ReadSource → Names
  | .new => ⟨truthy (joinNames names.firstName names.lastName), names.firstName, names.lastName⟩
  | .legacy =>
    let full := (names.fullName.bind truthy).or
      (truthy (joinNames names.firstName names.lastName))
    match names.firstName, full with
    | none, some fullName =>
      let (first, last) := splitFullName fullName
      ⟨full, some first, some last⟩
    | first, _ => ⟨full, first, names.lastName⟩

def buildUserResponse (user : UserRow) (readSource : ReadSource) : UserResponse where
  toNames := user.toNames.shown readSource
  id := user.id
  email := user.email
  username := user.username
  role := user.role
  createdAt := user.createdAt
  updatedAt := user.updatedAt

def getUserById (users : Users) (readSource : ReadSource) (userId : ℕ) :
    Except UserError UserResponse :=
  match users.find userId with
  | none => .error (.notFound userId)
  | some user => .ok (buildUserResponse user readSource)

/-- The page and the total; `page` counts from 1. -/
def getUsersPaginated (users : Users) (readSource : ReadSource) (page pageSize : ℕ) :
    List UserResponse × ℕ :=
  let offset := (page - 1) * pageSize
  let items := (((users.rows.insertionSort fun a b => a.id ≤ b.id).drop offset).take pageSize)
  (items.map fun user => buildUserResponse user readSource, users.rows.length)

/-! ## Writing -/

/-- The values of the two flags a call has read. -/
structure Flags where
  write : WriteMode
  read : ReadSource
deriving DecidableEq

/-- What the runtime supplies to a registration: the next id, the salt, the clock. -/
structure UserDraw where
  id : ℕ
  salt : String
  now : ℤ
deriving DecidableEq

section Writing

variable (hashPassword : String → String → String)

/-- The row of the INSERT; a column it does not name is NULL. -/
def UserCreate.row (userIn : UserCreate) (flags : Flags) (draw : UserDraw) : UserRow where
  toNames := resolveNames userIn.fullName userIn.firstName userIn.lastName flags.write
  id := draw.id
  email := userIn.email
  username := userIn.username
  hashedPassword := hashPassword draw.salt userIn.password
  role := "fan"
  createdAt := draw.now
  updatedAt := draw.now

/-- `create_user`: the pre-check sees the table `seen`, the INSERT the table `users`. -/
def createUser (flags : Flags) (draw : UserDraw) (choice : ℕ) (seen users : Users)
    (userIn : UserCreate) : Except UserError (UserResponse × Users) :=
  match anyOf choice (seen.rows.filter fun row =>
      row.email = userIn.email ∨ row.username = userIn.username) with
  | some existing =>
    .error (.conflict (if existing.email = userIn.email then "email" else "username"))
  | none =>
    let row := userIn.row hashPassword flags draw
    match users.insert row with
    | .error .integrity => .error (.conflict "email or username")
    | .error kind => .error (.unhandled kind)
    | .ok users => .ok (buildUserResponse row flags.read, users)

end Writing

/-- Something of this row reads `full_name`. -/
def Flags.includeLegacy (flags : Flags) : Bool := flags.write ≠ .new || flags.read ≠ .new

/-- The first and last name that a PUT hands to `resolve_names`: a part that is not sent is filled
from what is stored. -/
def Names.filled (stored sent : Names) (includeLegacy : Bool) : Option String × Option String :=
  if sent.firstName = none ∧ sent.lastName = none then (none, none)
  else
    let (curFirst, curLast) :=
      match stored.firstName, (if includeLegacy then stored.fullName.bind truthy else none) with
      | none, some fullName =>
        let (first, last) := splitFullName fullName
        (some first, some last)
      | first, _ => (first, stored.lastName)
    (sent.firstName.or curFirst, sent.lastName.or curLast)

/-- The name columns after a PUT. -/
def Names.updated (stored sent : Names) (flags : Flags) : Names :=
  if sent = ⟨none, none, none⟩ then stored
  else
    let (first, last) := stored.filled sent flags.includeLegacy
    let resolved := resolveNames sent.fullName first last flags.write
    match flags.write with
    | .legacy => { stored with fullName := resolved.fullName }
    | .dual => resolved
    | .new => { resolved with fullName := stored.fullName }

/-- The row after a PUT; `onupdate` moves `updated_at` when a column changes. -/
def UserRow.updated (row : UserRow) (userIn : UserUpdate) (flags : Flags) (now : ℤ) : UserRow :=
  let changed := { row with
    toNames := row.toNames.updated userIn.toNames flags
    email := userIn.email.getD row.email }
  if changed = row then row else { changed with updatedAt := now }

/-- `update_user`: the look for the new e-mail sees the table `seen`.  The answer is made of the row
that is written: the `db.refresh` after the COMMIT is folded into it. -/
def updateUser (flags : Flags) (now : ℤ) (seen users : Users) (userId : ℕ) (userIn : UserUpdate) :
    Except UserError (UserResponse × Users) :=
  match users.find userId with
  | none => .error (.notFound userId)
  | some user =>
    let email := userIn.email.getD user.email
    if email ≠ user.email ∧ ∃ other ∈ seen.rows, other.email = email ∧ other.id ≠ userId then
      .error (.conflict "email")
    else
      let row := user.updated userIn flags now
      match users.update row with
      | .error .integrity => .error (.conflict "email")
      | .error kind => .error (.unhandled kind)
      | .ok users => .ok (buildUserResponse row flags.read, users)

/-! ## Login -/

/-- `authenticate_user`: `lower` is `str.lower`, `pgLower` the function of the database, and
`verifyPassword` is `none` where it raises `ValueError`. -/
def authenticateUser (lower pgLower : String → String)
    (verifyPassword : String → String → Option Bool) (dummyHash : String) (users : Users)
    (readSource : ReadSource) (choice : ℕ) (loginIn : UserLogin) : Except UserError UserResponse :=
  let user := anyOf choice (users.rows.filter fun row => pgLower row.email = lower loginIn.email)
  let storedHash := (user.map UserRow.hashedPassword).getD dummyHash
  let passwordOk := (verifyPassword loginIn.password storedHash).getD false
  match user, passwordOk with
  | some user, true => .ok (buildUserResponse user readSource)
  | _, _ => .error .unauthorized

/-! ## Backfill -/

/-- `NEEDS_BACKFILL` -/
def Names.NeedsBackfill (names : Names) : Prop := names.firstName = none ∨ names.lastName = none

instance (names : Names) : Decidable names.NeedsBackfill := inferInstanceAs (Decidable (_ ∨ _))

/-- The UPDATE of `run_batch`: COALESCE touches only what is NULL. -/
def Names.backfilled (names : Names) : Names where
  fullName := names.fullName
  firstName := some (names.firstName.getD (namesFor names).1)
  lastName := some (names.lastName.getD (namesFor names).2)

/-- A row of `backfill_checkpoints`. -/
structure Checkpoint where
  lastId : ℕ
  rowsDone : ℕ
deriving DecidableEq

/-- The rows a batch takes; the ones in `locked` are skipped. -/
def Users.batch (users : Users) (lastId batchSize : ℕ) (locked : List ℕ) : List UserRow :=
  ((users.rows.filter fun row =>
    lastId < row.id ∧ row.toNames.NeedsBackfill ∧ row.id ∉ locked).insertionSort
      fun a b => a.id ≤ b.id).take batchSize

/-- What `run_batch` returns. -/
structure BatchReport where
  rowsUpdated : ℕ
  newLastId : ℕ
  rowsSeen : ℕ
deriving DecidableEq

/-- `run_batch`: the rows are locked, so each UPDATE finds its row as it was selected. -/
def runBatch (users : Users) (checkpoint : Checkpoint) (lastId batchSize : ℕ) (locked : List ℕ) :
    Except ExcKind (BatchReport × Users × Checkpoint) :=
  match (users.batch lastId batchSize locked).getLast? with
  | none => .ok (⟨0, lastId, 0⟩, users, checkpoint)
  | some last =>
    let rows := users.batch lastId batchSize locked
    let renamed := users.rename fun row =>
      if row ∈ rows then row.toNames.backfilled else row.toNames
    renamed.map fun users => (⟨rows.length, last.id, rows.length⟩, users,
      ⟨last.id, checkpoint.rowsDone + rows.length⟩)

end TicketBooking
