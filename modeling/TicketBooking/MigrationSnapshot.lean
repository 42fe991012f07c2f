import TicketBooking.UserSystem
import TicketBooking.Lib.JoinedRecords
import TicketBooking.Lib.SmallestFirst

/-!
# The snapshot of the users

`take_snapshot` and `compare_snapshot` of `scripts/verify_migration.py`, with the three SELECTs of
`scripts/sql/verify_users_migration.sql` that they run.  A snapshot is saved before the backfill and
compared after it, to prove that no user was lost or renamed.

* `md5` stays a parameter.  A comparison is as good as its digests: the results assume that the two
  texts that are compared do not collide.
* Every SELECT sees what is committed when it runs, so the ones of a snapshot may see different
  tables.
* `compareSnapshot_eq_true_iff` is what a comparison of two tables says, `snapshot_passes_iff` what
  it says in a run of registrations, PUTs and backfill batches.
-/

namespace TicketBooking

open JoinedRecords SmallestFirst StepSystem

/-! ## The queries -/

/-- The columns `id` and `username`. -/
def Users.accounts (users : Users) : List (ℕ × String) :=
  users.rows.map fun row => (row.id, row.username)

/-- `WHERE id <= :max_id` -/
def upTo (maxId : ℕ) (accounts : List (ℕ × String)) : List (ℕ × String) :=
  accounts.filter fun account => account.1 ≤ maxId

/-- `id::text || ':' || username` -/
def accountText (account : ℕ × String) : String := account.1.repr ++ ":" ++ account.2

/-- `string_agg(…, ',' ORDER BY id)`, which is NULL where there is no row. -/
def accountsText (accounts : List (ℕ × String)) : Option String :=
  if accounts = [] then none
  else some (",".intercalate ((byKey Prod.fst accounts).map accountText))

/-- `snapshot_max_id` -/
def Users.snapshotMaxId (users : Users) : ℕ := (users.accounts.map Prod.fst).max?.getD 0

/-- `snapshot_count` -/
def Users.snapshotCount (users : Users) (maxId : ℕ) : ℕ := (upTo maxId users.accounts).length

/-- The text of which `snapshot_checksum` takes the digest. -/
def Users.snapshotText (users : Users) (maxId : ℕ) : Option String :=
  accountsText (upTo maxId users.accounts)

structure Snapshot where
  maxId : ℕ
  count : ℕ
  checksum : String
deriving DecidableEq

section Scripts

variable (md5 : String → String)

/-- `snapshot_checksum` -/
def Users.snapshotChecksum (users : Users) (maxId : ℕ) : String :=
  ((users.snapshotText maxId).map md5).getD ""

/-- `take_snapshot`, with the tables that its three statements see. -/
def takeSnapshot (atMaxId atCount atChecksum : Users) : Snapshot where
  maxId := atMaxId.snapshotMaxId
  count := atCount.snapshotCount atMaxId.snapshotMaxId
  checksum := atChecksum.snapshotChecksum md5 atMaxId.snapshotMaxId

/-- `take_snapshot_up_to` -/
def takeSnapshotUpTo (atCount atChecksum : Users) (maxId : ℕ) : ℕ × String :=
  (atCount.snapshotCount maxId, atChecksum.snapshotChecksum md5 maxId)

/-- `compare_snapshot`: `no_user_lost_or_renamed` is a PASS. -/
def compareSnapshot (atCount atChecksum : Users) (saved : Snapshot) : Bool :=
  let now := takeSnapshotUpTo md5 atCount atChecksum saved.maxId
  now.1 = saved.count && now.2 = saved.checksum

end Scripts

/-- No name of an account has the separator of the accounts. -/
def Users.CommaFree (users : Users) : Prop := ∀ row ∈ users.rows, ',' ∉ row.username.toList

instance (users : Users) : Decidable users.CommaFree :=
  inferInstanceAs (Decidable (∀ row ∈ users.rows, _))

/-- The name of the account with this id. -/
def Users.usernameOf (users : Users) (userId : ℕ) : Option String :=
  (users.find userId).map UserRow.username

/-! ## The text of the accounts -/

section Texts

variable {as bs : List (ℕ × String)} {a b : ℕ × String} {text : String}

theorem toList_accountText (a : ℕ × String) :
    (accountText a).toList = Nat.toDigits 10 a.1 ++ ':' :: a.2.toList := by
  rw [accountText, String.toList_append, String.toList_append, Nat.toList_repr, List.append_assoc]
  rfl

/-- Digits are no punctuation. -/
theorem notMem_toDigits {c : Char} (mark : c.isDigit = false) (n : ℕ) : c ∉ Nat.toDigits 10 n := by
  intro mem
  rw [Nat.isDigit_of_mem_toDigits (by decide) (by decide) mem] at mark
  cases mark

theorem accountText_injective : Function.Injective accountText := by
  intro a b same
  have chars := congrArg String.toList same
  rw [toList_accountText, toList_accountText] at chars
  obtain ⟨digits, names⟩ := field_inj (notMem_toDigits rfl a.1) (notMem_toDigits rfl b.1) chars
  have ids : a.1 = b.1 := by
    rw [← Nat.ofDigitChars_ten_toDigits (n := a.1), digits, Nat.ofDigitChars_ten_toDigits]
  exact Prod.ext ids (String.toList_inj.mp names)

theorem comma_notMem_accountText (clean : ',' ∉ a.2.toList) : ',' ∉ (accountText a).toList := by
  rw [toList_accountText]
  intro mem
  rcases List.mem_append.mp mem with digit | rest
  · exact notMem_toDigits rfl a.1 digit
  · rcases List.mem_cons.mp rest with colon | letter
    · cases colon
    · exact clean letter

/-- The records of a text, in its order. -/
def accountRecords (as : List (ℕ × String)) : List (List Char) :=
  (byKey Prod.fst as).map fun a => (accountText a).toList

theorem accountsText_eq_none_iff : accountsText as = none ↔ as = [] := by
  rw [accountsText]
  split
  · rename_i empty
    exact iff_of_true rfl empty
  · rename_i nonempty
    exact iff_of_false (Option.some_ne_none _) nonempty

theorem toList_of_accountsText (joined : accountsText as = some text) :
    as ≠ [] ∧ text.toList = [','].intercalate (accountRecords as) := by
  obtain ⟨nonempty, same⟩ := Option.ite_none_left_eq_some.mp joined
  cases same
  refine ⟨nonempty, ?_⟩
  rw [String.toList_intercalate, List.map_map]
  rfl

theorem clean_accountRecords (clean : ∀ a ∈ as, ',' ∉ a.2.toList) :
    ∀ record ∈ accountRecords as, ',' ∉ record := by
  intro record mem
  obtain ⟨a, sorted, rfl⟩ := List.mem_map.mp mem
  exact comma_notMem_accountText (clean a ((byKey_perm Prod.fst as).mem_iff.mp sorted))

theorem length_accountRecords (as : List (ℕ × String)) :
    (accountRecords as).length = as.length := by
  rw [accountRecords, List.length_map, (byKey_perm Prod.fst as).length_eq]

theorem perm_of_accountRecords (same : accountRecords as = accountRecords bs) : as.Perm bs := by
  have injective : Function.Injective fun a => (accountText a).toList :=
    fun a b same => accountText_injective (String.toList_inj.mp same)
  have sorted : byKey Prod.fst as = byKey Prod.fst bs := List.map_injective_iff.mpr injective same
  have perm := byKey_perm Prod.fst bs
  rw [← sorted] at perm
  exact (byKey_perm Prod.fst as).symm.trans perm

/-- The number of the accounts settles that no name has a comma. -/
theorem perm_of_accountsText_of_length (clean : ∀ a ∈ as, ',' ∉ a.2.toList)
    (length : as.length = bs.length) (joinedAs : accountsText as = some text)
    (joinedBs : accountsText bs = some text) : as.Perm bs := by
  have textAs := (toList_of_accountsText joinedAs).2
  have textBs := (toList_of_accountsText joinedBs).2
  apply perm_of_accountRecords
  refine intercalate_inj_of_length (clean_accountRecords clean) ?_ (textAs.symm.trans textBs)
  rw [length_accountRecords, length_accountRecords, length]

theorem accountRecords_ne_nil (nonempty : as ≠ []) : accountRecords as ≠ [] := by
  intro none
  have length := length_accountRecords as
  rw [none] at length
  exact nonempty (List.length_eq_zero_iff.mp length.symm)

/-- Names without commas can be read back. -/
theorem perm_of_accountsText (cleanAs : ∀ a ∈ as, ',' ∉ a.2.toList)
    (cleanBs : ∀ b ∈ bs, ',' ∉ b.2.toList) (same : accountsText as = accountsText bs) :
    as.Perm bs := by
  cases joinedAs : accountsText as with
  | none =>
    rw [accountsText_eq_none_iff.mp joinedAs,
      accountsText_eq_none_iff.mp (same.symm.trans joinedAs)]
  | some text =>
    obtain ⟨nonemptyAs, textAs⟩ := toList_of_accountsText joinedAs
    obtain ⟨nonemptyBs, textBs⟩ := toList_of_accountsText (same.symm.trans joinedAs)
    apply perm_of_accountRecords
    exact intercalate_inj (clean_accountRecords cleanAs) (clean_accountRecords cleanBs)
      (accountRecords_ne_nil nonemptyAs) (accountRecords_ne_nil nonemptyBs)
      (textAs.symm.trans textBs)

/-- The order of the rows in the table does not matter. -/
theorem accountsText_of_perm (ids : (as.map Prod.fst).Nodup) (perm : as.Perm bs) :
    accountsText as = accountsText bs := by
  have sorted : byKey Prod.fst as = byKey Prod.fst bs := by
    refine eq_of_perm (((byKey_perm Prod.fst as).map Prod.fst).nodup_iff.mpr ids) ?_
      (byKey_sorted Prod.fst as) (byKey_sorted Prod.fst bs)
    exact (byKey_perm Prod.fst as).trans (perm.trans (byKey_perm Prod.fst bs).symm)
  rw [accountsText, accountsText, sorted]
  by_cases empty : as = []
  · rw [if_pos empty, if_pos (List.perm_nil.mp (empty ▸ perm.symm))]
  · have nonempty : bs ≠ [] := by
      intro emptyBs
      rw [emptyBs] at perm
      exact empty (List.perm_nil.mp perm)
    rw [if_neg empty, if_neg nonempty]

end Texts

/-! ## Two tables -/

/-- The digests of two texts that differ are different. -/
def NoCollision (md5 : String → String) (first second : Option String) : Prop :=
  ∀ a b, first = some a → second = some b → md5 a = md5 b → a = b

section Tables

variable {md5 : String → String} {users now old : Users} {maxId userId : ℕ} {username : String}

theorem Users.ids_accounts (users : Users) :
    users.accounts.map Prod.fst = users.rows.map UserRow.id := by
  rw [accounts, List.map_map]
  rfl

theorem Users.ids_upTo_nodup (users : Users) (maxId : ℕ) :
    ((upTo maxId users.accounts).map Prod.fst).Nodup := by
  refine List.Nodup.sublist (List.filter_sublist.map Prod.fst) ?_
  rw [users.ids_accounts]
  exact users.ids_nodup

theorem Users.usernameOf_eq_some_iff :
    users.usernameOf userId = some username ↔ (userId, username) ∈ users.accounts := by
  rw [usernameOf, Option.map_eq_some_iff, accounts, List.mem_map]
  simp only [Users.find_eq_some_iff, Prod.mk.injEq, and_assoc]

theorem Users.mem_upTo : (userId, username) ∈ upTo maxId users.accounts ↔
    userId ≤ maxId ∧ users.usernameOf userId = some username := by
  rw [usernameOf_eq_some_iff, upTo, List.mem_filter, decide_eq_true_iff, and_comm]

/-- Two tables list the same accounts when they have the same names for the ids. -/
theorem upTo_perm_iff : (upTo maxId now.accounts).Perm (upTo maxId old.accounts) ↔
    ∀ id ≤ maxId, now.usernameOf id = old.usernameOf id := by
  rw [List.perm_ext_iff_of_nodup (now.ids_upTo_nodup maxId).of_map
    (old.ids_upTo_nodup maxId).of_map]
  constructor
  · intro same id inside
    ext username
    have both := same (id, username)
    rw [Users.mem_upTo, Users.mem_upTo] at both
    simpa only [inside, true_and] using both
  · intro same account
    obtain ⟨id, username⟩ := account
    rw [Users.mem_upTo, Users.mem_upTo]
    refine and_congr_right fun inside => ?_
    rw [same id inside]

theorem compareSnapshot_eq_true {atMaxId atCount atChecksum laterCount laterChecksum : Users} :
    compareSnapshot md5 laterCount laterChecksum (takeSnapshot md5 atMaxId atCount atChecksum) =
        true ↔
      laterCount.snapshotCount atMaxId.snapshotMaxId =
          atCount.snapshotCount atMaxId.snapshotMaxId ∧
        laterChecksum.snapshotChecksum md5 atMaxId.snapshotMaxId =
          atChecksum.snapshotChecksum md5 atMaxId.snapshotMaxId := by
  rw [compareSnapshot, Bool.and_eq_true, decide_eq_true_iff, decide_eq_true_iff]
  rfl

theorem Users.CommaFree.upTo (clean : users.CommaFree) :
    ∀ account ∈ upTo maxId users.accounts, ',' ∉ account.2.toList := by
  intro account mem
  obtain ⟨row, inTable, rfl⟩ := List.mem_map.mp (List.mem_of_mem_filter mem)
  exact clean row inTable

/-- Equal digests, of equally many accounts. -/
theorem upTo_perm_of_checksum (clean : old.CommaFree)
    (noCollision : NoCollision md5 (now.snapshotText maxId) (old.snapshotText maxId))
    (count : now.snapshotCount maxId = old.snapshotCount maxId)
    (checksum : now.snapshotChecksum md5 maxId = old.snapshotChecksum md5 maxId) :
    (upTo maxId now.accounts).Perm (upTo maxId old.accounts) := by
  cases textNow : now.snapshotText maxId with
  | none =>
    have emptyNow := accountsText_eq_none_iff.mp textNow
    rw [Users.snapshotCount, emptyNow] at count
    rw [emptyNow, List.length_eq_zero_iff.mp count.symm]
  | some a =>
    have nonemptyNow := (toList_of_accountsText textNow).1
    cases textOld : old.snapshotText maxId with
    | none =>
      rw [Users.snapshotCount, Users.snapshotCount, accountsText_eq_none_iff.mp textOld] at count
      exact absurd (List.length_eq_zero_iff.mp count) nonemptyNow
    | some b =>
      rw [Users.snapshotChecksum, Users.snapshotChecksum, textNow, textOld] at checksum
      have same := noCollision a b textNow textOld checksum
      rw [same] at textNow
      exact (perm_of_accountsText_of_length clean.upTo count.symm textOld textNow).symm

end Tables

/-- **A comparison passes when no user was lost, renamed or added.** -/
theorem compareSnapshot_eq_true_iff {md5 : String → String} {now old : Users}
    (clean : old.CommaFree)
    (noCollision : NoCollision md5 (now.snapshotText old.snapshotMaxId)
      (old.snapshotText old.snapshotMaxId)) :
    compareSnapshot md5 now now (takeSnapshot md5 old old old) = true ↔
      ∀ id ≤ old.snapshotMaxId, now.usernameOf id = old.usernameOf id := by
  rw [compareSnapshot_eq_true, ← upTo_perm_iff]
  constructor
  · intro ⟨count, checksum⟩
    exact upTo_perm_of_checksum clean noCollision count checksum
  · intro perm
    refine ⟨perm.length_eq, ?_⟩
    rw [Users.snapshotChecksum, Users.snapshotChecksum, Users.snapshotText, Users.snapshotText,
      accountsText_of_perm (now.ids_upTo_nodup _) perm]

namespace Sample

/-- The digests of the texts of the examples. -/
def md5 (text : String) : String :=
  if text = "1:ann" then "afc415e3dc6933618c20931fafffef86"
  else if text = "1:ann2" then "9cae623955fecaa0fd5616d0aea731eb"
  else if text = "2:ann2" then "fe51de3688ba39fdeffc287f9bc61a38"
  else "85a5ed53e741774144f5bfd38e54b655"

theorem md5_ne_empty (text : String) : md5 text ≠ "" := by
  rw [md5]
  split_ifs <;> decide

/-- The table in which the account of Ann has another name. -/
def renamedAccount : Users :=
  (run (userStep hashPassword) Users.empty
    [.create ⟨.legacy, .legacy⟩ ⟨1, "salt", 1⟩ otherAnnSignsUp]).get (by decide +kernel)

theorem noCollision_of_text {first second : Option String} {a b : String} (isFirst : first = some a)
    (isSecond : second = some b) (apart : md5 a ≠ md5 b) : NoCollision md5 first second := by
  intro a' b' isFirst' isSecond' same
  rw [Option.some.inj (isFirst'.symm.trans isFirst),
    Option.some.inj (isSecond'.symm.trans isSecond)] at same
  exact absurd same apart

end Sample

/-- A renamed user is found. -/
theorem compareSnapshot_eq_true_iff_sample :
    compareSnapshot Sample.md5 Sample.renamedAccount Sample.renamedAccount
      (takeSnapshot Sample.md5 Sample.oneAccount Sample.oneAccount Sample.oneAccount) ≠ true := by
  intro passed
  have noCollision : NoCollision Sample.md5
      (Sample.renamedAccount.snapshotText Sample.oneAccount.snapshotMaxId)
      (Sample.oneAccount.snapshotText Sample.oneAccount.snapshotMaxId) :=
    Sample.noCollision_of_text (a := "1:ann2") (b := "1:ann") (by decide +kernel)
      (by decide +kernel) (by decide +kernel)
  have same := (compareSnapshot_eq_true_iff (by decide +kernel) noCollision).mp passed 1
    (by decide +kernel)
  revert same
  decide +kernel

/-! ## A run between the SELECTs -/

/-- The accounts that the action adds. -/
def UserAction.signedUp : UserAction → List (ℕ × String)
  | .create _ draw userIn => [(draw.id, userIn.username)]
  | .update _ _ _ _ | .backfill _ _ _ => []

section Runs

variable {hashPassword : String → String → String} {users users' start : Users} {a : UserAction}
  {as : List UserAction}

@[simp] theorem UserRow.updated_username {user : UserRow} {userIn : UserUpdate} {flags : Flags}
    {now : ℤ} : (user.updated userIn flags now).username = user.username := by
  obtain ⟨updatedAt, same⟩ := UserRow.updated_eq user userIn flags now
  rw [same]

/-- A PUT keeps the ids and the names of the accounts. -/
theorem accounts_replaceRow {row user : UserRow} (inTable : user ∈ users.rows)
    (id : row.id = user.id) (username : row.username = user.username) :
    (replaceRow row users.rows).map (fun row => (row.id, row.username)) = users.accounts := by
  rw [replaceRow, List.map_map]
  refine List.map_congr_left fun r mem => ?_
  by_cases hit : r.id = row.id
  · have same := users.eq_of_id_eq mem inTable (hit.trans id)
    rw [Function.comp_apply, if_pos hit, same, id, username]
  · rw [Function.comp_apply, if_neg hit]

/-- **What a step does to the accounts.** -/
theorem userStep_accounts (moved : userStep hashPassword users a = some users') :
    users'.accounts = users.accounts ++ a.signedUp := by
  cases a with
  | create flags draw userIn =>
    obtain ⟨⟨response, after⟩, created, rfl⟩ := toOption_map_eq_some moved
    obtain ⟨-, -, rows⟩ := Users.insert_ok (createUser_ok created).1
    rw [Users.accounts, rows, List.map_append]
    rfl
  | update flags now userId userIn =>
    obtain ⟨⟨response, after⟩, updated, rfl⟩ := toOption_map_eq_some moved
    obtain ⟨user, found, stored, -⟩ := updateUser_ok updated
    have inTable := (Users.find_eq_some_iff.mp found).1
    rw [Users.accounts, (Users.update_ok stored).2,
      accounts_replaceRow inTable UserRow.updated_id UserRow.updated_username]
    exact (List.append_nil _).symm
  | backfill lastId batchSize locked =>
    obtain ⟨⟨report, after, checkpoint⟩, ran, rfl⟩ := toOption_map_eq_some moved
    rw [Users.accounts, runBatch_ok ran, List.map_map]
    exact (List.append_nil _).symm

theorem userRun_accounts (ran : run (userStep hashPassword) start as = some users) :
    users.accounts = start.accounts ++ as.flatMap UserAction.signedUp := by
  refine run_history (P := fun as users => users.accounts =
    start.accounts ++ as.flatMap UserAction.signedUp) ran ?_ ?_
  · exact (List.append_nil _).symm
  · intro before s a s' _ same moved
    rw [userStep_accounts moved, same, List.flatMap_append, List.append_assoc]
    simp

/-- The pattern of a username has no comma. -/
theorem comma_notMem_username (userIn : UserCreate) : ',' ∉ userIn.username.toList := by
  intro mem
  have letter := List.all_eq_true.mp userIn.username_pattern ',' mem
  revert letter
  decide

theorem Users.CommaFree.step (clean : users.CommaFree)
    (moved : userStep hashPassword users a = some users') : users'.CommaFree := by
  intro row mem
  have listed : (row.id, row.username) ∈ users'.accounts := List.mem_map_of_mem mem
  rw [userStep_accounts moved] at listed
  rcases List.mem_append.mp listed with old | new
  · obtain ⟨row', inTable, same⟩ := List.mem_map.mp old
    rw [← (Prod.mk.inj same).2]
    exact clean row' inTable
  · cases a with
    | create flags draw userIn =>
      rw [(Prod.mk.inj (List.mem_singleton.mp new)).2]
      exact comma_notMem_username userIn
    | update => cases new
    | backfill => cases new

theorem Users.CommaFree.run (clean : start.CommaFree)
    (ran : run (userStep hashPassword) start as = some users) : users.CommaFree :=
  run_invariant ran clean fun _ _ _ clean moved => clean.step moved

variable {md5 : String → String} {maxId : ℕ}

theorem upTo_append (as bs : List (ℕ × String)) :
    upTo maxId (as ++ bs) = upTo maxId as ++ upTo maxId bs := List.filter_append as bs

/-- The count stays as long as nobody signs up with one of the ids. -/
theorem snapshotCount_run (ran : run (userStep hashPassword) start as = some users) :
    users.snapshotCount maxId = start.snapshotCount maxId ↔
      upTo maxId (as.flatMap UserAction.signedUp) = [] := by
  rw [Users.snapshotCount, Users.snapshotCount, userRun_accounts ran, upTo_append,
    List.length_append, ← List.length_eq_zero_iff]
  omega

/-- So does the checksum. -/
theorem snapshotChecksum_run (ran : run (userStep hashPassword) start as = some users)
    (clean : start.CommaFree) (digest : ∀ text, md5 text ≠ "")
    (noCollision : NoCollision md5 (users.snapshotText maxId) (start.snapshotText maxId)) :
    users.snapshotChecksum md5 maxId = start.snapshotChecksum md5 maxId ↔
      upTo maxId (as.flatMap UserAction.signedUp) = [] := by
  constructor
  · intro checksum
    have texts : users.snapshotText maxId = start.snapshotText maxId := by
      rw [Users.snapshotChecksum, Users.snapshotChecksum] at checksum
      cases after : users.snapshotText maxId with
      | none =>
        cases before : start.snapshotText maxId with
        | none => rfl
        | some b =>
          rw [after, before] at checksum
          exact absurd checksum.symm (digest b)
      | some a =>
        cases before : start.snapshotText maxId with
        | none =>
          rw [after, before] at checksum
          exact absurd checksum (digest a)
        | some b =>
          rw [after, before] at checksum
          rw [noCollision a b after before checksum]
    have perm := perm_of_accountsText (clean.run ran).upTo clean.upTo texts
    exact (snapshotCount_run ran).mp perm.length_eq
  · intro none
    have same : upTo maxId users.accounts = upTo maxId start.accounts := by
      rw [userRun_accounts ran, upTo_append, none, List.append_nil]
    rw [Users.snapshotChecksum, Users.snapshotChecksum, Users.snapshotText, Users.snapshotText,
      same]

/-- Everybody who signs up draws a larger id. -/
theorem upTo_signedUp_eq_nil : upTo maxId (as.flatMap UserAction.signedUp) = [] ↔
    ∀ a ∈ as, ∀ account ∈ a.signedUp, maxId < account.1 := by
  simp only [upTo, List.filter_eq_nil_iff, decide_eq_true_iff, List.mem_flatMap, Nat.not_le]
  exact ⟨fun all a mem account new => all account ⟨a, mem, new⟩,
    fun all account ⟨a, mem, new⟩ => all a mem account new⟩

end Runs

/-- **A comparison passes when nobody has signed up late with an old id.**  The snapshot is saved
from the tables `atMaxId`, `atCount` and `atChecksum` and compared with `laterCount` and
`laterChecksum`, between which PUTs, batches and registrations run. -/
theorem snapshot_passes_iff {hashPassword : String → String → String} {md5 : String → String}
    {atMaxId atCount atChecksum laterCount laterChecksum : Users}
    {as₁ as₂ as₃ as₄ : List UserAction}
    (toCount : run (userStep hashPassword) atMaxId as₁ = some atCount)
    (toChecksum : run (userStep hashPassword) atCount as₂ = some atChecksum)
    (between : run (userStep hashPassword) atChecksum as₃ = some laterCount)
    (toLast : run (userStep hashPassword) laterCount as₄ = some laterChecksum)
    (clean : atMaxId.CommaFree) (digest : ∀ text, md5 text ≠ "")
    (noCollision : NoCollision md5 (laterChecksum.snapshotText atMaxId.snapshotMaxId)
      (atChecksum.snapshotText atMaxId.snapshotMaxId)) :
    compareSnapshot md5 laterCount laterChecksum (takeSnapshot md5 atMaxId atCount atChecksum) =
        true ↔
      ∀ a ∈ as₂ ++ as₃ ++ as₄, ∀ account ∈ a.signedUp, atMaxId.snapshotMaxId < account.1 := by
  have counted : run (userStep hashPassword) atCount (as₂ ++ as₃) = some laterCount := by
    rw [run_append, toChecksum, Option.bind_some, between]
  have summed : run (userStep hashPassword) atChecksum (as₃ ++ as₄) = some laterChecksum := by
    rw [run_append, between, Option.bind_some, toLast]
  have cleanThen := (clean.run toCount).run toChecksum
  rw [compareSnapshot_eq_true, snapshotCount_run counted,
    snapshotChecksum_run summed cleanThen digest noCollision, ← upTo_signedUp_eq_nil]
  simp only [List.flatMap_append, upTo_append, List.append_eq_nil_iff]
  tauto

namespace Sample

/-- The table with the account that has the second id. -/
def secondAccount : Users :=
  (run (userStep hashPassword) Users.empty [otherAnnAction]).get (by decide +kernel)

end Sample

/-- Ann has drawn the first id before the snapshot and commits after it: a FAIL, though no user was
lost. -/
theorem snapshot_passes_iff_sample :
    ∃ later, run (userStep Sample.hashPassword) Sample.secondAccount [Sample.annAction] =
        some later ∧
      compareSnapshot Sample.md5 later later (takeSnapshot Sample.md5 Sample.secondAccount
        Sample.secondAccount Sample.secondAccount) ≠ true := by
  obtain ⟨later, checked⟩ := Option.isSome_iff_exists.mp (show
    ((run (userStep Sample.hashPassword) Sample.secondAccount
      [Sample.annAction]).filter fun later =>
        later.snapshotText Sample.secondAccount.snapshotMaxId = some "1:ann,2:ann2").isSome = true
    by decide +kernel)
  obtain ⟨ran, text⟩ := Option.filter_eq_some_iff.mp checked
  refine ⟨later, ran, fun passed => ?_⟩
  have noCollision : NoCollision Sample.md5
      (later.snapshotText Sample.secondAccount.snapshotMaxId)
      (Sample.secondAccount.snapshotText Sample.secondAccount.snapshotMaxId) :=
    Sample.noCollision_of_text (of_decide_eq_true text) (b := "2:ann2") (by decide +kernel)
      (by decide +kernel)
  have quiet : ∀ users : Users, run (userStep Sample.hashPassword) users [] = some users :=
    fun _ => rfl
  have late := (snapshot_passes_iff (quiet _) (quiet _) ran (quiet _) (by decide +kernel)
    Sample.md5_ne_empty noCollision).mp passed Sample.annAction (by simp) (1, "ann")
    (by simp [Sample.annAction, UserAction.signedUp, Sample.annSignsUp])
  revert late
  decide +kernel

end TicketBooking
