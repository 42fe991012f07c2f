import TicketBooking.UserSystem

/-!
# Logging in

Registration compares e-mails as they are written, login compares them in lower case and takes
whichever matching row comes first.  An account is sure to get in with the e-mail and the password
it was registered with if and only if the database and the server agree on the lower case of its
e-mail and no other account's e-mail has the same.
-/

namespace TicketBooking

open StepSystem

/-! ## Credentials over a run -/

/-- The account was created with this password. -/
def RegisteredWith (as : List UserAction) (userId : ℕ) (password : String) : Prop :=
  ∃ flags draw userIn, UserAction.create flags draw userIn ∈ as ∧ draw.id = userId ∧
    userIn.password = password

section Credentials

variable {hashPassword : String → String → String} {users users' : Users} {a : UserAction}
  {row w : UserRow}

/-- A row that is written is new or keeps its password. -/
theorem written_hashedPassword (moved : userStep hashPassword users a = some users')
    (written : w ∈ a.written hashPassword users) :
    (∀ row ∈ users.rows, row.id ≠ w.id) ∨
    ∃ row ∈ users.rows, row.id = w.id ∧ row.hashedPassword = w.hashedPassword := by
  cases a with
  | create flags draw userIn =>
    obtain ⟨⟨response, after⟩, created, -⟩ := toOption_map_eq_some moved
    have free := (Users.insert_ok (createUser_ok created).1).2.1
    rw [UserAction.written, List.mem_singleton] at written
    subst written
    exact .inl fun row mem => (free row mem).1
  | update flags now userId userIn =>
    obtain ⟨user, found, rfl⟩ := List.mem_map.mp written
    have mem := (Users.find_eq_some_iff.mp (Option.mem_toList.mp found)).1
    exact .inr ⟨user, mem, UserRow.updated_id.symm, UserRow.updated_hashedPassword.symm⟩
  | backfill lastId batchSize locked =>
    obtain ⟨user, taken, rfl⟩ := List.mem_map.mp written
    exact .inr ⟨user, (Users.mem_batch taken).1, rfl, rfl⟩

/-- No step removes an account or changes its password. -/
theorem hashedPassword_kept (moved : userStep hashPassword users a = some users')
    (mem : row ∈ users.rows) :
    ∃ row' ∈ users'.rows, row'.id = row.id ∧ row'.hashedPassword = row.hashedPassword := by
  by_cases rewritten : ∃ w ∈ a.written hashPassword users, row.id = w.id
  · obtain ⟨w, written, same⟩ := rewritten
    refine ⟨w, (userStep_rows moved).mpr (.inl written), same.symm, ?_⟩
    rcases written_hashedPassword moved written with new | ⟨old, memOld, sameId, kept⟩
    · exact absurd same (new row mem)
    · rw [users.eq_of_id_eq mem memOld (same.trans sameId.symm)]
      exact kept.symm
  · push Not at rewritten
    exact ⟨row, (userStep_rows moved).mpr (.inr ⟨mem, rewritten⟩), rfl, rfl⟩

/-- The password of an account is the one it was registered with. -/
theorem hashedPassword_of_registered {as : List UserAction} {userId : ℕ} {password : String}
    (ran : run (userStep hashPassword) Users.empty as = some users)
    (registered : RegisteredWith as userId password) :
    ∃ row ∈ users.rows, row.id = userId ∧
      ∃ salt, row.hashedPassword = hashPassword salt password := by
  induction as using List.reverseRecOn generalizing users with
  | nil =>
    obtain ⟨flags, draw, userIn, mem, -⟩ := registered
    cases mem
  | append_singleton as a ih =>
    obtain ⟨before, ranBefore, moved⟩ := run_concat.mp ran
    obtain ⟨flags, draw, userIn, mem, isUser, samePassword⟩ := registered
    rcases List.mem_append.mp mem with earlier | last
    · obtain ⟨row, inBefore, sameId, salt, stored⟩ :=
        ih ranBefore ⟨flags, draw, userIn, earlier, isUser, samePassword⟩
      obtain ⟨row', inAfter, sameId', kept⟩ := hashedPassword_kept moved inBefore
      exact ⟨row', inAfter, sameId'.trans sameId, salt, kept.trans stored⟩
    · obtain rfl := List.mem_singleton.mp last
      refine ⟨userIn.row hashPassword flags draw, (userStep_rows moved).mpr (.inl ?_), isUser,
        draw.salt, ?_⟩
      · exact List.mem_singleton_self _
      · rw [← samePassword]
        rfl

end Credentials

/-! ## One login -/

section Login

variable {lower pgLower : String → String} {verifyPassword : String → String → Option Bool}
  {dummyHash : String} {users : Users} {readSource : ReadSource} {loginIn : UserLogin}
  {row : UserRow}

theorem mem_matching {e : String} : row ∈ users.rows.filter (fun row => pgLower row.email = e) ↔
    row ∈ users.rows ∧ pgLower row.email = e := by
  rw [List.mem_filter, decide_eq_true_eq]

/-- Whoever a login returns is a row with that e-mail in lower case. -/
theorem authenticateUser_ok {choice : ℕ} {response : UserResponse}
    (loggedIn : authenticateUser lower pgLower verifyPassword dummyHash users readSource choice
      loginIn = .ok response) :
    ∃ user, anyOf choice (users.rows.filter fun row =>
      pgLower row.email = lower loginIn.email) = some user ∧
      response = buildUserResponse user readSource := by
  rw [authenticateUser] at loggedIn
  split at loggedIn
  · rename_i user first _
    cases loggedIn
    exact ⟨user, first, rfl⟩
  · cases loggedIn

theorem authenticateUser_iff (mem : row ∈ users.rows)
    (verified : verifyPassword loginIn.password row.hashedPassword = some true) :
    (∀ choice, authenticateUser lower pgLower verifyPassword dummyHash users readSource choice
      loginIn = .ok (buildUserResponse row readSource)) ↔
    pgLower row.email = lower loginIn.email ∧
      ∀ other ∈ users.rows, pgLower other.email = lower loginIn.email → other = row := by
  constructor
  · intro always
    have only : ∀ other ∈ users.rows, pgLower other.email = lower loginIn.email → other = row := by
      intro other memOther matching
      -- the SELECT may yield the other row first
      obtain ⟨choice, first⟩ := exists_anyOf (mem_matching.mpr ⟨memOther, matching⟩)
      obtain ⟨user, first', same⟩ := authenticateUser_ok (always choice)
      obtain rfl : other = user := Option.some.inj (first.symm.trans first')
      exact users.eq_of_id_eq memOther mem (congrArg UserResponse.id same).symm
    obtain ⟨user, first, same⟩ := authenticateUser_ok (always 0)
    obtain ⟨memUser, matching⟩ := mem_matching.mp (anyOf_mem first)
    rw [only user memUser matching] at matching
    exact ⟨matching, only⟩
  · intro ⟨matching, only⟩ choice
    cases first : anyOf choice (users.rows.filter fun row =>
      pgLower row.email = lower loginIn.email) with
    | none =>
      have found := mem_matching.mpr ⟨mem, matching⟩
      rw [anyOf_eq_none_iff.mp first] at found
      cases found
    | some user =>
      obtain ⟨memUser, matchingUser⟩ := mem_matching.mp (anyOf_mem first)
      obtain rfl := only user memUser matchingUser
      rw [authenticateUser, first]
      simp only [Option.map_some, Option.getD_some, verified]

end Login

/-- **An account gets in with what it registered.** -/
theorem login_returns_account_iff {hashPassword : String → String → String}
    {lower pgLower : String → String} {verifyPassword : String → String → Option Bool}
    (checks : ∀ salt p q, verifyPassword p (hashPassword salt q) = some (decide (p = q)))
    {as : List UserAction} {users : Users}
    (ran : run (userStep hashPassword) Users.empty as = some users) {row : UserRow}
    (account : row ∈ users.rows) {loginIn : UserLogin} (sameEmail : loginIn.email = row.email)
    (registered : RegisteredWith as row.id loginIn.password) (dummyHash : String)
    (readSource : ReadSource) :
    (∀ choice, authenticateUser lower pgLower verifyPassword dummyHash users readSource choice
      loginIn = .ok (buildUserResponse row readSource)) ↔
    pgLower row.email = lower row.email ∧
      ∀ other ∈ users.rows, pgLower other.email = lower row.email → other = row := by
  obtain ⟨row', mem, sameId, salt, stored⟩ := hashedPassword_of_registered ran registered
  obtain rfl := users.eq_of_id_eq mem account sameId
  have verified : verifyPassword loginIn.password row'.hashedPassword = some true := by
    rw [stored, checks]
    simp
  have key : lower row'.email = lower loginIn.email := by rw [sameEmail]
  rw [key]
  exact authenticateUser_iff mem verified

/-- Of two accounts with different e-mails the one whose e-mail was sent gets in. -/
theorem distinct_email_logs_in : Sample.distantAccounts.rows.map UserRow.email =
      ["ann@x.com", "bob@x.com"] ∧ Sample.annRow ∈ Sample.distantAccounts.rows ∧
    ∀ choice, authenticateUser Sample.lower Sample.lower Sample.verifyPassword ""
      Sample.distantAccounts .new choice Sample.annLogsIn =
        .ok (buildUserResponse Sample.annRow .new) := by
  have account : Sample.annRow ∈ Sample.distantAccounts.rows := by decide +kernel
  have registered : RegisteredWith [Sample.annAction, Sample.bobAction] Sample.annRow.id
      Sample.annLogsIn.password := ⟨_, _, Sample.annSignsUp, List.mem_cons_self, rfl, rfl⟩
  refine ⟨by decide +kernel, account, ?_⟩
  apply (login_returns_account_iff Sample.verifyPassword_hashPassword Sample.distantAccounts_run
    account rfl registered "" .new).mpr
  decide +kernel

/-- Two accounts whose e-mails differ in case: the first one is refused with its own password. -/
theorem twin_email_locked_out :
    run (userStep Sample.hashPassword) Users.empty [Sample.annAction, Sample.otherAnnAction] =
      some Sample.twoAccounts ∧
    Sample.annRow ∈ Sample.twoAccounts.rows ∧ Sample.annLogsIn.email = Sample.annRow.email ∧
    RegisteredWith [Sample.annAction, Sample.otherAnnAction] Sample.annRow.id
      Sample.annLogsIn.password ∧
    authenticateUser Sample.lower Sample.lower Sample.verifyPassword "" Sample.twoAccounts .legacy 1
      Sample.annLogsIn = .error .unauthorized := by
  refine ⟨Sample.twoAccounts_run, by decide +kernel, rfl, ?_, by decide +kernel⟩
  exact ⟨_, _, Sample.annSignsUp, List.mem_cons_self, rfl, rfl⟩

end TicketBooking
