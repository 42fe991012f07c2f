import TicketBooking.UserSystem

/-!
# Dual write

While every replica writes both representations of a name, the check `legacy_new_disagree` looks for
rows whose `full_name` and parts spell different names.  `Names.Disagree` says it in words, with the
whitespace that Python splits at.  The query itself trims spaces only and has the `\s` of the
database: `sqlDisagrees_iff` says on which rows it finds the same.

A run keeps every row in agreement if and only if every request it commits, with the parts that a
PUT fills from the row, has parts that go together (`GoTogether`), and no batch fills the first name
of a row next to a last name that is not the rest of its full name.
-/

namespace TicketBooking

open StepSystem

/-! ## Names that agree -/

/-- Both representations are set and have different words.  It is what `legacy_new_disagree` is for;
`Names.sqlDisagrees` is the query, and `sqlDisagrees_iff` relates the two. -/
def Names.Disagree (names : Names) : Prop :=
  match names.fullName, names.firstName with
  | some full, some first => wordsOf full ≠ wordsOf first ++ spelled names.lastName
  | _, _ => False

/-- A full name and two parts, each already cleaned, spell one name once the missing ones are
derived from the others. -/
def PartsAgree : Option String → Option String → Option String → Prop
  | none, none, last => last = none
  | none, some _, _ => True
  | some _, none, none => True
  | some full, none, some last => wordsOf last = wordsOf (splitFullName (some full)).2
  | some full, some first, none =>
    (splitFullName (some full)).1 = first ∨ wordsOf full = wordsOf first
  | some full, some first, some last => wordsOf full = wordsOf first ++ wordsOf last

/-- The fields of a request spell one name. -/
def GoTogether (fullName firstName lastName : Option String) : Prop :=
  PartsAgree (clean fullName) (clean firstName) (clean lastName)

/-- The last name of a row without first name is the rest of its full name. -/
def Names.RestStored (names : Names) : Prop :=
  match names.fullName, names.firstName, names.lastName with
  | some full, none, some last => wordsOf last = wordsOf (splitFullName (some full)).2
  | _, _, _ => True

instance : (names : Names) → Decidable names.Disagree
  | ⟨some _, some _, _⟩ => inferInstanceAs (Decidable (_ ≠ _))
  | ⟨some _, none, _⟩ | ⟨none, _, _⟩ => .isFalse id

instance : (full first last : Option String) → Decidable (PartsAgree full first last)
  | none, none, _ => inferInstanceAs (Decidable (_ = none))
  | none, some _, _ | some _, none, none => .isTrue trivial
  | some _, none, some _ => inferInstanceAs (Decidable (wordsOf _ = wordsOf _))
  | some _, some _, none => inferInstanceAs (Decidable (_ = _ ∨ wordsOf _ = wordsOf _))
  | some _, some _, some _ => inferInstanceAs (Decidable (wordsOf _ = wordsOf _ ++ wordsOf _))

instance (fullName firstName lastName : Option String) :
    Decidable (GoTogether fullName firstName lastName) :=
  inferInstanceAs (Decidable (PartsAgree _ _ _))

instance : (names : Names) → Decidable names.RestStored
  | ⟨some _, none, some _⟩ => inferInstanceAs (Decidable (wordsOf _ = wordsOf _))
  | ⟨none, _, _⟩ | ⟨some _, some _, _⟩ | ⟨some _, none, none⟩ => .isTrue trivial

section Names

variable {names : Names} {fullName firstName lastName : Option String} {full first last : String}

/-- **The name rule and its cases.** -/
theorem resolveNames_disagree_iff (fullName firstName lastName : Option String) :
    (resolveNames fullName firstName lastName .dual).Disagree ↔
      ¬ GoTogether fullName firstName lastName := by
  rw [resolveNames_dual, GoTogether]
  cases cleanFull : clean fullName with
  | none =>
    cases cleanFirst : clean firstName with
    | none =>
      cases cleanLast : clean lastName with
      | none => simp [derived_of_none, Names.Disagree, PartsAgree]
      | some last =>
        -- the last name becomes the full name as well
        obtain ⟨stripped, nonempty, -⟩ := clean_spec cleanLast
        rw [derived_of_last stripped nonempty]
        simp [Names.Disagree, PartsAgree, wordsOf_head (wordsOf_ne_nil_of_clean cleanLast)]
    | some first =>
      obtain ⟨stripped, nonempty, -⟩ := clean_spec cleanFirst
      rw [derived_of_first stripped nonempty]
      cases clean lastName <;> simp [Names.Disagree, PartsAgree]
  | some full =>
    cases cleanFirst : clean firstName with
    | none =>
      rw [derived_of_full]
      cases clean lastName with
      | none =>
        simp only [Names.Disagree, PartsAgree, Option.getD_none, spelled_some, not_true_eq_false,
          iff_false, not_not]
        exact wordsOf_head_append full
      | some last =>
        simp only [Names.Disagree, PartsAgree, Option.getD_some, spelled_some]
        rw [wordsOf_head_append full, ne_eq, List.append_right_inj]
        exact not_congr eq_comm
    | some first =>
      cases clean lastName with
      | none =>
        rw [derived_of_full_first]
        by_cases head : (splitFullName (some full)).1 = first
        · simp only [Names.Disagree, PartsAgree, if_pos, spelled_some, head, true_or,
            not_true_eq_false, iff_false, not_not]
          rw [← head]
          exact wordsOf_head_append full
        · simp [Names.Disagree, PartsAgree, head]
      | some last => rw [derived_of_all]; rfl

/-- What a batch makes of a row that agrees. -/
theorem backfilled_disagree_iff (agrees : ¬ names.Disagree) :
    names.backfilled.Disagree ↔ ¬ names.RestStored := by
  obtain ⟨fullName, firstName, lastName⟩ := names
  cases fullName with
  | none => simp [Names.Disagree, Names.backfilled, Names.RestStored]
  | some full =>
    cases firstName with
    | none =>
      cases lastName with
      | none =>
        simp only [Names.Disagree, Names.backfilled, namesFor, Names.RestStored, Option.getD_none,
          spelled_some, if_true, not_true_eq_false, iff_false, not_not]
        exact wordsOf_head_append full
      | some last =>
        simp only [Names.RestStored, Names.Disagree, Names.backfilled, namesFor, Option.getD_none,
          Option.getD_some, spelled_some]
        rw [wordsOf_head_append full, ne_eq, List.append_right_inj]
        exact not_congr eq_comm
    | some first =>
      cases lastName with
      | none =>
        have same : wordsOf full = wordsOf first := by simpa [Names.Disagree] using agrees
        simp only [Names.Disagree, Names.backfilled, namesFor, Names.RestStored, Option.getD_none,
          Option.getD_some, spelled_some, not_true_eq_false, iff_false, not_not]
        split
        case isTrue head => rw [← head]; exact wordsOf_head_append full
        case isFalse => rw [wordsOf_empty, List.append_nil, same]
      | some last =>
        have kept : (Names.mk (some full) (some first) (some last)).backfilled =
          ⟨some full, some first, some last⟩ := rfl
        rw [kept]
        exact iff_of_false agrees (not_not.mpr trivial)

end Names

/-! ## Runs in mode dual -/

/-- The table passes the check. -/
def Users.NamesAgree (users : Users) : Prop := ∀ row ∈ users.rows, ¬ row.toNames.Disagree

instance (users : Users) : Decidable users.NamesAgree :=
  inferInstanceAs (Decidable (∀ row ∈ users.rows, ¬ row.toNames.Disagree))

/-- What the action puts together spells one name. -/
def UserAction.SpellsOneName (users : Users) : UserAction → Prop
  | .create _ _ userIn => GoTogether userIn.fullName userIn.firstName userIn.lastName
  | .update flags _ userId userIn =>
    ∀ user ∈ users.rows, user.id = userId → userIn.toNames ≠ ⟨none, none, none⟩ →
      GoTogether userIn.fullName (user.toNames.filled userIn.toNames flags.includeLegacy).1
        (user.toNames.filled userIn.toNames flags.includeLegacy).2
  | .backfill lastId batchSize locked =>
    ∀ user ∈ users.batch lastId batchSize locked, user.toNames.RestStored

instance (users : Users) (a : UserAction) : Decidable (a.SpellsOneName users) :=
  match a with
  | .create _ _ userIn =>
    inferInstanceAs (Decidable (GoTogether userIn.fullName userIn.firstName userIn.lastName))
  | .update _ _ _ _ => inferInstanceAs (Decidable (∀ user ∈ users.rows, _ → _ → GoTogether _ _ _))
  | .backfill _ _ _ => inferInstanceAs
      (Decidable (∀ user ∈ users.batch _ _ _, user.toNames.RestStored))

section Runs

variable {hashPassword : String → String → String} {users users' start : Users} {a : UserAction}

theorem updated_disagree_iff {stored sent : Names} {flags : Flags} (dual : flags.write = .dual)
    (agrees : ¬ stored.Disagree) :
    (stored.updated sent flags).Disagree ↔ ¬ (sent ≠ ⟨none, none, none⟩ →
      GoTogether sent.fullName (stored.filled sent flags.includeLegacy).1
        (stored.filled sent flags.includeLegacy).2) := by
  rw [Names.updated]
  split
  case isTrue nothing => simp [nothing, agrees]
  case isFalse something =>
    simp only [dual, resolveNames_disagree_iff, ne_eq, something, not_false_eq_true, true_implies]

/-- The rows that a step writes agree exactly when its names go together. -/
theorem written_agree_iff (agree : users.NamesAgree)
    (moved : modeStep hashPassword .dual users a = some users') :
    (∀ w ∈ a.written hashPassword users, ¬ w.toNames.Disagree) ↔ a.SpellsOneName users := by
  obtain ⟨inMode, moved⟩ := modeStep_eq_some_iff.mp moved
  cases a with
  | create flags draw userIn =>
    have dual : flags.write = .dual := inMode
    simp only [UserAction.written, List.mem_singleton, forall_eq, UserCreate.row, dual,
      resolveNames_disagree_iff, not_not]
    rfl
  | update flags now userId userIn =>
    obtain ⟨⟨response, after⟩, updated, -⟩ := toOption_map_eq_some moved
    obtain ⟨user, found, -, -⟩ := updateUser_ok updated
    obtain ⟨mem, isUser⟩ := Users.find_eq_some_iff.mp found
    have only : ∀ row ∈ users.rows, row.id = userId → row = user := fun row memRow same =>
      users.eq_of_id_eq memRow mem (same.trans isUser.symm)
    simp only [UserAction.written, found, Option.toList_some, List.map_cons, List.map_nil,
      List.mem_singleton, forall_eq, UserRow.updated_toNames,
      updated_disagree_iff inMode (agree user mem), not_not]
    constructor
    · intro together row memRow same sent
      rw [only row memRow same]
      exact together sent
    · intro together sent
      exact together user mem isUser sent
  | backfill lastId batchSize locked =>
    simp only [UserAction.written, List.forall_mem_map, UserAction.SpellsOneName]
    apply forall₂_congr
    intro user taken
    rw [backfilled_disagree_iff (agree user (Users.mem_batch taken).1), not_not]

/-- A step keeps the check at zero exactly when what it puts together spells one name. -/
theorem namesAgree_step (agree : users.NamesAgree)
    (moved : modeStep hashPassword .dual users a = some users') :
    users'.NamesAgree ↔ a.SpellsOneName users := by
  have rows := fun r => userStep_rows (modeStep_eq_some_iff.mp moved).2 (r := r)
  rw [← written_agree_iff agree moved]
  constructor
  · intro after w written
    exact after w ((rows w).mpr (.inl written))
  · intro written row mem
    rcases (rows row).mp mem with new | ⟨old, -⟩
    · exact written row new
    · exact agree row old

end Runs

/-- **When dual write keeps both representations in agreement.** -/
theorem dual_write_keeps_agreement_iff {hashPassword : String → String → String}
    {start users : Users} {as : List UserAction} (agree : start.NamesAgree)
    (ran : run (modeStep hashPassword .dual) start as = some users) :
    Along (modeStep hashPassword .dual) start as Users.NamesAgree ↔
      StepsMeet (modeStep hashPassword .dual) start as fun users a => a.SpellsOneName users := by
  refine along_iff_stepsMeet (I := fun _ => True) ran trivial agree ?_ ?_ ?_
  · exact fun _ _ _ _ _ => trivial
  · exact fun users a users' _ agree spells moved => (namesAgree_step agree moved).mpr spells
  · intro users a users' _ agree violated moved after
    exact violated ((namesAgree_step agree moved).mp after)

/-- A legacy row goes through a batch and a PUT of its last name. -/
theorem batch_and_put_agree :
    Along (modeStep Sample.hashPassword .dual) Sample.oneAccount
      [.backfill 0 50 [], .update ⟨.dual, .legacy⟩ 5 1 Sample.newLastName] Users.NamesAgree := by
  obtain ⟨users, checked⟩ := Option.isSome_iff_exists.mp (show (checkedRun
    (modeStep Sample.hashPassword .dual) (fun users a => a.SpellsOneName users) Sample.oneAccount
    [.backfill 0 50 [], .update ⟨.dual, .legacy⟩ 5 1 Sample.newLastName]).isSome = true by
      decide +kernel)
  refine (dual_write_keeps_agreement_iff ?_ (run_of_checkedRun checked)).mpr
    (stepsMeet_of_checkedRun checked)
  decide +kernel

/-- A body with both shapes that `UserCreate` accepts stores two different names. -/
theorem mixed_body_disagrees : Users.empty.NamesAgree ∧ ∃ users,
    run (modeStep Sample.hashPassword .dual) Users.empty [Sample.mixedAction] = some users ∧
    ¬ users.NamesAgree :=
  ⟨by decide, Sample.mixedAccount, Sample.mixedAccount_run, by decide +kernel⟩

end TicketBooking
