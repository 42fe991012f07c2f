import TicketBooking.PartialUpdates
import TicketBooking.StoredNames

/-!
# A PUT of one part, seen in the responses

A PUT that sends one part of a name fills the other one from the new columns, from a split of
`full_name`, or leaves it to `resolve_names`.  On a row with parts the other part is shown as
before, whatever the flags are.  On a row that is not backfilled it depends on the flags and on the
words of the two names, as `Names.KeepsUnsent` says.
-/

namespace TicketBooking

open StepSystem

/-- What a response shows for the part that was not sent; null is blank. -/
def Names.unsent (sent shown : Names) : String :=
  (if sent.firstName = none then shown.firstName else shown.lastName).getD ""

/-- When the part that is not sent is shown as before: the row has parts, or the flags and the words
of the names allow it. -/
def Names.KeepsUnsent (stored sent : Names) (flags : Flags) : Prop :=
  stored.firstName = none →
  match flags.write, flags.read with
  | .legacy, .legacy => (spelled sent.firstName).length ≤ 1
  | .dual, .new => sent.lastName = none ∧ (spelled stored.fullName).length ≤ 1
  | .new, .new => spelled sent.lastName = []
  | .legacy, .new | .dual, .legacy | .new, .legacy => True

/-- The two kinds of bodies. -/
theorem UserUpdate.SendsOnePart.cases {userIn : UserUpdate} (onePart : userIn.SendsOnePart) :
    (∃ first s, userIn.toNames = ⟨none, some first, none⟩ ∧ clean (some first) = some s) ∨
    ∃ last, userIn.toNames = ⟨none, none, some last⟩ := by
  obtain ⟨noFull, onlyOne⟩ := onePart
  cases sentFirst : userIn.firstName with
  | some first =>
    left
    have noLast : userIn.lastName = none := by
      by_contra sentLast
      rw [sentFirst] at onlyOne
      cases onlyOne.mpr sentLast
    have named := userIn.firstName_not_blank (by rw [sentFirst]; exact Option.some_ne_none first)
    rw [sentFirst] at named
    obtain ⟨s, cleaned⟩ := Option.ne_none_iff_exists'.mp named
    exact ⟨first, s, Names.ext noFull sentFirst noLast, cleaned⟩
  | none =>
    right
    obtain ⟨last, sentLast⟩ := Option.ne_none_iff_exists'.mp (onlyOne.mp sentFirst)
    exact ⟨last, Names.ext noFull sentFirst sentLast⟩

section Put

variable {stored : Names} {flags : Flags} {full first last s : String}

/-- A PUT of the first name. -/
theorem updated_first (cleaned : clean (some first) = some s) {x : Option String}
    (filled : (stored.filled ⟨none, some first, none⟩ flags.includeLegacy).2 = x) :
    stored.updated ⟨none, some first, none⟩ flags = stored.overwritten
      ⟨some (joinNames (some s) (clean x)), some s, some ((clean x).getD "")⟩ flags.write := by
  obtain ⟨stripped, nonempty, -⟩ := clean_spec cleaned
  have sent : (stored.filled ⟨none, some first, none⟩ flags.includeLegacy).1 = some first := by
    rw [Names.filled, if_neg (by simp)]
    rfl
  rw [updated_eq (by simp), sent, filled, clean_none, cleaned, derived_of_first stripped nonempty]

/-- A PUT of the last name, where a first name is read. -/
theorem updated_last {y : Option String} (cleaned : clean y = some s)
    (filled : (stored.filled ⟨none, none, some last⟩ flags.includeLegacy).1 = y) :
    stored.updated ⟨none, none, some last⟩ flags = stored.overwritten
      ⟨some (joinNames (some s) (clean (some last))), some s, some (strip last)⟩ flags.write := by
  obtain ⟨stripped, nonempty, -⟩ := clean_spec cleaned
  have sent : (stored.filled ⟨none, none, some last⟩ flags.includeLegacy).2 = some last := by
    rw [Names.filled, if_neg (by simp)]
    rfl
  rw [updated_eq (by simp), sent, filled, clean_none, cleaned, derived_of_first stripped nonempty,
    clean_getD]

/-- A row with parts, as both read sources show it. -/
theorem unsent_parts {names : Names} (hasFirst : names.firstName = some s) (sent : Names)
    (read : ReadSource) : sent.unsent (names.shown read) =
      if sent.firstName = none then s else names.lastName.getD "" := by
  obtain ⟨shownFirst, shownLast⟩ := shown_parts hasFirst read
  rw [Names.unsent, shownFirst, shownLast]
  split <;> rfl

/-- On a row with parts the part that is not sent stays. -/
theorem unsent_kept {fullName : Option String} (cleanFirst : clean (some first) = some first)
    (stripped : strip last = last) {userIn : UserUpdate} (onePart : userIn.SendsOnePart)
    (flags : Flags) : userIn.toNames.unsent (((Names.mk fullName (some first) (some last)).updated
      userIn.toNames flags).shown flags.read) =
    userIn.toNames.unsent ((Names.mk fullName (some first) (some last)).shown flags.read) := by
  rw [unsent_parts (show (Names.mk fullName (some first) (some last)).firstName = _ from rfl)]
  rcases onePart.cases with ⟨new, s, sent, cleaned⟩ | ⟨new, sent⟩
  · have kept : (clean (some last)).getD "" = last := by rw [clean_getD, stripped]
    rw [sent, updated_first cleaned (by rw [filled_of_first (by simp) rfl]), Option.none_or, kept]
    cases flags.write with
    | legacy | dual | new =>
      rw [unsent_parts rfl]
      rfl
  · rw [sent, updated_last cleanFirst (by rw [filled_of_first (by simp) rfl]; rfl)]
    cases flags.write with
    | legacy | dual | new =>
      rw [unsent_parts rfl]
      rfl

/-! ### Rows that are not backfilled -/

theorem filled_of_legacy (cleanFull : clean (some full) = some full) {sent : Names}
    (sends : ¬ (sent.firstName = none ∧ sent.lastName = none)) :
    (Names.mk (some full) none none).filled sent true =
      (sent.firstName.or (some (splitFullName (some full)).1),
        sent.lastName.or (some (splitFullName (some full)).2)) :=
  filled_of_full sends rfl (truthy_of_ne (clean_eq_self_iff.mp cleanFull).2)

theorem tail_eq_empty_iff (cleanFull : clean (some full) = some full) :
    (splitFullName (some full)).2 = "" ↔ (wordsOf full).length ≤ 1 := by
  have spelt := words_splitFullName (wordsOf_ne_nil_of_clean cleanFull)
  have empty : (splitFullName (some full)).2 = "" ↔ wordsOf (splitFullName (some full)).2 = [] := by
    rw [← strip_eq_empty, strip_tail]
  rw [empty, spelt, List.length_cons, ← List.length_eq_zero_iff]
  omega

/-- A first name of two or more words pushes all but one of them into the last name. -/
theorem tail_joinNames_iff (cleaned : clean (some s) = some s) (stripped : strip last = last) :
    (splitFullName (some (joinNames (some s) (some last)))).2 = last ↔ (wordsOf s).length ≤ 1 := by
  constructor
  · intro same
    have joinedNamed : wordsOf (joinNames (some s) (some last)) ≠ [] :=
      wordsOf_ne_nil_of_clean (clean_joinNames cleaned (some last))
    have count := congrArg List.length (words_splitFullName joinedNamed)
    rw [same, wordsOf_joinNames, List.length_append, List.length_cons, spelled_some,
      spelled_some] at count
    omega
  · intro oneWord
    rw [splitFullName_joinNames cleaned oneWord, clean_getD, stripped]

/-- A row with a full name only, as both read sources show it. -/
theorem unsent_shown (named : wordsOf full ≠ []) (sent : Names) (read : ReadSource) :
    sent.unsent ((Names.mk (some full) none none).shown read) =
      match read with
      | .legacy => if sent.firstName = none then (splitFullName (some full)).1
        else (splitFullName (some full)).2
      | .new => "" := by
  cases read with
  | legacy =>
    rw [shown_of_full named, Names.unsent]
    split <;> rfl
  | new =>
    rw [shown_new, Names.unsent]
    split <;> rfl

/-- A PUT of the first name. -/
theorem unsent_last_iff (cleanFull : clean (some full) = some full)
    (cleaned : clean (some first) = some s) (flags : Flags) :
    Names.unsent ⟨none, some first, none⟩ (((Names.mk (some full) none none).updated
      ⟨none, some first, none⟩ flags).shown flags.read) = Names.unsent ⟨none, some first, none⟩
      ((Names.mk (some full) none none).shown flags.read) ↔
    (Names.mk (some full) none none).KeepsUnsent ⟨none, some first, none⟩ flags := by
  have named := wordsOf_ne_nil_of_clean cleanFull
  have cleanS : clean (some s) = some s := by rw [← cleaned, clean_clean]
  have words : wordsOf s = wordsOf first := (clean_spec cleaned).2.2.symm
  have kept : (clean (some (splitFullName (some full)).2)).getD "" =
      (splitFullName (some full)).2 := by
    rw [clean_getD, strip_tail]
  have read : ∀ includeLegacy, includeLegacy = true → ((Names.mk (some full) none none).filled
      ⟨none, some first, none⟩ includeLegacy).2 = some (splitFullName (some full)).2 :=
    fun _ legacy => by rw [legacy, filled_of_legacy cleanFull (by simp)]; rfl
  rw [unsent_shown named]
  obtain ⟨write, source⟩ := flags
  cases write with
  | legacy =>
    have joinedNamed : wordsOf (joinNames (some s)
        (clean (some (splitFullName (some full)).2))) ≠ [] :=
      wordsOf_ne_nil_of_clean (clean_joinNames cleanS _)
    rw [updated_first cleaned (read _ (by cases source <;> rfl))]
    dsimp only [Names.overwritten]
    rw [unsent_shown joinedNamed]
    cases source with
    | new => simp [Names.KeepsUnsent]
    | legacy =>
      have joined : joinNames (some s) (clean (some (splitFullName (some full)).2)) =
          joinNames (some s) (some (splitFullName (some full)).2) := by
        rw [joinNames_eq, joinNames_eq, clean_clean]
      simp only [Names.KeepsUnsent, reduceCtorEq, if_false, true_implies, spelled_some]
      rw [joined, tail_joinNames_iff cleanS (strip_tail full), words]
  | dual =>
    rw [updated_first cleaned (read _ (by cases source <;> rfl)), kept, unsent_parts rfl]
    cases source with
    | legacy => simp [Names.KeepsUnsent, Names.overwritten]
    | new => simp [Names.KeepsUnsent, Names.overwritten, tail_eq_empty_iff cleanFull]
  | new =>
    cases source with
    | legacy =>
      rw [updated_first cleaned (read _ rfl), kept, unsent_parts rfl]
      simp [Names.KeepsUnsent, Names.overwritten]
    | new =>
      -- with both flags at `new` nothing of the row is read
      rw [updated_first cleaned rfl, unsent_parts rfl]
      exact iff_of_true rfl fun _ => rfl

/-- A PUT of the last name with both flags at `new`: there is no first name to read. -/
theorem updated_last_unread (full last : String) :
    (Names.mk (some full) none none).updated ⟨none, none, some last⟩ ⟨.new, .new⟩ =
      match clean (some last) with
      | none => ⟨some full, none, none⟩
      | some l => ⟨some full, some (splitFullName (some l)).1, some l⟩ := by
  have unread : (Names.mk (some full) none none).filled ⟨none, none, some last⟩
      (Flags.includeLegacy ⟨.new, .new⟩) = (none, some last) := rfl
  rw [updated_eq (by simp), unread, clean_none]
  cases cleanLast : clean (some last) with
  | none => rfl
  | some l =>
    obtain ⟨stripped, nonempty, -⟩ := clean_spec cleanLast
    dsimp only
    rw [derived_of_last stripped nonempty]
    rfl

/-- A PUT of the last name. -/
theorem unsent_first_iff (cleanFull : clean (some full) = some full) (flags : Flags) :
    Names.unsent ⟨none, none, some last⟩ (((Names.mk (some full) none none).updated
      ⟨none, none, some last⟩ flags).shown flags.read) = Names.unsent ⟨none, none, some last⟩
      ((Names.mk (some full) none none).shown flags.read) ↔
    (Names.mk (some full) none none).KeepsUnsent ⟨none, none, some last⟩ flags := by
  have named := wordsOf_ne_nil_of_clean cleanFull
  have cleanHead := clean_head named
  have oneWord : (wordsOf (splitFullName (some full)).1).length ≤ 1 := by
    rw [wordsOf_head named]
    exact le_rfl
  have nonempty : (splitFullName (some full)).1 ≠ "" := (clean_eq_self_iff.mp cleanHead).2
  have read : ∀ includeLegacy, includeLegacy = true → ((Names.mk (some full) none none).filled
      ⟨none, none, some last⟩ includeLegacy).1 = some (splitFullName (some full)).1 :=
    fun _ legacy => by rw [legacy, filled_of_legacy cleanFull (by simp)]; rfl
  rw [unsent_shown named]
  obtain ⟨write, source⟩ := flags
  cases write with
  | legacy =>
    have joinedNamed : wordsOf (joinNames (some (splitFullName (some full)).1)
        (clean (some last))) ≠ [] := wordsOf_ne_nil_of_clean (clean_joinNames cleanHead _)
    rw [updated_last cleanHead (read _ (by cases source <;> rfl))]
    dsimp only [Names.overwritten]
    rw [unsent_shown joinedNamed]
    cases source with
    | new => simp [Names.KeepsUnsent]
    | legacy => simp [Names.KeepsUnsent, splitFullName_joinNames cleanHead oneWord]
  | dual =>
    rw [updated_last cleanHead (read _ (by cases source <;> rfl)), unsent_parts rfl]
    cases source with
    | legacy => simp [Names.KeepsUnsent]
    | new => simp [Names.KeepsUnsent, nonempty]
  | new =>
    cases source with
    | legacy =>
      rw [updated_last cleanHead (read _ rfl), unsent_parts rfl]
      simp [Names.KeepsUnsent]
    | new =>
      have keeps : (Names.mk (some full) none none).KeepsUnsent ⟨none, none, some last⟩
          ⟨.new, .new⟩ ↔ clean (some last) = none := by
        rw [clean_eq_none]
        exact ⟨fun keeps => keeps rfl, fun blank _ => blank⟩
      rw [keeps, updated_last_unread]
      cases cleanLast : clean (some last) with
      | none => exact iff_of_true rfl rfl
      | some l =>
        -- the last name has become the first name too
        have headNonempty : (splitFullName (some l)).1 ≠ "" :=
          (clean_eq_self_iff.mp (clean_head (wordsOf_ne_nil_of_clean cleanLast))).2
        rw [unsent_parts rfl]
        exact iff_of_false headNonempty (Option.some_ne_none l)

end Put

/-- **When a PUT of one part keeps the other.** -/
theorem unsent_part_kept_iff {hashPassword : String → String → String} {users seen users' : Users}
    {as : List UserAction} (ran : run (userStep hashPassword) Users.empty as = some users)
    {flags : Flags} {now : ℤ} {userId : ℕ} {user : UserRow} {userIn : UserUpdate}
    {response : UserResponse} (found : users.find userId = some user)
    (onePart : userIn.SendsOnePart)
    (updated : updateUser flags now seen users userId userIn = .ok (response, users')) :
    userIn.toNames.unsent response.toNames =
        userIn.toNames.unsent (buildUserResponse user flags.read).toNames ↔
      user.toNames.KeepsUnsent userIn.toNames flags := by
  have written : user.toNames.AsWritten := asWritten_invariant.run ran (fun row mem => by cases mem)
    user (Users.find_eq_some_iff.mp found).1
  obtain ⟨user', found', -, rfl⟩ := updateUser_ok updated
  cases found.symm.trans found'
  simp only [buildUserResponse, UserRow.updated_toNames]
  generalize user.toNames = stored at written ⊢
  cases written with
  | full cleanFull =>
    rcases onePart.cases with ⟨first, s, sent, cleaned⟩ | ⟨last, sent⟩
    · rw [sent]
      exact unsent_last_iff cleanFull cleaned flags
    · rw [sent]
      exact unsent_first_iff cleanFull flags
  | parts _ cleanFirst stripped =>
    refine iff_of_true (unsent_kept cleanFirst stripped onePart flags) fun noFirst => ?_
    cases noFirst

/-- Ann's PUT of her last name, before the backfill has seen her row. -/
theorem first_name_shown_as_before : ∃ response users',
    updateUser ⟨.dual, .legacy⟩ 5 Sample.oneAccount Sample.oneAccount 1 Sample.newLastName =
      .ok (response, users') ∧
    Sample.newLastName.toNames.unsent response.toNames =
      Sample.newLastName.toNames.unsent (buildUserResponse Sample.annRow .legacy).toNames := by
  obtain ⟨⟨response, users'⟩, updated⟩ := Fallible.exists_ok_of_isSome
    (show (updateUser ⟨.dual, .legacy⟩ 5 Sample.oneAccount Sample.oneAccount 1
      Sample.newLastName).toOption.isSome = true by decide +kernel)
  refine ⟨response, users', updated, ?_⟩
  refine (unsent_part_kept_iff Sample.oneAccount_run ?_ ?_ updated).mpr fun _ => trivial
  · decide +kernel
  · decide +kernel

/-- With both flags at `new` the last name that a PUT sends becomes the first name as well; in the
legacy phase a first name of two words leaves one of them to the last name. -/
theorem unsent_part_changes : ∃ first second users' users'',
    run (userStep Sample.hashPassword) Users.empty [Sample.annAction] = some Sample.oneAccount ∧
    Sample.oneAccount.find 1 = some Sample.annRow ∧
    Sample.newLastName.SendsOnePart ∧ Sample.newFirstName.SendsOnePart ∧
    updateUser ⟨.new, .new⟩ 5 Sample.oneAccount Sample.oneAccount 1 Sample.newLastName =
      .ok (first, users') ∧
    Sample.newLastName.toNames.unsent first.toNames ≠
      Sample.newLastName.toNames.unsent (buildUserResponse Sample.annRow .new).toNames ∧
    updateUser ⟨.legacy, .legacy⟩ 5 Sample.oneAccount Sample.oneAccount 1 Sample.newFirstName =
      .ok (second, users'') ∧
    Sample.newFirstName.toNames.unsent second.toNames ≠
      Sample.newFirstName.toNames.unsent (buildUserResponse Sample.annRow .legacy).toNames := by
  have found : Sample.oneAccount.find 1 = some Sample.annRow := by decide +kernel
  obtain ⟨⟨first, users'⟩, putLast⟩ := Fallible.exists_ok_of_isSome
    (show (updateUser ⟨.new, .new⟩ 5 Sample.oneAccount Sample.oneAccount 1
      Sample.newLastName).toOption.isSome = true by decide +kernel)
  obtain ⟨⟨second, users''⟩, putFirst⟩ := Fallible.exists_ok_of_isSome
    (show (updateUser ⟨.legacy, .legacy⟩ 5 Sample.oneAccount Sample.oneAccount 1
      Sample.newFirstName).toOption.isSome = true by decide +kernel)
  refine ⟨first, second, users', users'', Sample.oneAccount_run, found, by decide +kernel,
    by decide +kernel, putLast, ?_, putFirst, ?_⟩
  · obtain ⟨user, found', -, rfl⟩ := updateUser_ok putLast
    cases found.symm.trans found'
    decide +kernel
  · obtain ⟨user, found', -, rfl⟩ := updateUser_ok putFirst
    cases found.symm.trans found'
    decide +kernel

end TicketBooking
