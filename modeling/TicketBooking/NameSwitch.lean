import TicketBooking.StoredNames

/-!
# Before or after the switch

The name rule is implemented three times: in `resolve_names`, in `names_for` of the backfill and in
the split of `build_user_response`.  For a body whose only name field is `full_name` the three
agree: dual write stores what legacy write stores once a batch has been over it, and the switch of
the read source shows the same parts.
-/

namespace TicketBooking

open StepSystem

/-- The only name field of a body is `full_name`. -/
def Names.OnlyFullName (sent : Names) : Prop :=
  sent.fullName ≠ none ∧ sent.firstName = none ∧ sent.lastName = none

instance (sent : Names) : Decidable sent.OnlyFullName := inferInstanceAs (Decidable (_ ∧ _ ∧ _))

/-- The same parts, and the same full name up to whitespace. -/
def UserResponse.SameName (a b : UserResponse) : Prop :=
  a.firstName = b.firstName ∧ a.lastName = b.lastName ∧ spelled a.fullName = spelled b.fullName

section Columns

variable {full : String} {stored sent : Names} {fullName : Option String}

/-- `names_for` of a row that has a full name only. -/
theorem backfilled_of_full (full : String) : (Names.mk (some full) none none).backfilled =
    ⟨some full, some (splitFullName (some full)).1, some (splitFullName (some full)).2⟩ := by
  simp only [Names.backfilled, namesFor, Option.getD_none, if_true]

/-- The two implementations of the rule that write. -/
theorem resolveNames_only_full (cleaned : clean fullName = some full) :
    resolveNames fullName none none .legacy = ⟨some full, none, none⟩ ∧
    resolveNames fullName none none .dual = (Names.mk (some full) none none).backfilled := by
  rw [backfilled_of_full]
  simp only [resolveNames, cleaned, clean_none, derived_of_full, Option.getD_none, and_self]

/-- The split of `build_user_response` shows what the backfill stores. -/
theorem sameName_of_full (row : UserRow) (named : wordsOf full ≠ [])
    (onlyFull : row.toNames = ⟨some full, none, none⟩) :
    (buildUserResponse row .legacy).SameName (buildUserResponse row.backfilled .new) := by
  simp only [UserResponse.SameName, buildUserResponse, UserRow.backfilled, onlyFull,
    shown_of_full named, backfilled_of_full, shown_new, true_and]
  rw [spelled_truthy, wordsOf_joinNames, spelled_some, spelled_some, spelled_some]
  exact wordsOf_head_append full

/-- A PUT of a full name over a row without parts. -/
theorem updated_only_full (onlyFull : sent.OnlyFullName) (cleaned : clean sent.fullName = some full)
    (noParts : stored.firstName = none ∧ stored.lastName = none) (read read' : ReadSource) :
    stored.updated sent ⟨.legacy, read⟩ = ⟨some full, none, none⟩ ∧
    stored.updated sent ⟨.dual, read'⟩ = (Names.mk (some full) none none).backfilled := by
  obtain ⟨sendsFull, noFirst, noLast⟩ := onlyFull
  have something : sent ≠ ⟨none, none, none⟩ := fun nothing => sendsFull (by rw [nothing])
  have filled : ∀ includeLegacy, stored.filled sent includeLegacy = (none, none) := fun _ =>
    if_pos ⟨noFirst, noLast⟩
  rw [updated_eq something, updated_eq something, filled, filled, cleaned, clean_none,
    derived_of_full, backfilled_of_full]
  exact ⟨Names.ext rfl noParts.1 noParts.2, rfl⟩

end Columns

section Rows

variable {hashPassword : String → String → String}

/-- A registration before the switch. -/
theorem created_before_switch (userIn : UserCreate) (onlyFull : userIn.toNames.OnlyFullName)
    (draw : UserDraw) (read read' : ReadSource) :
    userIn.row hashPassword ⟨.dual, read'⟩ draw =
      (userIn.row hashPassword ⟨.legacy, read⟩ draw).backfilled ∧
    (buildUserResponse (userIn.row hashPassword ⟨.legacy, read⟩ draw) .legacy).SameName
      (buildUserResponse (userIn.row hashPassword ⟨.legacy, read⟩ draw).backfilled .new) := by
  obtain ⟨-, noFirst, noLast⟩ := onlyFull
  obtain ⟨full, cleaned⟩ : ∃ full, clean userIn.fullName = some full := by
    rcases userIn.name_presence with named | named
    · exact Option.ne_none_iff_exists'.mp named
    · rw [noFirst] at named
      exact absurd clean_none named
  obtain ⟨legacy, dual⟩ := resolveNames_only_full cleaned
  have legacyNames : (userIn.row hashPassword ⟨.legacy, read⟩ draw).toNames =
      ⟨some full, none, none⟩ := by
    rw [UserCreate.row, noFirst, noLast]
    exact legacy
  refine ⟨?_, sameName_of_full _ (wordsOf_ne_nil_of_clean cleaned) legacyNames⟩
  have dualNames : (userIn.row hashPassword ⟨.dual, read'⟩ draw).toNames =
      (userIn.row hashPassword ⟨.legacy, read⟩ draw).toNames.backfilled := by
    rw [legacyNames, UserCreate.row, noFirst, noLast]
    exact dual
  rw [UserRow.backfilled, ← dualNames]
  rfl

/-- A PUT that changes the row moves `updated_at`. -/
theorem UserRow.updated_of_ne {user : UserRow} {userIn : UserUpdate} {flags : Flags} (now : ℤ)
    (changed : user.toNames.updated userIn.toNames flags ≠ user.toNames) :
    user.updated userIn flags now = { user with
      toNames := user.toNames.updated userIn.toNames flags
      email := userIn.email.getD user.email
      updatedAt := now } := by
  rw [UserRow.updated, if_neg]
  intro same
  exact changed (congrArg UserRow.toNames same)

/-- A PUT that stores anything moves `updated_at`. -/
theorem UserRow.updatedAt_of_stored {user : UserRow} {userIn : UserUpdate} {flags : Flags} {now : ℤ}
    (stored : user.updated userIn flags now ≠ user) :
    (user.updated userIn flags now).updatedAt = now := by
  rw [UserRow.updated] at stored ⊢
  split at stored
  case isTrue => exact absurd rfl stored
  case isFalse changed => rw [if_neg changed]

/-- A PUT before the switch, on a row without parts.  The legacy PUT of the very name that is stored
does not store anything, so `updated_at` stays behind. -/
theorem updated_before_switch {user : UserRow} (userIn : UserUpdate)
    (onlyFull : userIn.toNames.OnlyFullName)
    (noParts : user.firstName = none ∧ user.lastName = none) (now : ℤ) (read read' : ReadSource) :
    user.updated userIn ⟨.dual, read'⟩ now =
      { (user.updated userIn ⟨.legacy, read⟩ now).backfilled with updatedAt := now } ∧
    (user.updated userIn ⟨.legacy, read⟩ now ≠ user →
      user.updated userIn ⟨.dual, read'⟩ now =
        (user.updated userIn ⟨.legacy, read⟩ now).backfilled) ∧
    (buildUserResponse (user.updated userIn ⟨.legacy, read⟩ now) .legacy).SameName
      (buildUserResponse (user.updated userIn ⟨.legacy, read⟩ now).backfilled .new) := by
  obtain ⟨full, cleaned⟩ := Option.ne_none_iff_exists'.mp (userIn.fullName_not_blank onlyFull.1)
  obtain ⟨legacy, dual⟩ := updated_only_full onlyFull cleaned noParts read read'
  have changed : user.toNames.updated userIn.toNames ⟨.dual, read'⟩ ≠ user.toNames := by
    intro same
    rw [dual, backfilled_of_full] at same
    have noFirst := congrArg Names.firstName same
    rw [noParts.1] at noFirst
    cases noFirst
  have rows : user.updated userIn ⟨.dual, read'⟩ now =
      { (user.updated userIn ⟨.legacy, read⟩ now).backfilled with updatedAt := now } := by
    obtain ⟨updatedAt, legacyRow⟩ := user.updated_eq userIn ⟨.legacy, read⟩ now
    rw [UserRow.updated_of_ne now changed, legacyRow, UserRow.backfilled, dual, legacy]
  refine ⟨rows, fun stored => ?_, ?_⟩
  · have kept : ∀ row : UserRow, row.updatedAt = now → { row with updatedAt := now } = row := by
      rintro row rfl
      rfl
    exact rows.trans (kept _ (UserRow.updatedAt_of_stored stored))
  · exact sameName_of_full _ (wordsOf_ne_nil_of_clean cleaned)
      (UserRow.updated_toNames.trans legacy)

end Rows

/-- **Signing up before or after the switch makes no difference.** -/
theorem switch_unnoticed {hashPassword : String → String → String} {start users : Users}
    {as : List UserAction} (paired : ∀ row ∈ start.rows, row.toNames.Paired)
    (ran : run (userStep hashPassword) start as = some users) (read read' : ReadSource) :
    (∀ userIn : UserCreate, userIn.toNames.OnlyFullName → ∀ draw,
      userIn.row hashPassword ⟨.dual, read'⟩ draw =
        (userIn.row hashPassword ⟨.legacy, read⟩ draw).backfilled ∧
      (buildUserResponse (userIn.row hashPassword ⟨.legacy, read⟩ draw) .legacy).SameName
        (buildUserResponse (userIn.row hashPassword ⟨.legacy, read⟩ draw).backfilled .new)) ∧
    ∀ user ∈ users.rows, user.toNames.NeedsBackfill →
      ∀ userIn : UserUpdate, userIn.toNames.OnlyFullName → ∀ now,
      user.updated userIn ⟨.dual, read'⟩ now =
        { (user.updated userIn ⟨.legacy, read⟩ now).backfilled with updatedAt := now } ∧
      (user.updated userIn ⟨.legacy, read⟩ now ≠ user →
        user.updated userIn ⟨.dual, read'⟩ now =
          (user.updated userIn ⟨.legacy, read⟩ now).backfilled) ∧
      (buildUserResponse (user.updated userIn ⟨.legacy, read⟩ now) .legacy).SameName
        (buildUserResponse (user.updated userIn ⟨.legacy, read⟩ now).backfilled .new) := by
  constructor
  · intro userIn onlyFull draw
    exact created_before_switch userIn onlyFull draw read read'
  · intro user mem needs userIn onlyFull now
    have noParts := (paired_invariant.run ran paired user mem).parts_missing needs
    exact updated_before_switch userIn onlyFull noParts now read read'

/-- A PUT of another full name on a row that no batch has seen. -/
theorem rename_switch_unnoticed :
    Sample.annRow.updated Sample.rename ⟨.dual, .new⟩ 5 =
      (Sample.annRow.updated Sample.rename ⟨.legacy, .legacy⟩ 5).backfilled ∧
    (buildUserResponse (Sample.annRow.updated Sample.rename ⟨.legacy, .legacy⟩ 5)
        .legacy).SameName
      (buildUserResponse (Sample.annRow.updated Sample.rename ⟨.legacy, .legacy⟩ 5).backfilled
        .new) := by
  have noRows : ∀ row ∈ Users.empty.rows, row.toNames.Paired := fun row mem => by cases mem
  have mem : Sample.annRow ∈ Sample.oneAccount.rows := by decide +kernel
  have needs : Sample.annRow.toNames.NeedsBackfill := by decide +kernel
  have onlyFull : Sample.rename.toNames.OnlyFullName := by decide +kernel
  obtain ⟨-, rows, shown⟩ := (switch_unnoticed noRows Sample.oneAccount_run .legacy .new).2
    Sample.annRow mem needs Sample.rename onlyFull 5
  exact ⟨rows (by decide +kernel), shown⟩

end TicketBooking
