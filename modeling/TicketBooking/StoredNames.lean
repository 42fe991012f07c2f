import TicketBooking.NameMigration

/-!
# What the name columns hold

Every write goes through `resolve_names` or `names_for`.  `NameInvariant` packages the induction
over the runs of `userStep`: what holds of the columns after each kind of write holds of every row
of every table reached.  Two invariants follow: the parts are stored together (`Names.Paired`), and
every stored value is stripped (`Names.AsWritten`).
-/

namespace TicketBooking

open StepSystem Words

/-! ## Stripped values -/

section Stripped

variable {s f g l : String} {value : Option String}

theorem strip_eq_self_iff : strip s = s ↔ trim isSpace s.toList = s.toList := by
  rw [← String.toList_inj, toList_strip]

theorem clean_eq_self_iff : clean (some s) = some s ↔ strip s = s ∧ s ≠ "" := by
  constructor
  · intro cleaned
    obtain ⟨stripped, nonempty, -⟩ := clean_spec cleaned
    exact ⟨stripped, nonempty⟩
  · intro ⟨stripped, nonempty⟩
    exact clean_of_strip stripped nonempty

@[simp] theorem strip_empty : strip "" = "" := rfl

theorem toList_strip_eq (stripped : strip s = s) : trim isSpace s.toList = s.toList :=
  strip_eq_self_iff.mp stripped

/-- The first word of a name is stripped. -/
theorem strip_head (s : String) :
    strip (splitFullName (some s)).1 = (splitFullName (some s)).1 := by
  rw [strip_eq_self_iff]
  apply trim_of_forall_not
  rw [splitFullName_some, String.toList_ofList]
  exact solid_splitFirst

/-- The rest of a name is stripped. -/
theorem strip_tail (s : String) :
    strip (splitFullName (some s)).2 = (splitFullName (some s)).2 := by
  rw [strip_eq_self_iff, splitFullName_some, String.toList_ofList]
  exact trim_splitFirst (strip_eq_self_iff.mp (strip_strip s))

theorem clean_head (named : wordsOf s ≠ []) :
    clean (some (splitFullName (some s)).1) = some (splitFullName (some s)).1 := by
  refine clean_of_strip (strip_head s) fun empty => wordsOf_head_ne_nil named ?_
  rw [empty]
  rfl

/-- Parts joined are a name again. -/
theorem clean_joinNames (cleaned : clean (some f) = some f) (last : Option String) :
    clean (some (joinNames (some f) last)) = some (joinNames (some f) last) := by
  rw [joinNames_eq, cleaned]
  cases lastCleaned : clean last with
  | none => exact cleaned
  | some b =>
    obtain ⟨strippedF, nonemptyF⟩ := clean_eq_self_iff.mp cleaned
    obtain ⟨strippedB, nonemptyB, -⟩ := clean_spec lastCleaned
    have chars : (f ++ " " ++ b).toList = f.toList ++ ' ' :: b.toList := by
      rw [String.toList_append, String.toList_append, List.append_assoc]
      rfl
    refine clean_eq_self_iff.mpr ⟨?_, ?_⟩
    · rw [strip_eq_self_iff, chars]
      apply trim_append_cons ' ' (toList_strip_eq strippedF) (toList_strip_eq strippedB)
      · exact fun empty => nonemptyF (toList_eq_nil.mp empty)
      · exact fun empty => nonemptyB (toList_eq_nil.mp empty)
    · intro empty
      rw [← toList_eq_nil, chars] at empty
      simp at empty

/-- A stripped name of one word is its own first word. -/
theorem solid_of_one_word (cleaned : clean (some f) = some f) (oneWord : (wordsOf f).length ≤ 1) :
    ∀ c ∈ f.toList, isSpace c = false := by
  obtain ⟨stripped, -⟩ := clean_eq_self_iff.mp cleaned
  have spelt := words_splitFullName (wordsOf_ne_nil_of_clean cleaned)
  have noRest : wordsOf (splitFullName (some f)).2 = [] := by
    rw [spelt, List.length_cons] at oneWord
    exact List.length_eq_zero_iff.mp (by omega)
  rw [← strip_eq_empty, strip_tail, splitFullName_some, stripped, ← toList_eq_nil,
    String.toList_ofList] at noRest
  have whole := splitFirst_of_rest_eq_nil (toList_strip_eq stripped) noRest
  exact (splitFirst_of_eq whole).2

/-- A name without white space is its own first word. -/
theorem splitFullName_of_solid (solid : ∀ c ∈ f.toList, isSpace c = false) :
    splitFullName (some f) = (f, "") := by
  have stripped : strip f = f := strip_eq_self_iff.mpr (trim_of_forall_not solid)
  rw [splitFullName_some, stripped, splitFirst_of_forall_not solid, String.ofList_toList]

/-- Splitting undoes joining, where the first name is one word. -/
theorem splitFullName_joinNames (cleaned : clean (some f) = some f)
    (oneWord : (wordsOf f).length ≤ 1) (last : Option String) :
    splitFullName (some (joinNames (some f) last)) = (f, (clean last).getD "") := by
  have solid := solid_of_one_word cleaned oneWord
  obtain ⟨joined, -⟩ := clean_eq_self_iff.mp (clean_joinNames cleaned last)
  cases cleanLast : clean last with
  | none =>
    rw [joinNames_eq, cleaned, cleanLast]
    exact splitFullName_of_solid solid
  | some b =>
    obtain ⟨stripped, -, -⟩ := clean_spec cleanLast
    have chars : (f ++ " " ++ b).toList = f.toList ++ ' ' :: b.toList := by
      rw [String.toList_append, String.toList_append, List.append_assoc]
      rfl
    have rest : b.toList.dropWhile isSpace = b.toList := dropWhile_of_strip stripped
    rw [splitFullName_some, joined, joinNames_eq, cleaned, cleanLast]
    rw [chars, splitFirst_append_cons b.toList solid (by decide)]
    dsimp only
    rw [rest, String.ofList_toList, String.ofList_toList]
    rfl

end Stripped

/-! ## Responses -/

section Shown

variable {names : Names} {full first : String}

theorem shown_of_full (named : wordsOf full ≠ []) : (Names.mk (some full) none none).shown .legacy =
    ⟨some full, some (splitFullName (some full)).1, some (splitFullName (some full)).2⟩ := by
  obtain ⟨full', -, same, shown⟩ := shown_of_notMigrated
    (show (Names.mk (some full) none none).NotMigrated from ⟨rfl, rfl, named⟩)
  cases same
  exact shown

theorem shown_parts (hasFirst : names.firstName = some first) (read : ReadSource) :
    (names.shown read).firstName = some first ∧
    (names.shown read).lastName = names.lastName := by
  cases read with
  | new => exact ⟨hasFirst, rfl⟩
  | legacy =>
    simp only [Names.shown, hasFirst, and_self]

end Shown

/-! ## Invariants of the columns -/

/-- `P` holds after every write, given that it held of the row before. -/
structure NameInvariant (P : Names → Prop) : Prop where
  created : ∀ (userIn : UserCreate) (mode : WriteMode),
    P (resolveNames userIn.fullName userIn.firstName userIn.lastName mode)
  updated : ∀ {stored : Names} (userIn : UserUpdate) (flags : Flags),
    P stored → P (stored.updated userIn.toNames flags)
  backfilled : ∀ {stored : Names}, stored.NeedsBackfill → P stored → P stored.backfilled

section Invariant

variable {P : Names → Prop} {hashPassword : String → String → String}

theorem NameInvariant.step (invariant : NameInvariant P) {users users' : Users} {a : UserAction}
    (moved : userStep hashPassword users a = some users')
    (before : ∀ row ∈ users.rows, P row.toNames) : ∀ row ∈ users'.rows, P row.toNames := by
  intro row mem
  rcases (userStep_rows moved).mp mem with written | ⟨old, -⟩
  · cases a with
    | create flags draw userIn =>
      rw [List.mem_singleton.mp written]
      exact invariant.created userIn flags.write
    | update flags now userId userIn =>
      obtain ⟨user, found, rfl⟩ := List.mem_map.mp written
      have inTable := (Users.find_eq_some_iff.mp (Option.mem_toList.mp found)).1
      rw [UserRow.updated_toNames]
      exact invariant.updated userIn flags (before user inTable)
    | backfill lastId batchSize locked =>
      obtain ⟨user, taken, rfl⟩ := List.mem_map.mp written
      obtain ⟨inTable, needs⟩ := Users.mem_batch taken
      exact invariant.backfilled needs (before user inTable)
  · exact before row old

theorem NameInvariant.run (invariant : NameInvariant P) {start users : Users}
    {as : List UserAction} (ran : run (userStep hashPassword) start as = some users)
    (before : ∀ row ∈ start.rows, P row.toNames) : ∀ row ∈ users.rows, P row.toNames :=
  run_invariant (P := fun users => ∀ row ∈ users.rows, P row.toNames) ran before
    fun _ _ _ holds moved => invariant.step moved holds

end Invariant

/-! ## What `resolve_names` and `names_for` hand over -/

/-- The columns hold no padding: a full name alone, or parts with or without a full name. -/
inductive Names.AsWritten : Names → Prop
  | full {full : String} : clean (some full) = some full → AsWritten ⟨some full, none, none⟩
  | parts {fullName : Option String} {first last : String} : clean fullName = fullName →
    clean (some first) = some first → strip last = last →
    AsWritten ⟨fullName, some first, some last⟩

section Derived

variable {fullName firstName lastName : Option String}

/-- `derived` finds every representation, or there is no name at all. -/
theorem derived_written (fullName firstName lastName : Option String) :
    (∃ full first last, derived (clean fullName) (clean firstName) (clean lastName) =
        ⟨some full, some first, some last⟩ ∧ clean (some full) = some full ∧
      clean (some first) = some first ∧ strip last = last) ∨
    derived (clean fullName) (clean firstName) (clean lastName) = ⟨none, none, none⟩ ∧
      clean fullName = none ∧ clean firstName = none ∧ clean lastName = none := by
  have cleaned : ∀ {value : Option String} {s}, clean value = some s → clean (some s) = some s :=
    fun {value s} isSome => by rw [← isSome, clean_clean]
  have strippedLast : ∀ {s}, strip s = s →
      strip ((clean lastName).getD s) = (clean lastName).getD s := by
    intro s stripped
    cases cleanLast : clean lastName with
    | none => exact stripped
    | some l => exact (clean_spec cleanLast).1
  cases cleanFull : clean fullName with
  | some full =>
    have named := wordsOf_ne_nil_of_clean cleanFull
    cases cleanFirst : clean firstName with
    | none =>
      rw [derived_of_full]
      exact .inl ⟨_, _, _, rfl, cleaned cleanFull, clean_head named, strippedLast (strip_tail full)⟩
    | some first =>
      cases cleanLast : clean lastName with
      | none =>
        rw [derived_of_full_first]
        refine .inl ⟨_, _, _, rfl, cleaned cleanFull, cleaned cleanFirst, ?_⟩
        split
        case isTrue => exact strip_tail full
        case isFalse => exact strip_empty
      | some last =>
        rw [derived_of_all]
        exact .inl ⟨_, _, _, rfl, cleaned cleanFull, cleaned cleanFirst, (clean_spec cleanLast).1⟩
  | none =>
    cases cleanFirst : clean firstName with
    | some first =>
      obtain ⟨stripped, nonempty, -⟩ := clean_spec cleanFirst
      rw [derived_of_first stripped nonempty]
      exact .inl ⟨_, _, _, rfl, clean_joinNames (cleaned cleanFirst) _, cleaned cleanFirst,
        strippedLast strip_empty⟩
    | none =>
      cases cleanLast : clean lastName with
      | some last =>
        obtain ⟨stripped, nonempty, -⟩ := clean_spec cleanLast
        rw [derived_of_last stripped nonempty]
        exact .inl ⟨_, _, _, rfl, cleaned cleanLast,
          clean_head (wordsOf_ne_nil_of_clean cleanLast), stripped⟩
      | none => exact .inr ⟨derived_of_none, rfl, rfl, rfl⟩

end Derived

section Columns

variable {stored sent : Names} {fullName firstName lastName : Option String} {flags : Flags}

theorem overwritten_paired (paired : stored.Paired) (mode : WriteMode) : (stored.overwritten
    (derived (clean fullName) (clean firstName) (clean lastName)) mode).Paired := by
  rcases derived_written fullName firstName lastName with
    ⟨full, first, last, resolved, -⟩ | ⟨resolved, -⟩
  · rw [resolved]
    cases mode with
    | legacy => exact paired
    | dual | new => exact both_some
  · rw [resolved]
    cases mode with
    | legacy => exact paired
    | dual | new => exact neither_some

/-- The parts are stored together. -/
theorem paired_invariant : NameInvariant Names.Paired where
  created userIn mode := by
    rw [resolveNames_eq]
    exact overwritten_paired neither_some mode
  updated userIn flags paired := by
    by_cases something : userIn.toNames = ⟨none, none, none⟩
    · rw [Names.updated, if_pos something]
      exact paired
    · rw [updated_eq something]
      exact overwritten_paired paired flags.write
  backfilled _ _ := both_some

theorem Names.AsWritten.clean_fullName {names : Names} (written : names.AsWritten) :
    clean names.fullName = names.fullName := by
  cases written with
  | full cleaned => exact cleaned
  | parts cleaned _ _ => exact cleaned

/-- The values of a request with a name, over a row without padding. -/
theorem overwritten_asWritten (written : stored.AsWritten) (mode : WriteMode)
    (named : clean fullName ≠ none ∨ clean firstName ≠ none) : (stored.overwritten
    (derived (clean fullName) (clean firstName) (clean lastName)) mode).AsWritten := by
  rcases derived_written fullName firstName lastName with
    ⟨full, first, last, resolved, cleanFull, cleanFirst, stripped⟩ | ⟨-, noFull, noFirst, -⟩
  · rw [resolved]
    cases mode with
    | dual => exact .parts cleanFull cleanFirst stripped
    | new => exact .parts written.clean_fullName cleanFirst stripped
    | legacy =>
      cases written with
      | full _ => exact .full cleanFull
      | parts _ storedFirst storedLast => exact .parts cleanFull storedFirst storedLast
  · exact absurd named (by simp [noFull, noFirst])

/-- A PUT hands a name over, unless nothing of the name of the row is read. -/
theorem filled_named_or (written : stored.AsWritten) (userIn : UserUpdate)
    (something : userIn.toNames ≠ ⟨none, none, none⟩) (includeLegacy : Bool) :
    clean userIn.fullName ≠ none ∨
    clean (stored.filled userIn.toNames includeLegacy).1 ≠ none ∨
    includeLegacy = false ∧ stored.firstName = none ∧ userIn.fullName = none ∧
      userIn.firstName = none := by
  by_cases noFull : userIn.fullName = none
  case neg => exact .inl (userIn.fullName_not_blank noFull)
  right
  have sends : ¬ (userIn.firstName = none ∧ userIn.lastName = none) := fun ⟨noFirst, noLast⟩ =>
    something (Names.ext noFull noFirst noLast)
  cases sentFirst : userIn.firstName with
  | some first =>
    left
    have given := userIn.firstName_not_blank (by rw [sentFirst]; exact Option.some_ne_none first)
    have handed : (stored.filled userIn.toNames includeLegacy).1 = userIn.firstName := by
      rw [Names.filled, if_neg sends, sentFirst]
      rfl
    rw [handed]
    exact given
  | none =>
    cases written with
    | @full full cleanFull =>
      cases includeLegacy with
      | false => exact .inr ⟨rfl, rfl, noFull, rfl⟩
      | true =>
        left
        obtain ⟨-, nonempty⟩ := clean_eq_self_iff.mp cleanFull
        have filled : (Names.mk (some full) none none).filled userIn.toNames true =
            (userIn.firstName.or (some (splitFullName (some full)).1),
              userIn.lastName.or (some (splitFullName (some full)).2)) :=
          filled_of_full sends rfl (truthy_of_ne nonempty)
        rw [filled, sentFirst, Option.none_or, clean_head (wordsOf_ne_nil_of_clean cleanFull)]
        exact Option.some_ne_none _
    | parts _ cleanFirst _ =>
      left
      rw [filled_of_first sends rfl, sentFirst, Option.none_or, cleanFirst]
      exact Option.some_ne_none _

/-- No padding is ever stored, and no row is left without a name. -/
theorem asWritten_invariant : NameInvariant Names.AsWritten where
  created userIn mode := by
    rcases derived_written userIn.fullName userIn.firstName userIn.lastName with
      ⟨full, first, last, resolved, cleanFull, cleanFirst, stripped⟩ | ⟨-, noFull, noFirst, -⟩
    · rw [resolveNames_eq, resolved]
      cases mode with
      | legacy => exact .full cleanFull
      | dual => exact .parts cleanFull cleanFirst stripped
      | new => exact .parts rfl cleanFirst stripped
    · exact absurd userIn.name_presence (by simp [noFull, noFirst])
  updated {stored} userIn flags written := by
    by_cases something : userIn.toNames = ⟨none, none, none⟩
    case pos =>
      rw [Names.updated, if_pos something]
      exact written
    rw [updated_eq something]
    rcases filled_named_or written userIn something flags.includeLegacy with
      named | named | ⟨unread, noFirst, noFull, notSent⟩
    · exact overwritten_asWritten written flags.write (.inl named)
    · exact overwritten_asWritten written flags.write (.inr named)
    · -- the row has a full name only, and both flags are `new`
      cases written with
      | parts _ _ _ => cases noFirst
      | @full full cleanFull =>
        obtain ⟨write, read⟩ := flags
        cases write <;> cases read <;> try cases unread
        rcases derived_written userIn.fullName
            (Names.filled ⟨some full, none, none⟩ userIn.toNames false).1
            (Names.filled ⟨some full, none, none⟩ userIn.toNames false).2 with
          ⟨_, first, last, resolved, -, cleanFirst, stripped⟩ | ⟨resolved, -⟩
        · exact resolved ▸ .parts cleanFull cleanFirst stripped
        · exact resolved ▸ .full cleanFull
  backfilled {stored} needs written := by
    cases written with
    | @full full cleanFull =>
      have named := wordsOf_ne_nil_of_clean cleanFull
      have split : (Names.mk (some full) none none).backfilled =
          ⟨some full, some (splitFullName (some full)).1, some (splitFullName (some full)).2⟩ := by
        simp [Names.backfilled, namesFor]
      rw [split]
      exact .parts cleanFull (clean_head named) (strip_tail full)
    | parts cleanFull cleanFirst stripped => exact .parts cleanFull cleanFirst stripped

theorem Names.Paired.parts_missing {names : Names} (paired : names.Paired)
    (needs : names.NeedsBackfill) : names.firstName = none ∧ names.lastName = none := by
  rcases needs with noFirst | noLast
  · exact ⟨noFirst, paired.mp noFirst⟩
  · exact ⟨paired.mpr noLast, noLast⟩

end Columns

end TicketBooking
