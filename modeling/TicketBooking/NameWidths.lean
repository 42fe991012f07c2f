import TicketBooking.StoredNames

/-!
# Do the names fit their columns?

The schemas limit `full_name` to 150 characters and each part to 100; the columns take 255, 100 and
100.  What is written are splits and joins of what is sent and of what is stored, so a value that
was accepted can still be too long for its column: `resolveNames_fit_iff` says exactly when it is.
-/

namespace TicketBooking

open StepSystem Words

/-- The widths of the columns. -/
def Names.FitWidths (names : Names) : Prop :=
  (names.fullName.getD "").length ≤ 255 ∧ (names.firstName.getD "").length ≤ 100 ∧
  (names.lastName.getD "").length ≤ 100

instance (names : Names) : Decidable names.FitWidths := inferInstanceAs (Decidable (_ ∧ _ ∧ _))

/-- The pieces of a full name that stand in for missing parts are short enough: its first word for
the first name, the rest for the last name of somebody with that first name. -/
def PiecesFit (fullName firstName lastName : Option String) : Prop :=
  (firstName = none → (splitFullName fullName).1.length ≤ 100) ∧
  (lastName = none → firstName.getD (splitFullName fullName).1 = (splitFullName fullName).1 →
    (splitFullName fullName).2.length ≤ 100)

instance (fullName firstName lastName : Option String) :
    Decidable (PiecesFit fullName firstName lastName) :=
  inferInstanceAs (Decidable ((_ → _) ∧ (_ → _ → _)))

/-- What `resolve_names` is handed, cleaned, makes values that fit the columns of the mode. -/
def HandedFit (fullName firstName lastName : Option String) (mode : WriteMode) : Prop :=
  (mode ≠ .new → fullName = none → (joinNames firstName lastName).length ≤ 255) ∧
  (mode ≠ .legacy → (firstName.getD "").length ≤ 100 ∧ (lastName.getD "").length ≤ 100 ∧
    PiecesFit fullName firstName lastName)

instance (fullName firstName lastName : Option String) (mode : WriteMode) :
    Decidable (HandedFit fullName firstName lastName mode) :=
  inferInstanceAs (Decidable ((_ → _ → _) ∧ (_ → _ ∧ _ ∧ _)))

/-- What a PUT hands over makes values that fit.  Only pieces of a full name can be too long: of the
one that is sent, or of the stored one where it fills the part that is not sent. -/
def Names.PutFits (stored sent : Names) (flags : Flags) : Prop :=
  let parts := stored.filled sent flags.includeLegacy
  (flags.write ≠ .legacy → PiecesFit (clean sent.fullName) (clean parts.1) (clean parts.2)) ∧
  (¬ (sent.firstName = none ∧ sent.lastName = none) → stored.firstName = none →
    flags.includeLegacy = true →
    (flags.write ≠ .new → sent.fullName = none → (joinNames parts.1 parts.2).length ≤ 255) ∧
    (flags.write ≠ .legacy →
      (sent.firstName = none → (splitFullName stored.fullName).1.length ≤ 100) ∧
      (sent.lastName = none → (splitFullName stored.fullName).2.length ≤ 100)))

/-! ## Lengths -/

section Lengths

variable {s : String} {value : Option String}

theorem length_strip_le (s : String) : (strip s).length ≤ s.length := by
  rw [← String.length_toList, ← String.length_toList, toList_strip]
  exact (List.rdropWhile_prefix _ _).length_le.trans (List.dropWhile_suffix _).length_le

theorem length_clean_le (value : Option String) :
    ((clean value).getD "").length ≤ (value.getD "").length := by
  cases cleaned : clean value with
  | none => exact Nat.zero_le _
  | some s =>
    obtain ⟨v, rfl, rfl, -⟩ := clean_eq_some.mp cleaned
    exact length_strip_le v

theorem length_head_le (s : String) : (splitFullName (some s)).1.length ≤ s.length := by
  refine Nat.le_trans ?_ (length_strip_le s)
  rw [splitFullName_some, ← String.length_toList, ← String.length_toList, String.toList_ofList]
  exact (start_splitFirst _).length_le

theorem length_joinNames_le (first last : Option String) : (joinNames first last).length ≤
    (first.getD "").length + 1 + (last.getD "").length := by
  have firstLength := length_clean_le first
  have lastLength := length_clean_le last
  rw [joinNames_eq]
  cases cleanFirst : clean first with
  | none =>
    cases cleanLast : clean last with
    | none => exact Nat.zero_le _
    | some b =>
      rw [cleanLast, Option.getD_some] at lastLength
      dsimp only
      omega
  | some a =>
    rw [cleanFirst, Option.getD_some] at firstLength
    cases cleanLast : clean last with
    | none =>
      dsimp only
      omega
    | some b =>
      rw [cleanLast, Option.getD_some] at lastLength
      have spaced : (a ++ " " ++ b).length = a.length + 1 + b.length := by
        rw [String.length_append, String.length_append]
        rfl
      dsimp only
      omega

end Lengths

/-! ## The values of a write -/

/-- **What fits of what `resolve_names` returns**, for a full name that is short enough. -/
theorem resolveNames_fit_iff (fullName firstName lastName : Option String) (mode : WriteMode)
    (short : (fullName.getD "").length ≤ 255) :
    (resolveNames fullName firstName lastName mode).FitWidths ↔
      HandedFit (clean fullName) (clean firstName) (clean lastName) mode := by
  have fullLength := (length_clean_le fullName).trans short
  have pick : ∀ names : Names, (Names.overwritten ⟨none, none, none⟩ names mode).FitWidths ↔
      (mode ≠ .new → (names.fullName.getD "").length ≤ 255) ∧
      (mode ≠ .legacy → (names.firstName.getD "").length ≤ 100 ∧
        (names.lastName.getD "").length ≤ 100) := fun names => by
    cases mode <;> simp [Names.overwritten, Names.FitWidths]
  rw [resolveNames_eq, pick, HandedFit]
  cases cleanFull : clean fullName with
  | some full =>
    rw [cleanFull, Option.getD_some] at fullLength
    cases cleanFirst : clean firstName with
    | none =>
      rw [derived_of_full]
      cases clean lastName with
      | none => simp [PiecesFit, fullLength]
      | some last => simp [PiecesFit, fullLength, and_comm]
    | some first =>
      cases clean lastName with
      | none =>
        rw [derived_of_full_first]
        by_cases head : (splitFullName (some full)).1 = first
        · simp [PiecesFit, fullLength, head]
        · simp [PiecesFit, fullLength, head, Ne.symm head]
      | some last =>
        rw [derived_of_all]
        simp [PiecesFit, fullLength]
  | none =>
    have noPieces : splitFullName none = ("", "") := rfl
    cases cleanFirst : clean firstName with
    | some first =>
      obtain ⟨stripped, nonempty, -⟩ := clean_spec cleanFirst
      rw [derived_of_first stripped nonempty]
      simp [PiecesFit, noPieces]
    | none =>
      cases cleanLast : clean lastName with
      | none => simp [derived_of_none, PiecesFit, noPieces, joinNames_eq, clean_none]
      | some last =>
        obtain ⟨stripped, nonempty, -⟩ := clean_spec cleanLast
        have joined : joinNames none (some last) = last := by
          rw [joinNames_eq, clean_none, clean_of_strip stripped nonempty]
        have parts : (splitFullName (some last)).1.length ≤ 100 ∧ last.length ≤ 100 ↔
            last.length ≤ 100 := and_iff_right_of_imp (length_head_le last).trans
        rw [derived_of_last stripped nonempty]
        simp [joined, PiecesFit, noPieces, parts]

/-! ## PUTs -/

section Put

variable {stored : Names} {userIn : UserUpdate} {flags : Flags}

theorem length_or_le {a b : Option String} {n : ℕ} (first : (a.getD "").length ≤ n)
    (second : a = none → (b.getD "").length ≤ n) : ((a.or b).getD "").length ≤ n := by
  cases a with
  | none => exact second rfl
  | some s => exact first

/-- The parts that are handed over, where no full name is split. -/
theorem length_filled_le (fits : stored.FitWidths)
    (unsplit : ¬ (userIn.firstName = none ∧ userIn.lastName = none) → stored.firstName = none →
      (if flags.includeLegacy then stored.fullName.bind truthy else none) = none) :
    ((stored.filled userIn.toNames flags.includeLegacy).1.getD "").length ≤ 100 ∧
    ((stored.filled userIn.toNames flags.includeLegacy).2.getD "").length ≤ 100 := by
  obtain ⟨-, firstLength, lastLength⟩ := userIn.names_length
  by_cases sends : userIn.firstName = none ∧ userIn.lastName = none
  · rw [Names.filled, if_pos sends]
    exact ⟨Nat.zero_le _, Nat.zero_le _⟩
  · have kept : stored.filled userIn.toNames flags.includeLegacy =
        (userIn.firstName.or stored.firstName, userIn.lastName.or stored.lastName) := by
      cases hasFirst : stored.firstName with
      | some first => rw [filled_of_first sends hasFirst]
      | none => rw [Names.filled, if_neg sends, hasFirst, unsplit sends hasFirst]
    rw [kept]
    exact ⟨length_or_le firstLength fun _ => fits.2.1, length_or_le lastLength fun _ => fits.2.2⟩

/-- The parts that are handed over, where the stored full name is split. -/
theorem length_filled_iff {full : String}
    (sends : ¬ (userIn.firstName = none ∧ userIn.lastName = none))
    (noFirst : stored.firstName = none)
    (split : (if flags.includeLegacy then stored.fullName.bind truthy else none) = some full) :
    (((clean (stored.filled userIn.toNames flags.includeLegacy).1).getD "").length ≤ 100 ↔
      (userIn.firstName = none → (splitFullName (some full)).1.length ≤ 100)) ∧
    (((clean (stored.filled userIn.toNames flags.includeLegacy).2).getD "").length ≤ 100 ↔
      (userIn.lastName = none → (splitFullName (some full)).2.length ≤ 100)) := by
  obtain ⟨-, firstLength, lastLength⟩ := userIn.names_length
  rw [filled_of_full sends noFirst split]
  constructor
  · cases sent : userIn.firstName with
    | none =>
      rw [Option.none_or, clean_getD, strip_head]
      exact ⟨fun fits _ => fits, fun fits => fits rfl⟩
    | some first =>
      rw [sent] at firstLength
      exact iff_of_true ((length_clean_le _).trans firstLength) fun absent => by cases absent
  · cases sent : userIn.lastName with
    | none =>
      rw [Option.none_or, clean_getD, strip_tail]
      exact ⟨fun fits _ => fits, fun fits => fits rfl⟩
    | some last =>
      rw [sent] at lastLength
      exact iff_of_true ((length_clean_le _).trans lastLength) fun absent => by cases absent

theorem joinNames_clean (first last : Option String) :
    joinNames (clean first) (clean last) = joinNames first last := by
  rw [joinNames_eq, joinNames_eq, clean_clean, clean_clean]

/-- A PUT finds a full name to split. -/
theorem split_eq_some_iff {full : String} {includeLegacy : Bool} :
    (if includeLegacy then stored.fullName.bind truthy else none) = some full ↔
      includeLegacy = true ∧ stored.fullName = some full ∧ full ≠ "" := by
  rw [Option.ite_none_right_eq_some, Option.bind_eq_some_iff]
  refine and_congr_right fun _ => ?_
  constructor
  · intro ⟨full', hasFull, nonempty⟩
    rw [truthy] at nonempty
    split at nonempty
    case isTrue => cases nonempty
    case isFalse different =>
      cases nonempty
      exact ⟨hasFull, different⟩
  · intro ⟨hasFull, nonempty⟩
    exact ⟨full, hasFull, truthy_of_ne nonempty⟩

/-- **The values of a PUT.** -/
theorem putFits_iff (fits : stored.FitWidths) :
    HandedFit (clean userIn.fullName)
      (clean (stored.filled userIn.toNames flags.includeLegacy).1)
      (clean (stored.filled userIn.toNames flags.includeLegacy).2) flags.write ↔
    stored.PutFits userIn.toNames flags := by
  have noFull : clean userIn.fullName = none ↔ userIn.fullName = none := by
    constructor
    · intro blank
      by_contra sent
      exact userIn.fullName_not_blank sent blank
    · intro absent
      rw [absent, clean_none]
  rw [HandedFit, joinNames_clean, noFull, Names.PutFits]
  by_cases split : ¬ (userIn.firstName = none ∧ userIn.lastName = none) ∧ stored.firstName = none ∧
      ∃ full, (if flags.includeLegacy then stored.fullName.bind truthy else none) = some full
  case pos =>
    obtain ⟨sends, noFirst, full, read⟩ := split
    obtain ⟨firstFits, lastFits⟩ := length_filled_iff sends noFirst read
    obtain ⟨legacy, hasFull, -⟩ := split_eq_some_iff.mp read
    rw [firstFits, lastFits, hasFull]
    simp only [sends, noFirst, legacy, not_false_eq_true, true_implies]
    constructor
    · intro ⟨joined, parts⟩
      exact ⟨fun writes => (parts writes).2.2, joined,
        fun writes => ⟨(parts writes).1, (parts writes).2.1⟩⟩
    · intro ⟨pieces, joined, short⟩
      exact ⟨joined, fun writes => ⟨(short writes).1, (short writes).2, pieces writes⟩⟩
  case neg =>
    have unsplit : ¬ (userIn.firstName = none ∧ userIn.lastName = none) → stored.firstName = none →
        (if flags.includeLegacy then stored.fullName.bind truthy else none) = none := by
      intro sends noFirst
      by_contra read
      exact split ⟨sends, noFirst, Option.ne_none_iff_exists'.mp read⟩
    obtain ⟨firstLength, lastLength⟩ := length_filled_le fits unsplit
    have joined := length_joinNames_le (stored.filled userIn.toNames flags.includeLegacy).1
      (stored.filled userIn.toNames flags.includeLegacy).2
    have joinFits : (joinNames (stored.filled userIn.toNames flags.includeLegacy).1
      (stored.filled userIn.toNames flags.includeLegacy).2).length ≤ 255 := by omega
    have firstFits := (length_clean_le _).trans firstLength
    have lastFits := (length_clean_le _).trans lastLength
    constructor
    · intro ⟨_, parts⟩
      refine ⟨fun writes => (parts writes).2.2, fun sends noFirst legacy => ?_⟩
      -- the stored full name is NULL or empty, so there are no pieces of it
      have noPieces : splitFullName stored.fullName = ("", "") := by
        cases hasFull : stored.fullName with
        | none => rfl
        | some full =>
          by_cases empty : full = ""
          · rw [empty]
            rfl
          · exact absurd ((unsplit sends noFirst).symm.trans
              (split_eq_some_iff.mpr ⟨legacy, hasFull, empty⟩)) (by simp)
      rw [noPieces]
      exact ⟨fun _ _ => joinFits, fun _ => ⟨fun _ => Nat.zero_le _, fun _ => Nat.zero_le _⟩⟩
    · intro ⟨pieces, _⟩
      exact ⟨fun _ _ => joinFits, fun writes => ⟨firstFits, lastFits, pieces writes⟩⟩

end Put

/-! ## Registrations and batches -/

/-- A registration hands over what it is sent. -/
theorem createFits_iff (userIn : UserCreate) (mode : WriteMode) :
    HandedFit (clean userIn.fullName) (clean userIn.firstName) (clean userIn.lastName) mode ↔
      (mode ≠ .legacy →
        PiecesFit (clean userIn.fullName) (clean userIn.firstName) (clean userIn.lastName)) := by
  obtain ⟨-, firstLength, lastLength⟩ := userIn.names_length
  have joined := length_joinNames_le userIn.firstName userIn.lastName
  have joinFits : (joinNames userIn.firstName userIn.lastName).length ≤ 255 := by omega
  rw [HandedFit, joinNames_clean]
  constructor
  · intro ⟨_, parts⟩ writes
    exact (parts writes).2.2
  · intro pieces
    exact ⟨fun _ _ => joinFits, fun writes => ⟨(length_clean_le _).trans firstLength,
      (length_clean_le _).trans lastLength, pieces writes⟩⟩

/-- What `names_for` returns for a row. -/
theorem namesFor_fit_iff {stored : Names} (fits : stored.FitWidths) :
    (Names.mk stored.fullName (some (namesFor stored).1) (some (namesFor stored).2)).FitWidths ↔
      PiecesFit stored.fullName stored.firstName stored.lastName := by
  obtain ⟨fullLength, firstLength, lastLength⟩ := fits
  obtain ⟨fullName, firstName, lastName⟩ := stored
  simp only [Names.FitWidths, namesFor, PiecesFit, Option.getD_some]
  dsimp only at fullLength firstLength lastLength
  rw [and_iff_right fullLength]
  refine and_congr ?_ ?_
  · cases firstName with
    | none => exact ⟨fun fits _ => fits, fun fits => fits rfl⟩
    | some first => exact iff_of_true firstLength fun absent => by cases absent
  · cases lastName with
    | some last => exact iff_of_true lastLength fun absent => by cases absent
    | none =>
      rw [Option.getD_none]
      split
      case isTrue head => exact ⟨fun fits _ _ => fits, fun fits => fits rfl head.symm⟩
      case isFalse head =>
        exact iff_of_true (Nat.zero_le _) fun _ same => absurd same.symm head

theorem Names.FitsColumns.fitWidths {names : Names} (fits : names.FitsColumns) :
    names.FitWidths :=
  ⟨fits.1.1, fits.2.1.1, fits.2.2.1⟩

/-- A registration whose row is too wide aborts. -/
theorem createUser_too_wide {hashPassword : String → String → String} {flags : Flags}
    {draw : UserDraw} (choice : ℕ) {users : Users} {userIn : UserCreate}
    (wide : ¬ (userIn.row hashPassword flags draw).toNames.FitWidths) :
    createUser hashPassword flags draw choice Users.empty users userIn =
      .error (.unhandled .data) := by
  have nobody : anyOf choice (Users.empty.rows.filter fun row =>
      row.email = userIn.email ∨ row.username = userIn.username) = none := rfl
  have refused : users.insert (userIn.row hashPassword flags draw) = .error .data :=
    dif_neg fun fits => wide fits.1.fitWidths
  rw [createUser, nobody]
  dsimp only
  rw [refused]

/-- A batch that takes a row whose parts are too wide aborts. -/
theorem runBatch_too_wide {users : Users} (checkpoint : Checkpoint) {lastId batchSize : ℕ}
    {locked : List ℕ} {row : UserRow} (taken : row ∈ users.batch lastId batchSize locked)
    (wide : ¬ row.toNames.backfilled.FitWidths) :
    runBatch users checkpoint lastId batchSize locked = .error .data := by
  have refused : users.rename (fun other =>
      if other ∈ users.batch lastId batchSize locked then other.toNames.backfilled
      else other.toNames) = .error .data := by
    refine dif_neg fun fits => wide ?_
    have rowFits := fits row (Users.mem_batch taken).1
    dsimp only at rowFits
    rw [if_pos taken] at rowFits
    exact rowFits.fitWidths
  rw [runBatch]
  cases last : (users.batch lastId batchSize locked).getLast? with
  | none =>
    rw [List.getLast?_eq_none_iff.mp last] at taken
    cases taken
  | some other =>
    dsimp only
    rw [refused]
    rfl

/-- **When what was accepted can be stored.** -/
theorem names_storable_iff (createIn : UserCreate) (mode : WriteMode) (stored : Names)
    (updateIn : UserUpdate) (flags : Flags) :
    ((resolveNames createIn.fullName createIn.firstName createIn.lastName mode).FitWidths ↔
      (mode ≠ .legacy → PiecesFit (clean createIn.fullName) (clean createIn.firstName)
        (clean createIn.lastName))) ∧
    (stored.FitWidths →
      ((resolveNames updateIn.fullName (stored.filled updateIn.toNames flags.includeLegacy).1
          (stored.filled updateIn.toNames flags.includeLegacy).2 flags.write).FitWidths ↔
        stored.PutFits updateIn.toNames flags) ∧
      ((Names.mk stored.fullName (some (namesFor stored).1) (some (namesFor stored).2)).FitWidths ↔
        PiecesFit stored.fullName stored.firstName stored.lastName)) := by
  constructor
  · have short : (createIn.fullName.getD "").length ≤ 255 :=
      createIn.names_length.1.trans (by omega)
    rw [resolveNames_fit_iff _ _ _ mode short, createFits_iff]
  · intro fits
    refine ⟨?_, namesFor_fit_iff fits⟩
    have short : (updateIn.fullName.getD "").length ≤ 255 :=
      updateIn.names_length.1.trans (by omega)
    rw [resolveNames_fit_iff _ _ _ flags.write short, putFits_iff fits]

/-- A PUT of the last name of a legacy row, in mode dual. -/
theorem last_name_put_storable : (resolveNames Sample.newLastName.fullName
    (Sample.annRow.toNames.filled Sample.newLastName.toNames true).1
    (Sample.annRow.toNames.filled Sample.newLastName.toNames true).2 .dual).FitWidths := by
  have stored : Sample.annRow.toNames.FitWidths := by decide +kernel
  refine ((names_storable_iff Sample.longWordSignsUp .dual Sample.annRow.toNames
    Sample.newLastName ⟨.dual, .legacy⟩).2 stored).1.mpr
    ⟨fun _ => ?_, fun _ _ _ => ⟨fun _ _ => ?_, fun _ => ⟨fun _ => ?_, fun absent => ?_⟩⟩⟩
  · decide +kernel
  · decide +kernel
  · decide +kernel
  · cases absent

namespace Sample

/-- The legacy row of the name of one long word. -/
def longWordRow : UserRow := longWordSignsUp.row hashPassword ⟨.legacy, .legacy⟩ ⟨1, "salt", 0⟩

theorem longWord_solid :
    ∀ c ∈ (String.ofList (List.replicate 101 'a')).toList, isSpace c = false := by
  intro c mem
  rw [String.toList_ofList] at mem
  rw [List.eq_of_mem_replicate mem]
  decide

theorem longWord_cleaned :
    clean longWordSignsUp.fullName = some (String.ofList (List.replicate 101 'a')) := by
  apply clean_of_strip
  · exact strip_eq_self_iff.mpr (trim_of_forall_not longWord_solid)
  · intro empty
    have chars := toList_eq_nil.mpr empty
    rw [String.toList_ofList, List.replicate_eq_nil_iff] at chars
    cases chars

theorem longWord_wide (fullName lastName : Option String) :
    ¬ (Names.mk fullName (some (String.ofList (List.replicate 101 'a'))) lastName).FitWidths := by
  intro fits
  have firstLength := fits.2.1
  rw [Option.getD_some, ← String.length_toList, String.toList_ofList,
    List.length_replicate] at firstLength
  omega

theorem longWordAccount_rows : longWordAccount.rows = [longWordRow] := by
  have stored : ∀ users, run (userStep hashPassword) Users.empty [longWordAction] = some users →
      users.rows = [longWordRow] := by
    intro users ran
    obtain ⟨users', moved, same⟩ := Option.bind_eq_some_iff.mp (run_cons .. ▸ ran)
    cases same
    rw [longWordAction, userStep] at moved
    obtain ⟨⟨response, after⟩, created, rfl⟩ := toOption_map_eq_some moved
    exact (Users.insert_ok (createUser_ok created).1).2.2
  exact stored longWordAccount longWordAccount_run

theorem longWordRow_names : longWordRow.toNames =
    ⟨some (String.ofList (List.replicate 101 'a')), none, none⟩ := by
  rw [longWordRow, UserCreate.row, resolveNames, longWord_cleaned]
  rfl

end Sample

/-- A name of one long word is accepted: dual write aborts at once, legacy write stores it and the
batch that takes the row aborts. -/
theorem long_word_not_storable :
    ¬ (resolveNames Sample.longWordSignsUp.fullName Sample.longWordSignsUp.firstName
      Sample.longWordSignsUp.lastName .dual).FitWidths ∧
    createUser Sample.hashPassword ⟨.dual, .legacy⟩ ⟨1, "salt", 0⟩ 0 Users.empty Users.empty
      Sample.longWordSignsUp = .error (.unhandled .data) ∧
    ∃ users, run (userStep Sample.hashPassword) Users.empty [Sample.longWordAction] = some users ∧
      (∀ row ∈ users.rows, row.toNames.FitWidths) ∧
      runBatch users ⟨0, 0⟩ 0 50 [] = .error .data := by
  have dual : (resolveNames Sample.longWordSignsUp.fullName Sample.longWordSignsUp.firstName
      Sample.longWordSignsUp.lastName .dual) =
      ⟨some (String.ofList (List.replicate 101 'a')),
        some (String.ofList (List.replicate 101 'a')), some ""⟩ := by
    have split := splitFullName_of_solid Sample.longWord_solid
    have noFirst : Sample.longWordSignsUp.firstName = none := rfl
    have noLast : Sample.longWordSignsUp.lastName = none := rfl
    rw [noFirst, noLast, resolveNames, Sample.longWord_cleaned, clean_none, derived_of_full, split]
    rfl
  have wide : ¬ (resolveNames Sample.longWordSignsUp.fullName Sample.longWordSignsUp.firstName
      Sample.longWordSignsUp.lastName .dual).FitWidths := by
    rw [dual]
    exact Sample.longWord_wide _ _
  refine ⟨wide, createUser_too_wide 0 wide, Sample.longWordAccount, Sample.longWordAccount_run,
    ?_, ?_⟩
  · intro row mem
    exact (Sample.longWordAccount.fit row mem).1.fitWidths
  · have needs : Sample.longWordRow.toNames.NeedsBackfill := by
      rw [Sample.longWordRow_names]
      exact Or.inl rfl
    have taken : Sample.longWordRow ∈ Sample.longWordAccount.batch 0 50 [] := by
      rw [Users.batch, Sample.longWordAccount_rows, List.filter_cons_of_pos, List.filter_nil]
      · exact List.mem_singleton_self _
      · exact decide_eq_true ⟨Nat.one_pos, needs, List.not_mem_nil⟩
    apply runBatch_too_wide _ taken
    · rw [Sample.longWordRow_names, Names.backfilled, namesFor,
        splitFullName_of_solid Sample.longWord_solid]
      exact Sample.longWord_wide _ _

end TicketBooking
