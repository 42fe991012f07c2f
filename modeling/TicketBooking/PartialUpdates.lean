import TicketBooking.UserSystem

/-!
# Partial PUTs of a name

A PUT that sends one part of a name reads the other part from the locked row and writes the whole
name through `resolve_names`.  In the modes that write the parts, any sequence of such PUTs leaves
each part as the last PUT that sent it left it.
-/

namespace TicketBooking

open StepSystem

/-- The body has one of the two parts and no full name; it may change the e-mail as well. -/
def UserUpdate.SendsOnePart (userIn : UserUpdate) : Prop :=
  userIn.fullName = none ∧ (userIn.firstName = none ↔ userIn.lastName ≠ none)

instance (userIn : UserUpdate) : Decidable userIn.SendsOnePart :=
  inferInstanceAs (Decidable (_ ∧ (_ ↔ _)))

/-- The part after the bodies: as the last one that sent it has it, stripped. -/
def lastSent (part : Names → Option String) (original : String) (puts : List UserUpdate) : String :=
  ((puts.filterMap fun put => part put.toNames).getLast?.map strip).getD original

/-- A name part as the API and the backfill store it is stripped, and stays so. -/
theorem strip_lastSent {part : Names → Option String} {original : String}
    (stripped : strip original = original) (puts : List UserUpdate) :
    strip (lastSent part original puts) = lastSent part original puts := by
  rw [lastSent]
  cases (puts.filterMap fun put => part put.toNames).getLast? with
  | none => exact stripped
  | some value => exact strip_strip value

theorem lastSent_concat {part : Names → Option String} {original : String}
    (stripped : strip original = original) (puts : List UserUpdate) (put : UserUpdate) :
    lastSent part original (puts ++ [put]) =
      strip ((part put.toNames).getD (lastSent part original puts)) := by
  cases sent : part put.toNames with
  | none =>
    rw [Option.getD_none, strip_lastSent stripped]
    simp only [lastSent, List.filterMap_append, List.filterMap_cons, sent, List.filterMap_nil,
      List.append_nil]
  | some value =>
    simp only [lastSent, List.filterMap_append, List.filterMap_cons, sent, List.filterMap_nil,
      List.getLast?_concat, Option.map_some, Option.getD_some]

/-- No accepted body blanks the first name. -/
theorem lastSent_firstName_ne {original : String} (named : original ≠ "") (puts : List UserUpdate) :
    lastSent Names.firstName original puts ≠ "" := by
  rw [lastSent]
  cases sent : (puts.filterMap fun put => put.toNames.firstName).getLast? with
  | none => exact named
  | some value =>
    obtain ⟨put, -, carries⟩ := List.mem_filterMap.mp (List.mem_of_getLast? sent)
    intro blank
    apply put.firstName_not_blank
    · rw [carries]
      exact Option.some_ne_none value
    · rw [carries, clean_eq_none, spelled_some, ← strip_eq_empty]
      exact blank

/-- **One PUT**: the part it sends is stripped, the other one stays. -/
theorem Names.updated_parts {stored sent : Names} {flags : Flags} {first last : String}
    (mode : flags.write ≠ .legacy) (firstStored : stored.firstName = some first)
    (lastStored : stored.lastName = some last) (noFull : sent.fullName = none)
    (sends : ¬ (sent.firstName = none ∧ sent.lastName = none))
    (named : strip (sent.firstName.getD first) ≠ "") :
    (stored.updated sent flags).firstName = some (strip (sent.firstName.getD first)) ∧
    (stored.updated sent flags).lastName = some (strip (sent.lastName.getD last)) ∧
    (flags.write = .dual → (stored.updated sent flags).fullName = some (joinNames
      (stored.updated sent flags).firstName (stored.updated sent flags).lastName)) := by
  have something : sent ≠ ⟨none, none, none⟩ := by
    intro nothing
    apply sends
    rw [nothing]
    exact ⟨rfl, rfl⟩
  have filled : stored.filled sent flags.includeLegacy =
      (some (sent.firstName.getD first), some (sent.lastName.getD last)) := by
    rw [filled_of_first sends firstStored, lastStored, Option.or_some, Option.or_some]
  have cleanFirst : clean (some (sent.firstName.getD first)) =
      some (strip (sent.firstName.getD first)) :=
    clean_eq_some.mpr ⟨_, rfl, rfl, named⟩
  have parts : derived none (clean (some (sent.firstName.getD first)))
      (clean (some (sent.lastName.getD last))) =
      ⟨some (joinNames (some (strip (sent.firstName.getD first)))
        (some (strip (sent.lastName.getD last)))), some (strip (sent.firstName.getD first)),
        some (strip (sent.lastName.getD last))⟩ := by
    rw [cleanFirst, derived_of_first (strip_strip _) named, clean_getD]
    have joined : joinNames (some (strip (sent.firstName.getD first)))
        (clean (some (sent.lastName.getD last))) = joinNames
        (some (strip (sent.firstName.getD first))) (some (strip (sent.lastName.getD last))) := by
      rw [joinNames_eq, joinNames_eq, clean_clean, clean_strip (sent.lastName.getD last)]
    rw [joined]
  rw [updated_eq something, filled, noFull, clean_none, parts]
  cases write : flags.write with
  | legacy => exact absurd write mode
  | dual => exact ⟨rfl, rfl, fun _ => rfl⟩
  | new => exact ⟨rfl, rfl, fun dual => by cases dual⟩

/-! ## Any number of PUTs -/

/-- The PUTs of one user, in the order in which they commit. -/
def putActions (flags : Flags) (userId : ℕ) (puts : List (ℤ × UserUpdate)) : List UserAction :=
  puts.map fun put => .update flags put.1 userId put.2

/-- The names that the PUTs leave. -/
structure UserRow.Carries (row' row : UserRow) (flags : Flags) (first last : String)
    (puts : List (ℤ × UserUpdate)) : Prop where
  same : row'.id = row.id
  firstName : row'.firstName = some (lastSent Names.firstName first (puts.map Prod.snd))
  lastName : row'.lastName = some (lastSent Names.lastName last (puts.map Prod.snd))
  fullName : flags.write = .dual → puts ≠ [] →
    row'.fullName = some (joinNames row'.firstName row'.lastName)

/-- **Partial PUTs do not lose each other.** -/
theorem partial_updates_kept {hashPassword : String → String → String} {flags : Flags}
    (mode : flags.write = .dual ∨ flags.write = .new) {start users : Users} {row : UserRow}
    (mem : row ∈ start.rows) {first last : String} (firstStored : row.firstName = some first)
    (lastStored : row.lastName = some last) (firstStripped : strip first = first)
    (lastStripped : strip last = last) (named : first ≠ "") {puts : List (ℤ × UserUpdate)}
    (onePart : ∀ put ∈ puts, put.2.SendsOnePart)
    (ran : run (userStep hashPassword) start (putActions flags row.id puts) = some users) :
    ∃ row' ∈ users.rows, row'.Carries row flags first last puts := by
  induction puts using List.reverseRecOn generalizing users with
  | nil =>
    cases ran
    refine ⟨row, mem, rfl, ?_, ?_, ?_⟩
    · exact firstStored
    · exact lastStored
    · intro _ nonempty
      exact absurd rfl nonempty
  | append_singleton puts put ih =>
    rw [putActions, List.map_append] at ran
    obtain ⟨mid, ranBefore, moved⟩ := run_concat.mp ran
    obtain ⟨user, memUser, before⟩ :=
      ih (fun put' mem' => onePart put' (List.mem_append_left _ mem')) ranBefore
    obtain ⟨⟨response, after⟩, updated, -⟩ := toOption_map_eq_some moved
    obtain ⟨user', found, -, -⟩ := updateUser_ok updated
    obtain ⟨memUser', isRow⟩ := Users.find_eq_some_iff.mp found
    obtain rfl := mid.eq_of_id_eq memUser' memUser (isRow.trans before.same.symm)
    obtain ⟨noFull, exactlyOne⟩ := onePart put (by simp)
    have sends : ¬ (put.2.firstName = none ∧ put.2.lastName = none) := fun neither =>
      exactlyOne.mp neither.1 neither.2
    have concat : (puts ++ [put]).map Prod.snd = puts.map Prod.snd ++ [put.2] := List.map_append
    have sentFirst : lastSent Names.firstName first (puts.map Prod.snd ++ [put.2]) = _ :=
      lastSent_concat firstStripped (puts.map Prod.snd) put.2
    have sentLast : lastSent Names.lastName last (puts.map Prod.snd ++ [put.2]) = _ :=
      lastSent_concat lastStripped (puts.map Prod.snd) put.2
    have stillNamed : strip (put.2.firstName.getD
        (lastSent Names.firstName first (puts.map Prod.snd))) ≠ "" := by
      rw [← sentFirst]
      exact lastSent_firstName_ne named _
    have notLegacy : flags.write ≠ .legacy := by
      rcases mode with dual | new
      · rw [dual]
        decide
      · rw [new]
        decide
    obtain ⟨firstAfter, lastAfter, fullAfter⟩ := Names.updated_parts notLegacy before.firstName
      before.lastName noFull sends stillNamed
    refine ⟨user'.updated put.2 flags put.1, (userStep_rows moved).mpr (.inl ?_), ?_, ?_, ?_, ?_⟩
    · rw [UserAction.written, found]
      exact List.mem_singleton_self _
    · rw [UserRow.updated_id, isRow]
    · rw [UserRow.updated_toNames, firstAfter, concat, sentFirst]
    · rw [UserRow.updated_toNames, lastAfter, concat, sentLast]
    · intro dual _
      rw [UserRow.updated_toNames]
      exact fullAfter dual

/-- A PUT of the last name and one of the first, on a row with two spaces in its full name. -/
theorem first_and_last_name_kept :
    ∃ row' ∈ Sample.putTwice.rows, row'.Carries Sample.spacedRow ⟨.dual, .new⟩ "Ann" "Lee"
      [(1, Sample.newLastName), (2, Sample.newFirstName)] := by
  have mem : Sample.spacedRow ∈ Sample.spacedAccount.rows := by decide +kernel
  apply partial_updates_kept (.inl rfl) mem
  · decide +kernel
  · decide +kernel
  · decide +kernel
  · decide +kernel
  · decide
  · decide +kernel
  · exact Sample.putTwice_run

/-- What dual write stores has the spacing of the request until a PUT of one part; and after a PUT
that carries a full name as well the full name need not be the parts. -/
theorem full_name_not_joined :
    (run (userStep Sample.hashPassword) Sample.spacedAccount (putActions ⟨.dual, .new⟩ 1 []) =
        some Sample.spacedAccount ∧
      ∃ row ∈ Sample.spacedAccount.rows, row.id = 1 ∧ row.firstName = some "Ann" ∧
        row.lastName = some "Lee" ∧
        row.fullName ≠ some (joinNames row.firstName row.lastName)) ∧
    (run (userStep Sample.hashPassword) Sample.spacedAccount
        (putActions ⟨.dual, .new⟩ 1 [(1, Sample.mixedPut)]) = some Sample.putMixed ∧
      ∃ row ∈ Sample.putMixed.rows, row.id = 1 ∧
        row.fullName ≠ some (joinNames row.firstName row.lastName)) :=
  ⟨⟨rfl, by decide +kernel⟩, Sample.putMixed_run, by decide +kernel⟩

end TicketBooking
