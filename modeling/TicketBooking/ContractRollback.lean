import TicketBooking.StoredNames
import TicketBooking.Lib.Fallible

/-!
# Rolling back the contract

`upgrade` and `downgrade` of `alembic/versions/0005_contract_user_full_name.py`: the drop of
`users.full_name` behind its readiness check, and the refill of the column that the downgrade adds
again, one half-open range of ids after the other.

* The refill is SQL (`btrim`, `concat_ws`), the reader Python (`join_names`).  They agree on parts
  that are stripped (`btrim_concatWs`), as all parts are that `resolve_names` and `names_for` write.
* `refill_spec` is the invariant of the loop: the rows below the cursor are done, no other is.
-/

namespace TicketBooking

open StepSystem Words

/-! ## The revision -/

/-- `DROP_ATTEMPTS` -/
def dropAttempts : ℕ := 5

/-- `REFILL_BATCH` -/
def refillBatch : ℕ := 1000

/-- The errors that `upgrade` raises. -/
inductive ContractError
  /-- Refusing to drop users.full_name -/
  | notReady
  /-- The lock timeout has run out in every attempt. -/
  | lockNotAvailable
  | unhandled (kind : ExcKind)
deriving DecidableEq

/-- `upgrade`: the lock timeout runs out in the first `busy` attempts. -/
def upgrade (stored : Flags) (busy : ℕ) (users : Users) : Except ContractError Users :=
  if ReadyToContract stored users then
    if busy < dropAttempts then
      (users.rename fun row => row.toNames.withoutFull).mapError .unhandled
    else .error .lockNotAvailable
  else .error .notReady

/-- `btrim(s)`: spaces only, unlike `str.strip`. -/
def btrim (s : String) : String := String.ofList (trim (· == ' ') s.toList)

/-- `concat_ws(' ', first_name, last_name)`: NULLs are left out, empty strings are not. -/
def concatWs (firstName lastName : Option String) : String :=
  " ".intercalate ([firstName, lastName].filterMap id)

/-- The SET of the refill. -/
def Names.refilled (names : Names) : Names :=
  { names with fullName := some (btrim (concatWs names.firstName names.lastName)) }

/-- The WHERE of the refill. -/
def UserRow.ToRefill (row : UserRow) (lo hi : ℕ) : Prop :=
  lo ≤ row.id ∧ row.id < hi ∧ row.fullName = none

instance (row : UserRow) (lo hi : ℕ) : Decidable (row.ToRefill lo hi) :=
  inferInstanceAs (Decidable (_ ∧ _ ∧ _))

/-- One UPDATE of the refill, with the ids of the rows that it visits. -/
def refillRange (users : Users) (lo hi : ℕ) : Except ExcKind (List ℕ × Users) :=
  (users.rename fun row => if row.ToRefill lo hi then row.toNames.refilled else row.toNames).map
    fun users' => ((users.rows.filter fun row => row.ToRefill lo hi).map UserRow.id, users')

/-- The loop of `downgrade`. -/
def refill (high start : ℕ) (users : Users) : Except ExcKind (List (List ℕ) × Users) :=
  if start ≤ high then
    refillRange users start (start + refillBatch) >>= fun (visited, users) =>
      (refill high (start + refillBatch) users).map fun (visits, users) =>
        (visited :: visits, users)
  else .ok ([], users)
termination_by high + 1 - start
decreasing_by
  rw [refillBatch]
  omega

/-- `downgrade`: the column is back, with NULL in every row, and is filled. -/
def downgrade (users : Users) : Except ExcKind (List (List ℕ) × Users) :=
  match (users.rows.map UserRow.id).min?, (users.rows.map UserRow.id).max? with
  | some low, some high => refill high low users
  | _, _ => .ok ([], users)

/-! ## SQL and Python -/

section Text

variable {first last : String}

/-- **The name that the refill stores is the one that `join_names` shows.** -/
theorem btrim_concatWs (strippedFirst : strip first = first) (strippedLast : strip last = last) :
    btrim (concatWs (some first) (some last)) = joinNames (some first) (some last) := by
  have spaces : ∀ c : Char, (c == ' ') = true → isSpace c = true := by
    intro c isBlank
    rw [eq_of_beq isBlank]
    decide
  have trimmed : ∀ {s : String}, strip s = s → trim (· == ' ') s.toList = s.toList :=
    fun stripped => trim_of_imp spaces (toList_strip_eq stripped)
  have chars : (concatWs (some first) (some last)).toList = first.toList ++ ' ' :: last.toList := by
    have spelt : concatWs (some first) (some last) = first ++ " " ++ last := rfl
    rw [spelt, String.toList_append, String.toList_append, List.append_assoc]
    rfl
  rw [btrim, chars, joinNames_eq]
  by_cases noFirst : first = ""
  · rw [noFirst]
    have dropped : trim (· == ' ') ("".toList ++ ' ' :: last.toList) = last.toList := by
      rw [String.toList_empty, List.nil_append, trim_cons_sep (by decide), trimmed strippedLast]
    rw [dropped, String.ofList_toList]
    by_cases noLast : last = ""
    · rw [noLast]
      rfl
    · rw [clean_of_strip strippedLast noLast]
      rfl
  · rw [clean_of_strip strippedFirst noFirst]
    by_cases noLast : last = ""
    · rw [noLast]
      have dropped : trim (· == ' ') (first.toList ++ ' ' :: "".toList) = first.toList := by
        rw [String.toList_empty, trim_concat_sep (by decide), trimmed strippedFirst]
      rw [dropped, String.ofList_toList]
      rfl
    · rw [clean_of_strip strippedLast noLast]
      have kept := trim_append_cons ' ' (trimmed strippedFirst) (trimmed strippedLast)
        (fun empty => noFirst (toList_eq_nil.mp empty)) fun empty => noLast (toList_eq_nil.mp empty)
      rw [kept, ← chars, String.ofList_toList]
      rfl

end Text

/-! ## Parts as they are written -/

/-- The parts of a row are NULL, or `resolve_names` or `names_for` wrote them; the full name next to
them may be any. -/
inductive Names.WrittenParts : Names → Prop
  | fresh (fullName : Option String) : WrittenParts ⟨fullName, none, none⟩
  | resolved {mode : WriteMode} (fullName fullName' firstName lastName : Option String) :
    WrittenParts ⟨fullName', (resolveNames fullName firstName lastName mode).firstName,
      (resolveNames fullName firstName lastName mode).lastName⟩
  | completed {names : Names} (fullName' : Option String) : WrittenParts names →
    WrittenParts ⟨fullName', some (namesFor names).1, some (namesFor names).2⟩

section Written

variable {names stored : Names} {first last : String}

/-- No part is padded. -/
theorem Names.WrittenParts.stripped (written : names.WrittenParts) :
    (∀ first ∈ names.firstName, strip first = first) ∧
    ∀ last ∈ names.lastName, strip last = last := by
  induction written with
  | fresh => exact ⟨nofun, nofun⟩
  | @resolved mode fullName fullName' firstName lastName =>
    have derivedParts : (∀ first ∈ (derived (clean fullName) (clean firstName)
        (clean lastName)).firstName, strip first = first) ∧
        ∀ last ∈ (derived (clean fullName) (clean firstName) (clean lastName)).lastName,
          strip last = last := by
      rcases derived_written fullName firstName lastName with
        ⟨full, first, last, resolved, -, cleanFirst, strippedLast⟩ | ⟨resolved, -⟩
      · rw [resolved]
        refine ⟨fun f isFirst => ?_, fun l isLast => ?_⟩
        · cases isFirst
          exact (clean_eq_self_iff.mp cleanFirst).1
        · cases isLast
          exact strippedLast
      · rw [resolved]
        exact ⟨nofun, nofun⟩
    rw [resolveNames_eq]
    cases mode with
    | legacy => exact ⟨nofun, nofun⟩
    | dual | new => exact derivedParts
  | @completed names fullName' _ ih =>
    have pieces : strip (splitFullName names.fullName).1 = (splitFullName names.fullName).1 ∧
        strip (splitFullName names.fullName).2 = (splitFullName names.fullName).2 := by
      cases names.fullName with
      | none => exact ⟨strip_empty, strip_empty⟩
      | some full => exact ⟨strip_head full, strip_tail full⟩
    obtain ⟨fullName, firstName, lastName⟩ := names
    refine ⟨fun f isFirst => ?_, fun l isLast => ?_⟩
    · cases isFirst
      cases firstName with
      | none => exact pieces.1
      | some first => exact ih.1 first rfl
    · cases isLast
      cases lastName with
      | none =>
        simp only [namesFor, Option.getD_none]
        split
        case isTrue => exact pieces.2
        case isFalse => exact strip_empty
      | some last => exact ih.2 last rfl

/-- The refilled row, read from `full_name`, shows what the parts show. -/
theorem shown_refilled (written : names.WrittenParts) (hasFirst : names.firstName = some first)
    (hasLast : names.lastName = some last) :
    names.withoutFull.refilled.shown .legacy = names.shown .new := by
  obtain ⟨strippedFirst, strippedLast⟩ := written.stripped
  have same := btrim_concatWs (strippedFirst first hasFirst) (strippedLast last hasLast)
  rw [shown_new, hasFirst, hasLast]
  simp only [Names.shown, Names.refilled, Names.withoutFull, hasFirst, hasLast, same,
    Option.bind_some, Option.or_self]

theorem Names.WrittenParts.withFullName (written : names.WrittenParts) (fullName : Option String) :
    ({ names with fullName } : Names).WrittenParts := by
  cases written with
  | fresh => exact .fresh fullName
  | resolved => exact .resolved _ _ _ _
  | completed _ written => exact .completed _ written

theorem resolveNames_writtenParts (fullName firstName lastName : Option String)
    (mode : WriteMode) : (resolveNames fullName firstName lastName mode).WrittenParts :=
  .resolved fullName (resolveNames fullName firstName lastName mode).fullName firstName lastName

/-- Every row that the API and the backfill leave is of this kind. -/
theorem writtenParts_invariant : NameInvariant Names.WrittenParts where
  created userIn mode := resolveNames_writtenParts _ _ _ mode
  updated {stored} userIn flags written := by
    rw [Names.updated]
    split
    case isTrue => exact written
    case isFalse =>
      dsimp only
      cases flags.write with
      | legacy => exact written.withFullName _
      | dual => exact resolveNames_writtenParts _ _ _ _
      | new => exact .resolved _ _ _ _
  backfilled {stored} _ written := by
    have same : stored.backfilled =
        ⟨stored.fullName, some (namesFor stored).1, some (namesFor stored).2⟩ := by
      obtain ⟨fullName, firstName, lastName⟩ := stored
      cases firstName <;> cases lastName <;> rfl
    rw [same]
    exact .completed _ written

end Written

/-! ## The refill -/

def UserRow.refilled (row : UserRow) : UserRow := { row with toNames := row.toNames.refilled }

@[simp] theorem UserRow.refilled_id (row : UserRow) : row.refilled.id = row.id := rfl

theorem UserRow.refilled_fullName (row : UserRow) : row.refilled.fullName ≠ none :=
  Option.some_ne_none _

section Refill

variable {users : Users} {high : ℕ}

/-- One range. -/
theorem refillRange_ok (lo hi : ℕ) (fits : ∀ row ∈ users.rows, row.toNames.refilled.FitsColumns) :
    ∃ users', refillRange users lo hi =
        .ok ((users.rows.filter fun row => row.ToRefill lo hi).map UserRow.id, users') ∧
      users'.rows = users.rows.map fun row => if row.ToRefill lo hi then row.refilled else row := by
  have allFit : ∀ row ∈ users.rows, (if row.ToRefill lo hi then row.toNames.refilled
      else row.toNames).FitsColumns := by
    intro row mem
    split
    case isTrue => exact fits row mem
    case isFalse => exact (users.fit row mem).1
  rw [refillRange, Users.rename, dif_pos allFit]
  refine ⟨_, rfl, List.map_congr_left fun row _ => ?_⟩
  split <;> rfl

/-- The row after a range and the ranges that follow it. -/
theorem refilled_twice (lo hi : ℕ) (row : UserRow) (ordered : lo ≤ hi) :
    ((fun row : UserRow => if hi ≤ row.id ∧ row.fullName = none then row.refilled else row) ∘
      fun row => if row.ToRefill lo hi then row.refilled else row) row =
    if lo ≤ row.id ∧ row.fullName = none then row.refilled else row := by
  rw [Function.comp]
  by_cases first : row.ToRefill lo hi
  · rw [if_pos first, if_neg fun again => row.refilled_fullName again.2,
      if_pos ⟨first.1, first.2.2⟩]
  · have same : (hi ≤ row.id ∧ row.fullName = none) ↔ lo ≤ row.id ∧ row.fullName = none := by
      constructor
      · intro ⟨reached, absent⟩
        exact ⟨ordered.trans reached, absent⟩
      · intro ⟨reached, absent⟩
        refine ⟨?_, absent⟩
        by_contra notYet
        exact first ⟨reached, by omega, absent⟩
    rw [if_neg first]
    simp only [same]

/-- The ids that are left after a range. -/
theorem later_ids {mid : Users} {lo hi : ℕ} (rows : mid.rows = users.rows.map fun row =>
      if row.ToRefill lo hi then row.refilled else row) :
    (mid.rows.filter fun row => hi ≤ row.id ∧ row.fullName = none).map UserRow.id =
      (users.rows.filter fun row => hi ≤ row.id ∧ row.fullName = none).map UserRow.id := by
  have ids : (UserRow.id ∘ fun row : UserRow =>
      if row.ToRefill lo hi then row.refilled else row) = UserRow.id := by
    funext row
    rw [Function.comp]
    split <;> rfl
  rw [rows, List.filter_map, List.map_map, ids]
  refine congrArg (List.map UserRow.id) (List.filter_congr fun row _ => ?_)
  rw [Function.comp, decide_eq_decide]
  split
  case isTrue inRange =>
    refine iff_of_false (fun again => row.refilled_fullName again.2) fun reached => ?_
    exact absurd inRange.2.1 (by omega)
  case isFalse => exact Iff.rfl

/-- The rows of a range and the rows beyond it. -/
theorem range_append_later_perm (rows : List UserRow) {lo hi : ℕ} (ordered : lo ≤ hi) :
    ((rows.filter fun row => row.ToRefill lo hi) ++
      rows.filter fun row => hi ≤ row.id ∧ row.fullName = none).Perm
    (rows.filter fun row => lo ≤ row.id ∧ row.fullName = none) := by
  have parts := List.filter_append_perm (fun row : UserRow => decide (row.id < hi))
    (rows.filter fun row => lo ≤ row.id ∧ row.fullName = none)
  rw [List.filter_filter, List.filter_filter] at parts
  have inside : (rows.filter fun row => row.ToRefill lo hi) = rows.filter fun row =>
      decide (row.id < hi) && decide (lo ≤ row.id ∧ row.fullName = none) := by
    refine List.filter_congr fun row _ => ?_
    rw [← Bool.decide_and, decide_eq_decide, UserRow.ToRefill, and_left_comm]
  have beyond : (rows.filter fun row => hi ≤ row.id ∧ row.fullName = none) =
      rows.filter fun row =>
        !decide (row.id < hi) && decide (lo ≤ row.id ∧ row.fullName = none) := by
    refine List.filter_congr fun row _ => ?_
    rw [← decide_not, ← Bool.decide_and, decide_eq_decide, not_lt]
    constructor
    · intro ⟨reached, absent⟩
      exact ⟨reached, ordered.trans reached, absent⟩
    · intro ⟨reached, _, absent⟩
      exact ⟨reached, absent⟩
  rw [inside, beyond]
  exact parts

/-- **The loop from `start` on.** -/
theorem refill_spec (start : ℕ) (below : ∀ row ∈ users.rows, row.id ≤ high)
    (fits : ∀ row ∈ users.rows, row.toNames.refilled.FitsColumns) :
    ∃ visits users', refill high start users = .ok (visits, users') ∧
      users'.rows = (users.rows.map fun row =>
        if start ≤ row.id ∧ row.fullName = none then row.refilled else row) ∧
      visits.flatten.Perm ((users.rows.filter fun row =>
        start ≤ row.id ∧ row.fullName = none).map UserRow.id) := by
  induction left : high + 1 - start using Nat.strong_induction_on generalizing start users with
  | _ n ih =>
    rw [refill]
    by_cases inside : start ≤ high
    case neg =>
      have beyond : ∀ row ∈ users.rows, ¬ (start ≤ row.id ∧ row.fullName = none) :=
        fun row mem reached => inside (reached.1.trans (below row mem))
      rw [if_neg inside]
      refine ⟨[], users, rfl, ?_, ?_⟩
      · conv_lhs => rw [← List.map_id users.rows]
        exact List.map_congr_left fun row mem => (if_neg (beyond row mem)).symm
      · rw [List.filter_eq_nil_iff.mpr fun row mem => by simpa using beyond row mem]
        exact List.Perm.refl _
    case pos =>
      have ordered : start ≤ start + refillBatch := Nat.le_add_right _ _
      have shorter : high + 1 - (start + refillBatch) < n := by
        rw [refillBatch]
        omega
      rw [if_pos inside]
      obtain ⟨mid, ran, rows⟩ := refillRange_ok start (start + refillBatch) fits
      have midBelow : ∀ row ∈ mid.rows, row.id ≤ high := by
        rw [rows, List.forall_mem_map]
        intro row mem
        split <;> exact below row mem
      have midFits : ∀ row ∈ mid.rows, row.toNames.refilled.FitsColumns := by
        rw [rows, List.forall_mem_map]
        intro row mem
        split <;> exact fits row mem
      obtain ⟨visits, users', rest, restRows, restVisits⟩ :=
        ih _ shorter (start + refillBatch) midBelow midFits rfl
      refine ⟨_, users', by rw [ran]; exact Fallible.map_ok_iff.mpr ⟨_, rest, rfl⟩, ?_, ?_⟩
      · rw [restRows, rows, List.map_map]
        exact List.map_congr_left fun row _ => refilled_twice start _ row ordered
      · rw [later_ids rows] at restVisits
        have visited := (range_append_later_perm users.rows ordered).map UserRow.id
        rw [List.map_append] at visited
        rw [List.flatten_cons]
        exact (restVisits.append_left _).trans visited

end Refill

/-! ## Back and forth -/

section RoundTrip

variable {users contracted : Users} {stored : Flags} {busy : ℕ} {names : Names}

/-- Two parts that fit their columns make a full name that fits its own. -/
theorem refilled_fits (fits : names.FitsColumns) (complete : ¬ names.NeedsBackfill) :
    names.withoutFull.refilled.FitsColumns := by
  obtain ⟨fullName, firstName, lastName⟩ := names
  cases firstName with
  | none => exact absurd (.inl rfl) complete
  | some first =>
    cases lastName with
    | none => exact absurd (.inr rfl) complete
    | some last =>
      obtain ⟨-, ⟨firstLength, firstChars⟩, lastLength, lastChars⟩ := fits
      have spelt : concatWs (some first) (some last) = first ++ " " ++ last := rfl
      have sub : (trim (· == ' ') (first ++ " " ++ last).toList).Sublist
          (first ++ " " ++ last).toList :=
        ((List.rdropWhile_prefix _ _).sublist).trans (List.dropWhile_suffix _).sublist
      refine ⟨⟨?_, ?_⟩, ⟨firstLength, firstChars⟩, lastLength, lastChars⟩
      · have bound := sub.length_le
        have whole : (first ++ " " ++ last).length = first.length + 1 + last.length := by
          rw [String.length_append, String.length_append]
          rfl
        rw [String.length_toList, whole] at bound
        simp only [Option.getD_some] at firstLength lastLength
        simp only [Names.refilled, Names.withoutFull, Option.getD_some, btrim, spelt]
        rw [← String.length_toList, String.toList_ofList]
        omega
      · simp only [Names.refilled, Names.withoutFull, Option.getD_some, btrim, spelt,
          String.toList_ofList]
        refine List.all_eq_true.mpr fun c mem => ?_
        have mem' := sub.subset mem
        rw [String.toList_append, String.toList_append, List.mem_append, List.mem_append] at mem'
        rcases mem' with (inFirst | isSpace) | inLast
        · exact List.all_eq_true.mp firstChars c inFirst
        · rw [List.mem_singleton.mp (show c ∈ [' '] from isSpace)]
          decide
        · exact List.all_eq_true.mp lastChars c inLast

/-- The upgrade passes its check, and changes nothing but the column. -/
theorem upgrade_ok (upgraded : upgrade stored busy users = .ok contracted) :
    (∀ row ∈ users.rows, ¬ row.toNames.NeedsBackfill) ∧
    contracted.rows =
      users.rows.map fun row => { row with toNames := row.toNames.withoutFull } := by
  rw [upgrade] at upgraded
  split at upgraded
  case isFalse => cases upgraded
  case isTrue ready =>
    split at upgraded
    case isFalse => cases upgraded
    case isTrue =>
      refine ⟨ready.2, ?_⟩
      cases renamed : users.rename fun row => row.toNames.withoutFull with
      | error kind =>
        rw [renamed] at upgraded
        cases upgraded
      | ok after =>
        rw [renamed] at upgraded
        cases upgraded
        exact Users.rename_ok renamed

/-- **Rolling back the contract restores every name.** -/
theorem contract_rolled_back (written : ∀ row ∈ users.rows, row.toNames.WrittenParts)
    (upgraded : upgrade stored busy users = .ok contracted) :
    ∃ visits restored, downgrade contracted = .ok (visits, restored) ∧
      visits.flatten.Perm (users.rows.map UserRow.id) ∧
      (restored.rows.map fun row => buildUserResponse row .legacy) =
        users.rows.map fun row => buildUserResponse row .new := by
  obtain ⟨complete, rows⟩ := upgrade_ok upgraded
  have ids : contracted.rows.map UserRow.id = users.rows.map UserRow.id := by
    rw [rows, List.map_map]
    rfl
  have noFull : ∀ row ∈ contracted.rows, row.fullName = none := by
    rw [rows, List.forall_mem_map]
    exact fun _ _ => rfl
  have fits : ∀ row ∈ contracted.rows, row.toNames.refilled.FitsColumns := by
    rw [rows, List.forall_mem_map]
    exact fun row mem => refilled_fits (users.fit row mem).1 (complete row mem)
  rw [downgrade]
  cases lowest : (contracted.rows.map UserRow.id).min? with
  | none =>
    have empty : contracted.rows = [] := List.map_eq_nil_iff.mp (List.min?_eq_none_iff.mp lowest)
    rw [empty] at ids
    have noUsers : users.rows = [] := List.map_eq_nil_iff.mp ids.symm
    refine ⟨[], contracted, rfl, ?_, ?_⟩
    · rw [noUsers]
      exact List.Perm.refl _
    · rw [empty, noUsers]
      rfl
  | some low =>
    cases highest : (contracted.rows.map UserRow.id).max? with
    | none =>
      rw [List.max?_eq_none_iff.mp highest] at lowest
      cases lowest
    | some high =>
      have above := (List.min?_eq_some_iff.mp lowest).2
      have below := (List.max?_eq_some_iff.mp highest).2
      obtain ⟨visits, restored, ran, restoredRows, visited⟩ := refill_spec low
        (fun row mem => below _ (List.mem_map_of_mem mem)) fits
      have all : ∀ row ∈ contracted.rows, low ≤ row.id ∧ row.fullName = none := fun row mem =>
        ⟨above _ (List.mem_map_of_mem mem), noFull row mem⟩
      refine ⟨visits, restored, ran, ?_, ?_⟩
      · rw [List.filter_eq_self.mpr fun row mem => by simpa using all row mem, ids] at visited
        exact visited
      · rw [restoredRows, List.map_map, rows, List.map_map]
        refine List.map_congr_left fun row mem => ?_
        have inContracted : { row with toNames := row.toNames.withoutFull } ∈ contracted.rows := by
          rw [rows]
          exact List.mem_map_of_mem mem
        obtain ⟨noFirst, noLast⟩ := not_or.mp (complete row mem)
        obtain ⟨first, hasFirst⟩ := Option.ne_none_iff_exists'.mp noFirst
        obtain ⟨last, hasLast⟩ := Option.ne_none_iff_exists'.mp noLast
        rw [Function.comp, Function.comp, if_pos (all _ inContracted)]
        simp only [buildUserResponse, UserRow.refilled,
          shown_refilled (written row mem) hasFirst hasLast]

end RoundTrip

/-- Two accounts that a batch completed, there and back, the ids two ranges of the refill apart; the
first attempt of the drop times out. -/
theorem completed_accounts_rolled_back : ∃ contracted visits restored,
    upgrade ⟨.new, .new⟩ 1 Sample.distantBackfilled = .ok contracted ∧
    downgrade contracted = .ok (visits, restored) ∧ visits.flatten.Perm [1, 2500] ∧
    (restored.rows.map fun row => buildUserResponse row .legacy) =
      Sample.distantBackfilled.rows.map fun row => buildUserResponse row .new := by
  obtain ⟨contracted, upgraded⟩ := Fallible.exists_ok_of_isSome
    (show (upgrade ⟨.new, .new⟩ 1 Sample.distantBackfilled).toOption.isSome = true by
      decide +kernel)
  have written : ∀ row ∈ Sample.distantBackfilled.rows, row.toNames.WrittenParts :=
    writtenParts_invariant.run Sample.distantBackfilled_run fun row mem => by cases mem
  have ids : Sample.distantBackfilled.rows.map UserRow.id = [1, 2500] := by decide +kernel
  obtain ⟨visits, restored, ran, visited, shown⟩ := contract_rolled_back written upgraded
  exact ⟨contracted, visits, restored, upgraded, ran, ids ▸ visited, shown⟩

end TicketBooking
