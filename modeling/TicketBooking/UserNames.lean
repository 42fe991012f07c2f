import TicketBooking.Text

/-!
# The two representations of a name

The name functions of `app/services/user_service.py` and `scripts/backfill.py`.  While the migration
of `users.full_name` runs, a row has the name as a whole, in two parts, or both; NULL is `none`.

* `resolveNames` decides what a request makes of the columns; `derived` are its values before the
  write mode picks the columns, and the `derived_*` lemmas list its cases.
* Names are compared by their words (`wordsOf`), that is, up to whitespace.
-/

namespace TicketBooking

open Words

/-! ## Python text -/

/-- `s.split(maxsplit=1)` -/
def splitOnce (s : String) : List String :=
  match s.toList.dropWhile isSpace with
  | [] => []
  | cs =>
    match splitFirst isSpace cs with
    | (word, []) => [String.ofList word]
    | (word, rest) => [String.ofList word, String.ofList rest]

/-- The words of a text, `s.split()`. -/
def wordsOf (s : String) : List (List Char) := words isSpace s.toList

/-- `s.strip()` if `s`, blank becomes `None`. -/
def clean (value : Option String) : Option String := (value.map strip).filter (· ≠ "")

/-! ## Names -/

/-- `split_full_name` -/
def splitFullName (fullName : Option String) : String × String :=
  match fullName with
  | none => ("", "")
  | some fullName =>
    if fullName = "" then ("", "")
    else
      let parts := splitOnce (strip fullName)
      (parts[0]?.getD "", parts[1]?.getD "")

/-- `join_names` -/
def joinNames (firstName lastName : Option String) : String :=
  " ".intercalate ([firstName, lastName].filterMap clean)

/-- The name columns of a row, or the name fields of a request. -/
@[ext] structure Names where
  fullName : Option String
  firstName : Option String
  lastName : Option String
deriving DecidableEq

inductive WriteMode
  | legacy | dual | new
deriving DecidableEq

inductive ReadSource
  | legacy | new
deriving DecidableEq

/-- A nonempty string, as Python's truth has it. -/
def truthy (s : String) : Option String := if s = "" then none else some s

/-- The representations of a request whose parts are cleaned. -/
def derived (rawFull firstName lastName : Option String) : Names :=
  let full := rawFull.or (truthy (joinNames firstName lastName))
  let (firstName, lastName) :=
    match full, firstName with
    | some full, none =>
      let (head, tail) := splitFullName full
      (some head, some (lastName.getD tail))
    | _, _ => (firstName, lastName)
  let lastName :=
    match firstName, lastName with
    | some firstName, none =>
      match full with
      | some full =>
        let (head, tail) := splitFullName full
        some (if head = firstName then tail else "")
      | none => some ""
    | _, _ => lastName
  ⟨full, firstName, lastName⟩

/-- `resolve_names`: a column the mode does not write comes back `none`. -/
def resolveNames (fullName firstName lastName : Option String) (writeMode : WriteMode) : Names :=
  let names := derived (clean fullName) (clean firstName) (clean lastName)
  match writeMode with
  | .legacy => ⟨names.fullName, none, none⟩
  | .new => ⟨none, names.firstName, names.lastName⟩
  | .dual => names

/-- `names_for` of the backfill. -/
def namesFor (names : Names) : String × String :=
  let (head, tail) := splitFullName names.fullName
  let newFirst := names.firstName.getD head
  (newFirst, names.lastName.getD (if head = newFirst then tail else ""))

/-! ## Up to whitespace -/

/-- The words of a column; NULL has none. -/
def spelled (value : Option String) : List (List Char) := wordsOf (value.getD "")

@[simp] theorem spelled_none : spelled none = [] := rfl
@[simp] theorem spelled_some (s : String) : spelled (some s) = wordsOf s := rfl
@[simp] theorem wordsOf_empty : wordsOf "" = [] := rfl

section Words

variable {s f g : String} {value : Option String}

theorem toList_strip (s : String) : (strip s).toList = trim isSpace s.toList := by
  rw [strip, String.toList_ofList]
  rfl

@[simp] theorem wordsOf_strip (s : String) : wordsOf (strip s) = wordsOf s := by
  rw [wordsOf, toList_strip, words_trim, wordsOf]

theorem toList_eq_nil : s.toList = [] ↔ s = "" := by
  rw [← String.toList_inj]
  rfl

theorem strip_eq_empty : strip s = "" ↔ wordsOf s = [] := by
  rw [← toList_eq_nil, toList_strip, trim_eq_nil_iff, wordsOf]

/-- A stripped text starts with a letter. -/
theorem dropWhile_of_strip (stripped : strip s = s) : s.toList.dropWhile isSpace = s.toList := by
  rw [← stripped, toList_strip, dropWhile_trim]

/-! ### `_clean` -/

theorem clean_eq_none : clean value = none ↔ spelled value = [] := by
  cases value with
  | none => exact iff_of_true rfl rfl
  | some v =>
    rw [spelled_some, ← strip_eq_empty]
    simp [clean]

theorem clean_eq_some : clean value = some s ↔ ∃ v, value = some v ∧ strip v = s ∧ s ≠ "" := by
  cases value with
  | none => simp [clean]
  | some v =>
    simp only [clean, Option.map_some, Option.filter_eq_some_iff, Option.some.injEq, ne_eq,
      decide_eq_true_eq]
    constructor
    · intro ⟨same, nonempty⟩
      exact ⟨v, rfl, same, nonempty⟩
    · intro ⟨v', same, stripped, nonempty⟩
      exact ⟨same ▸ stripped, nonempty⟩

/-- What is left of a part that is not blank. -/
theorem clean_spec (cleaned : clean value = some s) :
    strip s = s ∧ s ≠ "" ∧ spelled value = wordsOf s := by
  obtain ⟨v, rfl, rfl, nonempty⟩ := clean_eq_some.mp cleaned
  exact ⟨strip_strip v, nonempty, (wordsOf_strip v).symm⟩

theorem wordsOf_ne_nil_of_clean (cleaned : clean value = some s) : wordsOf s ≠ [] := by
  obtain ⟨stripped, nonempty, -⟩ := clean_spec cleaned
  intro blank
  exact nonempty (stripped.symm.trans (strip_eq_empty.mpr blank))

theorem spelled_clean (value : Option String) : spelled (clean value) = spelled value := by
  cases cleaned : clean value with
  | none => exact (clean_eq_none.mp cleaned).symm
  | some s => exact (clean_spec cleaned).2.2.symm

/-- A stored part that is stripped and not blank. -/
theorem clean_of_strip (stripped : strip s = s) (nonempty : s ≠ "") : clean (some s) = some s :=
  clean_eq_some.mpr ⟨s, rfl, stripped, nonempty⟩

theorem clean_strip (s : String) : clean (some (strip s)) = clean (some s) := by
  rw [clean, clean, Option.map_some, Option.map_some, strip_strip]

theorem clean_clean (value : Option String) : clean (clean value) = clean value := by
  cases cleaned : clean value with
  | none => rfl
  | some s =>
    obtain ⟨stripped, nonempty, -⟩ := clean_spec cleaned
    exact clean_of_strip stripped nonempty

theorem clean_getD (s : String) : (clean (some s)).getD "" = strip s := by
  cases cleaned : clean (some s) with
  | none => exact (strip_eq_empty.mpr (clean_eq_none.mp cleaned)).symm
  | some s' =>
    obtain ⟨v, same, rfl, -⟩ := clean_eq_some.mp cleaned
    rw [Option.some.inj same]
    rfl

/-! ### `split_full_name` -/

/-- On a trimmed text. -/
theorem splitOnce_strip (s : String) : splitOnce (strip s) =
    match splitFirst isSpace (strip s).toList with
    | ([], _) => []
    | (word, []) => [String.ofList word]
    | (word, rest) => [String.ofList word, String.ofList rest] := by
  have leading : (strip s).toList.dropWhile isSpace = (strip s).toList :=
    dropWhile_of_strip (strip_strip s)
  rw [splitOnce, leading]
  cases chars : (strip s).toList with
  | nil => rfl
  | cons c cs =>
    rw [chars] at leading
    have started := (splitFirst_solid leading (List.cons_ne_nil c cs)).2
    dsimp only
    generalize splitFirst isSpace (c :: cs) = parts at started ⊢
    obtain ⟨word, rest⟩ := parts
    cases word with
    | nil => exact absurd rfl started
    | cons d ds => cases rest <;> rfl

/-- The two parts are the first word and the text after it. -/
theorem splitFullName_some (s : String) :
    splitFullName (some s) = (String.ofList (splitFirst isSpace (strip s).toList).1,
      String.ofList (splitFirst isSpace (strip s).toList).2) := by
  by_cases empty : s = ""
  · subst empty
    decide
  · have blank : (splitFirst isSpace (strip s).toList).1 = [] →
        (splitFirst isSpace (strip s).toList).2 = [] := by
      intro noWord
      by_cases chars : (strip s).toList = []
      · rw [chars]
        rfl
      · exact absurd noWord
          (splitFirst_solid (dropWhile_of_strip (strip_strip s)) chars).2
    have split : splitFullName (some s) =
        ((splitOnce (strip s))[0]?.getD "", (splitOnce (strip s))[1]?.getD "") := if_neg empty
    rw [split, splitOnce_strip]
    generalize splitFirst isSpace (strip s).toList = parts at blank ⊢
    obtain ⟨word, rest⟩ := parts
    cases word with
    | nil =>
      have noRest : rest = [] := blank rfl
      subst noRest
      rfl
    | cons c cs => cases rest <;> rfl

theorem splitFullName_of_spelled_eq_nil (blank : spelled value = []) :
    splitFullName value = ("", "") := by
  cases value with
  | none => rfl
  | some s =>
    have empty : (strip s).toList = [] := toList_eq_nil.mpr (strip_eq_empty.mpr blank)
    rw [splitFullName_some, empty]
    rfl

/-- The first word of a name has letters only. -/
theorem splitFullName_head (named : wordsOf s ≠ []) :
    (∀ c ∈ (splitFullName (some s)).1.toList, isSpace c = false) ∧
    (splitFullName (some s)).1.toList ≠ [] := by
  have chars : (strip s).toList ≠ [] := fun empty =>
    named (strip_eq_empty.mp (toList_eq_nil.mp empty))
  rw [splitFullName_some, String.toList_ofList]
  exact splitFirst_solid (dropWhile_of_strip (strip_strip s)) chars

/-- Together the parts spell the name. -/
theorem words_splitFullName (named : wordsOf s ≠ []) :
    wordsOf s = (splitFullName (some s)).1.toList :: wordsOf (splitFullName (some s)).2 := by
  have chars : (strip s).toList ≠ [] := fun empty =>
    named (strip_eq_empty.mp (toList_eq_nil.mp empty))
  have leading := dropWhile_of_strip (strip_strip s)
  rw [splitFullName_some, wordsOf, wordsOf, String.toList_ofList, String.toList_ofList, ← wordsOf,
    ← wordsOf_strip]
  exact words_splitFirst leading chars

theorem wordsOf_head (named : wordsOf s ≠ []) :
    wordsOf (splitFullName (some s)).1 = [(splitFullName (some s)).1.toList] := by
  obtain ⟨solid, nonempty⟩ := splitFullName_head named
  exact words_of_forall_not solid nonempty

theorem wordsOf_head_ne_nil (named : wordsOf s ≠ []) : wordsOf (splitFullName (some s)).1 ≠ [] := by
  rw [wordsOf_head named]
  exact List.cons_ne_nil _ _

theorem spelled_splitFullName (value : Option String) :
    wordsOf (splitFullName value).1 ++ wordsOf (splitFullName value).2 = spelled value := by
  by_cases blank : spelled value = []
  · rw [splitFullName_of_spelled_eq_nil blank, blank]
    rfl
  · cases value with
    | none => exact absurd rfl blank
    | some s =>
      have named : wordsOf s ≠ [] := blank
      rw [wordsOf_head named, spelled_some, words_splitFullName named]
      rfl

theorem wordsOf_head_append (s : String) : wordsOf s =
    wordsOf (splitFullName (some s)).1 ++ wordsOf (splitFullName (some s)).2 :=
  (spelled_splitFullName (some s)).symm

/-- A stripped name that is one word. -/
theorem splitFullName_of_head_eq (stripped : strip s = s) (whole : (splitFullName (some s)).1 = s) :
    (splitFullName (some s)).2 = "" := by
  rw [splitFullName_some, stripped] at whole ⊢
  have chars : (splitFirst isSpace s.toList).1 = s.toList := by
    rw [← String.toList_inj, String.toList_ofList] at whole
    exact whole
  rw [(splitFirst_of_eq chars).1]

/-! ### `join_names` -/

theorem wordsOf_spaced (a b : String) : wordsOf (a ++ " " ++ b) = wordsOf a ++ wordsOf b := by
  have chars : (a ++ " " ++ b).toList = a.toList ++ ' ' :: b.toList := by
    rw [String.toList_append, String.toList_append, List.append_assoc]
    rfl
  rw [wordsOf, chars]
  exact words_append_cons _ _ (by decide)

/-- The cases of `join_names`. -/
theorem joinNames_eq (first last : Option String) : joinNames first last =
    match clean first, clean last with
    | some a, some b => a ++ " " ++ b
    | some a, none => a
    | none, some b => b
    | none, none => "" := by
  rw [joinNames, List.filterMap_cons, List.filterMap_cons, List.filterMap_nil]
  cases clean first <;> cases clean last <;> rfl

@[simp] theorem wordsOf_joinNames (first last : Option String) :
    wordsOf (joinNames first last) = spelled first ++ spelled last := by
  rw [joinNames_eq, ← spelled_clean first, ← spelled_clean last]
  cases clean first with
  | none => cases clean last <;> rfl
  | some a =>
    cases clean last with
    | none => exact (List.append_nil _).symm
    | some b => exact wordsOf_spaced a b

/-! ### `resolve_names` -/

@[simp] theorem clean_none : clean none = none := rfl

theorem resolveNames_dual (fullName firstName lastName : Option String) :
    resolveNames fullName firstName lastName .dual =
      derived (clean fullName) (clean firstName) (clean lastName) := rfl

theorem derived_of_full (last : Option String) : derived (some g) none last =
    ⟨some g, some (splitFullName (some g)).1, some (last.getD (splitFullName (some g)).2)⟩ := rfl

theorem derived_of_full_first : derived (some g) (some f) none =
    ⟨some g, some f, some (if (splitFullName (some g)).1 = f then (splitFullName (some g)).2
      else "")⟩ := rfl

theorem derived_of_all (l : String) :
    derived (some g) (some f) (some l) = ⟨some g, some f, some l⟩ := rfl

theorem truthy_of_ne (nonempty : s ≠ "") : truthy s = some s := if_neg nonempty

/-- A first name alone keeps all its words. -/
theorem derived_of_first (stripped : strip f = f) (nonempty : f ≠ "") (last : Option String) :
    derived none (some f) last = ⟨some (joinNames (some f) last), some f, some (last.getD "")⟩ := by
  have kept : clean (some f) = some f := clean_of_strip stripped nonempty
  have joined : joinNames (some f) last ≠ "" := by
    rw [joinNames_eq, kept]
    cases clean last with
    | none => exact nonempty
    | some b =>
      intro empty
      have chars := congrArg String.toList empty
      simp at chars
  cases last with
  | some l => simp only [derived, truthy_of_ne joined, Option.none_or, Option.getD_some]
  | none =>
    have alone : joinNames (some f) none = f := by rw [joinNames_eq, kept]; rfl
    have rest : (if (splitFullName (some f)).1 = f then (splitFullName (some f)).2 else "") = "" :=
      ite_eq_right_iff.mpr (splitFullName_of_head_eq stripped)
    simp only [derived, alone, truthy_of_ne nonempty, Option.none_or, Option.getD_none, rest]

/-- With no first name and no full name the last name stands for both. -/
theorem derived_of_last {l : String} (stripped : strip l = l) (nonempty : l ≠ "") :
    derived none none (some l) = ⟨some l, some (splitFullName (some l)).1, some l⟩ := by
  have alone : joinNames none (some l) = l := by
    rw [joinNames_eq, clean_of_strip stripped nonempty]
    rfl
  simp only [derived, alone, truthy_of_ne nonempty, Option.none_or, Option.getD_some]

theorem derived_of_none : derived none none none = ⟨none, none, none⟩ := rfl

/-- A request with one name shape that names somebody: all representations spell its name. -/
theorem derived_spells {fullName firstName lastName : Option String}
    (oneShape : spelled fullName = [] ∨ spelled firstName = [] ∧ spelled lastName = [])
    (named : spelled fullName ≠ [] ∨ spelled firstName ≠ []) :
    ∃ full first last, derived (clean fullName) (clean firstName) (clean lastName) =
        ⟨some full, some first, some last⟩ ∧ wordsOf first ≠ [] ∧
      wordsOf full = wordsOf first ++ wordsOf last ∧
      wordsOf full = spelled fullName ++ (spelled firstName ++ spelled lastName) := by
  cases cleanFull : clean fullName with
  | none =>
    have noFull := clean_eq_none.mp cleanFull
    cases cleanFirst : clean firstName with
    | none =>
      have noFirst := clean_eq_none.mp cleanFirst
      exact absurd named (by simp [noFull, noFirst])
    | some first =>
      obtain ⟨stripped, nonempty, firstWords⟩ := clean_spec cleanFirst
      have lastWords : wordsOf ((clean lastName).getD "") = spelled lastName := by
        rw [← spelled_clean lastName]
        rfl
      refine ⟨_, _, _, derived_of_first stripped nonempty _,
        wordsOf_ne_nil_of_clean cleanFirst, ?_, ?_⟩
      · rw [wordsOf_joinNames, spelled_some, spelled_clean, lastWords]
      · rw [wordsOf_joinNames, spelled_some, spelled_clean, noFull, firstWords, List.nil_append]
  | some full =>
    obtain ⟨-, -, fullWords⟩ := clean_spec cleanFull
    have written := wordsOf_ne_nil_of_clean cleanFull
    obtain ⟨noFirst, noLast⟩ : spelled firstName = [] ∧ spelled lastName = [] := by
      rcases oneShape with noFull | noParts
      · exact absurd (fullWords.symm.trans noFull) written
      · exact noParts
    rw [clean_eq_none.mpr noFirst, clean_eq_none.mpr noLast, noFirst, noLast, derived_of_full]
    refine ⟨_, _, _, rfl, wordsOf_head_ne_nil written, wordsOf_head_append full, ?_⟩
    rw [fullWords, List.append_nil, List.append_nil]

end Words

end TicketBooking
