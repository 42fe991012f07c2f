import Mathlib.Data.List.DropRight

/-!
# Words

The words of a text are its maximal runs without separators.  `trim` and `splitFirst` are the
operations of a normaliser: drop the separators at both ends, and cut after the first word.  The
lemmas say what they do to the words, so that a property "up to spacing" can be computed from them.
`squeeze` leaves one blank between two words; trimmed texts are equal after it when they have the
same words (`squeeze_inj`).
-/

namespace Words

variable {α : Type} {sep : α → Bool}

/-- The maximal runs without separators. -/
def words (sep : α → Bool) (as : List α) : List (List α) :=
  (as.splitOnP sep).filter fun w => !w.isEmpty

/-- Without the separators at both ends. -/
def trim (sep : α → Bool) (as : List α) : List α := (as.dropWhile sep).rdropWhile sep

/-- The first word of a trimmed text, and the text after it. -/
def splitFirst (sep : α → Bool) (as : List α) : List α × List α :=
  (as.takeWhile fun a => !sep a, (as.dropWhile fun a => !sep a).dropWhile sep)

@[simp] theorem words_nil : words sep [] = [] := rfl

/-- A separator separates. -/
theorem words_append_cons (as bs : List α) {a : α} (separates : sep a = true) :
    words sep (as ++ a :: bs) = words sep as ++ words sep bs := by
  rw [words, List.splitOnP_append_cons as bs separates, List.filter_append]
  rfl

theorem words_cons_sep (as : List α) {a : α} (separates : sep a = true) :
    words sep (a :: as) = words sep as := words_append_cons [] as separates

/-- A run without separators is a word. -/
theorem words_of_forall_not {as : List α} (solid : ∀ a ∈ as, sep a = false) (nonempty : as ≠ []) :
    words sep as = [as] := by
  rw [words, List.splitOnP_eq_singleton solid, List.filter_cons_of_pos (by simpa using nonempty),
    List.filter_nil]

theorem words_eq_nil_of_forall {as : List α} (blank : ∀ a ∈ as, sep a = true) :
    words sep as = [] := by
  induction as with
  | nil => rfl
  | cons a as ih =>
    rw [words_cons_sep as (blank a List.mem_cons_self)]
    exact ih fun b mem => blank b (List.mem_cons_of_mem a mem)

/-- Trailing separators. -/
theorem words_append_blank (as : List α) {bs : List α} (blank : ∀ b ∈ bs, sep b = true) :
    words sep (as ++ bs) = words sep as := by
  cases bs with
  | nil => rw [List.append_nil]
  | cons b bs =>
    rw [words_append_cons as bs (blank b List.mem_cons_self),
      words_eq_nil_of_forall fun b' mem => blank b' (List.mem_cons_of_mem b mem), List.append_nil]

theorem words_dropWhile (as : List α) : words sep (as.dropWhile sep) = words sep as := by
  induction as with
  | nil => rfl
  | cons a as ih =>
    rw [List.dropWhile_cons]
    split
    · rename_i separates
      rw [ih, words_cons_sep as separates]
    · rfl

theorem words_trim (as : List α) : words sep (trim sep as) = words sep as := by
  have parts := List.rdropWhile_append_rtakeWhile (p := sep) (l := as.dropWhile sep)
  calc words sep (trim sep as)
      = words sep (trim sep as ++ (as.dropWhile sep).rtakeWhile sep) :=
        (words_append_blank _ fun b mem => List.mem_rtakeWhile_imp mem).symm
    _ = words sep (as.dropWhile sep) := congrArg (words sep) parts
    _ = words sep as := words_dropWhile as

/-- A trimmed text starts with no separator. -/
theorem dropWhile_trim (as : List α) : (trim sep as).dropWhile sep = trim sep as := by
  rw [List.dropWhile_eq_self_iff]
  intro nonempty
  have isPrefix : trim sep as <+: as.dropWhile sep := List.rdropWhile_prefix _ _
  have head := isPrefix.getElem nonempty
  have positive : 0 < (as.dropWhile sep).length := Nat.lt_of_lt_of_le nonempty isPrefix.length_le
  have idem := List.dropWhile_eq_self_iff.mp (List.dropWhile_idempotent sep as) positive
  simpa only [List.get_eq_getElem, head] using idem

theorem trim_trim (as : List α) : trim sep (trim sep as) = trim sep as := by
  calc trim sep (trim sep as) = (trim sep as).rdropWhile sep := by
        conv_lhs => rw [trim, dropWhile_trim]
    _ = trim sep as := List.rdropWhile_idempotent _ _

/-- The first word has no separator. -/
theorem solid_splitFirst {as : List α} : ∀ a ∈ (splitFirst sep as).1, sep a = false := by
  intro a mem
  have letter := List.mem_takeWhile_imp mem
  rwa [Bool.not_eq_true'] at letter

/-- The first word is not empty and has no separator. -/
theorem splitFirst_solid {as : List α} (trimmed : as.dropWhile sep = as) (nonempty : as ≠ []) :
    (∀ a ∈ (splitFirst sep as).1, sep a = false) ∧ (splitFirst sep as).1 ≠ [] := by
  refine ⟨solid_splitFirst, ?_⟩
  cases as with
  | nil => exact absurd rfl nonempty
  | cons a as =>
    have letter : sep a = false := by
      by_contra separates
      rw [List.dropWhile_cons_of_pos (by simpa using separates)] at trimmed
      have shorter := (List.dropWhile_suffix sep (l := as)).length_le
      rw [trimmed, List.length_cons] at shorter
      omega
    simp [splitFirst, letter]

/-- What stands after the first word starts with a separator. -/
theorem splitFirst_rest {as bs : List α} {b : α}
    (rest : (as.dropWhile fun a => !sep a) = b :: bs) :
    sep b = true ∧ (splitFirst sep as).2 = bs.dropWhile sep := by
  have separates : sep b = true := by
    have head := List.head_dropWhile_not (fun a => !sep a) (l := as) (by simp [rest])
    simpa [rest] using head
  refine ⟨separates, ?_⟩
  rw [splitFirst, rest]
  exact List.dropWhile_cons_of_pos separates

/-- A trimmed text starts with its first word. -/
theorem words_splitFirst {as : List α} (trimmed : as.dropWhile sep = as) (nonempty : as ≠ []) :
    words sep as = (splitFirst sep as).1 :: words sep (splitFirst sep as).2 := by
  obtain ⟨solid, started⟩ := splitFirst_solid trimmed nonempty
  have parts : (splitFirst sep as).1 ++ (as.dropWhile fun a => !sep a) = as :=
    List.takeWhile_append_dropWhile
  conv_lhs => rw [← parts]
  cases rest : as.dropWhile fun a => !sep a with
  | nil =>
    have tail : (splitFirst sep as).2 = [] := by rw [splitFirst, rest]; rfl
    rw [List.append_nil, tail, words_of_forall_not solid started, words_nil]
  | cons b bs =>
    obtain ⟨separates, tail⟩ := splitFirst_rest rest
    rw [words_append_cons _ bs separates, words_of_forall_not solid started, tail, words_dropWhile]
    rfl

/-- Nothing is left of a blank text, and of no other. -/
theorem trim_eq_nil_iff (as : List α) : trim sep as = [] ↔ words sep as = [] := by
  constructor
  · intro empty
    rw [← words_trim, empty, words_nil]
  · intro blank
    by_contra nonempty
    rw [← words_trim, words_splitFirst (dropWhile_trim as) nonempty] at blank
    cases blank

theorem forall_of_trim_eq_nil {as : List α} (empty : trim sep as = []) :
    ∀ a ∈ as, sep a = true := by
  have rest := List.rdropWhile_eq_nil_iff.mp empty
  have none := List.dropWhile_eq_nil_iff.mpr rest
  rw [List.dropWhile_idempotent] at none
  exact List.dropWhile_eq_nil_iff.mp none

theorem start_splitFirst (as : List α) : (splitFirst sep as).1 <+: as := List.takeWhile_prefix _

/-- A text without separators is its first word. -/
theorem splitFirst_of_forall_not {as : List α} (solid : ∀ a ∈ as, sep a = false) :
    splitFirst sep as = (as, []) := by
  have none : (as.dropWhile fun a => !sep a) = [] :=
    List.dropWhile_eq_nil_iff.mpr fun a mem => by simp [solid a mem]
  have whole : (as.takeWhile fun a => !sep a) = as :=
    List.takeWhile_eq_self_iff.mpr fun a mem => by simp [solid a mem]
  rw [splitFirst, none, whole]
  rfl

/-- A text that is its first word has nothing after it. -/
theorem splitFirst_of_eq {as : List α} (whole : (splitFirst sep as).1 = as) :
    (splitFirst sep as).2 = [] ∧ ∀ a ∈ as, sep a = false := by
  have solid : ∀ a ∈ as, sep a = false := by
    rw [← whole]
    exact solid_splitFirst
  rw [splitFirst_of_forall_not solid]
  exact ⟨rfl, solid⟩

/-! ## Trimmed texts -/

/-- A text that starts and ends with a letter, or is empty. -/
theorem trim_eq_self_iff {as : List α} :
    trim sep as = as ↔ as.dropWhile sep = as ∧ as.rdropWhile sep = as := by
  constructor
  · intro trimmed
    rw [← trimmed]
    refine ⟨dropWhile_trim as, ?_⟩
    rw [trim]
    exact List.rdropWhile_idempotent _ _
  · intro ⟨leading, trailing⟩
    rw [trim, leading, trailing]

/-- Fewer separators leave a trimmed text alone. -/
theorem trim_of_imp {sep' : α → Bool} {as : List α} (fewer : ∀ a, sep' a = true → sep a = true)
    (trimmed : trim sep as = as) : trim sep' as = as := by
  obtain ⟨leading, trailing⟩ := trim_eq_self_iff.mp trimmed
  refine trim_eq_self_iff.mpr ⟨?_, ?_⟩
  · refine List.dropWhile_eq_self_iff.mpr fun nonempty separates => ?_
    exact List.dropWhile_eq_self_iff.mp leading nonempty (fewer _ separates)
  · refine List.rdropWhile_eq_self_iff.mpr fun nonempty separates => ?_
    exact List.rdropWhile_eq_self_iff.mp trailing nonempty (fewer _ separates)

theorem trim_cons_sep {a : α} (separates : sep a = true) (as : List α) :
    trim sep (a :: as) = trim sep as := by
  rw [trim, List.dropWhile_cons_of_pos separates, trim]

theorem trim_concat_sep {a : α} (separates : sep a = true) (as : List α) :
    trim sep (as ++ [a]) = trim sep as := by
  by_cases blank : ∀ b ∈ as, sep b = true
  · have blank' : ∀ b ∈ as ++ [a], sep b = true := by
      intro b mem
      rcases List.mem_append.mp mem with old | new
      · exact blank b old
      · rw [List.mem_singleton.mp new]
        exact separates
    rw [trim, trim, List.dropWhile_eq_nil_iff.mpr blank, List.dropWhile_eq_nil_iff.mpr blank']
  · have letter : as.dropWhile sep ≠ [] := fun none => blank (List.dropWhile_eq_nil_iff.mp none)
    rw [trim, List.dropWhile_append, if_neg (by simpa using letter),
      List.rdropWhile_concat_pos _ _ _ separates, trim]

/-- A text without separators. -/
theorem trim_of_forall_not {as : List α} (solid : ∀ a ∈ as, sep a = false) :
    trim sep as = as := by
  refine trim_eq_self_iff.mpr ⟨?_, ?_⟩
  · refine List.dropWhile_eq_self_iff.mpr fun nonempty => ?_
    simpa using solid _ (List.getElem_mem nonempty)
  · refine List.rdropWhile_eq_self_iff.mpr fun nonempty => ?_
    simpa using solid _ (List.getLast_mem nonempty)

/-- An end of a text without separators at its end. -/
theorem rdropWhile_of_suffix {as bs : List α} (trimmed : as.rdropWhile sep = as)
    (isSuffix : bs <:+ as) : bs.rdropWhile sep = bs := by
  refine List.rdropWhile_eq_self_iff.mpr fun nonempty => ?_
  rw [isSuffix.getLast nonempty]
  exact List.rdropWhile_eq_self_iff.mp trimmed _

/-- What follows the first word of a trimmed text is trimmed. -/
theorem trim_splitFirst {as : List α} (trimmed : trim sep as = as) :
    trim sep (splitFirst sep as).2 = (splitFirst sep as).2 := by
  have isSuffix : (splitFirst sep as).2 <:+ as :=
    (List.dropWhile_suffix sep).trans (List.dropWhile_suffix _)
  exact trim_eq_self_iff.mpr ⟨List.dropWhile_idempotent _ _,
    rdropWhile_of_suffix (trim_eq_self_iff.mp trimmed).2 isSuffix⟩

/-- A trimmed text with nothing after its first word. -/
theorem splitFirst_of_rest_eq_nil {as : List α} (trimmed : trim sep as = as)
    (rest : (splitFirst sep as).2 = []) : (splitFirst sep as).1 = as := by
  have parts : (splitFirst sep as).1 ++ (as.dropWhile fun a => !sep a) = as :=
    List.takeWhile_append_dropWhile
  have blank : ∀ a ∈ as.dropWhile fun a => !sep a, sep a = true := List.dropWhile_eq_nil_iff.mp rest
  have none : (as.dropWhile fun a => !sep a) = [] := by
    by_contra nonempty
    have isSuffix : (as.dropWhile fun a => !sep a) <:+ as := List.dropWhile_suffix _
    have last := List.rdropWhile_eq_self_iff.mp (trim_eq_self_iff.mp trimmed).2
      (fun empty => nonempty (List.suffix_nil.mp (empty ▸ isSuffix)))
    rw [← isSuffix.getLast nonempty] at last
    exact last (blank _ (List.getLast_mem nonempty))
  rw [none, List.append_nil] at parts
  exact parts

/-- Two trimmed texts, joined. -/
theorem trim_append_cons {as bs : List α} (a : α) (trimmedAs : trim sep as = as)
    (trimmedBs : trim sep bs = bs) (nonemptyAs : as ≠ []) (nonemptyBs : bs ≠ []) :
    trim sep (as ++ a :: bs) = as ++ a :: bs := by
  refine trim_eq_self_iff.mpr ⟨?_, ?_⟩
  · refine List.dropWhile_eq_self_iff.mpr fun nonempty => ?_
    have positive : 0 < as.length := List.length_pos_iff.mpr nonemptyAs
    have head := List.dropWhile_eq_self_iff.mp (trim_eq_self_iff.mp trimmedAs).1 positive
    simpa [List.getElem_append_left positive] using head
  · refine List.rdropWhile_eq_self_iff.mpr fun nonempty => ?_
    have last := List.rdropWhile_eq_self_iff.mp (trim_eq_self_iff.mp trimmedBs).2 nonemptyBs
    simpa [List.getLast_append_of_ne_nil, List.getLast_cons nonemptyBs] using last

/-- The first word ends where the first separator stands. -/
theorem splitFirst_append_cons {as : List α} (bs : List α) {a : α}
    (solid : ∀ b ∈ as, sep b = false) (separates : sep a = true) :
    splitFirst sep (as ++ a :: bs) = (as, bs.dropWhile sep) := by
  have letters : ∀ b ∈ as, (!sep b) = true := fun b mem => by rw [solid b mem]; rfl
  rw [splitFirst, List.takeWhile_append_of_pos letters, List.dropWhile_append_of_pos letters,
    List.takeWhile_cons_of_neg (by simpa using separates), List.append_nil,
    List.dropWhile_cons_of_neg (by simpa using separates),
    List.dropWhile_cons_of_pos (by simpa using separates)]

/-! ## The end of a text -/

/-- The separators at the end of a text are dropped. -/
theorem rdropWhile_append_sep (as : List α) {bs : List α} (blank : ∀ b ∈ bs, sep b = true) :
    (as ++ bs).rdropWhile sep = as.rdropWhile sep := by
  induction bs using List.reverseRecOn with
  | nil => rw [List.append_nil]
  | append_singleton bs b ih =>
    have last : sep b = true := blank b (List.mem_append_right bs (List.mem_singleton_self b))
    rw [← List.append_assoc, List.rdropWhile_concat_pos _ _ _ last]
    exact ih fun c mem => blank c (List.mem_append_left [b] mem)

/-- Nothing is dropped before the last letter. -/
theorem rdropWhile_append_cons (as bs : List α) {a : α} (letter : sep a = false) :
    (as ++ a :: bs).rdropWhile sep = as ++ a :: bs.rdropWhile sep := by
  induction bs using List.reverseRecOn with
  | nil => exact List.rdropWhile_concat_neg _ _ _ (by rw [letter]; exact Bool.false_ne_true)
  | append_singleton bs b ih =>
    have regroup : as ++ a :: (bs ++ [b]) = (as ++ a :: bs) ++ [b] := by
      rw [List.append_assoc, List.cons_append]
    rw [regroup, List.rdropWhile_concat, List.rdropWhile_concat, ih]
    split
    · rfl
    · exact regroup.symm

/-- A text is what is left of it and the separators at its end. -/
theorem exists_rdropWhile_append (sep : α → Bool) (as : List α) :
    ∃ trailing, (∀ a ∈ trailing, sep a = true) ∧ as.rdropWhile sep ++ trailing = as :=
  ⟨as.rtakeWhile sep, fun _ mem => List.mem_rtakeWhile_imp mem, List.rdropWhile_append_rtakeWhile⟩

/-! ## One blank between the words -/

/-- `squeeze`, after a separator or not. -/
def squeezeFrom (sep : α → Bool) (blank : α) : Bool → List α → List α
  | _, [] => []
  | afterSep, a :: as =>
    if sep a then
      if afterSep then squeezeFrom sep blank true as else blank :: squeezeFrom sep blank true as
    else a :: squeezeFrom sep blank false as

/-- The text with one blank for every maximal run of separators. -/
def squeeze (sep : α → Bool) (blank : α) (as : List α) : List α := squeezeFrom sep blank false as

theorem squeezeFrom_true (blank : α) (as : List α) :
    squeezeFrom sep blank true as = squeeze sep blank (as.dropWhile sep) := by
  induction as with
  | nil => rfl
  | cons a as ih =>
    by_cases separates : sep a = true
    · rw [squeezeFrom, if_pos separates, if_pos rfl, ih, List.dropWhile_cons_of_pos separates]
    · rw [List.dropWhile_cons_of_neg separates, squeezeFrom, squeeze, squeezeFrom,
        if_neg separates, if_neg separates]

theorem squeeze_cons_sep (blank : α) (as : List α) {a : α} (separates : sep a = true) :
    squeeze sep blank (a :: as) = blank :: squeeze sep blank (as.dropWhile sep) := by
  rw [squeeze, squeezeFrom, if_pos separates, if_neg Bool.false_ne_true, squeezeFrom_true]

theorem squeeze_append (blank : α) {as : List α} (bs : List α)
    (solid : ∀ a ∈ as, sep a = false) :
    squeeze sep blank (as ++ bs) = as ++ squeeze sep blank bs := by
  induction as with
  | nil => rfl
  | cons a as ih =>
    have letter : ¬ sep a = true := by simp [solid a List.mem_cons_self]
    rw [List.cons_append, squeeze, squeezeFrom, if_neg letter]
    exact congrArg (a :: ·) (ih fun b mem => solid b (List.mem_cons_of_mem a mem))

/-- Only the separators in the text matter. -/
theorem squeeze_congr {sep' : α → Bool} (blank : α) {as : List α}
    (same : ∀ a ∈ as, sep a = sep' a) : squeeze sep blank as = squeeze sep' blank as := by
  have general : ∀ afterSep, squeezeFrom sep blank afterSep as =
      squeezeFrom sep' blank afterSep as := by
    induction as with
    | nil => exact fun _ => rfl
    | cons a as ih =>
      intro afterSep
      have tail := ih fun b mem => same b (List.mem_cons_of_mem a mem)
      rw [squeezeFrom, squeezeFrom, same a List.mem_cons_self, tail true, tail false]
  exact general false

/-- A trimmed text is empty, a word, or a word, separators and a shorter trimmed text. -/
theorem trimmed_induction {P : List α → Prop} {as : List α} (trimmed : trim sep as = as)
    (empty : P []) (word : ∀ w, (∀ a ∈ w, sep a = false) → w ≠ [] → P w)
    (more : ∀ w b bs, (∀ a ∈ w, sep a = false) → w ≠ [] → sep b = true → words sep bs ≠ [] →
      P (bs.dropWhile sep) → P (w ++ b :: bs)) : P as := by
  by_cases nonempty : as = []
  · rw [nonempty]
    exact empty
  · obtain ⟨solid, started⟩ := splitFirst_solid (trim_eq_self_iff.mp trimmed).1 nonempty
    have parts : (splitFirst sep as).1 ++ (as.dropWhile fun a => !sep a) = as :=
      List.takeWhile_append_dropWhile
    cases rest : as.dropWhile fun a => !sep a with
    | nil =>
      rw [rest, List.append_nil] at parts
      rw [← parts]
      exact word _ solid started
    | cons b bs =>
      obtain ⟨separates, tail⟩ := splitFirst_rest rest
      have trimmedTail : trim sep (bs.dropWhile sep) = bs.dropWhile sep := by
        rw [← tail]
        exact trim_splitFirst trimmed
      rw [rest] at parts
      have total : (splitFirst sep as).1.length + (bs.length + 1) = as.length := by
        rw [← List.length_cons, ← List.length_append, parts]
      have others : words sep bs ≠ [] := by
        intro blank
        rw [← words_dropWhile, ← trim_eq_nil_iff, trimmedTail] at blank
        rw [splitFirst_of_rest_eq_nil trimmed (tail.trans blank)] at total
        omega
      have shorter : (bs.dropWhile sep).length < as.length := by
        have atMost := (List.dropWhile_suffix sep (l := bs)).length_le
        omega
      rw [← parts]
      exact more _ b bs solid started separates others
        (trimmed_induction trimmedTail empty word more)
termination_by as.length

section Squeezed

variable {blank : α} {as bs : List α}

theorem words_squeeze (blanks : sep blank = true) (trimmed : trim sep as = as) :
    words sep (squeeze sep blank as) = words sep as := by
  refine trimmed_induction (P := fun as => words sep (squeeze sep blank as) = words sep as) trimmed
    rfl ?word ?more
  case word =>
    intro w solid _
    have same := squeeze_append blank [] solid
    rw [List.append_nil] at same
    rw [same]
    exact congrArg (words sep) (List.append_nil w)
  case more =>
    intro w b bs solid _ separates _ ih
    rw [squeeze_append blank (b :: bs) solid, squeeze_cons_sep blank bs separates,
      words_append_cons _ _ blanks, words_append_cons _ _ separates, ih, words_dropWhile]

/-- The words, with one blank between two of them. -/
theorem squeeze_eq_intercalate (trimmed : trim sep as = as) :
    squeeze sep blank as = [blank].intercalate (words sep as) := by
  refine trimmed_induction (P := fun as => squeeze sep blank as =
    [blank].intercalate (words sep as)) trimmed rfl ?word ?more
  case word =>
    intro w solid started
    have same := squeeze_append blank [] solid
    rw [List.append_nil] at same
    rw [same, words_of_forall_not solid started, List.intercalate_singleton]
    exact List.append_nil w
  case more =>
    intro w b bs solid started separates others ih
    rw [squeeze_append blank (b :: bs) solid, squeeze_cons_sep blank bs separates,
      words_append_cons _ _ separates, words_of_forall_not solid started, ih, words_dropWhile,
      List.singleton_append, List.intercalate_cons_of_ne_nil others, List.append_assoc,
      List.singleton_append]

/-- **Squeezed texts are equal when they have the same words.** -/
theorem squeeze_inj (blanks : sep blank = true) (trimmedAs : trim sep as = as)
    (trimmedBs : trim sep bs = bs) :
    squeeze sep blank as = squeeze sep blank bs ↔ words sep as = words sep bs := by
  constructor
  · intro same
    rw [← words_squeeze blanks trimmedAs, same, words_squeeze blanks trimmedBs]
  · intro same
    rw [squeeze_eq_intercalate trimmedAs, same, squeeze_eq_intercalate trimmedBs]

end Squeezed

end Words
