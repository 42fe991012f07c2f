import Mathlib.Data.List.Basic

/-!
# Joined records

A text that joins its records with a separator, and the fields of a record with another one, without
any escapes.  `[sep].intercalate records` is the joined text.

* `intercalate_inj`: records without separators can be read back.
* `intercalate_inj_of_length`: of two lists with equally many records, one without separators is
  enough, since the separators can be counted.
* `field_inj`: a first field without separators can be read back, whatever follows it.
-/

namespace JoinedRecords

variable {α : Type} {sep : α} {records others : List (List α)}

theorem notMem_flatten : sep ∉ records.flatten ↔ ∀ record ∈ records, sep ∉ record := by
  simp only [List.mem_flatten, not_exists, not_and]

section Records

variable [DecidableEq α]

/-- The separators inside the records, and those between them. -/
theorem count_intercalate (records : List (List α)) : ([sep].intercalate records).count sep =
    records.flatten.count sep + (records.length - 1) := by
  induction records with
  | nil => rfl
  | cons record records ih =>
    cases records with
    | nil => simp
    | cons next rest =>
      have between : [sep].intercalate (record :: next :: rest) =
          record ++ sep :: [sep].intercalate (next :: rest) := by
        rw [List.intercalate_cons_cons, List.append_assoc, List.singleton_append]
      have inside : (record :: next :: rest).flatten.count sep =
          record.count sep + (next :: rest).flatten.count sep := by
        rw [List.flatten_cons, List.count_append]
      rw [between, List.count_append, List.count_cons_self, ih, inside]
      simp only [List.length_cons]
      omega

/-- **Records without separators can be read back.** -/
theorem intercalate_inj (clean : ∀ record ∈ records, sep ∉ record)
    (cleanOthers : ∀ record ∈ others, sep ∉ record) (nonempty : records ≠ [])
    (nonemptyOthers : others ≠ [])
    (same : [sep].intercalate records = [sep].intercalate others) : records = others := by
  rw [← List.splitOn_intercalate sep clean nonempty, same,
    List.splitOn_intercalate sep cleanOthers nonemptyOthers]

/-- Where the records have no separators, no other list of that length has the same text. -/
theorem intercalate_inj_of_length (clean : ∀ record ∈ records, sep ∉ record)
    (length : records.length = others.length)
    (same : [sep].intercalate records = [sep].intercalate others) : records = others := by
  have counts := congrArg (List.count sep) same
  rw [count_intercalate, count_intercalate, List.count_eq_zero.mpr (notMem_flatten.mpr clean),
    length, Nat.zero_add] at counts
  have inside : others.flatten.count sep = 0 := by omega
  have cleanOthers := notMem_flatten.mp (List.count_eq_zero.mp inside)
  by_cases nonempty : records = []
  · have none : others = [] := by
      rw [nonempty] at length
      exact List.length_eq_zero_iff.mp length.symm
    rw [nonempty, none]
  · have nonemptyOthers : others ≠ [] := by
      intro none
      rw [none] at length
      exact nonempty (List.length_eq_zero_iff.mp length)
    exact intercalate_inj clean cleanOthers nonempty nonemptyOthers same

end Records

/-- **A first field without separators can be read back.** -/
theorem field_inj {field field' rest rest' : List α} (clean : sep ∉ field) (clean' : sep ∉ field')
    (same : field ++ sep :: rest = field' ++ sep :: rest') : field = field' ∧ rest = rest' := by
  induction field generalizing field' with
  | nil =>
    cases field' with
    | nil => exact ⟨rfl, (List.cons.inj same).2⟩
    | cons a field' =>
      rw [(List.cons.inj same).1] at clean'
      exact absurd List.mem_cons_self clean'
  | cons a field ih =>
    cases field' with
    | nil =>
      rw [← (List.cons.inj same).1] at clean
      exact absurd List.mem_cons_self clean
    | cons a' field' =>
      obtain ⟨head, tail⟩ := List.cons.inj same
      obtain ⟨fields, rests⟩ := ih (fun mem => clean (List.mem_cons_of_mem a mem))
        (fun mem => clean' (List.mem_cons_of_mem a' mem)) tail
      exact ⟨by rw [head, fields], rests⟩

end JoinedRecords
