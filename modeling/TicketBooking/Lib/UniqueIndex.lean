import TicketBooking.Lib.Fallible
import Mathlib.Data.List.Nodup

/-!
# Inserting rows under a unique index

An INSERT in the abstract: a row goes in when it fits the tables and its entry, if it has one, is
not in the index yet.

* `InsertRule.insertAll_ok_iff`: a whole list of rows goes in when each row fits and the entries are
  new to the index and to each other.
* `InsertRule.insertAll_ok_elsewhere`: so it also goes into other tables, whose index has none of
  its entries.
-/

namespace UniqueIndex

open Fallible

variable {σ ρ κ ε : Type}

/-- What an INSERT of one row checks and does. -/
structure InsertRule (insert : σ → ρ → Except ε σ) (fits : σ → ρ → Prop) (entry : ρ → Option κ)
    (index : σ → List κ) (append : σ → ρ → σ) : Prop where
  ok_iff : ∀ s s' r, insert s r = .ok s' ↔
    fits s r ∧ (∀ e, entry r = some e → e ∉ index s) ∧ s' = append s r
  fits_append : ∀ s r r', fits (append s r) r' ↔ fits s r'
  mem_index_append : ∀ s r e, e ∈ index (append s r) ↔ e ∈ index s ∨ entry r = some e

variable {insert : σ → ρ → Except ε σ} {fits : σ → ρ → Prop} {entry : ρ → Option κ}
  {index : σ → List κ} {append : σ → ρ → σ}

theorem filterMap_cons_toList (entry : ρ → Option κ) (r : ρ) (rows : List ρ) :
    (r :: rows).filterMap entry = (entry r).toList ++ rows.filterMap entry := by
  rw [List.filterMap_cons]
  cases entry r <;> rfl

/-- The rows of a list go in one after the other when each fits, and their entries are new to the
index and to each other. -/
theorem InsertRule.insertAll_ok_iff (rule : InsertRule insert fits entry index append) {s s' : σ}
    {rows : List ρ} : rows.foldlM insert s = .ok s' ↔
      (∀ r ∈ rows, fits s r) ∧ (rows.filterMap entry).Nodup ∧
      (∀ e ∈ rows.filterMap entry, e ∉ index s) ∧ s' = rows.foldl append s := by
  induction rows generalizing s with
  | nil =>
    simp only [List.foldlM_nil, List.foldl_nil, List.filterMap_nil, List.not_mem_nil,
      List.nodup_nil, false_implies, implies_true, true_and]
    exact ⟨fun same => (Except.ok.inj same).symm, fun same => congrArg Except.ok same.symm⟩
  | cons r rows ih =>
    rw [List.foldlM_cons, bind_ok_iff, filterMap_cons_toList, List.nodup_append]
    constructor
    · intro inserted
      obtain ⟨mid, first, rest⟩ := inserted
      obtain ⟨firstFits, firstNew, rfl⟩ := (rule.ok_iff _ _ _).mp first
      obtain ⟨restFit, distinct, new, rfl⟩ := ih.mp rest
      simp only [rule.mem_index_append, not_or] at new
      refine ⟨List.forall_mem_cons.mpr ⟨firstFits, fun r' mem => ?_⟩,
        ⟨by cases entry r <;> simp, distinct, ?_⟩, fun e mem => ?_, rfl⟩
      · exact (rule.fits_append s r r').mp (restFit r' mem)
      · rintro e inFirst e' inRest rfl
        exact (new e inRest).2 (Option.mem_toList.mp inFirst)
      · rcases List.mem_append.mp mem with inFirst | inRest
        · exact firstNew e (Option.mem_toList.mp inFirst)
        · exact (new e inRest).1
    · intro allowed
      obtain ⟨allFit, ⟨-, distinct, apart⟩, new, rfl⟩ := allowed
      obtain ⟨firstFits, restFit⟩ := List.forall_mem_cons.mp allFit
      refine ⟨append s r, (rule.ok_iff _ _ _).mpr ⟨firstFits, fun e first => ?_, rfl⟩,
        ih.mpr ⟨fun r' mem => ?_, distinct, fun e mem => ?_, rfl⟩⟩
      · exact new e (List.mem_append_left _ (Option.mem_toList.mpr first))
      · exact (rule.fits_append s r r').mpr (restFit r' mem)
      · rw [rule.mem_index_append, not_or]
        refine ⟨new e (List.mem_append_right _ mem), fun first => ?_⟩
        exact apart e (Option.mem_toList.mpr first) e mem rfl

/-- The index after an insertion. -/
theorem InsertRule.mem_index_appendAll (rule : InsertRule insert fits entry index append) {s : σ}
    {rows : List ρ} {e : κ} :
    e ∈ index (rows.foldl append s) ↔ e ∈ index s ∨ e ∈ rows.filterMap entry := by
  induction rows generalizing s with
  | nil => simp
  | cons r rows ih =>
    rw [List.foldl_cons, ih, rule.mem_index_append, filterMap_cons_toList, List.mem_append,
      Option.mem_toList, or_assoc]

/-- Rows that go into some tables also go into others with a smaller or a different index. -/
theorem InsertRule.insertAll_ok_elsewhere (rule : InsertRule insert fits entry index append)
    {s s' t : σ} {rows : List ρ} (inserted : rows.foldlM insert s = .ok s')
    (sameFits : ∀ r, fits s r → fits t r)
    (new : ∀ e ∈ rows.filterMap entry, e ∉ index s → e ∉ index t) :
    rows.foldlM insert t = .ok (rows.foldl append t) := by
  obtain ⟨allFit, distinct, free, -⟩ := rule.insertAll_ok_iff.mp inserted
  exact rule.insertAll_ok_iff.mpr ⟨fun r mem => sameFits r (allFit r mem), distinct,
    fun e mem => new e mem (free e mem), rfl⟩

end UniqueIndex
