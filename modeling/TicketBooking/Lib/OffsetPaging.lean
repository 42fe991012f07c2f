import Mathlib.Data.List.Nodup
import Mathlib.Data.List.Sort

/-!
# Reading a sorted list by offset

A reader takes a sorted list page by page, each page starting at the number of rows it has received,
while rows are inserted into the list.

* `InStep` says that what was received is still the head of the list; a row inserted behind it keeps
  it so.
* `Repeats` says that the reader has received a row twice, or will: a row it has received lies at or
  behind its offset.  A row inserted ahead of a received one makes it so, and nothing helps after
  that.
-/

namespace OffsetPaging

variable {κ : Type} {r : κ → κ → Prop} [DecidableRel r]

/-! ## Inserting a row -/

/-- A row inserted behind the first `n` rows does not move them. -/
theorem take_orderedInsert {a : κ} {rows : List κ} {n : ℕ} (within : n ≤ rows.length)
    (behind : ∀ b ∈ rows.take n, ¬ r a b) : (rows.orderedInsert r a).take n = rows.take n := by
  induction rows generalizing n with
  | nil =>
    have zero : n = 0 := by simpa using within
    rw [zero, List.take_zero, List.take_zero]
  | cons b rows ih =>
    cases n with
    | zero => rfl
    | succ n =>
      have notAhead : ¬ r a b := behind b (by simp)
      rw [List.orderedInsert_cons, if_neg notAhead, List.take_succ_cons, List.take_succ_cons,
        ih (by simpa using within) fun b' mem => behind b' (by simp [mem])]

/-- A row inserted ahead of one of the first `n` rows pushes one of them out. -/
theorem pushed_orderedInsert {a : κ} {rows : List κ} {n : ℕ} (within : n ≤ rows.length)
    (ahead : ∃ b ∈ rows.take n, r a b) :
    ∃ b ∈ rows.take n, b ∈ (rows.orderedInsert r a).drop n := by
  induction rows generalizing n with
  | nil =>
    obtain ⟨b, mem, -⟩ := ahead
    simp at mem
  | cons b rows ih =>
    cases n with
    | zero =>
      obtain ⟨b', mem, -⟩ := ahead
      simp at mem
    | succ n =>
      rw [List.orderedInsert_cons]
      split
      · have inside : n < (b :: rows).length := within
        refine ⟨(b :: rows)[n], ?_, ?_⟩
        · exact List.mem_take_iff_getElem.mpr ⟨n, by omega, rfl⟩
        · exact List.mem_drop_iff_getElem.mpr ⟨0, by simpa using inside, by simp⟩
      · rename_i notAhead
        obtain ⟨b', mem, aheadOf⟩ := ahead
        rcases List.mem_cons.mp (by simpa using mem) with rfl | later
        · exact absurd aheadOf notAhead
        · obtain ⟨pushed, inTake, inDrop⟩ := ih (by simpa using within) ⟨b', later, aheadOf⟩
          exact ⟨pushed, by simp [inTake], by simpa using inDrop⟩

/-- What lies at or behind an offset stays there. -/
theorem mem_drop_orderedInsert {a b : κ} {rows : List κ} {n : ℕ} (mem : b ∈ rows.drop n) :
    b ∈ (rows.orderedInsert r a).drop n := by
  induction rows generalizing n with
  | nil => simp at mem
  | cons b' rows ih =>
    rw [List.orderedInsert_cons]
    split
    · cases n with
      | zero => exact List.mem_cons_of_mem a mem
      | succ n =>
        have later : b ∈ ((b' :: rows).drop n).drop 1 := by simpa using mem
        exact List.mem_of_mem_drop later
    · cases n with
      | zero =>
        rcases List.mem_cons.mp mem with rfl | later
        · exact List.mem_cons_self
        · exact List.mem_cons_of_mem b' ((List.mem_orderedInsert r).mpr (.inr later))
      | succ n => exact ih mem

/-! ## The reader -/

/-- The reader has received the head of the list. -/
def InStep (rows received : List κ) : Prop := received <+: rows

/-- The reader has received a row twice, or has it ahead of it again. -/
def Repeats (rows received : List κ) : Prop :=
  ¬ received.Nodup ∨ ∃ b ∈ received, b ∈ rows.drop received.length

/-- The next page. -/
def page (limit : ℕ) (rows received : List κ) : List κ := (rows.drop received.length).take limit

section Reader

variable {rows received : List κ} {a : κ} {limit : ℕ}

theorem InStep.insert (inStep : InStep rows received) (behind : ∀ b ∈ received, ¬ r a b) :
    InStep (rows.orderedInsert r a) received := by
  have head : rows.take received.length = received := (List.prefix_iff_eq_take.mp inStep).symm
  have unmoved := take_orderedInsert (r := r) (a := a) inStep.length_le (by rwa [head])
  rw [head] at unmoved
  exact List.prefix_iff_eq_take.mpr unmoved.symm

theorem InStep.insert_ahead (inStep : InStep rows received) (ahead : ∃ b ∈ received, r a b) :
    Repeats (rows.orderedInsert r a) received := by
  have head : rows.take received.length = received := (List.prefix_iff_eq_take.mp inStep).symm
  have pushed := pushed_orderedInsert (r := r) (a := a) inStep.length_le (by rwa [head])
  rw [head] at pushed
  exact .inr pushed

theorem Repeats.insert (repeats : Repeats rows received) :
    Repeats (rows.orderedInsert r a) received := by
  rcases repeats with twice | ⟨b, mem, again⟩
  · exact .inl twice
  · exact .inr ⟨b, mem, mem_drop_orderedInsert again⟩

theorem InStep.read (inStep : InStep rows received) (limit : ℕ) :
    InStep rows (received ++ page limit rows received) := by
  obtain ⟨rest, rfl⟩ := inStep
  have next : page limit (received ++ rest) received = rest.take limit := by
    rw [page, List.drop_left]
  rw [next, InStep, List.prefix_append_right_inj]
  exact List.take_prefix limit rest

theorem Repeats.read (repeats : Repeats rows received) (limit : ℕ) :
    Repeats rows (received ++ page limit rows received) := by
  rcases repeats with twice | ⟨b, mem, again⟩
  · exact .inl fun nodup => twice nodup.of_append_left
  · by_cases now : b ∈ page limit rows received
    · refine .inl fun nodup => ?_
      exact (List.nodup_append.mp nodup).2.2 b mem b now rfl
    · -- the page was full, and the row lies behind it
      refine .inr ⟨b, List.mem_append_left _ mem, ?_⟩
      rw [← List.take_append_drop limit (rows.drop received.length), List.mem_append] at again
      have behind := again.resolve_left now
      rw [List.drop_drop] at behind
      have shorter : (page limit rows received).length ≤ limit := List.length_take_le _ _
      exact List.drop_subset_drop_left rows (by rw [List.length_append]; omega) behind

/-- A short page is the last one. -/
theorem page_of_short (short : (page limit rows received).length < limit) :
    page limit rows received = rows.drop received.length := by
  refine List.take_of_length_le ?_
  rw [page, List.length_take] at short
  omega

/-- The reader that is in step when it has read a short page has the list. -/
theorem InStep.finish (inStep : InStep rows received)
    (short : (page limit rows received).length < limit) :
    received ++ page limit rows received = rows := by
  obtain ⟨rest, rfl⟩ := inStep
  rw [page_of_short short, List.drop_left]

theorem Repeats.finish (repeats : Repeats rows received)
    (short : (page limit rows received).length < limit) :
    ¬ (received ++ page limit rows received).Nodup := by
  intro nodup
  rcases repeats with twice | ⟨b, mem, again⟩
  · exact twice nodup.of_append_left
  · rw [page_of_short short] at nodup
    exact (List.nodup_append.mp nodup).2.2 b mem b again rfl

end Reader

end OffsetPaging
