import Mathlib.Data.List.Basic
import Mathlib.Data.Nat.Init
import Mathlib.Logic.Function.Basic

/-!
# Bijective numeration

A number written with the digits `1, …, b` and no zero, as spreadsheet columns are: every number has
exactly one such notation.  Digits are stored less one, so they are below `b`, most significant
first.
-/

namespace BijectiveDigits

theorem pred_div_lt {n : ℕ} (b : ℕ) (positive : 0 < n) : (n - 1) / b < n :=
  Nat.lt_of_le_of_lt (Nat.div_le_self _ _) (by omega)

/-- The digits of `n`; zero has none. -/
def digits (b n : ℕ) : List ℕ :=
  if _positive : 0 < n then digits b ((n - 1) / b) ++ [(n - 1) % b] else []
termination_by n
decreasing_by exact pred_div_lt b _positive

/-- The number that the digits stand for. -/
def value (b : ℕ) (ds : List ℕ) : ℕ := ds.foldl (fun v d => v * b + (d + 1)) 0

variable {b : ℕ}

@[simp] theorem digits_zero : digits b 0 = [] := by
  rw [digits]
  rfl

theorem digits_of_pos {n : ℕ} (positive : 0 < n) :
    digits b n = digits b ((n - 1) / b) ++ [(n - 1) % b] := by
  rw [digits, dif_pos positive]

theorem value_concat (ds : List ℕ) (d : ℕ) : value b (ds ++ [d]) = value b ds * b + (d + 1) := by
  rw [value, List.foldl_append]
  rfl

/-- Reading back what was written. -/
theorem value_digits (b n : ℕ) : value b (digits b n) = n := by
  induction n using Nat.strongRecOn with
  | ind n ih =>
    by_cases positive : 0 < n
    · have parts := Nat.div_add_mod' (n - 1) b
      rw [digits_of_pos positive, value_concat, ih _ (pred_div_lt b positive)]
      omega
    · have zero : n = 0 := by omega
      rw [zero, digits_zero]
      rfl

/-- Different numbers have different digits. -/
theorem digits_injective (b : ℕ) : Function.Injective (digits b) :=
  Function.LeftInverse.injective (value_digits b)

theorem digits_lt {n : ℕ} (positive : 0 < b) : ∀ d ∈ digits b n, d < b := by
  induction n using Nat.strongRecOn with
  | ind n ih =>
    intro d mem
    by_cases nonzero : 0 < n
    · rw [digits_of_pos nonzero] at mem
      rcases List.mem_append.mp mem with early | last
      · exact ih _ (pred_div_lt b nonzero) d early
      · rw [List.mem_singleton.mp last]
        exact Nat.mod_lt _ positive
    · have zero : n = 0 := by omega
      rw [zero, digits_zero] at mem
      cases mem

/-- So have they when letters stand for the digits. -/
theorem map_digits_injective {α : Type} {letter : ℕ → α} (read : α → ℕ) (positive : 0 < b)
    (readBack : ∀ d < b, read (letter d) = d) :
    Function.Injective fun n => (digits b n).map letter := by
  have decoded : ∀ n, ((digits b n).map letter).map read = digits b n := by
    intro n
    rw [List.map_map]
    conv_rhs => rw [← List.map_id (digits b n)]
    exact List.map_congr_left fun d mem => readBack d (digits_lt positive d mem)
  intro m n same
  apply digits_injective b
  rw [← decoded m, ← decoded n]
  exact congrArg (List.map read) same

end BijectiveDigits
