import TicketBooking.Lib.ListUpdate

/-!
# Filling the first slot with room

A demand of `q` goes to the first slot whose level is at most `limit - q`.  `roomFor limit q level`
is the number of demands that still fit; one demand takes one of them, wherever it goes, so the
rooms of all slots count down to the point where nothing fits any more.

A demand that is taken back from the first slot, wherever it went, leaves the levels as they were
only if the first slot had room (`takeBack_iff`).
-/

namespace FirstFit

open ListUpdate

/-- How many times `q` fits between the level and the limit. -/
def roomFor (limit : ℤ) (q : ℕ) (level : ℤ) : ℕ := ((limit - level) / q).toNat

section Room

variable {limit level : ℤ} {q : ℕ}

/-- After `m` demands one more fits as long as `m` is below the room. -/
theorem lt_roomFor_iff (positive : 0 < q) (m : ℕ) :
    m < roomFor limit q level ↔ level + q * m ≤ limit - q := by
  have quantum : (0 : ℤ) < q := by omega
  have fits : (m : ℤ) + 1 ≤ (limit - level) / q ↔ ((m : ℤ) + 1) * q ≤ limit - level :=
    Int.le_ediv_iff_mul_le quantum
  have product : ((m : ℤ) + 1) * q = q * m + q := by
    rw [Int.add_mul, Int.one_mul, Int.mul_comm]
  rw [product] at fits
  unfold roomFor
  omega

theorem roomFor_pos_iff (positive : 0 < q) : 0 < roomFor limit q level ↔ level ≤ limit - q := by
  rw [lt_roomFor_iff positive]
  simp

theorem roomFor_add (positive : 0 < q) (fits : level ≤ limit - q) :
    roomFor limit q (level + q) + 1 = roomFor limit q level := by
  have quantum : (q : ℤ) ≠ 0 := by omega
  have split : limit - level = limit - (level + q) + q := by omega
  have shifted : (limit - level) / q = (limit - (level + q)) / q + 1 := by
    rw [split, Int.add_ediv_of_dvd_right (Int.dvd_refl _), Int.ediv_self quantum]
  have nonneg : 0 ≤ (limit - (level + q)) / (q : ℤ) := Int.ediv_nonneg (by omega) (by omega)
  unfold roomFor
  omega

/-- A slot that started at `level` and took what fitted of `n` demands. -/
theorem fits_after_iff (positive : 0 < q) (n : ℕ) :
    level + q * (min n (roomFor limit q level) : ℕ) ≤ limit - q ↔ n < roomFor limit q level := by
  rw [← lt_roomFor_iff positive]
  omega

end Room

section Slots

variable {α : Type} {p : α → Bool} {f : α → α} {weight : α → ℕ}

/-- The update takes one room away, when it finds a slot. -/
theorem sum_updateFirst (pays : ∀ a, p a = true → weight (f a) + 1 = weight a) (as : List α) :
    ((updateFirst p f as).map weight).sum + (as.any p).toNat = (as.map weight).sum := by
  induction as with
  | nil => rfl
  | cons a as ih =>
    rw [updateFirst, List.any_cons]
    cases hit : p a with
    | true =>
      have paid := pays a hit
      simp only [if_true, List.map_cons, List.sum_cons, Bool.true_or, Bool.toNat_true]
      omega
    | false =>
      simp only [Bool.false_eq_true, if_false, List.map_cons, List.sum_cons, Bool.false_or]
      omega

/-- There is a slot to update as long as there is room. -/
theorem any_iff_sum_pos (hits : ∀ a, p a = true ↔ 0 < weight a) (as : List α) :
    as.any p = true ↔ 0 < (as.map weight).sum := by
  induction as with
  | nil => simp
  | cons a as ih =>
    rw [List.any_cons, Bool.or_eq_true, hits, ih, List.map_cons, List.sum_cons]
    omega

end Slots

section TakingBack

variable {fits : ℤ → Bool} {q : ℕ} {levels : List ℤ}

/-- What the first slot with room took is taken back from the first slot: the levels are as before
exactly when that slot had room. -/
theorem takeBack_iff (positive : 0 < q) (taken : levels.any fits = true) :
    updateFirst (fun _ => true) (· + -(q : ℤ)) (updateFirst fits (· + (q : ℤ)) levels) = levels ↔
      levels.head?.any fits = true := by
  cases levels with
  | nil => cases taken
  | cons level rest =>
    rw [updateFirst, List.head?_cons, Option.any_some]
    cases room : fits level with
    | true => simp [updateFirst]
    | false =>
      have moved : level + -(q : ℤ) ≠ level := by omega
      simp [updateFirst, moved]

/-- A demand that found room changed a level. -/
theorem updateFirst_ne (positive : 0 < q) (taken : levels.any fits = true) :
    updateFirst fits (· + (q : ℤ)) levels ≠ levels := by
  induction levels with
  | nil => cases taken
  | cons level rest ih =>
    rw [updateFirst]
    cases room : fits level with
    | true =>
      have moved : level + (q : ℤ) ≠ level := by omega
      simp [moved]
    | false =>
      rw [List.any_cons, room, Bool.false_or] at taken
      simp [ih taken]

end TakingBack

end FirstFit
