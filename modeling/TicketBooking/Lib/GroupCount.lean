import Mathlib.Algebra.BigOperators.Group.List.Basic
import Mathlib.Algebra.GroupWithZero.Nat
import Mathlib.Data.List.Count
import Mathlib.Data.List.Nodup

/-!
# Counting a list by key

`groupCount key as` is the insertion-ordered dictionary that a counting loop (or a `GROUP BY` with
`count(*)`) builds: one entry per key, holding the first element with that key and the number of
elements with it.  `sum_groupCount` reads a count back from any number of groups.
-/

namespace GroupCount

variable {α κ : Type} [DecidableEq κ]

/-- One turn of the counting loop. -/
def bump (key : α → κ) : List (α × ℕ) → α → List (α × ℕ)
  | [], a => [(a, 1)]
  | (b, n) :: groups, a =>
    if key b = key a then (b, n + 1) :: groups else (b, n) :: bump key groups a

def groupCount (key : α → κ) (as : List α) : List (α × ℕ) := as.foldl (bump key) []

/-- How much an entry counts for the keys satisfying `p`. -/
def countFor (key : α → κ) (p : κ → Bool) (group : α × ℕ) : ℕ :=
  if p (key group.1) then group.2 else 0

theorem sum_bump (key : α → κ) (p : κ → Bool) (groups : List (α × ℕ)) (a : α) :
    ((bump key groups a).map (countFor key p)).sum =
      (groups.map (countFor key p)).sum + if p (key a) then 1 else 0 := by
  induction groups with
  | nil => simp [bump, countFor]
  | cons group groups ih =>
    obtain ⟨b, n⟩ := group
    simp only [bump]
    split
    · rename_i same
      simp only [List.map_cons, List.sum_cons, countFor, same]
      split <;> omega
    · simp only [List.map_cons, List.sum_cons, ih]
      omega

/-- The groups of some keys add up to the number of elements with these keys. -/
theorem sum_groupCount (key : α → κ) (p : κ → Bool) (as : List α) :
    ((groupCount key as).map (countFor key p)).sum = as.countP fun a => p (key a) := by
  have general : ∀ (as : List α) (groups : List (α × ℕ)),
      ((as.foldl (bump key) groups).map (countFor key p)).sum =
        (groups.map (countFor key p)).sum + as.countP fun a => p (key a) := by
    intro as
    induction as with
    | nil => intro groups; rfl
    | cons a as ih =>
      intro groups
      rw [List.foldl_cons, ih, sum_bump, List.countP_cons]
      omega
  simpa [groupCount] using general as []

/-- A count is the sum of two others when it is so for each element. -/
theorem countP_add {p q r : α → Bool} {as : List α}
    (each : ∀ a ∈ as, (p a).toNat + (q a).toNat = (r a).toNat) :
    as.countP p + as.countP q = as.countP r := by
  have counts : ∀ p : α → Bool, ∀ a as, (a :: as).countP p = as.countP p + (p a).toNat := by
    intro p a as
    rw [List.countP_cons]
    cases p a <;> rfl
  induction as with
  | nil => rfl
  | cons a as ih =>
    have head := each a (by simp)
    have tail := ih fun b mem => each b (by simp [mem])
    rw [counts, counts, counts]
    omega

/-- What holds of every element, and of the count `1`, `2`, ... holds of every entry. -/
theorem forall_groupCount {key : α → κ} {P : α → Prop} {as : List α} (all : ∀ a ∈ as, P a) :
    ∀ group ∈ groupCount key as, P group.1 ∧ 0 < group.2 := by
  have bumped : ∀ (groups : List (α × ℕ)) (a : α), (∀ group ∈ groups, P group.1 ∧ 0 < group.2) →
      P a → ∀ group ∈ bump key groups a, P group.1 ∧ 0 < group.2 := by
    intro groups a
    induction groups with
    | nil =>
      intro _ holds group mem
      rw [bump, List.mem_singleton] at mem
      subst mem
      exact ⟨holds, Nat.one_pos⟩
    | cons first groups ih =>
      obtain ⟨b, n⟩ := first
      intro old holds group mem
      have head := old (b, n) (by simp)
      have tail : ∀ group ∈ groups, P group.1 ∧ 0 < group.2 := fun g m => old g (by simp [m])
      rw [bump] at mem
      split at mem
      · rcases List.mem_cons.mp mem with rfl | inTail
        · exact ⟨head.1, Nat.succ_pos n⟩
        · exact tail group inTail
      · rcases List.mem_cons.mp mem with rfl | inTail
        · exact head
        · exact ih tail holds group inTail
  have general : ∀ (as : List α) (groups : List (α × ℕ)), (∀ a ∈ as, P a) →
      (∀ group ∈ groups, P group.1 ∧ 0 < group.2) →
      ∀ group ∈ as.foldl (bump key) groups, P group.1 ∧ 0 < group.2 := by
    intro as
    induction as with
    | nil => intro groups _ old; exact old
    | cons a as ih =>
      intro groups all old
      exact ih _ (fun b mem => all b (by simp [mem])) (bumped groups a old (all a (by simp)))
  exact general as [] all (by simp)

/-- Every key has one group. -/
theorem nodup_groupCount_keys (key : α → κ) (as : List α) :
    ((groupCount key as).map fun group => key group.1).Nodup := by
  have keys : ∀ (groups : List (α × ℕ)) (a : α),
      (bump key groups a).map (fun group => key group.1) =
        (groups.map fun group => key group.1) ∨
      (key a ∉ groups.map (fun group => key group.1) ∧
        (bump key groups a).map (fun group => key group.1) =
          (groups.map fun group => key group.1) ++ [key a]) := by
    intro groups a
    induction groups with
    | nil => exact .inr ⟨List.not_mem_nil, rfl⟩
    | cons first groups ih =>
      obtain ⟨b, n⟩ := first
      rw [bump]
      split
      case isTrue => exact .inl rfl
      case isFalse other =>
        rcases ih with same | ⟨absent, extended⟩
        · exact .inl (by rw [List.map_cons, same]; rfl)
        · refine .inr ⟨?_, by rw [List.map_cons, extended]; rfl⟩
          simp only [List.map_cons, List.mem_cons, not_or]
          exact ⟨fun same => other same.symm, absent⟩
  have general : ∀ (as : List α) (groups : List (α × ℕ)),
      (groups.map fun group => key group.1).Nodup →
      ((as.foldl (bump key) groups).map fun group => key group.1).Nodup := by
    intro as
    induction as with
    | nil => intro groups distinct; exact distinct
    | cons a as ih =>
      intro groups distinct
      apply ih
      rcases keys groups a with same | ⟨absent, extended⟩
      · rw [same]
        exact distinct
      · rw [extended]
        exact List.nodup_append.mpr ⟨distinct, List.nodup_singleton _, fun x old y new same =>
          absent (List.mem_singleton.mp new ▸ same ▸ old)⟩
  exact general as [] List.nodup_nil

/-- There are no more groups than elements. -/
theorem length_groupCount_le (key : α → κ) (as : List α) :
    (groupCount key as).length ≤ as.length := by
  have bumped : ∀ (groups : List (α × ℕ)) (a : α),
      (bump key groups a).length ≤ groups.length + 1 := by
    intro groups a
    induction groups with
    | nil => exact Nat.le_refl 1
    | cons group groups ih =>
      obtain ⟨b, n⟩ := group
      rw [bump]
      split
      · exact Nat.le_succ _
      · exact Nat.succ_le_succ ih
  have general : ∀ (as : List α) (groups : List (α × ℕ)),
      (as.foldl (bump key) groups).length ≤ groups.length + as.length := by
    intro as
    induction as with
    | nil => intro groups; exact Nat.le_refl _
    | cons a as ih =>
      intro groups
      have first := bumped groups a
      have rest := ih (bump key groups a)
      rw [List.foldl_cons, List.length_cons]
      omega
  have all := general as []
  rwa [List.length_nil, zero_add] at all

/-- An entry holds the number of elements with its key. -/
theorem groupCount_eq {key : α → κ} {as : List α} {group : α × ℕ}
    (mem : group ∈ groupCount key as) : group.2 = as.countP fun a => key a = key group.1 := by
  have general : ∀ groups : List (α × ℕ), (groups.map fun group => key group.1).Nodup →
      group ∈ groups →
      (groups.map (countFor key fun k => k = key group.1)).sum = group.2 := by
    intro groups
    induction groups with
    | nil => intro _ absent; cases absent
    | cons first groups ih =>
      intro distinct mem
      rw [List.map_cons, List.nodup_cons] at distinct
      rw [List.map_cons, List.sum_cons]
      rcases List.mem_cons.mp mem with rfl | later
      · have others : (groups.map (countFor key fun k => k = key group.1)).sum = 0 := by
          refine List.sum_eq_zero fun n counted => ?_
          obtain ⟨other, inTail, rfl⟩ := List.mem_map.mp counted
          refine if_neg fun same => distinct.1 ?_
          rw [← of_decide_eq_true same]
          exact List.mem_map_of_mem inTail
        rw [others, countFor, if_pos (decide_eq_true rfl), Nat.add_zero]
      · have other : ¬ key first.1 = key group.1 := fun same =>
          distinct.1 (same ▸ List.mem_map_of_mem later)
        rw [countFor, if_neg (by simpa using other), Nat.zero_add, ih distinct.2 later]
  rw [← general _ (nodup_groupCount_keys key as) mem]
  exact sum_groupCount key (fun k => k = key group.1) as

/-- Every key has a group. -/
theorem exists_group (key : α → κ) {as : List α} {a : α} (mem : a ∈ as) :
    ∃ group ∈ groupCount key as, key group.1 = key a := by
  by_contra absent
  push Not at absent
  have counted := sum_groupCount key (fun k => k = key a) as
  have none : ((groupCount key as).map (countFor key fun k => k = key a)).sum = 0 := by
    refine List.sum_eq_zero fun n inMap => ?_
    obtain ⟨group, inGroups, rfl⟩ := List.mem_map.mp inMap
    exact if_neg (by simpa using absent group inGroups)
  rw [none] at counted
  exact List.countP_eq_zero.mp counted.symm a mem (decide_eq_true rfl)

end GroupCount
