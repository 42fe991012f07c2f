import Mathlib.Data.List.Nodup
import Mathlib.Data.List.Perm.Basic

/-!
# Lists grouped by a key

`groups key as` is the insertion-ordered dictionary of lists a program builds with one entry per
key. Going through the groups visits every element once (`flatMap_groups_perm`).
-/

namespace Grouping

variable {α β κ : Type} [DecidableEq κ] {key : α → κ} {as : List α}

/-- The elements with a key, in their order. -/
def group (key : α → κ) (as : List α) (k : κ) : List α := as.filter fun a => key a = k

/-- One entry per key, in the order of first occurrence. -/
def groups (key : α → κ) (as : List α) : List (κ × List α) :=
  (as.map key).eraseDups.map fun k => (k, group key as k)

theorem mem_group {k : κ} {a : α} : a ∈ group key as k ↔ a ∈ as ∧ key a = k := by
  rw [group, List.mem_filter, decide_eq_true_iff]

theorem nodup_eraseDups (ks : List κ) : ks.eraseDups.Nodup := by
  induction hlen : ks.length using Nat.strongRecOn generalizing ks with
  | _ n ih =>
    cases ks with
    | nil => exact List.nodup_nil
    | cons k ks =>
      rw [List.eraseDups_cons, List.nodup_cons]
      constructor
      · rw [List.mem_eraseDups, List.mem_filter]
        rintro ⟨-, differs⟩
        simp at differs
      · apply ih _ _ _ rfl
        have le := List.length_filter_le (fun b => !b == k) ks
        rw [List.length_cons] at hlen
        omega

/-- A loop that only acts on the elements with the key of `a`. -/
theorem flatMap_of_key (key : α → κ) (distinct : (as.map key).Nodup) {a : α} (mem : a ∈ as)
    (f : α → List β) : (as.flatMap fun b => if key b = key a then f b else []) = f a := by
  induction as with
  | nil => cases mem
  | cons b as ih =>
    rw [List.map_cons, List.nodup_cons] at distinct
    rw [List.flatMap_cons]
    rcases List.mem_cons.mp mem with rfl | later
    · rw [if_pos rfl, List.flatMap_eq_nil_iff.mpr, List.append_nil]
      intro c memC
      exact if_neg fun same => distinct.1 (List.mem_map.mpr ⟨c, memC, same⟩)
    · have other : key b ≠ key a := fun same =>
        distinct.1 (List.mem_map.mpr ⟨a, later, same.symm⟩)
      rw [if_neg other, List.nil_append]
      exact ih distinct.2 later

/-- Each element lies in one group. -/
theorem flatMap_group_perm {ks : List κ} (distinct : ks.Nodup) (all : ∀ a ∈ as, key a ∈ ks) :
    (ks.flatMap (group key as)).Perm as := by
  induction as with
  | nil =>
    have empty : ks.flatMap (group key []) = [] := List.flatMap_eq_nil_iff.mpr fun _ _ => rfl
    rw [empty]
  | cons a as ih =>
    have split : ∀ k, group key (a :: as) k =
        (if k = key a then [a] else []) ++ group key as k := by
      intro k
      rw [group, List.filter_cons, group]
      by_cases own : k = key a
      · rw [if_pos (decide_eq_true own.symm), if_pos own, List.singleton_append]
      · rw [if_neg (by simpa using Ne.symm own), if_neg own, List.nil_append]
    have own : ks.flatMap (fun k => if k = key a then [a] else []) = [a] :=
      flatMap_of_key id (by rwa [List.map_id]) (all a List.mem_cons_self) fun _ => [a]
    have parts := List.flatMap_append_perm ks (fun k => if k = key a then [a] else [])
      (group key as)
    rw [own] at parts
    calc (ks.flatMap (group key (a :: as))).Perm ([a] ++ ks.flatMap (group key as)) := by
          rw [funext split]
          exact parts.symm
      _ |>.Perm (a :: as) := (ih fun b mem => all b (List.mem_cons_of_mem a mem)).cons a

/-- What a loop over the groups and their elements collects. -/
theorem flatMap_groups_perm (f : κ → List α → α → Option β) :
    ((groups key as).flatMap fun g => g.2.filterMap (f g.1 g.2)).Perm
      (as.filterMap fun a => f (key a) (group key as (key a)) a) := by
  have inner : ((groups key as).flatMap fun g => g.2.filterMap (f g.1 g.2)) =
      ((as.map key).eraseDups.flatMap (group key as)).filterMap
        fun a => f (key a) (group key as (key a)) a := by
    rw [groups, List.flatMap_map, List.filterMap_flatMap]
    apply List.flatMap_congr
    intro k _
    apply List.filterMap_congr
    intro a mem
    rw [(mem_group.mp mem).2]
  rw [inner]
  apply List.Perm.filterMap
  apply flatMap_group_perm (nodup_eraseDups _)
  intro a mem
  exact List.mem_eraseDups.mpr (List.mem_map.mpr ⟨a, mem, rfl⟩)

end Grouping
