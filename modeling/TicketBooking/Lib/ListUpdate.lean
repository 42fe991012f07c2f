import Mathlib.Algebra.GroupWithZero.Nat
import Mathlib.Algebra.BigOperators.Group.List.Basic
import Mathlib.Algebra.Order.Group.Nat
import Mathlib.Data.List.Nodup

/-!
# Updating one element of a list

* `updateFirst p f` rewrites the first element that satisfies `p`, as a positional database update
  does; the lemmas say which look-ups see the change.
* `sum_map_set` and `forall_mem_set` follow a sum and a universal property through `List.set`, the
  update of one process in a list of processes.
-/

namespace ListUpdate

variable {α β : Type}

/-- Replace the first element satisfying `p` by its image under `f`. -/
def updateFirst (p : α → Bool) (f : α → α) : List α → List α
  | [] => []
  | a :: as => if p a then f a :: as else a :: updateFirst p f as

theorem updateFirst_of_forall_not {p : α → Bool} {f : α → α} {as : List α}
    (none : ∀ a ∈ as, p a = false) : updateFirst p f as = as := by
  induction as with
  | nil => rfl
  | cons a as ih =>
    have head : p a = false := none a (by simp)
    rw [updateFirst, head, ih fun b mem => none b (by simp [mem])]
    rfl

/-- When the keys are distinct and `p` holds only of elements with one key, the first element
satisfying `p` is the only one. -/
theorem updateFirst_of_nodup {κ : Type} {key : α → κ} {k : κ} {p : α → Bool} (f : α → α)
    {as : List α} (distinct : (as.map key).Nodup) (narrow : ∀ a, p a = true → key a = k) :
    updateFirst p f as = as.map fun a => if p a then f a else a := by
  induction as with
  | nil => rfl
  | cons a as ih =>
    rw [List.map_cons, List.nodup_cons] at distinct
    rw [updateFirst, List.map_cons]
    by_cases own : p a = true
    · have others : (as.map fun b => if p b then f b else b) = as := by
        conv_rhs => rw [← List.map_id as]
        apply List.map_congr_left
        intro b mem
        apply if_neg
        intro again
        exact distinct.1 (List.mem_map.mpr ⟨b, mem, (narrow b again).trans (narrow a own).symm⟩)
      rw [if_pos own, if_pos own, others]
    · rw [if_neg own, if_neg own, ih distinct.2]

/-- A projection that `f` keeps does not see the update. -/
theorem map_updateFirst {p : α → Bool} {f : α → α} {g : α → β} (keeps : ∀ a, g (f a) = g a)
    (as : List α) : (updateFirst p f as).map g = as.map g := by
  induction as with
  | nil => rfl
  | cons a as ih =>
    rw [updateFirst]
    split
    · simp only [List.map_cons, keeps]
    · simp only [List.map_cons, ih]

/-- The look-up by `q` finds the updated element when it found an element satisfying `p`, and `p`
holds only of elements with `q`. -/
theorem find?_updateFirst_hit {p q : α → Bool} {f : α → α} {as : List α} {a : α}
    (found : as.find? q = some a) (hit : p a = true) (narrow : ∀ b, p b = true → q b = true)
    (keeps : ∀ b, q (f b) = q b) : (updateFirst p f as).find? q = some (f a) := by
  induction as with
  | nil => cases found
  | cons b as ih =>
    rw [updateFirst]
    cases matched : p b with
    | true =>
      have qb : q b = true := narrow b matched
      rw [List.find?_cons_of_pos (by simpa using qb)] at found
      cases found
      rw [if_pos rfl, List.find?_cons_of_pos (by simpa [keeps] using qb)]
    | false =>
      have other : b ≠ a := by rintro rfl; rw [matched] at hit; cases hit
      rw [if_neg (by simp)]
      cases qb : q b with
      | true =>
        rw [List.find?_cons_of_pos qb] at found
        exact absurd (Option.some.inj found) other
      | false =>
        rw [List.find?_cons_of_neg (by simp [qb])] at found ⊢
        exact ih found

/-- A look-up that excludes `p` does not see the update. -/
theorem find?_updateFirst_miss {p q : α → Bool} {f : α → α} (as : List α)
    (disjoint : ∀ b, p b = true → q b = false) (keeps : ∀ b, q (f b) = q b) :
    (updateFirst p f as).find? q = as.find? q := by
  induction as with
  | nil => rfl
  | cons b as ih =>
    rw [updateFirst]
    cases matched : p b with
    | true =>
      have qb : q b = false := disjoint b matched
      rw [if_pos rfl, List.find?_cons_of_neg (by simp [keeps, qb]),
        List.find?_cons_of_neg (by simp [qb])]
    | false =>
      rw [if_neg (by simp)]
      cases qb : q b with
      | true => rw [List.find?_cons_of_pos qb, List.find?_cons_of_pos qb]
      | false => rw [List.find?_cons_of_neg (by simp [qb]),
          List.find?_cons_of_neg (by simp [qb]), ih]

/-- A look-up whose element does not satisfy a narrower `p` does not see the update. -/
theorem find?_updateFirst_pass {p q : α → Bool} {f : α → α} {as : List α} {a : α}
    (found : as.find? q = some a) (refused : p a = false) (narrow : ∀ b, p b = true → q b = true) :
    (updateFirst p f as).find? q = some a := by
  induction as with
  | nil => cases found
  | cons b as ih =>
    rw [updateFirst]
    cases qb : q b with
    | true =>
      rw [List.find?_cons_of_pos qb] at found
      cases found
      rw [if_neg (by simp [refused]), List.find?_cons_of_pos qb]
    | false =>
      have miss : ¬ p b = true := fun matched => by
        rw [narrow b matched] at qb
        cases qb
      rw [List.find?_cons_of_neg (by simp [qb])] at found
      rw [if_neg miss, List.find?_cons_of_neg (by simp [qb])]
      exact ih found

/-- The first element satisfying `p` is the first one satisfying a narrower `q` it satisfies. -/
theorem find?_narrow {p q : α → Bool} {as : List α} {a : α} (found : as.find? p = some a)
    (hit : q a = true) (narrow : ∀ b, q b = true → p b = true) : as.find? q = some a := by
  induction as with
  | nil => cases found
  | cons b as ih =>
    cases matched : p b with
    | true =>
      rw [List.find?_cons_of_pos matched] at found
      cases found
      exact List.find?_cons_of_pos hit
    | false =>
      have miss : ¬ q b = true := fun qb => by
        rw [narrow b qb] at matched
        cases matched
      rw [List.find?_cons_of_neg (by simp [matched])] at found
      rw [List.find?_cons_of_neg miss]
      exact ih found

/-- Its position, for the same reason. -/
theorem findIdx_narrow {p q : α → Bool} {as : List α} {a : α} (found : as.find? p = some a)
    (hit : q a = true) (narrow : ∀ b, q b = true → p b = true) : as.findIdx q = as.findIdx p := by
  induction as with
  | nil => rfl
  | cons b as ih =>
    rw [List.findIdx_cons, List.findIdx_cons]
    cases matched : p b with
    | true =>
      rw [List.find?_cons_of_pos matched] at found
      cases found
      rw [hit, cond_true, cond_true]
    | false =>
      have miss : q b = false := by
        cases qb : q b with
        | false => rfl
        | true =>
          rw [narrow b qb] at matched
          cases matched
      rw [List.find?_cons_of_neg (by simp [matched])] at found
      simp only [miss, cond_false]
      rw [ih found]

/-- The update seen by a projection of the elements that satisfy `q`, when `p` is a condition on the
projection of such elements. -/
theorem map_filter_updateFirst {p q : α → Bool} {f : α → α} {v : α → β} {guard : β → Bool}
    {g : β → β} (narrow : ∀ a, p a = (q a && guard (v a))) (keeps : ∀ a, q (f a) = q a)
    (commutes : ∀ a, v (f a) = g (v a)) (as : List α) :
    ((updateFirst p f as).filter q).map v = updateFirst guard g ((as.filter q).map v) := by
  induction as with
  | nil => rfl
  | cons a as ih =>
    rw [updateFirst, narrow]
    cases qa : q a with
    | false =>
      rw [Bool.false_and, if_neg (by simp), List.filter_cons_of_neg (by simp [qa]),
        List.filter_cons_of_neg (by simp [qa]), ih]
    | true =>
      rw [List.filter_cons_of_pos qa, List.map_cons, updateFirst, Bool.true_and]
      cases guard (v a) with
      | true => rw [if_pos rfl, if_pos rfl, List.filter_cons_of_pos (by rw [keeps, qa]),
          List.map_cons, commutes]
      | false => rw [if_neg (by simp), if_neg (by simp), List.filter_cons_of_pos qa,
          List.map_cons, ih]

/-- The update by position. -/
theorem getElem?_updateFirst (p : α → Bool) (f : α → α) (as : List α) (k : ℕ) :
    (updateFirst p f as)[k]? = if k = as.findIdx p then as[k]?.map f else as[k]? := by
  induction as generalizing k with
  | nil => simp [updateFirst]
  | cons b as ih =>
    rw [updateFirst, List.findIdx_cons]
    cases p b with
    | true => cases k <;> simp
    | false => cases k <;> simp [ih]

/-! ## Distinct keys -/

/-- With distinct keys the look-up by key finds the element itself. -/
theorem find?_key_of_mem [DecidableEq β] {key : α → β} {as : List α} (nodup : (as.map key).Nodup)
    {a : α} (mem : a ∈ as) : (as.find? fun b => key b = key a) = some a := by
  induction as with
  | nil => cases mem
  | cons b as ih =>
    rw [List.map_cons, List.nodup_cons] at nodup
    rcases List.mem_cons.mp mem with rfl | inTail
    · simp
    · have other : key b ≠ key a := fun same =>
        nodup.1 (same ▸ List.mem_map_of_mem (f := key) inTail)
      rw [List.find?_cons_of_neg (by simpa using other)]
      exact ih nodup.2 inTail

theorem eq_of_key_eq [DecidableEq β] {key : α → β} {as : List α} (nodup : (as.map key).Nodup)
    {a b : α} (memA : a ∈ as) (memB : b ∈ as) (same : key a = key b) : a = b := by
  have foundA := find?_key_of_mem nodup memA
  have foundB := find?_key_of_mem nodup memB
  rw [same] at foundA
  exact Option.some.inj (foundA.symm.trans foundB)

theorem filter_key_eq_nil [DecidableEq β] {key : α → β} {as : List α} {k : β}
    (absent : k ∉ as.map key) : (as.filter fun b => key b = k) = [] := by
  rw [List.filter_eq_nil_iff]
  intro b mem same
  simp only [decide_eq_true_eq] at same
  exact absent (same ▸ List.mem_map_of_mem mem)

/-- With distinct keys the elements with the key of `a` are `a`. -/
theorem filter_key_of_mem [DecidableEq β] {key : α → β} {as : List α} (nodup : (as.map key).Nodup)
    {a : α} (mem : a ∈ as) : (as.filter fun b => key b = key a) = [a] := by
  induction as with
  | nil => cases mem
  | cons b as ih =>
    rw [List.map_cons, List.nodup_cons] at nodup
    rcases List.mem_cons.mp mem with rfl | inTail
    · rw [List.filter_cons_of_pos (by simp), filter_key_eq_nil nodup.1]
    · have other : key b ≠ key a := fun same =>
        nodup.1 (same ▸ List.mem_map_of_mem (f := key) inTail)
      rw [List.filter_cons_of_neg (by simpa using other)]
      exact ih nodup.2 inTail

/-- An update that keeps the keys commutes with the choice by key. -/
theorem filter_key_map [DecidableEq β] {key : α → β} {f : α → α} (keeps : ∀ a, key (f a) = key a)
    (as : List α) (k : β) :
    ((as.map f).filter fun b => key b = k) = (as.filter fun b => key b = k).map f := by
  rw [List.filter_map]
  congr 1
  refine List.filter_congr fun b _ => ?_
  simp [keeps]

/-- An update of other keys is not seen by the choice by key. -/
theorem filter_key_map_other [DecidableEq β] {key : α → β} {f : α → α} {k : β}
    (keeps : ∀ a, key (f a) = key a) (other : ∀ a, key a = k → f a = a) (as : List α) :
    ((as.map f).filter fun b => key b = k) = as.filter fun b => key b = k := by
  rw [filter_key_map keeps]
  conv_rhs => rw [← List.map_id (as.filter fun b => key b = k)]
  refine List.map_congr_left fun b mem => ?_
  exact other b (by simpa using (List.mem_filter.mp mem).2)

/-- Choosing by distinct keys that are all there. -/
theorem filter_mem_keys_perm [DecidableEq β] {key : α → β} {as : List α} {ks : List β}
    (nodup : (as.map key).Nodup) (distinct : ks.Nodup) (all : ∀ k ∈ ks, k ∈ as.map key) :
    ((as.filter fun a => key a ∈ ks).map key).Perm ks := by
  refine (List.perm_ext_iff_of_nodup (nodup.sublist (List.filter_sublist.map key)) distinct).mpr ?_
  intro k
  constructor
  · intro mem
    obtain ⟨a, chosen, rfl⟩ := List.mem_map.mp mem
    exact of_decide_eq_true (List.mem_filter.mp chosen).2
  · intro mem
    obtain ⟨a, memA, rfl⟩ := List.mem_map.mp (all k mem)
    exact List.mem_map_of_mem (List.mem_filter.mpr ⟨memA, decide_eq_true mem⟩)

/-! ## One process of a list -/

theorem sum_map_set {as : List α} {i : ℕ} {a : α} (weight : α → ℕ) (b : α)
    (at_i : as[i]? = some a) :
    ((as.set i b).map weight).sum + weight a = (as.map weight).sum + weight b := by
  induction as generalizing i with
  | nil => cases at_i
  | cons c as ih =>
    cases i with
    | zero =>
      cases at_i
      simp only [List.set_cons_zero, List.map_cons, List.sum_cons]
      omega
    | succ i =>
      have rest := ih (i := i) (by simpa using at_i)
      simp only [List.set_cons_succ, List.map_cons, List.sum_cons]
      omega

/-- What holds of the old processes and of the new one holds of the updated list. -/
theorem forall_getElem?_set {as : List α} {i : ℕ} {b : α} {P : ℕ → α → Prop}
    (old : ∀ j a, j ≠ i → as[j]? = some a → P j a) (new : P i b) :
    ∀ j a, (as.set i b)[j]? = some a → P j a := by
  intro j a at_j
  by_cases same : j = i
  · subst same
    rw [List.getElem?_set] at at_j
    simp only [↓reduceIte] at at_j
    split at at_j
    · cases at_j; exact new
    · cases at_j
  · rw [List.getElem?_set_ne (Ne.symm same)] at at_j
    exact old j a same at_j

theorem getElem?_set_self {as : List α} {i : ℕ} {a : α} (b : α) (at_i : as[i]? = some a) :
    (as.set i b)[i]? = some b := by
  rw [List.getElem?_set]
  simp only [↓reduceIte]
  rw [if_pos (List.getElem?_eq_some_iff.mp at_i).1]

/-- What holds of the old processes and of a new one holds of the extended list. -/
theorem forall_getElem?_concat {as : List α} {b : α} {P : ℕ → α → Prop}
    (old : ∀ j a, as[j]? = some a → P j a) (new : P as.length b) :
    ∀ j a, (as ++ [b])[j]? = some a → P j a := by
  intro j a at_j
  rcases Nat.lt_trichotomy j as.length with inside | rfl | beyond
  · rw [List.getElem?_append_left inside] at at_j
    exact old j a at_j
  · rw [List.getElem?_concat_length] at at_j
    cases at_j
    exact new
  · rw [List.getElem?_eq_none (by simp; omega)] at at_j
    cases at_j

theorem getElem?_set_cases {as : List α} {i j : ℕ} {a b : α} (at_j : (as.set i b)[j]? = some a) :
    (j = i ∧ a = b) ∨ (j ≠ i ∧ as[j]? = some a) :=
  forall_getElem?_set (P := fun j a => (j = i ∧ a = b) ∨ (j ≠ i ∧ as[j]? = some a))
    (fun _ _ apart old => .inr ⟨apart, old⟩) (.inl ⟨rfl, rfl⟩) j a at_j

theorem getElem?_concat_cases {as : List α} {j : ℕ} {a b : α} (at_j : (as ++ [b])[j]? = some a) :
    as[j]? = some a ∨ (j = as.length ∧ a = b) :=
  forall_getElem?_concat (P := fun j a => as[j]? = some a ∨ (j = as.length ∧ a = b))
    (fun _ _ old => .inl old) (.inr ⟨rfl, rfl⟩) j a at_j

end ListUpdate
