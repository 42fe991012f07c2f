import Mathlib.Data.List.Nodup

/-!
# Insertion-ordered dictionaries

A dictionary is the list of its entries in the order their keys were first assigned, as in Python;
`List.lookup` reads it.  When the keys are distinct, looking up and being an entry are the same.
-/

namespace Dictionary

variable {κ ν : Type} {d : List (κ × ν)} {k : κ} {v : ν}

section Assign

variable [DecidableEq κ]

/-- `d[key] = value` -/
def assign (d : List (κ × ν)) (entry : κ × ν) : List (κ × ν) :=
  match d with
  | [] => [entry]
  | first :: d => if first.1 = entry.1 then entry :: d else first :: assign d entry

/-- The assignments in a row. -/
def ofEntries (entries : List (κ × ν)) : List (κ × ν) := entries.foldl assign []

/-- A new key comes last. -/
theorem assign_of_not_mem {entry : κ × ν} (new : entry.1 ∉ d.map Prod.fst) :
    assign d entry = d ++ [entry] := by
  induction d with
  | nil => rfl
  | cons first d ih =>
    rw [List.map_cons, List.mem_cons, not_or] at new
    rw [assign, if_neg fun same => new.1 same.symm, ih new.2, List.cons_append]

/-- Assigning every key once keeps the entries as they come. -/
theorem ofEntries_of_nodup {entries : List (κ × ν)} (distinct : (entries.map Prod.fst).Nodup) :
    ofEntries entries = entries := by
  have general : ∀ rest d : List (κ × ν), ((d ++ rest).map Prod.fst).Nodup →
      rest.foldl assign d = d ++ rest := by
    intro rest
    induction rest with
    | nil => intro d _; rw [List.append_nil, List.foldl_nil]
    | cons entry rest ih =>
      intro d distinct
      have new : entry.1 ∉ d.map Prod.fst := by
        rw [List.map_append, List.map_cons, List.nodup_append] at distinct
        intro old
        exact distinct.2.2 _ old _ List.mem_cons_self rfl
      rw [List.foldl_cons, assign_of_not_mem new, ih, List.append_assoc, List.singleton_append]
      rwa [List.append_assoc, List.singleton_append]
  exact general entries [] distinct

theorem lookup_cons_ite (entry : κ × ν) (d : List (κ × ν)) (k : κ) :
    (entry :: d).lookup k = if k = entry.1 then some entry.2 else d.lookup k := by
  obtain ⟨key, value⟩ := entry
  rw [List.lookup_cons]
  by_cases here : k = key
  · simp [here]
  · simp [here, beq_false_of_ne here]

/-- Only the key of the entry reads differently. -/
theorem lookup_assign (d : List (κ × ν)) (entry : κ × ν) (k : κ) :
    (assign d entry).lookup k = if k = entry.1 then some entry.2 else d.lookup k := by
  induction d with
  | nil => exact lookup_cons_ite entry [] k
  | cons first d ih =>
    rw [assign]
    split
    case isTrue same =>
      rw [lookup_cons_ite, lookup_cons_ite, same]
      split <;> rfl
    case isFalse apart =>
      rw [lookup_cons_ite, lookup_cons_ite, ih]
      split
      case isTrue here => rw [if_neg fun there => apart (here.symm.trans there)]
      case isFalse => rfl

theorem keys_assign (d : List (κ × ν)) (entry : κ × ν) : (assign d entry).map Prod.fst =
    if entry.1 ∈ d.map Prod.fst then d.map Prod.fst else d.map Prod.fst ++ [entry.1] := by
  induction d with
  | nil => rfl
  | cons first d ih =>
    rw [assign]
    by_cases same : first.1 = entry.1
    · simp [same]
    · have other : entry.1 ≠ first.1 := fun eq => same eq.symm
      simp only [if_neg same, List.map_cons, List.mem_cons, other, false_or, ih]
      split <;> rfl

theorem mem_assign {entry e : κ × ν} (mem : e ∈ assign d entry) : e = entry ∨ e ∈ d := by
  induction d with
  | nil => exact .inl (List.mem_singleton.mp mem)
  | cons first d ih =>
    rw [assign] at mem
    split at mem
    · rcases List.mem_cons.mp mem with here | later
      · exact .inl here
      · exact .inr (List.mem_cons_of_mem _ later)
    · rcases List.mem_cons.mp mem with here | later
      · exact .inr (here ▸ List.mem_cons_self)
      · exact (ih later).imp id (List.mem_cons_of_mem _)

theorem length_assign_le (d : List (κ × ν)) (entry : κ × ν) :
    (assign d entry).length ≤ d.length + 1 := by
  have keys := congrArg List.length (keys_assign d entry)
  rw [List.length_map] at keys
  rw [keys]
  split <;> simp

theorem nodup_assign (distinct : (d.map Prod.fst).Nodup) (entry : κ × ν) :
    ((assign d entry).map Prod.fst).Nodup := by
  rw [keys_assign]
  split
  case isTrue => exact distinct
  case isFalse new =>
    rw [List.nodup_append]
    refine ⟨distinct, List.nodup_singleton _, fun k old k' here same => new ?_⟩
    rw [← List.mem_singleton.mp here, ← same]
    exact old

/-- `d.update(entries)`: the entries come first, the dictionary answers for the other keys. -/
theorem lookup_update {entries : List (κ × ν)} (distinct : (entries.map Prod.fst).Nodup)
    (d : List (κ × ν)) (k : κ) :
    (entries.foldl assign d).lookup k = (entries.lookup k).or (d.lookup k) := by
  induction entries generalizing d with
  | nil => rfl
  | cons entry entries ih =>
    obtain ⟨new, distinct⟩ := List.nodup_cons.mp distinct
    rw [List.foldl_cons, ih distinct, lookup_assign, lookup_cons_ite]
    by_cases here : k = entry.1
    · have absent : entries.lookup k = none := by
        rw [List.lookup_eq_none_iff]
        intro other mem
        rw [bne_iff_ne, here]
        intro same
        exact new (same ▸ List.mem_map_of_mem mem)
      rw [absent, if_pos here, if_pos here]
      rfl
    · rw [if_neg here, if_neg here]

/-- Looking up among the entries whose keys are kept. -/
theorem lookup_filter_key (kept : κ → Bool) (d : List (κ × ν)) (k : κ) :
    (d.filter fun entry => kept entry.1).lookup k = if kept k then d.lookup k else none := by
  induction d with
  | nil => simp
  | cons entry d ih =>
    rw [lookup_cons_ite, List.filter_cons]
    split
    case isTrue keep =>
      rw [lookup_cons_ite, ih]
      by_cases here : k = entry.1
      · rw [if_pos here, if_pos here, here, if_pos keep]
      · rw [if_neg here, if_neg here]
    case isFalse drop =>
      rw [ih]
      by_cases here : k = entry.1
      · rw [here, if_neg drop, if_neg drop]
      · rw [if_neg here]

end Assign

section Lookup

variable [BEq κ] [LawfulBEq κ]

theorem mem_of_lookup (found : d.lookup k = some v) : (k, v) ∈ d := by
  rw [List.lookup_eq_some_iff] at found
  obtain ⟨first, rest, rfl, -⟩ := found
  exact List.mem_append_right first List.mem_cons_self

theorem lookup_of_mem (distinct : (d.map Prod.fst).Nodup) (mem : (k, v) ∈ d) :
    d.lookup k = some v := by
  cases found : d.lookup k with
  | none =>
    rw [List.lookup_eq_none_iff] at found
    have other := found (k, v) mem
    simp at other
  | some v' =>
    have same := List.inj_on_of_nodup_map distinct (mem_of_lookup found) mem rfl
    rw [(Prod.mk.inj same).2]

end Lookup

end Dictionary
