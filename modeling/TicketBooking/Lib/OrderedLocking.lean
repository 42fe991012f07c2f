import TicketBooking.Lib.ListUpdate
import Mathlib.Logic.Relation
import Mathlib.Order.Basic

/-!
# Exclusive locks taken in ascending order

Processes that own exclusive locks and take further ones one at a time, over any ordered type of
locks.  A process waits for the owner of the next lock it wants.

* `Proc.Ascending`: a process wants its locks in ascending order, above everything it owns.
* `Move` is what processes can do: start, take a free lock, and drop everything at once.
* `Move.safe` and `Safe.no_cycle`: ascending processes stay so, and never wait in a circle.
-/

namespace OrderedLocking

open ListUpdate

variable {κ : Type}

/-- The locks a process owns, and those it still wants, in its order. -/
structure Proc (κ : Type) where
  owned : List κ
  wanted : List κ

/-- The process `i` waits for the process `j`, which owns the next lock that `i` wants. -/
def WaitsFor (ps : List (Proc κ)) (i j : ℕ) : Prop :=
  i ≠ j ∧ ∃ p q e rest, ps[i]? = some p ∧ ps[j]? = some q ∧ p.wanted = e :: rest ∧ e ∈ q.owned

variable [PartialOrder κ]

structure Proc.Ascending (p : Proc κ) : Prop where
  sorted : p.wanted.Pairwise (· ≤ ·)
  above : ∀ e ∈ p.owned, ∀ e' ∈ p.wanted, e ≤ e'

/-- Every process is ascending, and no lock has two owners. -/
structure Safe (ps : List (Proc κ)) : Prop where
  ascending : ∀ (i : ℕ) p, ps[i]? = some p → p.Ascending
  exclusive : ∀ (i j : ℕ) p q, i ≠ j → ps[i]? = some p → ps[j]? = some q →
    ∀ e ∈ p.owned, e ∉ q.owned

variable {ps ps' : List (Proc κ)}

/-- Along two links of a waiting chain the wanted locks ascend strictly. -/
theorem Safe.wanted_lt (safe : Safe ps) {i j k : ℕ} (first : WaitsFor ps i j)
    (second : WaitsFor ps j k) {p q : Proc κ} {e e' : κ} {rest rest' : List κ}
    (at_i : ps[i]? = some p) (at_j : ps[j]? = some q) (wants : p.wanted = e :: rest)
    (wants' : q.wanted = e' :: rest') : e < e' := by
  obtain ⟨-, p₁, q₁, e₁, rest₁, at_i₁, at_j₁, wants₁, owned⟩ := first
  obtain ⟨apart, q₂, r, e₂, rest₂, at_j₂, at_k, wants₂, owned'⟩ := second
  cases at_i.symm.trans at_i₁
  cases at_j.symm.trans at_j₁
  cases at_j.symm.trans at_j₂
  cases wants.symm.trans wants₁
  cases wants'.symm.trans wants₂
  have below : e ≤ e' := (safe.ascending j q at_j).above e owned e' (by simp [wants'])
  have different : e ≠ e' := by
    rintro rfl
    exact safe.exclusive j k q r apart at_j at_k e owned owned'
  exact lt_of_le_of_ne below different

/-- **Ascending processes never wait in a circle.** -/
theorem Safe.no_cycle (safe : Safe ps) (i : ℕ) : ¬ Relation.TransGen (WaitsFor ps) i i := by
  -- along a chain from `i` to `j`, what `j` wants is above what `i` wants, while `j` waits itself
  have chain : ∀ {j : ℕ}, Relation.TransGen (WaitsFor ps) i j → ∀ k, WaitsFor ps j k →
      ∀ p q e e' rest rest', ps[i]? = some p → ps[j]? = some q → p.wanted = e :: rest →
        q.wanted = e' :: rest' → e < e' := by
    intro j waits
    induction waits with
    | single link =>
      intro k next p q e e' rest rest' at_i at_j wants wants'
      exact safe.wanted_lt link next at_i at_j wants wants'
    | @tail m j _ link ih =>
      intro k next p q e e' rest rest' at_i at_j wants wants'
      obtain ⟨-, p', q', e₁, rest₁, at_m, -, wants₁, -⟩ := id link
      calc e < e₁ := ih j link p p' e e₁ rest rest₁ at_i at_m wants wants₁
        _ < e' := safe.wanted_lt link next at_m at_j wants₁ wants'
  intro cycle
  obtain ⟨k, first, -⟩ := Relation.TransGen.head'_iff.mp cycle
  obtain ⟨-, p, q, e, rest, at_i, -, wants, -⟩ := id first
  exact lt_irrefl e (chain cycle k first p p e e rest rest at_i at_i wants wants)

/-- What the processes can do. -/
inductive Move (ps : List (Proc κ)) : List (Proc κ) → Prop
  | idle : Move ps ps
  | starts {wanted : List κ} (sorted : wanted.Pairwise (· ≤ ·)) : Move ps (ps ++ [⟨[], wanted⟩])
  | takes {i : ℕ} {owned rest : List κ} {e : κ} (at_i : ps[i]? = some ⟨owned, e :: rest⟩)
    (free : ∀ (j : ℕ) q, j ≠ i → ps[j]? = some q → e ∉ q.owned) :
    Move ps (ps.set i ⟨owned ++ [e], rest⟩)
  | drops (i : ℕ) : Move ps (ps.set i ⟨[], []⟩)

/-- A process replaced by an ascending one that owns nothing the others own. -/
theorem Safe.set (safe : Safe ps) {i : ℕ} {p' : Proc κ} (ascending : p'.Ascending)
    (free : ∀ (j : ℕ) q, j ≠ i → ps[j]? = some q → ∀ e ∈ p'.owned, e ∉ q.owned) :
    Safe (ps.set i p') where
  ascending := forall_getElem?_set (fun j q _ at_j => safe.ascending j q at_j) ascending
  exclusive j k p q apart at_j at_k := by
    have owner : ∀ (l : ℕ) r, (ps.set i p')[l]? = some r →
        (l ≠ i ∧ ps[l]? = some r) ∨ (l = i ∧ r = p') :=
      forall_getElem?_set (fun l r away at_l => .inl ⟨away, at_l⟩) (.inr ⟨rfl, rfl⟩)
    intro e mem both
    rcases owner j p at_j with ⟨away, old⟩ | ⟨rfl, rfl⟩
    · rcases owner k q at_k with ⟨-, old'⟩ | ⟨rfl, rfl⟩
      · exact safe.exclusive j k p q apart old old' e mem both
      · exact free j p away old e both mem
    · rcases owner k q at_k with ⟨away, old⟩ | ⟨same, -⟩
      · exact free k q away old e mem both
      · exact apart same.symm

theorem Move.safe (moved : Move ps ps') (safe : Safe ps) : Safe ps' := by
  cases moved with
  | idle => exact safe
  | @starts wanted sorted =>
    have owner : ∀ (l : ℕ) r, (ps ++ [⟨[], wanted⟩])[l]? = some r →
        ps[l]? = some r ∨ r.owned = [] :=
      forall_getElem?_concat (fun _ _ => .inl) (.inr rfl)
    refine ⟨forall_getElem?_concat safe.ascending ⟨sorted, nofun⟩, ?_⟩
    intro j k p q apart at_j at_k e mem both
    rcases owner j p at_j with old | none
    · rcases owner k q at_k with old' | none
      · exact safe.exclusive j k p q apart old old' e mem both
      · exact List.not_mem_nil (none ▸ both)
    · exact List.not_mem_nil (none ▸ mem)
  | @takes i owned rest e at_i free =>
    have before := safe.ascending i _ at_i
    have next := List.pairwise_cons.mp before.sorted
    refine safe.set ⟨next.2, fun e' mem e'' later => ?_⟩ fun j q away at_j e' mem => ?_
    · rcases List.mem_append.mp mem with old | new
      · exact before.above e' old e'' (List.mem_cons_of_mem e later)
      · rw [List.mem_singleton.mp new]
        exact next.1 e'' later
    · rcases List.mem_append.mp mem with old | new
      · exact safe.exclusive i j _ q (Ne.symm away) at_i at_j e' old
      · rw [List.mem_singleton.mp new]
        exact free j q away at_j
  | drops i => exact safe.set ⟨.nil, nofun⟩ nofun

end OrderedLocking
