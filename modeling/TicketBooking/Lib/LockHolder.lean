import TicketBooking.Lib.ListUpdate
import Mathlib.Logic.Function.Basic

/-!
# A lock that names its holder

Threads are program counters `pcs : ι → P`, and a lock is held by at most one of them.  `inside` are
the program counters between taking the lock and releasing it.  `Guards` says that the lock names
exactly the thread that is inside; `move`, `take` and `release` are the ways to keep it, and
`Guards.eq` is mutual exclusion.

`Exclusive` is the same for locks on any number of keys, such as the rows of a table: no key is
locked by two processes of a list.
-/

namespace LockHolder

variable {ι P : Type} {inside : P → Prop} {lock : Option ι} {pcs : ι → P} {i j : ι} {pc : P}

/-- The lock names the thread that is inside, and nobody is inside while it is free. -/
def Guards (inside : P → Prop) (lock : Option ι) (pcs : ι → P) : Prop :=
  ∀ j, lock = some j ↔ inside (pcs j)

theorem Guards.of_outside (outside : ∀ j, ¬ inside (pcs j)) : Guards inside none pcs := by
  intro j
  simp [outside j]

/-- Two threads inside are the same. -/
theorem Guards.eq (guards : Guards inside lock pcs) (here : inside (pcs i))
    (there : inside (pcs j)) : i = j :=
  Option.some.inj (((guards i).mpr here).symm.trans ((guards j).mpr there))

/-- While no other thread than `i` holds the lock, no other is inside. -/
theorem Guards.outside (guards : Guards inside lock pcs) (alone : lock = none ∨ lock = some i)
    (away : j ≠ i) : ¬ inside (pcs j) := by
  intro here
  rcases alone with free | held
  · cases free.symm.trans ((guards j).mpr here)
  · exact away (Option.some.inj (((guards j).mpr here).symm.trans held))

variable [DecidableEq ι]

/-- A step on one side of the lock. -/
theorem Guards.move (guards : Guards inside lock pcs) (same : inside pc ↔ inside (pcs i)) :
    Guards inside lock (Function.update pcs i pc) := by
  intro j
  rw [guards j]
  rcases eq_or_ne j i with rfl | away
  · rw [Function.update_self, same]
  · rw [Function.update_of_ne away]

theorem Guards.take (guards : Guards inside none pcs) (enters : inside pc) :
    Guards inside (some i) (Function.update pcs i pc) := by
  intro j
  rcases eq_or_ne j i with rfl | away
  · simp [enters]
  · rw [Function.update_of_ne away, ← guards j]
    simp [away.symm]

theorem Guards.release (guards : Guards inside lock pcs) (here : inside (pcs i))
    (leaves : ¬ inside pc) : Guards inside none (Function.update pcs i pc) := by
  refine .of_outside fun j => ?_
  rcases eq_or_ne j i with rfl | away
  · rwa [Function.update_self]
  · rw [Function.update_of_ne away]
    intro there
    exact away (guards.eq there here)

/-! ## Locks on keys -/

section Keys

open ListUpdate

variable {π κ : Type} {locks : π → List κ} {ps : List π} {p : π}

/-- No two processes have locked one key. -/
def Exclusive (locks : π → List κ) (ps : List π) : Prop :=
  ∀ (i j : ℕ) a b, i ≠ j → ps[i]? = some a → ps[j]? = some b → ∀ k ∈ locks a, k ∉ locks b

theorem Exclusive.nil (locks : π → List κ) : Exclusive locks [] := by
  intro i j a b _ at_i
  simp at at_i

/-- A key that another process has locked. -/
theorem mem_locks_eraseIdx {key : κ} {i : ℕ} :
    key ∈ (ps.eraseIdx i).flatMap locks ↔ ∃ j b, j ≠ i ∧ ps[j]? = some b ∧ key ∈ locks b := by
  simp only [List.mem_flatMap, List.mem_eraseIdx_iff_getElem?]
  constructor
  · rintro ⟨b, ⟨j, other, at_j⟩, held⟩
    exact ⟨j, b, other, at_j, held⟩
  · rintro ⟨j, b, other, at_j, held⟩
    exact ⟨b, ⟨j, other, at_j⟩, held⟩

/-- A process moves and locks keys that were free. -/
theorem Exclusive.set (exclusive : Exclusive locks ps) {i : ℕ}
    (free : ∀ k ∈ locks p, k ∉ (ps.eraseIdx i).flatMap locks) : Exclusive locks (ps.set i p) := by
  have apart : ∀ (j : ℕ) b, j ≠ i → ps[j]? = some b → ∀ k ∈ locks p, k ∉ locks b :=
    fun j b away at_j k held both => free k held (mem_locks_eraseIdx.mpr ⟨j, b, away, at_j, both⟩)
  intro j l a b different at_j at_l
  have first : (j = i ∧ a = p) ∨ (j ≠ i ∧ ps[j]? = some a) :=
    forall_getElem?_set (P := fun j a => (j = i ∧ a = p) ∨ (j ≠ i ∧ ps[j]? = some a))
      (fun j a away at_j => .inr ⟨away, at_j⟩) (.inl ⟨rfl, rfl⟩) j a at_j
  have second : (l = i ∧ b = p) ∨ (l ≠ i ∧ ps[l]? = some b) :=
    forall_getElem?_set (P := fun j a => (j = i ∧ a = p) ∨ (j ≠ i ∧ ps[j]? = some a))
      (fun j a away at_j => .inr ⟨away, at_j⟩) (.inl ⟨rfl, rfl⟩) l b at_l
  rcases first with ⟨rfl, rfl⟩ | ⟨awayJ, oldJ⟩
  · rcases second with ⟨rfl, -⟩ | ⟨awayL, oldL⟩
    · exact absurd rfl different
    · exact apart l b awayL oldL
  · rcases second with ⟨rfl, rfl⟩ | ⟨awayL, oldL⟩
    · exact fun k held both => apart j a awayJ oldJ k both held
    · exact exclusive j l a b different oldJ oldL

/-- A new process has no locks. -/
theorem Exclusive.concat (exclusive : Exclusive locks ps) (none : locks p = []) :
    Exclusive locks (ps ++ [p]) := by
  have old : ∀ (j : ℕ) a, (ps ++ [p])[j]? = some a → ps[j]? = some a ∨ locks a = [] :=
    forall_getElem?_concat (fun _ _ => .inl) (.inr none)
  intro i j a b different at_i at_j key held both
  rcases old i a at_i with first | empty
  · rcases old j b at_j with second | empty
    · exact exclusive i j a b different first second key held both
    · rw [empty] at both
      exact List.not_mem_nil both
  · rw [empty] at held
    exact List.not_mem_nil held

end Keys

end LockHolder
