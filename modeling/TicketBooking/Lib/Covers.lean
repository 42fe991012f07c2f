import Mathlib.Data.Fintype.Card
import Mathlib.Data.List.Basic
import Mathlib.Data.Set.Finite.List

/-!
# Elements that cover each other

A relation on the elements of a list says which element another one makes superfluous.  When it is a
strict order there, every covered element has a cover that is not covered itself, so all covered
elements can be dropped at once and nothing is covered among the rest.
-/

namespace Covers

variable {α : Type} {R : α → α → Prop} {as bs : List α} {a b : α}

/-- Some element covers `a`. -/
def Covered (R : α → α → Prop) (as : List α) (a : α) : Prop := ∃ b ∈ as, R a b

instance [DecidableRel R] (as : List α) (a : α) : Decidable (Covered R as a) :=
  inferInstanceAs (Decidable (∃ b ∈ as, R a b))

theorem Covered.mono (subset : as ⊆ bs) (covered : Covered R as a) : Covered R bs a := by
  obtain ⟨b, mem, covers⟩ := covered
  exact ⟨b, subset mem, covers⟩

/-- `R` is a strict order on the elements of a list. -/
structure Strict (R : α → α → Prop) (as : List α) : Prop where
  irrefl : ∀ a ∈ as, ¬R a a
  trans : ∀ a ∈ as, ∀ b ∈ as, ∀ c ∈ as, R a b → R b c → R a c

/-- Going from cover to cover ends. -/
theorem Strict.wellFounded (strict : Strict R as) :
    WellFounded fun b a : {a // a ∈ as} => R a.1 b.1 := by
  have finite : Finite {a // a ∈ as} := List.finite_toSet as
  have trans : IsTrans {a // a ∈ as} fun b a => R a.1 b.1 :=
    ⟨fun c b a second first => strict.trans a.1 a.2 b.1 b.2 c.1 c.2 first second⟩
  have irrefl : Std.Irrefl fun b a : {a // a ∈ as} => R a.1 b.1 := ⟨fun a => strict.irrefl a.1 a.2⟩
  exact Finite.wellFounded_of_trans_of_irrefl _

/-- A covered element has a cover that stays. -/
theorem Strict.exists_uncovered (strict : Strict R as) (mem : a ∈ as) (covered : Covered R as a) :
    ∃ b ∈ as, R a b ∧ ¬Covered R as b := by
  have general : ∀ a : {a // a ∈ as}, Covered R as a.1 → ∃ b ∈ as, R a.1 b ∧ ¬Covered R as b := by
    intro a
    induction a using strict.wellFounded.induction with
    | _ a ih =>
      rintro ⟨b, memB, covers⟩
      by_cases coveredB : Covered R as b
      · obtain ⟨c, memC, coversC, stays⟩ := ih ⟨b, memB⟩ covers coveredB
        exact ⟨c, memC, strict.trans a.1 a.2 b memB c memC covers coversC, stays⟩
      · exact ⟨b, memB, covers, coveredB⟩
  exact general ⟨a, mem⟩ covered

end Covers
