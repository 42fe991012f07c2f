import Mathlib.Data.List.Forall2

/-!
# Computations that may fail

What a successful computation in `Except` says about its parts: `bind_ok_iff` for a sequence of two,
`mapM_ok_iff` and `mapM_all_iff` for a loop over a list; and `map_eq_map_cases` for two look-ups
that agree on what they show.
-/

namespace Fallible

variable {ε α β : Type}

theorem bind_ok_iff {x : Except ε α} {f : α → Except ε β} {b : β} :
    x >>= f = .ok b ↔ ∃ a, x = .ok a ∧ f a = .ok b := by
  cases x with
  | error e =>
    simp only [reduceCtorEq, false_and, exists_false, iff_false]
    exact nofun
  | ok a => exact ⟨fun ran => ⟨a, rfl, ran⟩, fun ⟨_, same, ran⟩ => Except.ok.inj same ▸ ran⟩

theorem map_ok_iff {x : Except ε α} {f : α → β} {b : β} :
    x.map f = .ok b ↔ ∃ a, x = .ok a ∧ f a = b := by
  cases x with
  | error e => simp [Except.map]
  | ok a => simp [Except.map]

theorem exists_ok_of_isSome {x : Except ε α} (isOk : x.toOption.isSome = true) :
    ∃ a, x = .ok a := by
  cases x with
  | error => cases isOk
  | ok a => exact ⟨a, rfl⟩

/-- A loop succeeds when each of its turns does, and returns their results in order. -/
theorem mapM_ok_iff {f : α → Except ε β} {as : List α} {bs : List β} :
    as.mapM f = .ok bs ↔ List.Forall₂ (fun a b => f a = .ok b) as bs := by
  induction as generalizing bs with
  | nil =>
    rw [List.mapM_nil, List.forall₂_nil_left_iff]
    exact ⟨fun same => (Except.ok.inj same).symm, fun same => congrArg Except.ok same.symm⟩
  | cons a as ih =>
    rw [List.mapM_cons, bind_ok_iff]
    constructor
    · rintro ⟨b, first, rest⟩
      obtain ⟨bs', ran, same⟩ := bind_ok_iff.mp rest
      cases same
      exact .cons first (ih.mp ran)
    · intro turns
      cases turns with
      | cons first rest => exact ⟨_, first, bind_ok_iff.mpr ⟨_, ih.mpr rest, rfl⟩⟩

/-- A loop succeeds with good results when each of its turns has one. -/
theorem mapM_all_iff {f : α → Except ε β} {P : β → Prop} {as : List α} :
    (∃ bs, as.mapM f = .ok bs ∧ ∀ b ∈ bs, P b) ↔ ∀ a ∈ as, ∃ b, f a = .ok b ∧ P b := by
  induction as with
  | nil => exact iff_of_true ⟨[], rfl, List.forall_mem_nil P⟩ (List.forall_mem_nil _)
  | cons a as ih =>
    rw [List.forall_mem_cons, ← ih]
    simp only [mapM_ok_iff]
    constructor
    · rintro ⟨bs, turns, good⟩
      cases turns with
      | cons first rest =>
        obtain ⟨goodFirst, goodRest⟩ := List.forall_mem_cons.mp good
        exact ⟨⟨_, first, goodFirst⟩, _, rest, goodRest⟩
    · rintro ⟨⟨b, first, goodFirst⟩, bs, rest, goodRest⟩
      exact ⟨b :: bs, .cons first rest, List.forall_mem_cons.mpr ⟨goodFirst, goodRest⟩⟩

/-- Two look-ups that show the same both fail, or find elements that show the same. -/
theorem map_eq_map_cases {γ : Type} {f : α → γ} {g : β → γ} {x : Option α} {y : Option β}
    (same : x.map f = y.map g) :
    x = none ∧ y = none ∨ ∃ a b, x = some a ∧ y = some b ∧ f a = g b := by
  cases y with
  | none => exact .inl ⟨Option.map_eq_none_iff.mp same, rfl⟩
  | some b =>
    obtain ⟨a, found, shows⟩ := Option.map_eq_some_iff.mp same
    exact .inr ⟨a, b, found, rfl, shows⟩

/-- Lists related element by element agree under functions that agree on related elements. -/
theorem map_eq_map_of_forall₂ {γ : Type} {R : α → β → Prop} {f : α → γ} {g : β → γ} {as : List α}
    {bs : List β} (related : List.Forall₂ R as bs) (same : ∀ a b, R a b → f a = g b) :
    as.map f = bs.map g := by
  induction related with
  | nil => rfl
  | cons first _ ih => rw [List.map_cons, List.map_cons, same _ _ first, ih]

end Fallible
