import Mathlib.Data.List.Basic
import Mathlib.Data.List.Infix

/-!
# Runs of a deterministic step function

A system is a partial function `step : σ → α → Option σ`: in state `s` the action `a` is either
disabled (`none`) or leads to exactly one state.  All nondeterminism sits in the choice of the
actions, so a schedule is a list of actions and a concrete schedule can be evaluated.

* `run` executes a schedule; `Reachable step ok start` is reachability by the actions that the
  condition `ok` allows in the state in which they are taken.
* `Reachable.invariant` is the induction rule; `Reachable.invariant₂` lets the invariant use that
  the state before the step is reachable.
* `checkedRun` executes a schedule as long as its actions are allowed, so that conditions on runs
  can be evaluated.
* `Along` and `StepsMeet` speak about every state and every step of one schedule;
  `along_iff_stepsMeet` turns a step lemma and its converse into an equivalence over schedules.
* `run_history` is the induction rule for a property of the schedule itself.
* `run_descends` bounds the length of a schedule by a measure that every step makes smaller.
* `run_accumulates` is the induction rule for an invariant that speaks about the steps taken so far.
-/

namespace StepSystem

variable {σ α : Type} {step : σ → α → Option σ}

/-- The state after a schedule, when each of its actions is enabled in turn. -/
def run (step : σ → α → Option σ) : σ → List α → Option σ
  | s, [] => some s
  | s, a :: as => (step s a).bind fun s' => run step s' as

@[simp] theorem run_nil (s : σ) : run step s [] = some s := rfl

theorem run_cons (s : σ) (a : α) (as : List α) :
    run step s (a :: as) = (step s a).bind fun s' => run step s' as := rfl

theorem run_append (s : σ) (as bs : List α) :
    run step s (as ++ bs) = (run step s as).bind fun s' => run step s' bs := by
  induction as generalizing s with
  | nil => rfl
  | cons a as ih =>
    simp only [List.cons_append, run_cons]
    cases step s a with
    | none => rfl
    | some s' => exact ih s'

theorem run_concat {s t : σ} {as : List α} {a : α} :
    run step s (as ++ [a]) = some t ↔ ∃ m, run step s as = some m ∧ step m a = some t := by
  rw [run_append, Option.bind_eq_some_iff]
  simp only [run_cons, run_nil, Option.bind_eq_some_iff, Option.some.injEq,
    exists_eq_right]

/-- Reachability by actions that `ok` allows in the state they are taken in. -/
inductive Reachable (step : σ → α → Option σ) (ok : σ → α → Prop) (start : σ) : σ → Prop
  | init : Reachable step ok start start
  | next {s s' : σ} {a : α} :
    Reachable step ok start s → ok s a → step s a = some s' → Reachable step ok start s'

variable {ok ok' : σ → α → Prop} {start s : σ}

/-- An invariant that may use the reachability of the state it is kept in. -/
theorem Reachable.invariant₂ {P : σ → Prop} (reached : Reachable step ok start s)
    (base : P start)
    (keep : ∀ s a s', Reachable step ok start s → P s → ok s a → step s a = some s' → P s') :
    P s := by
  induction reached with
  | init => exact base
  | next before allowed moved ih => exact keep _ _ _ before ih allowed moved

/-- A property of the start that every allowed step keeps holds in every reachable state. -/
theorem Reachable.invariant {P : σ → Prop} (reached : Reachable step ok start s)
    (base : P start) (keep : ∀ s a s', P s → ok s a → step s a = some s' → P s') : P s :=
  reached.invariant₂ base fun s a s' _ => keep s a s'

theorem Reachable.mono (weaker : ∀ s a, ok s a → ok' s a) (reached : Reachable step ok start s) :
    Reachable step ok' start s := by
  induction reached with
  | init => exact .init
  | next _ allowed moved ih => exact .next ih (weaker _ _ allowed) moved

theorem Reachable.trans {mid : σ} (first : Reachable step ok start mid)
    (second : Reachable step ok mid s) : Reachable step ok start s := by
  induction second with
  | init => exact first
  | next _ allowed moved ih => exact .next ih allowed moved

/-- A part of a system that moves by the steps of its own is reachable in its own right. -/
theorem Reachable.project {τ β : Type} {step' : τ → β → Option τ} {part : σ → τ}
    (reached : Reachable step ok start s)
    (moves : ∀ s a s', step s a = some s' →
      part s' = part s ∨ ∃ b, step' (part s) b = some (part s')) :
    Reachable step' (fun _ _ => True) (part start) (part s) := by
  induction reached with
  | init => exact .init
  | @next s s' a before allowed moved ih =>
    rcases moves s a s' moved with same | ⟨b, stepped⟩
    · rw [same]
      exact ih
    · exact .next ih trivial stepped

/-- `run` for schedules whose actions must be allowed where they are taken. -/
def checkedRun (step : σ → α → Option σ) (ok : σ → α → Prop) [∀ s a, Decidable (ok s a)] :
    σ → List α → Option σ
  | s, [] => some s
  | s, a :: as => if ok s a then (step s a).bind fun s' => checkedRun step ok s' as else none

theorem run_of_checkedRun [∀ s a, Decidable (ok s a)] {as : List α}
    (executed : checkedRun step ok start as = some s) : run step start as = some s := by
  induction as generalizing start with
  | nil => exact executed
  | cons a as ih =>
    rw [checkedRun] at executed
    split at executed
    case isTrue =>
      obtain ⟨s', moved, rest⟩ := Option.bind_eq_some_iff.mp executed
      rw [run_cons, moved]
      exact ih rest
    case isFalse => cases executed

/-- A schedule that can be run within the condition reaches its final state. -/
theorem reachable_of_checkedRun [∀ s a, Decidable (ok s a)] {as : List α}
    (executed : checkedRun step ok start as = some s) : Reachable step ok start s := by
  have general : ∀ as mid, Reachable step ok start mid → checkedRun step ok mid as = some s →
      Reachable step ok start s := by
    intro as
    induction as with
    | nil => intro mid reached ran; cases ran; exact reached
    | cons a as ih =>
      intro mid reached ran
      rw [checkedRun] at ran
      split at ran
      case isTrue allowed =>
        obtain ⟨s', moved, rest⟩ := Option.bind_eq_some_iff.mp ran
        exact ih s' (.next reached allowed moved) rest
      case isFalse => cases ran
  exact general as start .init executed

/-! ## Every state and every step of one schedule -/

/-- `P` holds in every state the schedule passes through, the first and the last included. -/
def Along (step : σ → α → Option σ) (start : σ) (as : List α) (P : σ → Prop) : Prop :=
  ∀ before, before <+: as → ∀ s, run step start before = some s → P s

/-- What every step keeps holds at the end of a run. -/
theorem run_invariant {P : σ → Prop} {as : List α} (executed : run step start as = some s)
    (base : P start) (keep : ∀ s a s', P s → step s a = some s' → P s') : P s := by
  induction as using List.reverseRecOn generalizing s with
  | nil =>
    cases executed
    exact base
  | append_singleton as a ih =>
    obtain ⟨mid, ran, moved⟩ := run_concat.mp executed
    exact keep mid a s (ih ran) moved

/-- The induction rule for a property of a schedule and the state it leads to. -/
theorem run_history {P : List α → σ → Prop} {as : List α} (executed : run step start as = some s)
    (base : P [] start)
    (keep : ∀ before s a s', run step start before = some s → P before s → step s a = some s' →
      P (before ++ [a]) s') : P as s := by
  induction as using List.reverseRecOn generalizing s with
  | nil =>
    cases executed
    exact base
  | append_singleton as a ih =>
    obtain ⟨mid, ran, moved⟩ := run_concat.mp executed
    exact keep as mid a s ran (ih ran) moved

/-- A schedule whose steps keep `P` and burn fuel is no longer than the fuel burned. -/
theorem run_descends {P : σ → Prop} (fuel : σ → ℕ) {as : List α}
    (executed : run step start as = some s) (base : P start)
    (keep : ∀ s a s', a ∈ as → P s → step s a = some s' → P s' ∧ fuel s' < fuel s) :
    P s ∧ as.length + fuel s ≤ fuel start := by
  induction as using List.reverseRecOn generalizing s with
  | nil =>
    cases executed
    exact ⟨base, by simp⟩
  | append_singleton as a ih =>
    obtain ⟨mid, ran, moved⟩ := run_concat.mp executed
    have before := ih ran fun s b s' mem => keep s b s' (List.mem_append_left [a] mem)
    obtain ⟨holds, less⟩ := keep mid a s (by simp) before.1 moved
    rw [List.length_append, List.length_singleton]
    exact ⟨holds, by omega⟩

/-- Every action of the schedule meets `C` in the state it is taken in. -/
def StepsMeet (step : σ → α → Option σ) (start : σ) (as : List α) (C : σ → α → Prop) : Prop :=
  ∀ before a, before ++ [a] <+: as → ∀ s, run step start before = some s → C s a

theorem run_prefix {as before : List α} {t : σ} (executed : run step start as = some t)
    (isPrefix : before <+: as) : ∃ s, run step start before = some s := by
  obtain ⟨rest, rfl⟩ := isPrefix
  rw [run_append] at executed
  obtain ⟨s, ran, -⟩ := Option.bind_eq_some_iff.mp executed
  exact ⟨s, ran⟩

theorem Along.of_stepsMeet {P : σ → Prop} {C : σ → α → Prop} {as : List α} (base : P start)
    (keep : ∀ s a s', P s → C s a → step s a = some s' → P s')
    (meet : StepsMeet step start as C) : Along step start as P := by
  intro before
  induction before using List.reverseRecOn with
  | nil => intro _ s ran; cases ran; exact base
  | append_singleton before a ih =>
    intro isPrefix s ran
    obtain ⟨mid, ranBefore, moved⟩ := run_concat.mp ran
    have shorter : before <+: as := (List.prefix_append before [a]).trans isPrefix
    exact keep mid a s (ih shorter mid ranBefore) (meet before a isPrefix mid ranBefore) moved

theorem stepsMeet_nil (C : σ → α → Prop) : StepsMeet step start [] C := by
  intro before a isPrefix
  have empty := List.prefix_nil.mp isPrefix
  simp at empty

theorem stepsMeet_concat {C : σ → α → Prop} {as : List α} {a : α}
    (executed : run step start as = some s) :
    StepsMeet step start (as ++ [a]) C ↔ StepsMeet step start as C ∧ C s a := by
  constructor
  · intro meet
    exact ⟨fun before b isPrefix => meet before b (isPrefix.trans (List.prefix_append as [a])),
      meet as a (List.prefix_refl _) s executed⟩
  · intro ⟨earlier, last⟩ before b isPrefix mid ran
    rcases List.prefix_concat_iff.mp isPrefix with whole | shorter
    · obtain ⟨rfl, same⟩ := List.append_inj' whole rfl
      cases same
      cases executed.symm.trans ran
      exact last
    · exact earlier before b shorter mid ran

/-- The induction rule for an invariant that keeps account of whether the steps so far met `C`. -/
theorem run_accumulates {I : σ → Prop → Prop} {H C : σ → α → Prop} {as : List α}
    (base : I start True)
    (keep : ∀ s a s' G, a ∈ as → I s G → H s a → step s a = some s' → I s' (G ∧ C s a))
    (meet : StepsMeet step start as H) (executed : run step start as = some s) :
    I s (StepsMeet step start as C) := by
  induction as using List.reverseRecOn generalizing s with
  | nil =>
    cases executed
    have met : StepsMeet step start [] C := stepsMeet_nil C
    rw [eq_true met]
    exact base
  | append_singleton as a ih =>
    obtain ⟨mid, ran, moved⟩ := run_concat.mp executed
    obtain ⟨earlier, last⟩ := (stepsMeet_concat ran).mp meet
    rw [stepsMeet_concat ran]
    have before := ih (fun s b s' G mem => keep s b s' G (List.mem_append_left [a] mem)) earlier ran
    exact keep mid a s _ (by simp) before last moved

/-- A schedule that can be run within the condition meets it at every step. -/
theorem stepsMeet_of_checkedRun [∀ s a, Decidable (ok s a)] {as : List α}
    (executed : checkedRun step ok start as = some s) : StepsMeet step start as ok := by
  induction as generalizing start with
  | nil => exact stepsMeet_nil ok
  | cons b as ih =>
    rw [checkedRun] at executed
    split at executed
    case isTrue allowed =>
      obtain ⟨s', moved, rest⟩ := Option.bind_eq_some_iff.mp executed
      intro before a isPrefix mid ran
      cases before with
      | nil =>
        obtain ⟨rfl, -⟩ := List.cons_prefix_cons.mp isPrefix
        cases ran
        exact allowed
      | cons c before =>
        obtain ⟨rfl, shorter⟩ := List.cons_prefix_cons.mp isPrefix
        rw [run_cons, moved] at ran
        exact ih rest before a shorter mid ran
    case isFalse => cases executed

/-- **From a step lemma and its converse to whole schedules.**  When steps meeting `C` keep `P`
and a step violating `C` breaks it, a schedule keeps `P` throughout exactly when all its steps
meet `C`.  `I` is an invariant both step lemmas may use. -/
theorem along_iff_stepsMeet {P I : σ → Prop} {C : σ → α → Prop} {as : List α} {t : σ}
    (executed : run step start as = some t) (baseI : I start) (baseP : P start)
    (keepI : ∀ s a s', I s → step s a = some s' → I s')
    (keep : ∀ s a s', I s → P s → C s a → step s a = some s' → P s')
    (breaks : ∀ s a s', I s → P s → ¬ C s a → step s a = some s' → ¬ P s') :
    Along step start as P ↔ StepsMeet step start as C := by
  have invariant : Along step start as I := by
    refine Along.of_stepsMeet (C := fun _ _ => True) baseI ?_ fun _ _ _ _ _ => trivial
    intro s a s' holds _ moved
    exact keepI s a s' holds moved
  constructor
  · intro along before a isPrefix s ran
    by_contra violated
    obtain ⟨t', ran'⟩ := run_prefix executed isPrefix
    obtain ⟨mid, ranBefore, moved⟩ := run_concat.mp ran'
    obtain rfl : mid = s := Option.some.inj (ranBefore.symm.trans ran)
    have shorter : before <+: as := (List.prefix_append before [a]).trans isPrefix
    exact breaks mid a t' (invariant before shorter mid ran) (along before shorter mid ran) violated
      moved (along _ isPrefix t' ran')
  · intro meet before isPrefix s ran
    have both : Along step start as fun s => I s ∧ P s :=
      Along.of_stepsMeet ⟨baseI, baseP⟩
        (fun s a s' holds allowed moved =>
          ⟨keepI s a s' holds.1 moved, keep s a s' holds.1 holds.2 allowed moved⟩) meet
    exact (both before isPrefix s ran).2

end StepSystem
