import TicketBooking.OwnChange

/-!
# Answers in the order of the table

Whatever fails and however the threads of a replica interleave: what `get_all_flags` answers is what
a refresh made of the table at some moment, and a call that begins after another one has answered is
not answered from an older table.

* A `Version` is the schedule up to the table read, or `none` for the defaults.
* `Versions` is kept by every step: one refresh at a time reads and publishes, so what it is about
  to publish is not older than the cache.
* `Timeline` gives every moment of a run one version; a step extends it.  The versions never go
  back, and an answer is of the version of the moment it is given (`GivenAt`).
-/

namespace TicketBooking

open LockHolder StepSystem

/-- The moment a dictionary was read from the table; `none` when it never was. -/
abbrev Version := Option (List FlagAction)

namespace Version

/-- The defaults are older than every table, and a table than every later one. -/
def NotAfter (v w : Version) : Prop := ∀ p, v = some p → ∃ q, w = some q ∧ p <+: q

theorem NotAfter.refl (v : Version) : v.NotAfter v := fun p same => ⟨p, same, List.prefix_refl p⟩

theorem NotAfter.trans {u v w : Version} (first : u.NotAfter v) (second : v.NotAfter w) :
    u.NotAfter w := by
  intro p same
  obtain ⟨q, here, early⟩ := first p same
  obtain ⟨r, there, late⟩ := second q here
  exact ⟨r, there, early.trans late⟩

/-- The dictionary is what a refresh makes of the table at this moment of the schedule. -/
def Of (ttl : ℤ) (start : FlagState) (as : List FlagAction) (values : FlagValues) :
    Version → Prop
  | none => values = defaults
  | some p => p <+: as ∧ ∃ s, run (flagStep ttl) start p = some s ∧ values = refreshedValues s.table

theorem Of.mono {ttl : ℤ} {start : FlagState} {as bs : List FlagAction} {values : FlagValues}
    {v : Version} (of : v.Of ttl start as values) (longer : as <+: bs) :
    v.Of ttl start bs values := by
  cases v with
  | none => exact of
  | some p => exact ⟨of.1.trans longer, of.2⟩

/-- The versions up to moment `m`, and `w` from then on. -/
def extend (version : ℕ → Version) (m : ℕ) (w : Version) : ℕ → Version :=
  fun n => if n ≤ m then version n else w

section Extend

variable {version : ℕ → Version} {m n : ℕ} {w : Version}

theorem extend_of_le (early : n ≤ m) : extend version m w n = version n := if_pos early

theorem extend_of_lt (late : m < n) : extend version m w n = w := if_neg (not_le.mpr late)

theorem extend_order (order : ∀ m n, m ≤ n → (version m).NotAfter (version n))
    (late : (version m).NotAfter w) (k n : ℕ) (le : k ≤ n) :
    (extend version m w k).NotAfter (extend version m w n) := by
  rcases le_or_gt n m with early | after
  · rw [extend_of_le (le.trans early), extend_of_le early]
    exact order k n le
  rw [extend_of_lt after]
  rcases le_or_gt k m with early | after
  · rw [extend_of_le early]
    exact (order k m early).trans late
  · rw [extend_of_lt after]
    exact .refl w

end Extend

end Version

/-- The cache shows version `v`, and what is about to be published is no older. -/
structure FlagState.Versions (s : FlagState) (ttl : ℤ) (start : FlagState) (as : List FlagAction)
    (v : Version) : Prop where
  ordered : s.Ordered
  shown : v.Of ttl start as s.shown
  cached : ∀ p, v = some p → s.cache ≠ []
  publishing : ∀ j values, s.threads j = .publish values →
    ∃ w : Version, v.NotAfter w ∧ w ≠ none ∧ w.Of ttl start as values

/-- Step `n` of the run answers thread `j` with the dictionary. -/
def GivenAt (ttl : ℤ) (start : FlagState) (as : List FlagAction) (n j : ℕ)
    (values : FlagValues) : Prop :=
  n < as.length ∧ ∃ s s', run (flagStep ttl) start (as.take n) = some s ∧
    run (flagStep ttl) start (as.take (n + 1)) = some s' ∧
    s.threads j ≠ .answered values ∧ s'.threads j = .answered values

/-- A version for every moment of the run: none is older than an earlier one, an answer is of the
version of the moment it is given, and the cache shows the last. -/
structure FlagState.Timeline (s : FlagState) (ttl : ℤ) (start : FlagState) (as : List FlagAction)
    (version : ℕ → Version) : Prop where
  order : ∀ m n, m ≤ n → (version m).NotAfter (version n)
  answers : ∀ n j values, GivenAt ttl start as n j values →
    (version n).Of ttl start (as.take n) values
  current : s.Versions ttl start as (version as.length)

/-- After step `n` of the run and up to moment `m`, thread `j` has this answer. -/
def HeldSince (ttl : ℤ) (start : FlagState) (as : List FlagAction) (n m j : ℕ)
    (values : FlagValues) : Prop :=
  ∀ k s, n < k → k ≤ m → run (flagStep ttl) start (as.take k) = some s →
    s.threads j = .answered values

section Steps

open FlagState

variable {ttl : ℤ} {s s' t start : FlagState} {a : FlagAction} {as : List FlagAction} {j n : ℕ}
  {v : Version} {values : FlagValues}

theorem FlagState.Fresh.versions (fresh : start.Fresh) : start.Versions ttl start [] none where
  ordered := fresh.ordered
  shown := if_pos fresh.1
  cached p same := by cases same
  publishing j values at_j := by simp [fresh.2.2.2 j] at at_j

/-- A snapshot about to be published was about to be published before, or is the table now. -/
theorem FlagMove.publishing (moved : FlagMove ttl s a s') (at_j : s'.threads j = .publish values) :
    s.threads j = .publish values ∨ values = refreshedValues s.table := by
  rcases moved.turn j with same | turn
  · exact .inl (same.symm.trans at_j)
  · rw [at_j] at turn
    generalize s.threads j = pc at turn
    cases turn with
    | walks walk =>
      rcases walk.values with none | ⟨-, read⟩ | ⟨-, answer⟩
      · cases none
      · cases read
        exact .inr rfl
      · cases answer
    | commits left => simp at left

/-- An answer was given before, or is what the cache shows now. -/
theorem FlagMove.answering (moved : FlagMove ttl s a s')
    (at_j : s'.threads j = .answered values) :
    s.threads j = .answered values ∨ values = s.shown := by
  rcases moved.turn j with same | turn
  · exact .inl (same.symm.trans at_j)
  · rw [at_j] at turn
    generalize s.threads j = pc at turn
    cases turn with
    | walks walk =>
      rcases walk.values with none | ⟨-, read⟩ | ⟨-, answer⟩
      · cases none
      · cases read
      · cases answer
        exact .inr rfl
    | commits left => simp at left

/-- What the cache shows stays, or a thread publishes. -/
theorem FlagMove.shown_cases (moved : FlagMove ttl s a s') (ordered : s.Ordered) :
    (s'.shown = s.shown ∧ (s.cache ≠ [] → s'.cache ≠ [])) ∨
      ∃ i values, s.threads i = .publish values ∧ s'.shown = values ∧ s'.cache = values ∧
        s'.threads = Function.update s.threads i .stamp := by
  cases moved with
  | @publishes i values at_i =>
    have total : values.Total := ordered.held i values (by rw [at_i]; rfl)
    exact .inr ⟨i, values, at_i, shown_of_cache s total, rfl, rfl⟩
  | fallsBack at_i =>
    refine .inl ⟨?_, fun _ => ordered.shown.ne_nil⟩
    exact shown_of_cache s ordered.shown
  | _ => exact .inl ⟨rfl, id⟩

/-- A step keeps the versions in order, and the cache shows none older. -/
theorem FlagState.Versions.step (versions : s.Versions ttl start as v)
    (ran : run (flagStep ttl) start as = some s) (moved : FlagMove ttl s a s') :
    ∃ w, v.NotAfter w ∧ s'.Versions ttl start (as ++ [a]) w := by
  obtain ⟨ordered, shown, cached, publishing⟩ := versions
  have longer : as <+: as ++ [a] := List.prefix_append as [a]
  rcases moved.shown_cases ordered with ⟨same, full⟩ | ⟨i, values, at_i, shows, cache, threads⟩
  · refine ⟨v, .refl v, moved.ordered ordered, same ▸ shown.mono longer,
      fun p here => full (cached p here), fun j values at_j => ?_⟩
    rcases moved.publishing at_j with before | rfl
    · obtain ⟨w, late, read, of⟩ := publishing j values before
      exact ⟨w, late, read, of.mono longer⟩
    · -- the table is read now, and nothing shown is younger
      refine ⟨some as, fun p here => ⟨as, rfl, ?_⟩, nofun, longer, s, ran, rfl⟩
      subst here
      exact shown.1
  · obtain ⟨w, late, read, of⟩ := publishing i values at_i
    refine ⟨w, late, moved.ordered ordered, shows ▸ of.mono longer, fun p here => ?_,
      fun j values' at_j => ?_⟩
    · rw [cache]
      exact (ordered.held i values (by rw [at_i]; rfl)).ne_nil
    · -- only the thread with the lock publishes, and it has just done so
      rw [threads] at at_j
      rcases eq_or_ne j i with rfl | away
      · rw [Function.update_self] at at_j
        cases at_j
      · rw [Function.update_of_ne away] at at_j
        have here : (s.threads i).Refreshing := by rw [at_i]; trivial
        have there : (s.threads j).Refreshing := by rw [at_j]; trivial
        exact absurd (ordered.guarded.eq there here) away

/-- A shorter run gives the answers of its steps. -/
theorem GivenAt.of_concat (given : GivenAt ttl start (as ++ [a]) n j values)
    (early : n < as.length) : GivenAt ttl start as n j values := by
  obtain ⟨-, s, s', before, after, was, now⟩ := given
  rw [List.take_append_of_le_length (by omega)] at before after
  exact ⟨early, s, s', before, after, was, now⟩

/-- The answer that the last step gives is what the cache showed before it. -/
theorem GivenAt.last (given : GivenAt ttl start (as ++ [a]) as.length j values)
    (ran : run (flagStep ttl) start as = some s) : values = s.shown := by
  obtain ⟨-, u, u', before, after, was, now⟩ := given
  rw [List.take_left] at before
  rw [List.take_of_length_le (by simp), run_append, ran, Option.bind_some] at after
  cases ran.symm.trans before
  have moved : flagStep ttl s a = some u' := by simpa [run_cons] using after
  rcases (flagStep_cases moved).answering now with same | shown
  · exact absurd same was
  · exact shown

theorem FlagState.Fresh.timeline (fresh : start.Fresh) :
    start.Timeline ttl start [] fun _ => none where
  order _ _ _ := .refl none
  answers n _ _ given := absurd given.1 (Nat.not_lt_zero n)
  current := fresh.versions

/-- A step gives a version to the moment it leads to. -/
theorem FlagState.Timeline.step {version : ℕ → Version}
    (timeline : s.Timeline ttl start as version) (ran : run (flagStep ttl) start as = some s)
    (moved : flagStep ttl s a = some s') :
    ∃ version', s'.Timeline ttl start (as ++ [a]) version' := by
  obtain ⟨w, late, later⟩ := timeline.current.step ran (flagStep_cases moved)
  refine ⟨Version.extend version as.length w, Version.extend_order timeline.order late,
    fun n j values given => ?_, ?_⟩
  · have bound : n < as.length + 1 := by simpa using given.1
    rw [Version.extend_of_le (by omega), List.take_append_of_le_length (by omega)]
    rcases Nat.lt_or_eq_of_le (Nat.le_of_lt_succ bound) with early | rfl
    · exact timeline.answers n j values (given.of_concat early)
    · rw [List.take_length, given.last ran]
      exact timeline.current.shown
  · rw [Version.extend_of_lt (by simp)]
    exact later

theorem FlagState.timeline_of_run (fresh : start.Fresh)
    (ran : run (flagStep ttl) start as = some s) :
    ∃ version, s.Timeline ttl start as version := by
  refine run_history (P := fun as s => ∃ version, s.Timeline ttl start as version) ran
    ⟨_, fresh.timeline⟩ ?_
  rintro before s a s' ran ⟨version, timeline⟩ moved
  exact timeline.step ran moved

/-- Who has an answer was given it by some step, and has had it since. -/
theorem given_of_answered (fresh : start.Fresh) (m : ℕ) (le : m ≤ as.length)
    (reached : run (flagStep ttl) start (as.take m) = some t)
    (has : t.threads j = .answered values) :
    ∃ n < m, GivenAt ttl start as n j values ∧ HeldSince ttl start as n m j values := by
  induction m generalizing t with
  | zero =>
    cases reached
    rw [fresh.2.2.2 j] at has
    cases has
  | succ m ih =>
    have split : as.take (m + 1) = as.take m ++ [as[m]] := List.take_succ_eq_append_getElem le
    obtain ⟨s, before, moved⟩ := run_concat.mp (split ▸ reached)
    by_cases had : s.threads j = .answered values
    · obtain ⟨n, early, given, held⟩ := ih (Nat.le_of_succ_le le) before had
      refine ⟨n, by omega, given, fun k u after upTo there => ?_⟩
      rcases Nat.lt_or_eq_of_le upTo with within | rfl
      · exact held k u after (by omega) there
      · cases reached.symm.trans there
        exact has
    · refine ⟨m, by omega, ⟨le, s, t, before, reached, had, has⟩, fun k u after upTo there => ?_⟩
      obtain rfl : k = m + 1 := by omega
      cases reached.symm.trans there
      exact has

/-- **Answers never go back.**  On a replica whose table reads and commits may fail, whose threads
interleave in any order, and whose flags anybody changes: every moment of a run has one version of
the table, never older than the version of an earlier moment, and the answer that a step gives is
what a refresh made of the version of its moment.  Every answer was given by one step, so a call
that begins after another one has answered is not answered from an older table. -/
theorem answers_in_order (fresh : start.Fresh) (ran : run (flagStep ttl) start as = some s) :
    ∃ version : ℕ → Version, (∀ m n, m ≤ n → (version m).NotAfter (version n)) ∧
      (∀ n j values, GivenAt ttl start as n j values →
        (version n).Of ttl start (as.take n) values) ∧
      ∀ m t j values, m ≤ as.length → run (flagStep ttl) start (as.take m) = some t →
        t.threads j = .answered values →
        ∃ n < m, GivenAt ttl start as n j values ∧ HeldSince ttl start as n m j values := by
  obtain ⟨version, timeline⟩ := timeline_of_run fresh ran
  exact ⟨version, timeline.order, timeline.answers, fun m t j values le reached has =>
    given_of_answered fresh m le reached has⟩

end Steps

/-- Thread 1 loads `legacy`; the mode is changed elsewhere, and three ticks later thread 0 is told
`dual`, from a table and not from the defaults. -/
theorem answers_in_order_sample : ∃ (as : List FlagAction) (version : ℕ → Version) (m n : ℕ),
    GivenAt 2 flagReplica as m 1
      [("user_name_write_mode", "legacy"), ("user_name_read_source", "legacy")] ∧
    GivenAt 2 flagReplica as n 0
      [("user_name_write_mode", "dual"), ("user_name_read_source", "legacy")] ∧
    m < n ∧ (version m).NotAfter (version n) ∧ version n ≠ none := by
  obtain ⟨as, s, ran, first, second⟩ : ∃ (as : List FlagAction) (s : FlagState),
      run (flagStep 2) flagReplica as = some s ∧
      GivenAt 2 flagReplica as 9 1
        [("user_name_write_mode", "legacy"), ("user_name_read_source", "legacy")] ∧
      GivenAt 2 flagReplica as 21 0
        [("user_name_write_mode", "dual"), ("user_name_read_source", "legacy")] :=
    ⟨.call 1 .getAllFlags :: List.replicate 9 (.step 1) ++
      .call 0 .getAllFlags :: .commitElsewhere toDual.key toDual.value :: .tick 3 ::
        List.replicate 9 (.step 0), _, rfl,
      ⟨by decide, _, _, rfl, rfl, nofun, rfl⟩, ⟨by decide, _, _, rfl, rfl, nofun, rfl⟩⟩
  obtain ⟨version, order, answers, -⟩ := answers_in_order ⟨rfl, rfl, rfl, fun _ => rfl⟩ ran
  refine ⟨as, version, 9, 21, first, second, by decide, order 9 21 (by decide), fun none => ?_⟩
  have read := answers 21 0 _ second
  rw [none] at read
  have never : [("user_name_write_mode", "dual"), ("user_name_read_source", "legacy")] ≠
    defaults := by decide
  exact never read

end TicketBooking
