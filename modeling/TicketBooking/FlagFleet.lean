import TicketBooking.OwnChange

/-!
# A flag change on every replica

Any number of replicas over one flag table, each with its own cache, clock and threads.  A change
committed by one of them is a commit elsewhere for the others (`Fleet.replica_reachable`), so what
holds of one replica over every run holds of each in the fleet.

* `FlagState.Fading` says that what was cached without the change is older than a moment of the
  replica's clock, and nothing in flight lacks the change.
* `FlagState.Served` is a call that begins when the cache has expired since.
* `change_reaches_every_replica`: once FLAG_CACHE_SECONDS have passed on a replica, a call that
  overlaps no other thread's refresh returns the change.
-/

namespace TicketBooking

open LockHolder StepSystem

/-! ## The fleet -/

/-- The replicas. -/
abbrev Fleet := ℕ → FlagState

/-- One step of replica `r`; the others see what it commits. -/
def Fleet.step (ttl : ℤ) (f : Fleet) (move : ℕ × FlagAction) : Option Fleet :=
  (flagStep ttl (f move.1) move.2).map fun s q => if q = move.1 then s
    else { f q with table := s.table }

/-- The replicas read one table. -/
def Fleet.Shared (f : Fleet) : Prop := ∀ q r, (f q).table = (f r).table

section Fleet

variable {ttl : ℤ} {f f' start : Fleet} {move : ℕ × FlagAction} {s s' : FlagState} {a : FlagAction}
  {q r : ℕ}

/-- A step writes the row it says it writes. -/
theorem FlagMove.table_cases (moved : FlagMove ttl s a s') : s'.table = s.table ∨
    ∃ key value, s.writes a = some key ∧ s'.table = s.table.upsert key value := by
  cases moved with
  | commits at_i row left => exact .inr ⟨_, _, row, rfl⟩
  | commitsElsewhere row => exact .inr ⟨_, _, row, rfl⟩
  | _ => exact .inl rfl

theorem Fleet.step_cases (moved : f.step ttl move = some f') :
    flagStep ttl (f move.1) move.2 = some (f' move.1) ∧
      ∀ q, q ≠ move.1 → f' q = { f q with table := (f' move.1).table } := by
  obtain ⟨s, stepped, rfl⟩ := Option.map_eq_some_iff.mp moved
  constructor
  · dsimp only
    rw [if_pos rfl]
    exact stepped
  · intro q away
    dsimp only
    rw [if_neg away, if_pos rfl]

theorem Fleet.shared_step (moved : f.step ttl move = some f') : f'.Shared := by
  obtain ⟨-, others⟩ := Fleet.step_cases moved
  have same : ∀ q, (f' q).table = (f' move.1).table := by
    intro q
    by_cases here : q = move.1
    · rw [here]
    · rw [others q here]
  intro q r
  rw [same q, same r]

/-- What a step of the fleet is for one replica: its own step, a commit elsewhere, or nothing. -/
theorem Fleet.replica_step (shared : f.Shared) (moved : f.step ttl move = some f') (q : ℕ) :
    (q = move.1 ∧ flagStep ttl (f q) move.2 = some (f' q)) ∨
      (q ≠ move.1 ∧ (f' q = f q ∨ ∃ key value, (f move.1).writes move.2 = some key ∧
        flagStep ttl (f q) (.commitElsewhere key value) = some (f' q))) := by
  obtain ⟨stepped, others⟩ := Fleet.step_cases moved
  by_cases here : q = move.1
  · subst here
    exact .inl ⟨rfl, stepped⟩
  · refine .inr ⟨here, ?_⟩
    rw [others q here]
    rcases (flagStep_cases stepped).table_cases with same | ⟨key, value, row, written⟩
    · rw [same, shared move.1 q]
      exact .inl rfl
    · rw [written, shared move.1 q]
      exact .inr ⟨key, value, row, rfl⟩

/-- A replica of the fleet runs as a replica alone. -/
theorem Fleet.replica_reachable (ok : FlagState → FlagAction → Prop)
    {allowed : Fleet → ℕ × FlagAction → Prop} (shared : start.Shared) (q : ℕ)
    (own : ∀ f move, allowed f move → q = move.1 → ok (f q) move.2)
    (elsewhere : ∀ f move key value, allowed f move → (f move.1).writes move.2 = some key →
      ok (f q) (.commitElsewhere key value))
    (reached : Reachable (Fleet.step ttl) allowed start f) :
    Reachable (flagStep ttl) ok (start q) (f q) ∧ f.Shared := by
  refine reached.invariant (P := fun f => Reachable (flagStep ttl) ok (start q) (f q) ∧ f.Shared)
    ⟨.init, shared⟩ ?_
  rintro f move f' ⟨before, shared⟩ permitted moved
  refine ⟨?_, Fleet.shared_step moved⟩
  rcases Fleet.replica_step shared moved q with
    ⟨here, stepped⟩ | ⟨-, same | ⟨key, value, row, seen⟩⟩
  · exact .next before (own f move permitted here) stepped
  · rw [same]
    exact before
  · exact .next before (elsewhere f move key value permitted row) seen

end Fleet

/-! ## One replica once the change is in the table -/

/-- What was cached without the change was loaded at `T` or before, and nothing in flight lacks the
change. -/
structure FlagState.Fading (change : FlagChange) (T : ℕ) (s : FlagState) : Prop where
  snapshots : s.Snapshots change
  cached : s.Shows change ∨ (s.loadedAt ≤ T ∧ ∀ j, s.threads j ≠ .stamp)

/-- In a call of thread `i`, the change is shown, or thread `i` is going to read it. -/
structure FlagState.Served (ttl : ℤ) (change : FlagChange) (T i : ℕ) (s : FlagState) : Prop where
  fading : s.Fading change T
  expired : T + ttl < s.clock
  going : s.Shows change ∨ (s.threads i).Approaching ∨ (s.threads i).Reading
  answered : ∀ values, s.threads i = .answered values →
    getFlag values change.key = some change.value

section Replica

open FlagState

variable {ttl : ℤ} {s s' start opened t : FlagState} {a : FlagAction} {i j T : ℕ}
  {change : FlagChange}

theorem FlagMove.fading (moved : FlagMove ttl s a s') (stored : s.Stored change)
    (fading : s.Fading change T) : s'.Fading change T := by
  obtain ⟨snapshots, cached⟩ := fading
  have sound := stored.toSound
  refine ⟨moved.snapshots stored snapshots, ?_⟩
  rcases cached with shows | ⟨old, unstamped⟩
  · exact .inl (moved.shows sound snapshots shows)
  · by_cases shows : s'.Shows change
    · exact .inl shows
    · refine .inr ⟨?_, fun j at_j => ?_⟩
      · rcases moved.loadedAt_cases with same | zero | ⟨i, at_i⟩
        · rw [same]
          exact old
        · omega
        · exact absurd at_i (unstamped i)
      · rcases moved.stamping sound snapshots at_j with before | shows'
        · exact unstamped j before
        · exact shows shows'

/-- A cache without the change has expired. -/
theorem FlagState.Fading.expired (fading : s.Fading change T) (late : T + ttl < s.clock)
    (hidden : ¬ s.Shows change) : s.expired ttl := by
  rcases fading.cached with shows | ⟨old, -⟩
  · exact absurd shows hidden
  · unfold FlagState.expired
    rw [decide_eq_true_iff]
    omega

theorem FlagMove.served (moved : FlagMove ttl s a s') (stored : s.Stored change)
    (quiet : s.Quiet change.key a) (alone : s.Alone i) (served : s.Served ttl change T i) :
    s'.Served ttl change T i := by
  obtain ⟨fading, late, going, answered⟩ := served
  have sound := stored.toSound
  have later := moved.clock_le
  refine ⟨moved.fading stored fading, by omega, ?_, fun values at_i => ?_⟩
  · by_cases shows : s.Shows change
    · exact .inl (moved.shows sound fading.snapshots shows)
    · rcases going with shows' | approaching | reading
      · exact absurd shows' shows
      · exact .inr (moved.approaching sound.toOrdered alone (fading.expired late shows) approaching)
      · rcases moved.reading sound quiet.1 fading.snapshots reading with reading | shows'
        · exact .inr (.inr reading)
        · exact .inl shows'
  · rcases moved.turn i with same | turn
    · exact answered values (same.symm.trans at_i)
    · rw [at_i] at turn
      generalize before : s.threads i = pc at turn
      cases turn with
      | walks walk =>
        rcases walk.values with none | ⟨-, read⟩ | ⟨rfl, answer⟩
        · cases none
        · cases read
        · cases answer
          rcases going with shows | going | going
          · exact shows
          · rw [before] at going
            cases going
          · rw [before] at going
            cases going
      | commits left => simp at left

/-- A call that begins late enough and overlaps no other thread's refresh returns the change. -/
theorem FlagState.Fading.returned {values : FlagValues} (fading : s.Fading change T)
    (stored : s.Stored change) (late : T + ttl < s.clock)
    (called : flagStep ttl s (.call i .getAllFlags) = some opened)
    (during : Reachable (flagStep ttl) (fun s a => s.Quiet change.key a ∧ s.Alone i) opened t)
    (answered : t.threads i = .answered values) :
    getFlag values change.key = some change.value := by
  have look : opened.threads i = .look := by
    simp only [flagStep] at called
    split at called
    · cases called
      exact goto_self _ _ _
    · cases called
  have quiet : s.Quiet change.key (.call i .getAllFlags) := ⟨trivial, by simp [writes]⟩
  have moved := flagStep_cases called
  have later := moved.clock_le
  have begins : opened.Served ttl change T i := by
    refine ⟨moved.fading stored fading, by omega, .inr (.inl ?_), fun values at_i => ?_⟩
    · rw [look]
      trivial
    · cases look.symm.trans at_i
  have ends : t.Stored change ∧ t.Served ttl change T i := by
    refine during.invariant (P := fun s => s.Stored change ∧ s.Served ttl change T i)
      ⟨moved.stored quiet stored, begins⟩ ?_
    rintro s a s' ⟨stored, served⟩ ⟨quiet, alone⟩ moved
    exact ⟨(flagStep_cases moved).stored quiet stored,
      (flagStep_cases moved).served stored quiet alone served⟩
  exact ends.2.answered values answered

end Replica

/-! ## Every replica -/

/-- No refresh in flight on the replica has read the table without the change. -/
def FlagState.UpToDate (change : FlagChange) (s : FlagState) : Prop :=
  s.Snapshots change ∧ ∀ j, s.threads j = .stamp → s.Shows change

/-- **A flag change reaches every replica within FLAG_CACHE_SECONDS.**  Some replica, or another
program, has committed the change and nobody sets the flag again.  On any replica, from the moment
when no refresh in flight has read the table without the change: once the replica's clock has moved
by more than FLAG_CACHE_SECONDS, a call that overlaps no other thread's refresh returns the
change. -/
theorem change_reaches_every_replica {ttl : ℤ} {start f called opened t : Fleet} {q i : ℕ}
    {change : FlagChange} {values : FlagValues} (fresh : ∀ r, (start r).Fresh)
    (shared : start.Shared)
    (reached : Reachable (Fleet.step ttl) (fun f move => (f move.1).ReadsSucceed move.2) start f)
    (stored : (f q).table.value change.key = some change.value)
    (upToDate : (f q).UpToDate change)
    (quiet : Reachable (Fleet.step ttl) (fun f move => (f move.1).Quiet change.key move.2) f called)
    (late : (f q).clock + ttl < (called q).clock)
    (call : called.step ttl (q, .call i .getAllFlags) = some opened)
    (during : Reachable (Fleet.step ttl)
      (fun f move => (f move.1).Quiet change.key move.2 ∧ (f q).Alone i) opened t)
    (answered : (t q).threads i = .answered values) :
    getFlag values change.key = some change.value := by
  obtain ⟨alone, sharedF⟩ := Fleet.replica_reachable FlagState.ReadsSucceed shared q
    (fun f move succeeds here => by subst here; exact succeeds) (fun _ _ _ _ _ _ => trivial) reached
  have sound : (f q).Sound := alone.invariant (P := FlagState.Sound) (fresh q).sound
    fun _ _ _ sound succeeds moved => (flagStep_cases moved).sound succeeds sound
  have storedF : (f q).Stored change := ⟨sound, stored⟩
  have fadingF : (f q).Fading change (f q).clock := by
    refine ⟨upToDate.1, ?_⟩
    by_cases shows : (f q).Shows change
    · exact .inl shows
    · exact .inr ⟨sound.stamped, fun j at_j => shows (upToDate.2 j at_j)⟩
  obtain ⟨waited, -⟩ := Fleet.replica_reachable (FlagState.Quiet change.key) sharedF q
    (fun f move permitted here => by subst here; exact permitted)
    (fun f move key value permitted row => ⟨trivial, fun same => permitted.2 (row.trans same)⟩)
    quiet
  have atCall : (called q).Stored change ∧ (called q).Fading change (f q).clock := by
    refine waited.invariant (P := fun s => s.Stored change ∧ s.Fading change (f q).clock)
      ⟨storedF, fadingF⟩ ?_
    rintro s a s' ⟨stored, fading⟩ quiet moved
    exact ⟨(flagStep_cases moved).stored quiet stored, (flagStep_cases moved).fading stored fading⟩
  have opens := (Fleet.step_cases call).1
  obtain ⟨serving, -⟩ := Fleet.replica_reachable
    (fun s a => s.Quiet change.key a ∧ s.Alone i) (Fleet.shared_step call) q
    (fun f move permitted here => by subst here; exact permitted)
    (fun f move key value permitted row =>
      ⟨⟨trivial, fun same => permitted.1.2 (row.trans same)⟩, permitted.2⟩) during
  exact atCall.2.returned atCall.1 late opens serving answered

/-- A replica that is not refreshing is up to date. -/
theorem FlagState.Ordered.upToDate {s : FlagState} (ordered : s.Ordered)
    (unlocked : s.refreshLock = none) (change : FlagChange) : s.UpToDate change := by
  have nobody : ∀ j, ¬ (s.threads j).Refreshing := by
    intro j refreshing
    cases unlocked.symm.trans ((ordered.guarded j).mpr refreshing)
  constructor
  · intro j values at_j
    exact absurd (by rw [at_j]; trivial) (nobody j)
  · intro j at_j
    exact absurd (by rw [at_j]; trivial) (nobody j)

def flagFleet : Fleet := fun _ => flagReplica

/-- Replica 0 has cached `legacy` when replica 1 sets `dual`; three ticks later it answers
`dual`. -/
theorem change_reaches_every_replica_sample : ∃ (f t : Fleet) (values : FlagValues),
    (f 0).shown = defaults ∧ (t 0).threads 5 = .answered values ∧
      getFlag values toDual.key = some "dual" := by
  obtain ⟨f, called, opened, t, values, before, waited, call, during, unlocked, stored, late, shown,
      answered⟩ : ∃ (f called opened t : Fleet) (values : FlagValues),
      checkedRun (Fleet.step 2) (fun f move => (f move.1).ReadsSucceed move.2) flagFleet
        ((0, .call 3 .getAllFlags) :: List.replicate 9 (0, .step 3) ++
          [(1, .call 0 (.setFlag toDual)), (1, .step 0)]) = some f ∧
      checkedRun (Fleet.step 2) (fun f move => (f move.1).Quiet toDual.key move.2) f
        [(0, .tick 3), (1, .step 0)] = some called ∧
      called.step 2 (0, .call 5 .getAllFlags) = some opened ∧
      checkedRun (Fleet.step 2)
        (fun f move => (f move.1).Quiet toDual.key move.2 ∧ (f 0).Alone 5) opened
        (List.replicate 9 (0, .step 5)) = some t ∧
      (f 0).refreshLock = none ∧ (f 0).table.value toDual.key = some toDual.value ∧
      ((f 0).clock : ℤ) + 2 < (called 0).clock ∧ (f 0).shown = defaults ∧
      (t 0).threads 5 = .answered values :=
    ⟨_, _, _, _, _, rfl, rfl, rfl, rfl, rfl, rfl, by decide, rfl, rfl⟩
  have fresh : ∀ r, (flagFleet r).Fresh := fun _ => ⟨rfl, rfl, rfl, fun _ => rfl⟩
  have shared : flagFleet.Shared := fun _ _ => rfl
  obtain ⟨alone, -⟩ := Fleet.replica_reachable (fun _ _ => True) shared 0 (fun _ _ _ _ => trivial)
    (fun _ _ _ _ _ _ => trivial) (reachable_of_checkedRun before)
  exact ⟨f, t, values, shown, answered, change_reaches_every_replica fresh shared
    (reachable_of_checkedRun before) stored
    (((fresh 0).ordered.of_reachable alone).upToDate unlocked toDual)
    (reachable_of_checkedRun waited) late call (reachable_of_checkedRun during) answered⟩

end TicketBooking
