import TicketBooking.FlagCache

/-!
# Seeing one's own change

A thread has set a flag.  Does its replica return the new value from then on, as long as nobody sets
the flag again and no other thread is refreshing meanwhile?

* `SeesOwnChange` says so of a thread about to invalidate the cache, and `Settles` what may be in
  flight then.
* `CatchingUp` holds from the invalidation to the call, `Serving` during the call.
* `own_change_seen_iff`: the change is seen exactly when the state settles.  A refresh that read the
  table before the change publishes, and stamps `_loaded_at`, after the invalidation.
-/

namespace TicketBooking

open LockHolder StepSystem

/-! ## The statement -/

namespace FlagState

/-- Thread `i` has committed the change, nobody has set the flag since, and it is about to
invalidate the cache. -/
def Committed (ttl : ℤ) (start s : FlagState) (i : ℕ) (change : FlagChange) : Prop :=
  ∃ before after, Reachable (flagStep ttl) ReadsSucceed start before ∧
    before.threads i = .commit change ∧ flagStep ttl before (.step i) = some after ∧
    Reachable (flagStep ttl) (Quiet change.key) after s ∧ s.threads i = .invalidate change

/-- A call that starts after `s` and overlaps no other thread's refresh returns `values`, while
nobody sets the flag. -/
def AnsweredAfter (ttl : ℤ) (key : String) (s : FlagState) (values : FlagValues) : Prop :=
  ∃ reader called opened t, Reachable (flagStep ttl) (Quiet key) s called ∧
    flagStep ttl called (.call reader .getAllFlags) = some opened ∧
    Reachable (flagStep ttl) (fun s a => s.Quiet key a ∧ s.Alone reader) opened t ∧
    t.threads reader = .answered values

/-- Once the `set_flag` of thread `i` has returned, every such call returns its value. -/
def SeesOwnChange (ttl : ℤ) (s : FlagState) (i : ℕ) (change : FlagChange) : Prop :=
  ∀ returned values, flagStep ttl s (.step i) = some returned →
    AnsweredAfter ttl change.key returned values → getFlag values change.key = some change.value

/-- The cache shows the change. -/
def Shows (change : FlagChange) (s : FlagState) : Prop :=
  getFlag s.shown change.key = some change.value

/-- What an invalidation needs.  A refresh that has read the table and has not stamped `_loaded_at`
must have read the change; when none is under way, `_loaded_at = 0.0` must count as expired. -/
def Settles (ttl : ℤ) (s : FlagState) (change : FlagChange) : Prop :=
  ttl < 0 ∨
    match s.refreshLock.map s.threads with
    | some .read => True
    | some (.publish values) => getFlag values change.key = some change.value
    | some .stamp => s.Shows change
    | _ => ttl < s.clock ∨ s.Shows change

/-- No table read has failed so far. -/
structure Sound (s : FlagState) : Prop extends s.Ordered where
  noFallback : ∀ j, s.threads j ≠ .fallback

/-- No table read has failed, and the table has the change. -/
structure Stored (change : FlagChange) (s : FlagState) : Prop extends s.Sound where
  stored : s.table.value change.key = some change.value

/-- Every dictionary about to be published has the change. -/
def Snapshots (change : FlagChange) (s : FlagState) : Prop :=
  ∀ j values, s.threads j = .publish values → getFlag values change.key = some change.value

end FlagState

section Steps

open FlagState

variable {ttl : ℤ} {s s' start : FlagState} {a : FlagAction} {i j : ℕ} {pc pc' : FlagPc}
  {change : FlagChange}

theorem FlagState.Fresh.sound (fresh : start.Fresh) : start.Sound where
  toOrdered := fresh.ordered
  noFallback j := by simp [fresh.2.2.2 j]

theorem FlagMove.sound (moved : FlagMove ttl s a s') (succeeds : s.ReadsSucceed a)
    (sound : s.Sound) : s'.Sound := by
  refine ⟨moved.ordered sound.toOrdered, fun j at_j => ?_⟩
  rcases moved.turn j with same | turn
  · exact sound.noFallback j (same.symm.trans at_j)
  · rw [at_j] at turn
    generalize s.threads j = pc at turn
    cases turn with
    | walks walk => exact walk.ne.1 rfl
    | readFails fails => exact fails succeeds
    | commits left => simp at left

/-- Nobody sets the flag, so the table keeps its value. -/
theorem FlagMove.value_eq {key : String} (moved : FlagMove ttl s a s')
    (unset : s.writes a ≠ some key) : s'.table.value key = s.table.value key := by
  have upsert {key' value : String} (row : s.writes a = some key') :
      (s.table.upsert key' value).value key = s.table.value key := by
    rw [FlagTable.value_upsert, if_neg]
    rintro rfl
    exact unset row
  cases moved with
  | commits at_i row left => exact upsert row
  | commitsElsewhere row => exact upsert row
  | _ => rfl

theorem FlagMove.stored (moved : FlagMove ttl s a s') (quiet : s.Quiet change.key a)
    (stored : s.Stored change) : s'.Stored change where
  toSound := moved.sound quiet.1 stored.toSound
  stored := (moved.value_eq quiet.2).trans stored.stored

/-- A snapshot about to be published has been there before or has just been read. -/
theorem FlagMove.snapshots (moved : FlagMove ttl s a s') (stored : s.Stored change)
    (snapshots : s.Snapshots change) : s'.Snapshots change := by
  intro j values at_j
  rcases moved.turn j with same | turn
  · exact snapshots j values (same.symm.trans at_j)
  · rw [at_j] at turn
    generalize s.threads j = pc at turn
    cases turn with
    | walks walk =>
      rcases walk.values with none | ⟨-, read⟩ | ⟨-, answer⟩
      · cases none
      · cases read
        rw [getFlag_refreshedValues change.known, stored.stored]
        rfl
      · cases answer
    | commits left => simp at left

theorem FlagState.shows_of_publish {values : FlagValues} (sound : s.Sound)
    (snapshots : s.Snapshots change) (at_j : s.threads j = .publish values)
    (cached : s' = { s with cache := values, threads := s'.threads }) : s'.Shows change := by
  have total : values.Total := sound.held j values (by rw [at_j]; rfl)
  rw [cached]
  change FlagState.Shows change { s with cache := values }
  unfold FlagState.Shows
  rw [FlagState.shown_of_cache s total]
  exact snapshots j values at_j

/-- The cache changes by publishing a snapshot. -/
theorem FlagMove.shows (moved : FlagMove ttl s a s') (sound : s.Sound)
    (snapshots : s.Snapshots change) (shows : s.Shows change) : s'.Shows change := by
  cases moved with
  | publishes at_i => exact shows_of_publish sound snapshots at_i rfl
  | fallsBack at_i => exact absurd at_i (sound.noFallback _)
  | _ => exact shows

/-! ## Once the cache is invalidated -/

/-- On the way to publishing what is in the table now. -/
def FlagPc.Reading : FlagPc → Prop
  | .read | .publish _ => True
  | _ => False

/-- A thread that reads publishes in the end. -/
theorem FlagMove.reading (moved : FlagMove ttl s a s') (sound : s.Sound)
    (succeeds : s.ReadsSucceed a) (snapshots : s.Snapshots change)
    (reading : (s.threads j).Reading) : (s'.threads j).Reading ∨ s'.Shows change := by
  rcases moved.turn j with same | turn
  · rw [same]
    exact .inl reading
  · generalize at_j : s.threads j = pc at turn reading
    generalize s'.threads j = pc' at turn ⊢
    cases turn with
    | walks walk =>
      cases walk with
      | calls free => cases pc <;> first | exact reading.elim | cases free
      | reads => exact .inl trivial
      | _ => cases reading
    | readFails fails => exact absurd succeeds fails
    | publishes cached => exact .inr (shows_of_publish sound snapshots at_j cached)
    | _ => cases reading

/-- A thread comes to stamp `_loaded_at` by publishing. -/
theorem FlagMove.stamping (moved : FlagMove ttl s a s') (sound : s.Sound)
    (snapshots : s.Snapshots change) (at_j : s'.threads j = .stamp) :
    s.threads j = .stamp ∨ s'.Shows change := by
  rcases moved.turn j with same | turn
  · exact .inl (same.symm.trans at_j)
  · rw [at_j] at turn
    generalize before : s.threads j = pc at turn ⊢
    generalize after : FlagPc.stamp = pc' at turn
    cases turn with
    | walks walk => exact absurd after.symm walk.ne.2
    | publishes cached => exact .inr (shows_of_publish sound snapshots before cached)
    | fallsBack => exact absurd before (sound.noFallback j)
    | commits left => rcases left with rfl | rfl <;> cases after
    | _ => cases after

/-- `_loaded_at` is reset or stamped. -/
theorem FlagMove.loadedAt_cases (moved : FlagMove ttl s a s') : s'.loadedAt = s.loadedAt ∨
    s'.loadedAt = 0 ∨ ∃ i, s.threads i = .stamp := by
  cases moved with
  | stamps at_i => exact .inr (.inr ⟨_, at_i⟩)
  | invalidates => exact .inr (.inl rfl)
  | _ => exact .inl rfl

theorem FlagMove.clock_le (moved : FlagMove ttl s a s') : s.clock ≤ s'.clock := by
  cases moved with
  | ticks n => exact Nat.le_add_right _ n
  | _ => exact le_refl _

/-- The cache shows the change, or a refresh is going to read or to publish it, or the next look at
`_loaded_at` will start one. -/
structure FlagState.CatchingUp (ttl : ℤ) (change : FlagChange) (s : FlagState) : Prop where
  snapshots : s.Snapshots change
  caught : s.Shows change ∨ (∃ j, (s.threads j).Reading) ∨
    s.loadedAt = 0 ∧ ttl < s.clock ∧ ∀ j, s.threads j ≠ .stamp

theorem FlagMove.catchingUp (moved : FlagMove ttl s a s') (stored : s.Stored change)
    (quiet : s.Quiet change.key a) (catchingUp : s.CatchingUp ttl change) :
    s'.CatchingUp ttl change := by
  obtain ⟨snapshots, caught⟩ := catchingUp
  have sound := stored.toSound
  refine ⟨moved.snapshots stored snapshots, ?_⟩
  rcases caught with shows | ⟨j, reading⟩ | ⟨reset, past, unstamped⟩
  · exact .inl (moved.shows sound snapshots shows)
  · rcases moved.reading sound quiet.1 snapshots reading with reading | shows
    · exact .inr (.inl ⟨j, reading⟩)
    · exact .inl shows
  · by_cases shows : s'.Shows change
    · exact .inl shows
    · refine .inr (.inr ⟨?_, ?_, fun j at_j => ?_⟩)
      · rcases moved.loadedAt_cases with same | zero | ⟨i, at_i⟩
        · rw [same, reset]
        · exact zero
        · exact absurd at_i (unstamped i)
      · have := moved.clock_le
        omega
      · rcases moved.stamping sound snapshots at_j with before | shows'
        · exact unstamped j before
        · exact shows shows'

/-! ## During the call -/

/-- On the way to reading the table. -/
def FlagPc.Approaching : FlagPc → Prop
  | .look | .firstLoad | .acquire _ | .recheck => True
  | _ => False

/-- Whoever finds the cache expired, and the lock free, reads. -/
theorem FlagMove.approaching (moved : FlagMove ttl s a s') (ordered : s.Ordered)
    (alone : s.Alone i) (expired : s.expired ttl) (approaching : (s.threads i).Approaching) :
    (s'.threads i).Approaching ∨ (s'.threads i).Reading := by
  rcases moved.turn i with same | turn
  · rw [same]
    exact .inl approaching
  · generalize at_i : s.threads i = pc at turn approaching
    generalize s'.threads i = pc' at turn ⊢
    cases turn with
    | walks walk =>
      cases walk with
      | calls free => cases pc <;> first | exact approaching.elim | cases free
      | looks => rw [if_pos expired]; exact .inl trivial
      | rechecks => rw [if_pos expired]; exact .inr trivial
      | firstLoads => exact .inl trivial
      | misses taken =>
        -- the lock is held, so this very thread holds it, and it is past `acquire`
        rcases alone with free | own
        · cases free.symm.trans taken
        · have refreshing := (ordered.guarded i).mp own
          rw [at_i] at refreshing
          cases refreshing
      | _ => cases approaching
    | takes => exact .inl trivial
    | _ => cases approaching

/-- A call in which the change is shown, or is going to be read by the caller. -/
structure FlagState.Serving (ttl : ℤ) (change : FlagChange) (i : ℕ) (s : FlagState) : Prop where
  snapshots : s.Snapshots change
  caught : s.Shows change ∨ ((s.threads i).Approaching ∨ (s.threads i).Reading) ∧
    (ttl < 0 ∨ s.loadedAt = 0 ∧ ttl < s.clock)
  answered : ∀ values, s.threads i = .answered values →
    getFlag values change.key = some change.value

theorem FlagState.expired_of_reset (ordered : s.Ordered)
    (past : ttl < 0 ∨ s.loadedAt = 0 ∧ ttl < s.clock) : s.expired ttl := by
  have stamped := ordered.stamped
  unfold FlagState.expired
  rw [decide_eq_true_iff]
  omega

theorem FlagMove.serving (moved : FlagMove ttl s a s') (stored : s.Stored change)
    (quiet : s.Quiet change.key a) (alone : s.Alone i) (serving : s.Serving ttl change i) :
    s'.Serving ttl change i := by
  obtain ⟨snapshots, caught, answered⟩ := serving
  have sound := stored.toSound
  refine ⟨moved.snapshots stored snapshots, ?_, ?_⟩
  · rcases caught with shows | ⟨going, past⟩
    · exact .inl (moved.shows sound snapshots shows)
    · by_cases shows : s'.Shows change
      · exact .inl shows
      · refine .inr ⟨?_, ?_⟩
        · rcases going with approaching | reading
          · exact moved.approaching sound.toOrdered alone
              (expired_of_reset sound.toOrdered past) approaching
          · rcases moved.reading sound quiet.1 snapshots reading with reading | shows'
            · exact .inr reading
            · exact absurd shows' shows
        · have later := moved.clock_le
          rcases moved.loadedAt_cases with same | zero | ⟨j, at_j⟩
          · omega
          · omega
          · -- only the caller itself can be refreshing, and it has not come to the stamp
            rcases eq_or_ne j i with rfl | away
            · rw [at_j] at going
              rcases going with going | going <;> cases going
            · have refreshing : (s.threads j).Refreshing := by
                rw [at_j]
                trivial
              exact absurd refreshing (sound.guarded.outside alone away)
  · intro values at_i
    rcases moved.turn i with same | turn
    · exact answered values (same.symm.trans at_i)
    · rw [at_i] at turn
      generalize before : s.threads i = pc at turn
      cases turn with
      | walks walk =>
        rcases walk.values with none | ⟨-, read⟩ | ⟨rfl, answer⟩
        · cases none
        · cases read
        · cases answer
          rcases caught with shows | ⟨going, -⟩
          · exact shows
          · rw [before] at going
            rcases going with going | going <;> cases going
      | commits left => simp at left

/-! ## From the invalidation to the answer -/

theorem FlagPc.Reading.refreshing (reading : pc.Reading) : pc.Refreshing := by
  cases pc <;> trivial

/-- `set_flag` returns. -/
def FlagState.invalidated (s : FlagState) (i : ℕ) (change : FlagChange) : FlagState :=
  { s with loadedAt := 0 }.goto i (.returned change)

theorem flagStep_invalidate (at_i : s.threads i = .invalidate change) :
    flagStep ttl s (.step i) = some (s.invalidated i change) := by
  simp only [flagStep, at_i, invalidated]

/-- The refreshing thread has not moved. -/
theorem FlagState.invalidated_of_refreshing (at_i : s.threads i = .invalidate change)
    (at_j : s.threads j = pc) (refreshing : pc.Refreshing) :
    (s.invalidated i change).threads j = pc := by
  unfold invalidated
  rwa [goto_of_ne]
  rintro rfl
  rw [← at_j, at_i] at refreshing
  exact refreshing

theorem FlagState.of_invalidated (at_j : (s.invalidated i change).threads j = pc)
    (apart : pc ≠ .returned change) : s.threads j = pc := by
  unfold invalidated at at_j
  rcases eq_or_ne j i with rfl | away
  · rw [goto_self] at at_j
    exact absurd at_j.symm apart
  · rwa [goto_of_ne _ _ away] at at_j

/-- The invalidation, when what is in flight has the change. -/
theorem FlagState.Settles.catchingUp (settles : s.Settles ttl change) (ordered : s.Ordered)
    (at_i : s.threads i = .invalidate change) :
    ttl < 0 ∨ (s.invalidated i change).CatchingUp ttl change := by
  rcases settles with always | inFlight
  · exact .inl always
  have holder {j : ℕ} {pc : FlagPc} (at_j : s.threads j = pc) (refreshing : pc.Refreshing) :
      s.refreshLock.map s.threads = some pc := by
    rw [(ordered.guarded j).mpr (at_j ▸ refreshing), Option.map_some, at_j]
  refine .inr ⟨fun j values at_j => ?_, ?_⟩
  · rw [holder (of_invalidated at_j (by simp)) trivial] at inFlight
    exact inFlight
  · split at inFlight
    case h_1 held =>
      obtain ⟨j, -, at_j⟩ := Option.map_eq_some_iff.mp held
      refine .inr (.inl ⟨j, ?_⟩)
      rw [invalidated_of_refreshing at_i at_j trivial]
      trivial
    case h_2 values held =>
      obtain ⟨j, -, at_j⟩ := Option.map_eq_some_iff.mp held
      refine .inr (.inl ⟨j, ?_⟩)
      rw [invalidated_of_refreshing at_i at_j trivial]
      trivial
    case h_3 => exact .inl inFlight
    case h_4 unstamped =>
      rcases inFlight with past | shows
      · refine .inr (.inr ⟨rfl, past, fun j at_j => unstamped ?_⟩)
        exact holder (of_invalidated at_j (by simp)) trivial
      · exact .inl shows

/-- A call opens while no other thread is refreshing. -/
theorem FlagState.serving_of_look (ordered : s.Ordered) (alone : s.Alone i)
    (at_i : s.threads i = .look) (settled : ttl < 0 ∨ s.CatchingUp ttl change) :
    s.Serving ttl change i := by
  have nobody (j : ℕ) : ¬ (s.threads j).Reading := by
    intro reading
    rcases eq_or_ne j i with rfl | away
    · rw [at_i] at reading
      exact reading
    · exact ordered.guarded.outside alone away reading.refreshing
  have approaching : (s.threads i).Approaching := by
    rw [at_i]
    trivial
  constructor
  · intro j values at_j
    have reading : (s.threads j).Reading := by
      rw [at_j]
      trivial
    exact absurd reading (nobody j)
  · rcases settled with always | ⟨-, shows | ⟨j, reading⟩ | ⟨reset, past, -⟩⟩
    · exact .inr ⟨.inl approaching, .inl always⟩
    · exact .inl shows
    · exact absurd reading (nobody j)
    · exact .inr ⟨.inl approaching, .inr ⟨reset, past⟩⟩
  · intro values answered
    cases at_i.symm.trans answered

theorem FlagState.Settles.seesOwnChange (settles : s.Settles ttl change) (stored : s.Stored change)
    (at_i : s.threads i = .invalidate change) : SeesOwnChange ttl s i change := by
  rintro returned values invalidated ⟨reader, called, opened, t, waited, call, during, answered⟩
  have quietly {s s' : FlagState} {a : FlagAction} (quiet : s.Quiet change.key a)
      (moved : flagStep ttl s a = some s')
      (before : s.Stored change ∧ (ttl < 0 ∨ s.CatchingUp ttl change)) :
      s'.Stored change ∧ (ttl < 0 ∨ s'.CatchingUp ttl change) :=
    ⟨(flagStep_cases moved).stored quiet before.1,
      before.2.imp_right ((flagStep_cases moved).catchingUp before.1 quiet)⟩
  have quiet : s.Quiet change.key (.step i) := by
    refine ⟨trivial, ?_⟩
    simp [writes, at_i]
  have atReturn : returned.Stored change ∧ (ttl < 0 ∨ returned.CatchingUp ttl change) := by
    refine ⟨(flagStep_cases invalidated).stored quiet stored, ?_⟩
    rw [flagStep_invalidate at_i, Option.some.injEq] at invalidated
    rw [← invalidated]
    exact settles.catchingUp stored.toOrdered at_i
  have atCall := waited.invariant atReturn fun _ _ _ before quiet moved =>
    quietly quiet moved before
  have quietCall : called.Quiet change.key (.call reader .getAllFlags) :=
    ⟨trivial, by simp [writes]⟩
  have atOpen := quietly quietCall call atCall
  have look : opened.threads reader = .look := by
    simp only [flagStep] at call
    split at call
    · cases call
      exact FlagState.goto_self _ _ _
    · cases call
  -- in every later state of the call the caller is being served
  have atEnd : t.Stored change ∧ (t = opened ∨ t.Serving ttl change reader) := by
    refine during.invariant
      (P := fun s => s.Stored change ∧ (s = opened ∨ s.Serving ttl change reader))
      ⟨atOpen.1, .inl rfl⟩ ?_
    rintro s a s' ⟨stored, served⟩ ⟨quiet, alone⟩ moved
    refine ⟨(flagStep_cases moved).stored quiet stored, .inr ?_⟩
    refine (flagStep_cases moved).serving stored quiet alone ?_
    rcases served with rfl | serving
    · exact serving_of_look stored.toOrdered alone look atOpen.2
    · exact serving
  rcases atEnd.2 with rfl | serving
  · cases look.symm.trans answered
  · exact serving.answered values answered

/-! ## The calls that come too early -/

section Early

variable {key : String} {values : FlagValues}

theorem FlagState.AnsweredAfter.of_step (quiet : s.Quiet key a)
    (moved : flagStep ttl s a = some s') (after : AnsweredAfter ttl key s' values) :
    AnsweredAfter ttl key s values := by
  obtain ⟨reader, called, opened, t, waited, call⟩ := after
  exact ⟨reader, called, opened, t, Reachable.trans (.next .init quiet moved) waited, call⟩

theorem FlagState.quiet_step (at_j : s.threads j = pc) (apart : ∀ change, pc ≠ .commit change) :
    s.Quiet key (.step j) := by
  refine ⟨trivial, ?_⟩
  unfold writes
  dsimp only
  split
  case h_1 change here => exact absurd (at_j.symm.trans here) (apart change)
  case h_2 => simp

/-- A cache that has not expired answers at once. -/
theorem FlagState.answeredAfter_of_unexpired (unlocked : s.refreshLock = none)
    (idle : (s.threads i).free) (unexpired : ¬ s.expired ttl) :
    AnsweredAfter ttl key s s.shown := by
  have at_look : (s.goto i .look).threads i = .look := s.goto_self i .look
  have at_answer : ((s.goto i .look).goto i .answer).threads i = .answer := goto_self _ i .answer
  have call : flagStep ttl s (.call i .getAllFlags) = some (s.goto i .look) := by
    simp only [flagStep, if_pos idle, FlagRequest.entry]
  have look : flagStep ttl (s.goto i .look) (.step i) =
      some ((s.goto i .look).goto i .answer) := by
    simp only [flagStep, at_look]
    rw [if_neg]
    exact unexpired
  have answer : flagStep ttl ((s.goto i .look).goto i .answer) (.step i) =
      some (((s.goto i .look).goto i .answer).goto i (.answered s.shown)) := by
    simp only [flagStep, at_answer]
    rfl
  refine ⟨i, s, _, _, .init, call, .next (.next .init ⟨?_, .inl unlocked⟩ look)
    ⟨?_, .inl unlocked⟩ answer, goto_self _ i _⟩
  · exact quiet_step at_look (by simp)
  · exact quiet_step at_answer (by simp)

theorem FlagPc.Refreshing.away (at_j : s.threads j = pc) (refreshing : pc.Refreshing)
    (idle : (s.threads i).free) : i ≠ j := by
  rintro rfl
  rw [at_j] at idle
  cases pc <;> first | exact refreshing.elim | cases idle

/-- The lock is released first. -/
theorem FlagState.answeredAfter_of_release (at_j : s.threads j = .release)
    (idle : (s.threads i).free) (unexpired : ¬ s.expired ttl) :
    AnsweredAfter ttl key s s.shown := by
  have moved : flagStep ttl s (.step j) = some ({ s with refreshLock := none }.goto j .answer) := by
    simp only [flagStep, at_j]
  refine .of_step (quiet_step at_j (by simp)) moved
    (answeredAfter_of_unexpired (i := i) rfl ?_ unexpired)
  rwa [goto_of_ne _ _ (FlagPc.Refreshing.away at_j trivial idle)]

/-- The thread with the lock finds the cache not expired. -/
theorem FlagState.answeredAfter_of_recheck (at_j : s.threads j = .recheck)
    (idle : (s.threads i).free) (unexpired : ¬ s.expired ttl) :
    AnsweredAfter ttl key s s.shown := by
  have moved : flagStep ttl s (.step j) = some (s.goto j .release) := by
    simp only [flagStep, at_j]
    rw [if_neg unexpired]
  refine .of_step (quiet_step at_j (by simp)) moved
    (answeredAfter_of_release (i := i) (s.goto_self j _) ?_ unexpired)
  rwa [goto_of_ne _ _ (FlagPc.Refreshing.away at_j trivial idle)]

/-- The stamp makes the cache fresh, whatever it shows. -/
theorem FlagState.answeredAfter_of_stamp (nonneg : ¬ ttl < 0) (at_j : s.threads j = .stamp)
    (idle : (s.threads i).free) : AnsweredAfter ttl key s s.shown := by
  have moved : flagStep ttl s (.step j) =
      some ({ s with loadedAt := s.clock }.goto j .release) := by
    simp only [flagStep, at_j]
  refine .of_step (quiet_step at_j (by simp)) moved
    (answeredAfter_of_release (i := i) (goto_self _ j _) ?_ ?_)
  · rwa [goto_of_ne _ _ (FlagPc.Refreshing.away at_j trivial idle)]
  · unfold expired goto
    rw [decide_eq_true_iff]
    dsimp only
    omega

theorem FlagState.answeredAfter_of_publish (nonneg : ¬ ttl < 0) (total : values.Total)
    (at_j : s.threads j = .publish values) (idle : (s.threads i).free) :
    AnsweredAfter ttl key s values := by
  have moved : flagStep ttl s (.step j) =
      some ({ s with cache := values }.goto j .stamp) := by
    simp only [flagStep, at_j]
  refine .of_step (quiet_step at_j (by simp)) moved ?_
  have shown : FlagState.shown ({ s with cache := values }.goto j .stamp) = values :=
    shown_of_cache s total
  have early : AnsweredAfter ttl key ({ s with cache := values }.goto j .stamp)
      (FlagState.shown ({ s with cache := values }.goto j .stamp)) := by
    refine answeredAfter_of_stamp (i := i) nonneg (goto_self _ j _) ?_
    rwa [goto_of_ne _ _ (FlagPc.Refreshing.away at_j trivial idle)]
  rwa [shown] at early

end Early

theorem FlagState.settles_of_seesOwnChange (sound : s.Sound)
    (at_i : s.threads i = .invalidate change) (sees : SeesOwnChange ttl s i change) :
    s.Settles ttl change := by
  unfold Settles
  by_cases negative : ttl < 0
  · exact .inl negative
  right
  have answers {values : FlagValues} := sees _ values (flagStep_invalidate at_i)
  have idle : ((s.invalidated i change).threads i).free := by
    unfold invalidated
    rw [goto_self]
    rfl
  have unmoved {j : ℕ} {pc : FlagPc} (at_j : s.threads j = pc) (refreshing : pc.Refreshing) :
      (s.invalidated i change).threads j = pc := invalidated_of_refreshing at_i at_j refreshing
  split
  case h_1 => trivial
  case h_2 values held =>
    obtain ⟨j, -, at_j⟩ := Option.map_eq_some_iff.mp held
    have total : values.Total := sound.held j values (by rw [at_j]; rfl)
    exact answers (answeredAfter_of_publish negative total (unmoved at_j trivial) idle)
  case h_3 held =>
    obtain ⟨j, -, at_j⟩ := Option.map_eq_some_iff.mp held
    exact answers (answeredAfter_of_stamp negative (unmoved at_j trivial) idle)
  case h_4 notRead notPublish notStamp =>
    by_cases past : ttl < s.clock
    · exact .inl past
    right
    have unexpired : ¬ (s.invalidated i change).expired ttl := by
      unfold expired invalidated goto
      rw [decide_eq_true_iff]
      dsimp only
      omega
    cases held : s.refreshLock with
    | none => exact answers (answeredAfter_of_unexpired held idle unexpired)
    | some j =>
      rw [held, Option.map_some] at notRead notPublish notStamp
      have refreshing := (sound.guarded j).mp held
      cases at_j : s.threads j with
      | recheck => exact answers (answeredAfter_of_recheck (unmoved at_j trivial) idle unexpired)
      | release => exact answers (answeredAfter_of_release (unmoved at_j trivial) idle unexpired)
      | read => exact absurd (congrArg some at_j) notRead
      | publish values => exact absurd (congrArg some at_j) (notPublish values)
      | stamp => exact absurd (congrArg some at_j) notStamp
      | fallback => exact absurd at_j (sound.noFallback j)
      | _ =>
        rw [at_j] at refreshing
        cases refreshing

/-! ## Exactly when a change is seen -/

theorem FlagState.Committed.stored (fresh : start.Fresh)
    (committed : Committed ttl start s i change) : s.Stored change := by
  obtain ⟨before, after, reached, at_i, moved, quietly, -⟩ := committed
  have sound : before.Sound := reached.invariant (P := FlagState.Sound) fresh.sound
    fun _ _ _ sound succeeds moved => (flagStep_cases moved).sound succeeds sound
  have stored : after.Stored change := by
    refine ⟨(flagStep_cases moved).sound trivial sound, ?_⟩
    simp only [flagStep, at_i, Option.some.injEq] at moved
    rw [← moved]
    exact (before.table.value_upsert change.key change.value change.key).trans (if_pos rfl)
  exact quietly.invariant stored fun _ _ _ stored quiet moved =>
    (flagStep_cases moved).stored quiet stored

/-- **Whether a replica sees its own change** is decided at the invalidation: no refresh in flight
may have read the table without the change, and `_loaded_at = 0.0` must count as expired unless the
change is shown already. -/
theorem own_change_seen_iff (fresh : start.Fresh) (committed : Committed ttl start s i change) :
    SeesOwnChange ttl s i change ↔ s.Settles ttl change := by
  have stored := committed.stored fresh
  obtain ⟨-, -, -, -, -, -, at_i⟩ := committed
  exact ⟨settles_of_seesOwnChange stored.toSound at_i,
    fun settles => settles.seesOwnChange stored at_i⟩

end Steps

/-! ## A refresh in flight -/

def toDual : FlagChange where
  key := "user_name_write_mode"
  value := "dual"
  valid := ⟨["legacy", "dual", "new"], rfl, by decide⟩

/-- The write mode is `legacy`, and the host has been up for ten ticks. -/
def flagReplica : FlagState where
  table := ⟨[("user_name_write_mode", "legacy")], by decide⟩
  cache := []
  loadedAt := 0
  clock := 10
  refreshLock := none
  threads := fun _ => .idle

/-- Thread 1 is about to read the table while thread 0 commits: its refresh brings the change. -/
theorem own_change_seen_by_later_read : ∃ s, flagReplica.Fresh ∧
    FlagState.Committed 2 flagReplica s 0 toDual ∧ s.threads 1 = .read ∧
    FlagState.SeesOwnChange 2 s 0 toDual := by
  have fresh : flagReplica.Fresh := ⟨rfl, rfl, rfl, fun _ => rfl⟩
  have before : checkedRun (flagStep 2) FlagState.ReadsSucceed flagReplica
      [.call 1 .getAllFlags, .step 1, .step 1, .step 1, .step 1, .call 0 (.setFlag toDual)] =
        some _ := rfl
  have committed : FlagState.Committed 2 flagReplica _ 0 toDual :=
    ⟨_, _, reachable_of_checkedRun before, rfl, rfl, .init, rfl⟩
  exact ⟨_, fresh, committed, rfl, (own_change_seen_iff fresh committed).mpr (.inr trivial)⟩

/-- Thread 1 has read the table when thread 0 commits.  It publishes and stamps what it has read
after the cache is invalidated, and then the cache does not expire: thread 0 is told `legacy`. -/
theorem own_change_hidden_by_earlier_read : ∃ s, flagReplica.Fresh ∧
    FlagState.Committed 2 flagReplica s 0 toDual ∧ ¬ FlagState.SeesOwnChange 2 s 0 toDual := by
  have before : checkedRun (flagStep 2) FlagState.ReadsSucceed flagReplica
      [.call 1 .getAllFlags, .step 1, .step 1, .step 1, .step 1, .step 1,
        .call 0 (.setFlag toDual)] = some _ := rfl
  refine ⟨_, ⟨rfl, rfl, rfl, fun _ => rfl⟩,
    ⟨_, _, reachable_of_checkedRun before, rfl, rfl, .init, rfl⟩, fun sees => ?_⟩
  have told := sees _ [("user_name_write_mode", "legacy"), ("user_name_read_source", "legacy")] rfl
  have stale := told ⟨0, _, _, _,
    reachable_of_checkedRun (show checkedRun (flagStep 2) (FlagState.Quiet toDual.key) _
      [.step 1, .step 1, .step 1] = some _ from rfl), rfl,
    reachable_of_checkedRun (show checkedRun (flagStep 2)
      (fun s a => FlagState.Quiet toDual.key s a ∧ FlagState.Alone s 0) _
      [.step 0, .step 0] = some _ from rfl), rfl⟩
  exact absurd stale (by decide)

end TicketBooking
