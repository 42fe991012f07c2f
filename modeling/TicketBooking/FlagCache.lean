import TicketBooking.FeatureFlags
import TicketBooking.Lib.LockHolder
import TicketBooking.Lib.StepSystem

/-!
# The flag cache of a replica

`get_all_flags`, `_refresh`, `set_flag` and `invalidate_cache` (`app/core/flags.py`) as threads of
one replica whose statements interleave in any order.  Times are ticks of `time.monotonic()`, and
`ttl` is `FLAG_CACHE_SECONDS` in ticks.

* `FlagMove` lists what one step can do, and `FlagTurn` what it is for one thread.
* `FlagState.Ordered` is kept by every step: the refresh lock names the one thread that refreshes,
  and every dictionary has every flag.  So `get_flag` raises no `KeyError` (`getFlag_of_answered`).
-/

namespace TicketBooking

open LockHolder StepSystem

/-! ## Threads -/

/-- The next statement of a thread. -/
inductive FlagPc
  | idle
  /-- `if time.monotonic() - _loaded_at > settings.FLAG_CACHE_SECONDS` -/
  | look
  /-- `first_load = not _cache` -/
  | firstLoad
  /-- `_refresh_lock.acquire(blocking=first_load)` -/
  | acquire (firstLoad : Bool)
  /-- The same comparison, now with the lock. -/
  | recheck
  /-- `rows = db.execute(select(FeatureFlag.key, FeatureFlag.value)).all()` -/
  | read
  /-- `_cache = values` -/
  | publish (values : FlagValues)
  /-- `if not _cache: _cache = _defaults()`, after an exception. -/
  | fallback
  /-- `_loaded_at = time.monotonic()` -/
  | stamp
  /-- `_refresh_lock.release()` -/
  | release
  /-- `return dict(_cache) if _cache else _defaults()` -/
  | answer
  | answered (values : FlagValues)
  /-- `db.execute(stmt); db.commit()` of `set_flag` -/
  | commit (change : FlagChange)
  /-- `invalidate_cache()` -/
  | invalidate (change : FlagChange)
  | returned (change : FlagChange)
  | raised
deriving DecidableEq

/-- Between taking the refresh lock and releasing it. -/
def FlagPc.Refreshing : FlagPc → Prop
  | .recheck | .read | .publish _ | .fallback | .stamp | .release => True
  | _ => False

/-- The thread can be given a call. -/
def FlagPc.free : FlagPc → Bool
  | .idle | .answered _ | .returned _ | .raised => true
  | _ => false

inductive FlagRequest
  | getAllFlags
  | setFlag (change : FlagChange)
deriving DecidableEq

def FlagRequest.entry : FlagRequest → FlagPc
  | .getAllFlags => .look
  | .setFlag change => .commit change

/-- The committed table, and the globals, the clock and the threads of one replica. -/
structure FlagState where
  table : FlagTable
  cache : FlagValues
  loadedAt : ℕ
  clock : ℕ
  refreshLock : Option ℕ
  threads : ℕ → FlagPc

namespace FlagState

/-- `time.monotonic() - _loaded_at > settings.FLAG_CACHE_SECONDS` -/
def expired (ttl : ℤ) (s : FlagState) : Bool := ttl < s.clock - s.loadedAt

/-- `dict(_cache) if _cache else _defaults()` -/
def shown (s : FlagState) : FlagValues := if s.cache = [] then defaults else s.cache

/-- The thread `i` is at another statement. -/
def goto (s : FlagState) (i : ℕ) (pc : FlagPc) : FlagState :=
  { s with threads := Function.update s.threads i pc }

/-- A replica that has just started. -/
def Fresh (s : FlagState) : Prop :=
  s.cache = [] ∧ s.loadedAt = 0 ∧ s.refreshLock = none ∧ ∀ i, s.threads i = .idle

end FlagState

inductive FlagAction
  | call (i : ℕ) (request : FlagRequest)
  | step (i : ℕ)
  /-- The statement raises: the table read, or the commit, whose change may be `applied` even so. -/
  | fail (i : ℕ) (applied : Bool)
  /-- A commit of another replica or of another program. -/
  | commitElsewhere (key value : String)
  | tick (ticks : ℕ)
deriving DecidableEq

open FlagState in
/-- One statement of one thread. -/
def flagStep (ttl : ℤ) (s : FlagState) : FlagAction → Option FlagState
  | .call i request => if (s.threads i).free then some (s.goto i request.entry) else none
  | .step i =>
    match s.threads i with
    | .look => some (s.goto i (if s.expired ttl then .firstLoad else .answer))
    | .firstLoad => some (s.goto i (.acquire (s.cache = [])))
    | .acquire firstLoad =>
      match s.refreshLock with
      | none => some ({ s with refreshLock := some i }.goto i .recheck)
      -- only the very first load waits
      | some _ => if firstLoad then none else some (s.goto i .answer)
    | .recheck => some (s.goto i (if s.expired ttl then .read else .release))
    | .read => some (s.goto i (.publish (refreshedValues s.table)))
    | .publish values => some ({ s with cache := values }.goto i .stamp)
    | .fallback => some ({ s with cache := s.shown }.goto i .stamp)
    | .stamp => some ({ s with loadedAt := s.clock }.goto i .release)
    | .release => some ({ s with refreshLock := none }.goto i .answer)
    | .answer => some (s.goto i (.answered s.shown))
    | .commit change =>
      some ({ s with table := s.table.upsert change.key change.value }.goto i (.invalidate change))
    | .invalidate change => some ({ s with loadedAt := 0 }.goto i (.returned change))
    | .idle | .answered _ | .returned _ | .raised => none
  | .fail i applied =>
    match s.threads i with
    | .read => some (s.goto i .fallback)
    | .commit change =>
      if applied then
        some ({ s with table := s.table.upsert change.key change.value }.goto i .raised)
      else some (s.goto i .raised)
    | _ => none
  | .commitElsewhere key value => some { s with table := s.table.upsert key value }
  | .tick ticks => some { s with clock := s.clock + ticks }

namespace FlagState

/-- The flag whose row the action writes. -/
def writes (s : FlagState) : FlagAction → Option String
  | .step i | .fail i true =>
    match s.threads i with
    | .commit change => some change.key
    | _ => none
  | .commitElsewhere key _ => some key
  | _ => none

/-- The action is no failing table read. -/
def ReadsSucceed (s : FlagState) : FlagAction → Prop
  | .fail i _ => s.threads i ≠ .read
  | _ => True

/-- A step of a run in which table reads succeed and nobody sets the flag. -/
def Quiet (key : String) (s : FlagState) (a : FlagAction) : Prop :=
  s.ReadsSucceed a ∧ s.writes a ≠ some key

/-- No other thread than `i` is refreshing. -/
def Alone (s : FlagState) (i : ℕ) : Prop := s.refreshLock = none ∨ s.refreshLock = some i

instance (s : FlagState) : (a : FlagAction) → Decidable (s.ReadsSucceed a)
  | .fail i _ => inferInstanceAs (Decidable (s.threads i ≠ .read))
  | .call .. | .step _ | .commitElsewhere .. | .tick _ => inferInstanceAs (Decidable True)

instance (key : String) (s : FlagState) (a : FlagAction) : Decidable (s.Quiet key a) :=
  inferInstanceAs (Decidable (_ ∧ _))

instance (s : FlagState) (i : ℕ) : Decidable (s.Alone i) := inferInstanceAs (Decidable (_ ∨ _))

end FlagState

/-! ## What a step can do -/

/-- The dictionary a thread has built or returned. -/
def FlagPc.values : FlagPc → Option FlagValues
  | .publish values | .answered values => some values
  | _ => none

/-- A statement that changes nothing the threads share. -/
inductive FlagWalk (ttl : ℤ) (s : FlagState) : FlagPc → FlagPc → Prop
  | calls {pc : FlagPc} (free : pc.free) (request : FlagRequest) : FlagWalk ttl s pc request.entry
  | looks : FlagWalk ttl s .look (if s.expired ttl then .firstLoad else .answer)
  | firstLoads : FlagWalk ttl s .firstLoad (.acquire (s.cache = []))
  | misses {j : ℕ} {firstLoad : Bool} (taken : s.refreshLock = some j) :
    FlagWalk ttl s (.acquire firstLoad) .answer
  | rechecks : FlagWalk ttl s .recheck (if s.expired ttl then .read else .release)
  | reads : FlagWalk ttl s .read (.publish (refreshedValues s.table))
  | answers : FlagWalk ttl s .answer (.answered s.shown)
  | raises {change : FlagChange} : FlagWalk ttl s (.commit change) .raised

inductive FlagMove (ttl : ℤ) (s : FlagState) (a : FlagAction) : FlagState → Prop
  | walks {i : ℕ} {pc pc' : FlagPc} (at_i : s.threads i = pc) (walk : FlagWalk ttl s pc pc') :
    FlagMove ttl s a (s.goto i pc')
  | readFails {i : ℕ} (at_i : s.threads i = .read) (fails : ¬ s.ReadsSucceed a) :
    FlagMove ttl s a (s.goto i .fallback)
  | takes {i : ℕ} {firstLoad : Bool} (at_i : s.threads i = .acquire firstLoad)
    (free : s.refreshLock = none) :
    FlagMove ttl s a ({ s with refreshLock := some i }.goto i .recheck)
  | publishes {i : ℕ} {values : FlagValues} (at_i : s.threads i = .publish values) :
    FlagMove ttl s a ({ s with cache := values }.goto i .stamp)
  | fallsBack {i : ℕ} (at_i : s.threads i = .fallback) :
    FlagMove ttl s a ({ s with cache := s.shown }.goto i .stamp)
  | stamps {i : ℕ} (at_i : s.threads i = .stamp) :
    FlagMove ttl s a ({ s with loadedAt := s.clock }.goto i .release)
  | releases {i : ℕ} (at_i : s.threads i = .release) :
    FlagMove ttl s a ({ s with refreshLock := none }.goto i .answer)
  /-- The change is committed, also when the commit raises. -/
  | commits {i : ℕ} {change : FlagChange} {pc : FlagPc} (at_i : s.threads i = .commit change)
    (row : s.writes a = some change.key) (left : pc = .invalidate change ∨ pc = .raised) :
    FlagMove ttl s a ({ s with table := s.table.upsert change.key change.value }.goto i pc)
  | commitsElsewhere {key value : String} (row : s.writes a = some key) :
    FlagMove ttl s a { s with table := s.table.upsert key value }
  | invalidates {i : ℕ} {change : FlagChange} (at_i : s.threads i = .invalidate change) :
    FlagMove ttl s a ({ s with loadedAt := 0 }.goto i (.returned change))
  | ticks (n : ℕ) : FlagMove ttl s a { s with clock := s.clock + n }

section Moves

variable {ttl : ℤ} {s s' start : FlagState} {a : FlagAction} {i j : ℕ} {pc pc' : FlagPc}

theorem FlagMove.of_step (moved : flagStep ttl s (.step i) = some s') :
    FlagMove ttl s (.step i) s' := by
  have row : ∀ change, s.threads i = .commit change → s.writes (.step i) = some change.key := by
    intro change at_i
    simp only [FlagState.writes, at_i]
  cases at_i : s.threads i with
  | idle | answered | returned | raised => simp only [flagStep, at_i, reduceCtorEq] at moved
  | look => simp only [flagStep, at_i] at moved; cases moved; exact .walks at_i .looks
  | firstLoad => simp only [flagStep, at_i] at moved; cases moved; exact .walks at_i .firstLoads
  | acquire firstLoad =>
    simp only [flagStep, at_i] at moved
    split at moved
    case h_1 free => cases moved; exact .takes at_i free
    case h_2 j taken =>
      split at moved
      case isTrue => cases moved
      case isFalse => cases moved; exact .walks at_i (.misses taken)
  | recheck => simp only [flagStep, at_i] at moved; cases moved; exact .walks at_i .rechecks
  | read => simp only [flagStep, at_i] at moved; cases moved; exact .walks at_i .reads
  | publish values => simp only [flagStep, at_i] at moved; cases moved; exact .publishes at_i
  | fallback => simp only [flagStep, at_i] at moved; cases moved; exact .fallsBack at_i
  | stamp => simp only [flagStep, at_i] at moved; cases moved; exact .stamps at_i
  | release => simp only [flagStep, at_i] at moved; cases moved; exact .releases at_i
  | answer => simp only [flagStep, at_i] at moved; cases moved; exact .walks at_i .answers
  | commit change =>
    simp only [flagStep, at_i] at moved
    cases moved
    exact .commits at_i (row change at_i) (.inl rfl)
  | invalidate change => simp only [flagStep, at_i] at moved; cases moved; exact .invalidates at_i

theorem flagStep_cases (moved : flagStep ttl s a = some s') : FlagMove ttl s a s' := by
  cases a with
  | step i => exact .of_step moved
  | call i request =>
    simp only [flagStep] at moved
    split at moved
    case isTrue free => cases moved; exact .walks rfl (.calls free request)
    case isFalse => cases moved
  | fail i applied =>
    simp only [flagStep] at moved
    split at moved
    case h_1 at_i => cases moved; exact .readFails at_i fun succeeds => succeeds at_i
    case h_2 change at_i =>
      split at moved
      case isTrue isApplied =>
        cases moved
        refine .commits at_i ?_ (.inr rfl)
        simp only [FlagState.writes, isApplied, at_i]
      case isFalse => cases moved; exact .walks at_i .raises
    case h_3 => cases moved
  | commitElsewhere key value => cases moved; exact .commitsElsewhere rfl
  | tick n => cases moved; exact .ticks n

/-! ## What every run keeps -/

theorem FlagState.goto_self (s : FlagState) (i : ℕ) (pc : FlagPc) :
    (s.goto i pc).threads i = pc := by
  simp [FlagState.goto]

theorem FlagState.goto_of_ne (s : FlagState) (pc : FlagPc) (away : j ≠ i) :
    (s.goto i pc).threads j = s.threads j := by
  simp [FlagState.goto, away]

/-- A published dictionary is what the cache shows, since it is not empty. -/
theorem FlagState.shown_of_cache (s : FlagState) {values : FlagValues} (total : values.Total) :
    FlagState.shown { s with cache := values } = values :=
  if_neg total.ne_nil

/-- What holds at every thread, after one of them has moved. -/
theorem FlagState.goto_all {Q : FlagPc → Prop} (others : ∀ j, Q (s.threads j)) (here : Q pc)
    (j : ℕ) : Q ((s.goto i pc).threads j) := by
  rcases eq_or_ne j i with rfl | away
  · rwa [s.goto_self]
  · rw [s.goto_of_ne pc away]
    exact others j

theorem FlagRequest.not_refreshing (request : FlagRequest) : ¬ request.entry.Refreshing := by
  cases request <;> exact id

/-- The lock is taken and released, but not walked past. -/
theorem FlagWalk.refreshing (walk : FlagWalk ttl s pc pc') : pc'.Refreshing ↔ pc.Refreshing := by
  cases walk with
  | calls free request =>
    refine iff_of_false request.not_refreshing ?_
    cases pc <;> first | exact id | cases free
  | looks => split <;> rfl
  | rechecks => split <;> rfl
  | firstLoads | misses | reads | answers | raises => rfl

/-- A dictionary comes from the table or from the cache. -/
theorem FlagWalk.values (walk : FlagWalk ttl s pc pc') : pc'.values = none ∨
    pc = .read ∧ pc' = .publish (refreshedValues s.table) ∨
    pc = .answer ∧ pc' = .answered s.shown := by
  cases walk with
  | calls free request => cases request <;> exact .inl rfl
  | looks => split <;> exact .inl rfl
  | rechecks => split <;> exact .inl rfl
  | firstLoads | misses | raises => exact .inl rfl
  | reads => exact .inr (.inl ⟨rfl, rfl⟩)
  | answers => exact .inr (.inr ⟨rfl, rfl⟩)

/-- `_loaded_at` is stamped, and the defaults are fallen back to, inside a refresh. -/
theorem FlagWalk.ne (walk : FlagWalk ttl s pc pc') : pc' ≠ .fallback ∧ pc' ≠ .stamp := by
  cases walk with
  | calls free request => cases request <;> simp [FlagRequest.entry]
  | looks => split <;> simp
  | rechecks => split <;> simp
  | firstLoads | misses | raises | reads | answers => simp

/-- The refresh lock names the thread that refreshes, the cache is stamped in the past, and every
dictionary has every flag. -/
structure FlagState.Ordered (s : FlagState) : Prop where
  guarded : Guards FlagPc.Refreshing s.refreshLock s.threads
  stamped : s.loadedAt ≤ s.clock
  shown : s.shown.Total
  held : ∀ j values, (s.threads j).values = some values → values.Total

theorem FlagState.Fresh.ordered (fresh : s.Fresh) : s.Ordered := by
  obtain ⟨empty, zero, free, idle⟩ := fresh
  constructor
  · rw [free]
    refine .of_outside fun j => ?_
    rw [idle j]
    exact id
  · omega
  · unfold FlagState.shown
    rw [if_pos empty]
    exact defaults_total
  · intro j values held
    rw [idle j] at held
    cases held

theorem FlagMove.ordered (moved : FlagMove ttl s a s') (ordered : s.Ordered) : s'.Ordered := by
  obtain ⟨guarded, stamped, shown, held⟩ := ordered
  have stays {i : ℕ} {pc pc' : FlagPc} (at_i : s.threads i = pc)
      (same : pc'.Refreshing ↔ pc.Refreshing) :
      Guards FlagPc.Refreshing s.refreshLock (Function.update s.threads i pc') := by
    rw [← at_i] at same
    exact guarded.move same
  have holds {i : ℕ} {pc : FlagPc} (here : ∀ values, pc.values = some values → values.Total) :
      ∀ j values, ((s.goto i pc).threads j).values = some values → values.Total :=
    FlagState.goto_all (Q := fun pc => ∀ values, pc.values = some values → values.Total) held here
  have drops {i : ℕ} {pc : FlagPc} (none : pc.values = none) :
      ∀ j values, ((s.goto i pc).threads j).values = some values → values.Total :=
    holds fun values here => by cases none.symm.trans here
  cases moved with
  | walks at_i walk =>
    refine ⟨stays at_i walk.refreshing, stamped, shown, ?_⟩
    rcases walk.values with none | ⟨-, rfl⟩ | ⟨-, rfl⟩
    · exact drops none
    · refine holds fun values here => ?_
      cases here
      exact refreshedValues_total s.table
    · refine holds fun values here => ?_
      cases here
      exact shown
  | readFails at_i fails => exact ⟨stays at_i Iff.rfl, stamped, shown, drops rfl⟩
  | takes at_i free =>
    rw [free] at guarded
    exact ⟨guarded.take trivial, stamped, shown, drops rfl⟩
  | @publishes i values at_i =>
    have total : values.Total := held i values (by rw [at_i]; rfl)
    refine ⟨stays at_i Iff.rfl, stamped, ?_, drops rfl⟩
    change (FlagState.shown { s with cache := values }).Total
    rwa [FlagState.shown_of_cache s total]
  | fallsBack at_i =>
    refine ⟨stays at_i Iff.rfl, stamped, ?_, drops rfl⟩
    change (FlagState.shown { s with cache := s.shown }).Total
    rwa [FlagState.shown_of_cache s shown]
  | stamps at_i => exact ⟨stays at_i Iff.rfl, le_refl _, shown, drops rfl⟩
  | releases at_i =>
    refine ⟨guarded.release ?_ id, stamped, shown, drops rfl⟩
    rw [at_i]
    trivial
  | commits at_i row left =>
    rcases left with rfl | rfl
    · exact ⟨stays at_i Iff.rfl, stamped, shown, drops rfl⟩
    · exact ⟨stays at_i Iff.rfl, stamped, shown, drops rfl⟩
  | commitsElsewhere row => exact ⟨guarded, stamped, shown, held⟩
  | invalidates at_i => exact ⟨stays at_i Iff.rfl, Nat.zero_le _, shown, drops rfl⟩
  | ticks n => exact ⟨guarded, stamped.trans (Nat.le_add_right _ _), shown, held⟩

theorem FlagState.Ordered.of_reachable {ok : FlagState → FlagAction → Prop} (base : start.Ordered)
    (reached : Reachable (flagStep ttl) ok start s) : s.Ordered :=
  reached.invariant base fun _ _ _ ordered _ moved => (flagStep_cases moved).ordered ordered

/-- **`get_flag` of a known flag never raises a `KeyError`**, whatever fails and however the threads
interleave. -/
theorem getFlag_of_answered (fresh : start.Fresh)
    (reached : Reachable (flagStep ttl) (fun _ _ => True) start s) {values : FlagValues}
    (answered : s.threads i = .answered values) {key : String} (known : knownFlag key) :
    ∃ value, getFlag values key = some value :=
  (fresh.ordered.of_reachable reached).held i values (by rw [answered]; rfl) key known

/-! ## A step as one thread sees it -/

/-- Thread `j` goes from `pc` to `pc'` in a step from `s` to `s'`. -/
inductive FlagTurn (ttl : ℤ) (s s' : FlagState) (a : FlagAction) : FlagPc → FlagPc → Prop
  | walks {pc pc' : FlagPc} (walk : FlagWalk ttl s pc pc') : FlagTurn ttl s s' a pc pc'
  | readFails (fails : ¬ s.ReadsSucceed a) : FlagTurn ttl s s' a .read .fallback
  | takes {firstLoad : Bool} : FlagTurn ttl s s' a (.acquire firstLoad) .recheck
  | publishes {values : FlagValues}
    (cached : s' = { s with cache := values, threads := s'.threads }) :
    FlagTurn ttl s s' a (.publish values) .stamp
  | fallsBack : FlagTurn ttl s s' a .fallback .stamp
  | stamps : FlagTurn ttl s s' a .stamp .release
  | releases : FlagTurn ttl s s' a .release .answer
  | commits {change : FlagChange} {pc : FlagPc} (left : pc = .invalidate change ∨ pc = .raised) :
    FlagTurn ttl s s' a (.commit change) pc
  | invalidates {change : FlagChange} : FlagTurn ttl s s' a (.invalidate change) (.returned change)

/-- In a step every thread either stays where it is or takes its turn. -/
theorem FlagMove.turn (moved : FlagMove ttl s a s') (j : ℕ) : s'.threads j = s.threads j ∨
    FlagTurn ttl s s' a (s.threads j) (s'.threads j) := by
  have turns {i : ℕ} {pc pc' : FlagPc} {t : FlagState} (same : t.threads = s.threads)
      (at_i : s.threads i = pc) (turn : FlagTurn ttl s (t.goto i pc') a pc pc') :
      (t.goto i pc').threads j = s.threads j ∨
        FlagTurn ttl s (t.goto i pc') a (s.threads j) ((t.goto i pc').threads j) := by
    rcases eq_or_ne j i with rfl | away
    · rw [t.goto_self, at_i]
      exact .inr turn
    · rw [t.goto_of_ne pc' away, same]
      exact .inl rfl
  cases moved with
  | walks at_i walk => exact turns rfl at_i (.walks walk)
  | readFails at_i fails => exact turns rfl at_i (.readFails fails)
  | takes at_i free => exact turns rfl at_i .takes
  | publishes at_i => exact turns rfl at_i (.publishes rfl)
  | fallsBack at_i => exact turns rfl at_i .fallsBack
  | stamps at_i => exact turns rfl at_i .stamps
  | releases at_i => exact turns rfl at_i .releases
  | commits at_i row left => exact turns rfl at_i (.commits left)
  | invalidates at_i => exact turns rfl at_i .invalidates
  | commitsElsewhere | ticks => exact .inl rfl

end Moves

end TicketBooking
