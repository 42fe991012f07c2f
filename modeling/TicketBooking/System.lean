import TicketBooking.Lib.ListUpdate
import TicketBooking.Lib.StepSystem
import TicketBooking.PaymentService
import TicketBooking.Sweeper

/-!
# The running system

Any number of calls on any number of replicas over the two databases.  A call is the program counter
and the locals of one `create_order_dual_db`, `process_order_payment` or
`cleanup_expired_seat_holds`; an action starts a call, lets one call make its next database access
under a fault of the environment's choice, or stops a call for ever.  `step` is executable and total
in its choices, so a schedule is a list of actions.

* Each MongoDB update is one step and each PostgreSQL transaction commits in one step.  The row
  locks of FOR UPDATE outlive a step: they are held by the calls that are `locked` or `claimed`.
* `SystemStep` lists what an action can do; every invariant below is proved from it.
-/

namespace TicketBooking

open ListUpdate StepSystem

/-- What the deployment fixes: `str.lower` of its Python, and the settings. -/
structure Config where
  lower : String → String
  settings : Settings

inductive Call
  | create (c : CreateCall)
  | pay (c : PayCall)
  | sweep (c : SweepCall)
deriving DecidableEq

structure State where
  dbs : Databases
  calls : List Call
deriving DecidableEq

inductive Request
  | createOrder (orderIn : OrderCreate) (idempotencyKey : Option String)
  | processPayment (orderId : ℕ) (paymentIn : PaymentCreate)
  | cleanup (batchSize maxBatches : Option ℕ)
deriving DecidableEq

def Request.start (cfg : Config) : Request → Call
  | .createOrder orderIn idempotencyKey => .create (.start orderIn idempotencyKey)
  | .processPayment orderId paymentIn => .pay (.start orderId paymentIn)
  | .cleanup batchSize maxBatches => .sweep (.start cfg.settings batchSize maxBatches)

def PayPc.locks : PayPc → List ℕ
  | .locked order => [order.id]
  | _ => []

def SweepPc.locks : SweepPc → List ℕ
  | .claimed rows => rows.map Prod.fst
  | _ => []

/-- The order rows the call holds FOR UPDATE. -/
def Call.locks : Call → List ℕ
  | .create _ => []
  | .pay c => c.pc.locks
  | .sweep c => c.pc.locks

def State.lockedElsewhere (s : State) (i : ℕ) : List ℕ := (s.calls.eraseIdx i).flatMap Call.locks

def Call.step (cfg : Config) (dbs : Databases) (lockedElsewhere : List ℕ) (fault : Fault)
    (draw : Draw) : Call → Option (Databases × Call)
  | .create c => (c.step cfg.lower dbs fault draw).map fun r => (r.1, .create r.2)
  | .pay c => (c.step dbs lockedElsewhere fault draw).map fun r => (r.1, .pay r.2)
  | .sweep c => (c.step dbs lockedElsewhere fault draw).map fun r => (r.1, .sweep r.2)

/-- The process stops before the next step; its open transaction is rolled back. -/
def Call.crash : Call → Call
  | .create c => .create (c.goto .crashed)
  | .pay c => .pay (c.goto .crashed)
  | .sweep c => .sweep (c.goto .crashed)

/-- The call has answered. -/
def Call.ended : Call → Bool
  | .create ⟨_, _, _, .done _⟩ => true
  | .pay ⟨_, _, .done _⟩ => true
  | .sweep ⟨_, _, _, .done _⟩ => true
  | _ => false

theorem Call.ended_create {c : CreateCall} :
    (Call.create c).ended = true ↔ ∃ outcome, c.pc = .done outcome := by
  obtain ⟨orderIn, idempotencyKey, attempt, pc⟩ := c
  cases pc <;> simp [ended]

inductive Action
  | spawn (request : Request)
  | step (i : ℕ) (fault : Fault) (draw : Draw)
  | crash (i : ℕ)
deriving DecidableEq

def step (cfg : Config) (s : State) : Action → Option State
  | .spawn request => some { s with calls := s.calls ++ [request.start cfg] }
  | .step i fault draw =>
    (s.calls[i]?.bind (Call.step cfg s.dbs (s.lockedElsewhere i) fault draw)).map fun r =>
      ⟨r.1, s.calls.set i r.2⟩
  | .crash i => (s.calls[i]?.filter fun call => !call.ended).map fun call =>
      { s with calls := s.calls.set i call.crash }

/-- The create call `i`, when it is about to run its transaction, and the plan it books. -/
def State.committing (s : State) (i : ℕ) : Option (CreateCall × OrderPlan) :=
  match s.calls[i]? with
  | some (.create c) =>
    match c.pc with
    | .reserve plan _ [] => some (c, plan)
    | _ => none
  | _ => none

theorem State.committing_eq_some {s : State} {i : ℕ} {c : CreateCall} {plan : OrderPlan} :
    s.committing i = some (c, plan) ↔
      s.calls[i]? = some (.create c) ∧ ∃ held, c.pc = .reserve plan held [] := by
  unfold State.committing
  constructor
  · intro committing
    split at committing
    case h_2 => cases committing
    case h_1 c' at_i =>
      split at committing
      case h_2 => cases committing
      case h_1 plan' held at_pc =>
        cases committing
        exact ⟨at_i, held, at_pc⟩
  · rintro ⟨at_i, held, at_pc⟩
    rw [at_i]
    dsimp only
    rw [at_pc]

/-- No PostgreSQL call fails. -/
def Action.PgUp : Action → Prop
  | .step _ fault _ => fault.PgUp
  | _ => True

/-! ## What an action can do -/

/-- The step of one call. -/
inductive CallStep (cfg : Config) (dbs : Databases) (lockedElsewhere : List ℕ) (fault : Fault)
    (draw : Draw) : Call → Databases → Call → Prop
  | create {c c' : CreateCall} {dbs' : Databases}
    (moved : CreateStep cfg.lower dbs fault draw c dbs' c') :
    CallStep cfg dbs lockedElsewhere fault draw (.create c) dbs' (.create c')
  | pay {c c' : PayCall} {dbs' : Databases}
    (moved : PayStep dbs lockedElsewhere fault draw c dbs' c') :
    CallStep cfg dbs lockedElsewhere fault draw (.pay c) dbs' (.pay c')
  | sweep {c c' : SweepCall} {dbs' : Databases}
    (moved : SweepStep dbs lockedElsewhere fault draw c dbs' c') :
    CallStep cfg dbs lockedElsewhere fault draw (.sweep c) dbs' (.sweep c')

theorem Call.step_cases {cfg : Config} {dbs dbs' : Databases} {lockedElsewhere : List ℕ}
    {fault : Fault} {draw : Draw} {call call' : Call}
    (moved : call.step cfg dbs lockedElsewhere fault draw = some (dbs', call')) :
    CallStep cfg dbs lockedElsewhere fault draw call dbs' call' := by
  cases call with
  | create c =>
    obtain ⟨⟨dbs'', c'⟩, stepped, same⟩ := Option.map_eq_some_iff.mp moved
    cases same
    exact .create (CreateCall.step_cases stepped)
  | pay c =>
    obtain ⟨⟨dbs'', c'⟩, stepped, same⟩ := Option.map_eq_some_iff.mp moved
    cases same
    exact .pay (PayCall.step_cases stepped)
  | sweep c =>
    obtain ⟨⟨dbs'', c'⟩, stepped, same⟩ := Option.map_eq_some_iff.mp moved
    cases same
    exact .sweep (SweepCall.step_cases stepped)

/-- Everything an action can do to the system. -/
inductive SystemStep (cfg : Config) (s : State) : Action → State → Prop
  | spawn (request : Request) :
    SystemStep cfg s (.spawn request) { s with calls := s.calls ++ [request.start cfg] }
  | call {i : ℕ} {fault : Fault} {draw : Draw} {call call' : Call} {dbs' : Databases}
    (at_i : s.calls[i]? = some call)
    (moved : CallStep cfg s.dbs (s.lockedElsewhere i) fault draw call dbs' call') :
    SystemStep cfg s (.step i fault draw) ⟨dbs', s.calls.set i call'⟩
  | crash {i : ℕ} {call : Call} (at_i : s.calls[i]? = some call) (running : call.ended = false) :
    SystemStep cfg s (.crash i) { s with calls := s.calls.set i call.crash }

theorem step_cases {cfg : Config} {s s' : State} {a : Action} (moved : step cfg s a = some s') :
    SystemStep cfg s a s' := by
  cases a with
  | spawn request => cases moved; exact .spawn request
  | step i fault draw =>
    obtain ⟨⟨dbs', call'⟩, bound, rfl⟩ := Option.map_eq_some_iff.mp moved
    obtain ⟨call, at_i, stepped⟩ := Option.bind_eq_some_iff.mp bound
    exact .call at_i (Call.step_cases stepped)
  | crash i =>
    obtain ⟨call, filtered, rfl⟩ := Option.map_eq_some_iff.mp moved
    obtain ⟨at_i, running⟩ := Option.filter_eq_some_iff.mp filtered
    exact .crash at_i (by simpa using running)

/-- A step of the call that came last. -/
theorem step_concat (cfg : Config) (dbs : Databases) (calls : List Call) (call : Call)
    (fault : Fault)
    (draw : Draw) : step cfg ⟨dbs, calls ++ [call]⟩ (.step calls.length fault draw) =
      (call.step cfg dbs (calls.flatMap Call.locks) fault draw).map fun r =>
        ⟨r.1, calls ++ [r.2]⟩ := by
  have others : State.lockedElsewhere ⟨dbs, calls ++ [call]⟩ calls.length =
      calls.flatMap Call.locks := by
    rw [State.lockedElsewhere, List.eraseIdx_append_of_length_le le_rfl]
    simp
  simp only [step, others, List.getElem?_concat_length, Option.bind_some]
  congr 1
  funext r
  rw [List.set_append_right _ _ le_rfl, Nat.sub_self]
  rfl

/-- Call `i` makes these steps and nobody else moves. -/
def alone (i : ℕ) (steps : List (Fault × Draw)) : List Action :=
  steps.map fun p => .step i p.1 p.2

theorem run_alone_cons {cfg : Config} {calls : List Call} (dbs : Databases) (call : Call)
    (p : Fault × Draw) (ps : List (Fault × Draw)) :
    run (step cfg) ⟨dbs, calls ++ [call]⟩ (alone calls.length (p :: ps)) =
      (call.step cfg dbs (calls.flatMap Call.locks) p.1 p.2).bind fun r =>
        run (step cfg) ⟨r.1, calls ++ [r.2]⟩ (alone calls.length ps) := by
  rw [alone, List.map_cons, run_cons, step_concat]
  cases call.step cfg dbs (calls.flatMap Call.locks) p.1 p.2 <;> rfl

/-- A row locked by another call. -/
theorem State.mem_lockedElsewhere {s : State} {i orderId : ℕ} :
    orderId ∈ s.lockedElsewhere i ↔
      ∃ j call, j ≠ i ∧ s.calls[j]? = some call ∧ orderId ∈ call.locks := by
  simp only [lockedElsewhere, List.mem_flatMap, List.mem_eraseIdx_iff_getElem?]
  constructor
  · rintro ⟨call, ⟨j, other, at_j⟩, held⟩
    exact ⟨j, call, other, at_j, held⟩
  · rintro ⟨j, call, other, at_j, held⟩
    exact ⟨call, ⟨j, other, at_j⟩, held⟩

/-- The tables of the booking flow are empty and no call is running. -/
def State.Fresh (s : State) : Prop :=
  s.calls = [] ∧ s.dbs.pg.orders = [] ∧ s.dbs.pg.tickets = [] ∧ s.dbs.pg.payments = [] ∧
    s.dbs.pg.outbox = []

/-! ## Invariants of every call -/

/-- The induction rule for a property of each call and the databases: new calls have it, a crash
keeps it, and a step keeps it for the call that moves and for the others. -/
theorem forall_calls_of_reachable {cfg : Config} {ok : State → Action → Prop} {start s : State}
    {Q : Databases → Call → Prop} (reached : Reachable (step cfg) ok start s)
    (idle : start.calls = [])
    (spawned : ∀ dbs (request : Request), Q dbs (request.start cfg))
    (crashed : ∀ dbs call, Q dbs call → Q dbs call.crash)
    (stepped : ∀ s i fault draw call dbs' call', Reachable (step cfg) ok start s →
      ok s (.step i fault draw) → s.calls[i]? = some call →
      (∀ (j : ℕ) other, s.calls[j]? = some other → Q s.dbs other) →
      CallStep cfg s.dbs (s.lockedElsewhere i) fault draw call dbs' call' →
      Q dbs' call' ∧ ∀ (j : ℕ) other, j ≠ i → s.calls[j]? = some other → Q dbs' other) :
    ∀ (i : ℕ) call, s.calls[i]? = some call → Q s.dbs call := by
  refine reached.invariant₂ (P := fun s => ∀ (i : ℕ) call, s.calls[i]? = some call → Q s.dbs call)
    (by simp [idle]) ?_
  intro s a s' before holds allowed moved
  cases step_cases moved with
  | spawn request => exact forall_getElem?_concat holds (spawned _ request)
  | @call i fault draw call call' dbs' at_i called =>
    obtain ⟨mover, others⟩ := stepped s i fault draw call dbs' call' before allowed at_i
      holds called
    exact forall_getElem?_set others mover
  | @crash i call at_i _ =>
    exact forall_getElem?_set (fun j other _ at_j => holds j other at_j)
      (crashed _ call (holds i call at_i))

/-! ## A small deployment

One event with one zone and two users, for runs on fixed inputs. -/

namespace Sample

def cfg : Config := ⟨fun s => String.ofList (s.toList.map Char.toLower), {}⟩

def oid : ObjectId := ⟨"65f0c0ffee65f0c0ffee65f0", by decide⟩

def event (zone : ZoneSchema) : EventCreate :=
  { title := "Concert", zones := [zone], zones_nonempty := by simp }

def start (zone : ZoneSchema) : State where
  dbs := ⟨⟨[1, 2], [], [], [], [], []⟩, ⟨[createEvent (event zone) oid], List.nodup_singleton _⟩⟩
  calls := []

/-- An event whose two zones may have one name. -/
def twinEvent (zone zone' : ZoneSchema) : EventCreate :=
  { title := "Concert", zones := [zone, zone'], zones_nonempty := by simp }

def twinStart (zone zone' : ZoneSchema) : State where
  dbs := ⟨⟨[1, 2], [], [], [], [], []⟩,
    ⟨[createEvent (twinEvent zone zone') oid], List.nodup_singleton _⟩⟩
  calls := []

theorem fresh (zone : ZoneSchema) : (start zone).Fresh := ⟨rfl, rfl, rfl, rfl, rfl⟩

theorem event_mem (zone : ZoneSchema) :
    createEvent (event zone) oid ∈ (start zone).dbs.mongo.docs := List.mem_singleton_self _

theorem zone_mem (zone : ZoneSchema) : zone ∈ (event zone).zones := List.mem_singleton_self _

def floor : ZoneSchema := { name := "Floor", price := 10, capacity := 2 }

def lastSeat : ZoneSchema := { name := "Floor", price := 10, capacity := 1 }

def soldOutZone : ZoneSchema := { name := "Floor", price := 10, capacity := 1, bookedCount := 1 }

/-- A price with half a cent. -/
def oddPrice : ZoneSchema :=
  { name := "Floor", price := 2001 / 200, capacity := 2, price_nonneg := by decide +kernel }

def halfCent : ZoneSchema :=
  { name := "Floor", price := 1 / 200, capacity := 2, price_nonneg := by decide +kernel }

/-- One ticket, in another spelling of the event and of the zone. -/
def ticket (seatNumber : Option String) (short : (seatNumber.getD "").length ≤ 50 := by decide) :
    TicketItemCreate where
  eventId := "65F0C0FFEE65F0C0FFEE65F0"
  seatZone := " floor"
  seatNumber := seatNumber
  seatNumber_length := short

def order : OrderCreate := { userId := 1, paymentMethod := "promptpay", items := [ticket "A1"] }

/-- What validation makes of it. -/
def plan (zone : ZoneSchema) : OrderPlan :=
  ⟨[⟨oid, "Concert", zone.name, "A1", zone.price, zone.capacity⟩], zone.price⟩

/-- A ticket without a seat. -/
def standing : OrderCreate := { userId := 1, paymentMethod := "promptpay", items := [ticket none] }

/-- Two seats. -/
def pair : OrderCreate :=
  { userId := 1, paymentMethod := "promptpay", items := [ticket "A1", ticket "A2"] }

/-- The same user, another seat. -/
def otherSeat : OrderCreate :=
  { userId := 1, paymentMethod := "promptpay", items := [ticket "A2"] }

/-- Another user, another seat. -/
def otherOrder : OrderCreate :=
  { userId := 2, paymentMethod := "promptpay", items := [ticket "A2"] }

/-- Another user, the same two seats in opposite order. -/
def reversedPair : OrderCreate :=
  { userId := 2, paymentMethod := "promptpay", items := [ticket "A2", ticket "A1"] }

def draw (orderId : ℕ) : Draw := ⟨orderId, "ORD-1", 0, 0, false, "PAY-1", "TX-1", by decide⟩

def payment (amount : ℚ) (positive : 0 < amount := by decide) : PaymentCreate where
  amount := amount
  provider := "promptpay"
  providerTxId := none
  accepted := ⟨positive, by simp, by simp⟩

/-- Call `i` makes `n` steps, nothing going wrong. -/
def advance (i n orderId : ℕ) : List Action := List.replicate n (.step i .none (draw orderId))

end Sample

end TicketBooking
