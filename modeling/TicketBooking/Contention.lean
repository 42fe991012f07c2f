import TicketBooking.Lib.FirstFit
import TicketBooking.Retries

/-!
# Many requests for one zone

Any number of concurrent requests that each ask for `q` seatless tickets of one zone, and nothing
else going on.  The zone is the first one of its spelling, and its update goes to the first zone of
that exact name whose counter leaves room for `q` seats under the capacity of the first.  So the
requests fill the zones of that name one after the other, in whole requests: as many succeed as fit
in all of them together, and the zone that was asked for takes what fits in it alone.

`FirstFit` counts the requests that still fit; a request that has reserved always commits, because
the tables accept its rows whatever the others do.
-/

namespace TicketBooking

open FirstFit GroupCount Fallible ListUpdate StepSystem

/-! ## Rooms of a name -/

/-- How many requests for `q` seats fit in the zone, under the capacity that the filter compares
with. -/
def Zone.rooms (name : String) (capacity : ℤ) (q : ℕ) (z : Zone) : ℕ :=
  if z.name = name then roomFor capacity q z.bookedCount else 0

/-- How many requests fit in the zones of this name. -/
def Catalog.rooms (c : Catalog) (oid : ObjectId) (name : String) (capacity : ℤ) (q : ℕ) : ℕ :=
  ((c.find? oid).map fun d => (d.zones.map (Zone.rooms name capacity q)).sum).getD 0

/-- The condition of the reservation: room for `q` seats. -/
def leavesRoom (capacity : ℤ) (q : ℕ) (bookedCount : ℤ) : Bool := bookedCount ≤ capacity - q

section Rooms

variable {c : Catalog} {oid : ObjectId} {name : String} {capacity : ℤ} {q : ℕ} {d : EventDoc}

theorem Zone.matches_iff_rooms_pos (positive : 0 < q) (z : Zone) :
    Zone.matches name (leavesRoom capacity q) z = true ↔ 0 < z.rooms name capacity q := by
  unfold Zone.matches Zone.rooms leavesRoom
  split
  case isTrue named => simp [named, roomFor_pos_iff positive]
  case isFalse other => simp [other]

theorem Zone.rooms_inc (positive : 0 < q) {z : Zone}
    (matched : Zone.matches name (leavesRoom capacity q) z = true) :
    (z.inc q).rooms name capacity q + 1 = z.rooms name capacity q := by
  simp only [Zone.matches, leavesRoom, Bool.and_eq_true, decide_eq_true_eq] at matched
  rw [Zone.rooms, Zone.rooms, Zone.inc_name, if_pos matched.1, if_pos matched.1,
    Zone.inc_bookedCount]
  exact roomFor_add positive matched.2

/-- A reservation takes one room, when it takes any seats. -/
theorem Catalog.rooms_incBooked (positive : 0 < q) (found : c.find? oid = some d) :
    (c.incBooked oid name (leavesRoom capacity q) q).rooms oid name capacity q +
        c.modifiedCount oid name (leavesRoom capacity q) q = c.rooms oid name capacity q := by
  rw [c.modifiedCount_of_find? name _ (by omega : (q : ℤ) ≠ 0) found, Catalog.rooms,
    find?_incBooked, found, Catalog.rooms, found]
  simp only [Option.map_some, Option.getD_some, c.find?_id found, if_true]
  exact sum_updateFirst (fun z matched => Zone.rooms_inc positive matched) d.zones

/-- A request is refused when no room is left. -/
theorem Catalog.modifiedCount_eq_zero_iff (positive : 0 < q) (found : c.find? oid = some d) :
    c.modifiedCount oid name (leavesRoom capacity q) q = 0 ↔ c.rooms oid name capacity q = 0 := by
  have hits : ∀ z : Zone, Zone.matches name (leavesRoom capacity q) z = true ↔
      0 < z.rooms name capacity q := Zone.matches_iff_rooms_pos positive
  have slot := any_iff_sum_pos hits d.zones
  rw [c.modifiedCount_of_find? name _ (by omega : (q : ℤ) ≠ 0) found, Catalog.rooms, found]
  simp only [Option.map_some, Option.getD_some]
  cases any : d.zones.any (Zone.matches name (leavesRoom capacity q)) with
  | true =>
    have room := slot.mp any
    rw [Bool.toNat_true]
    omega
  | false =>
    have none : ¬ 0 < (d.zones.map (Zone.rooms name capacity q)).sum := fun room => by
      rw [slot.mpr room] at any
      cases any
    rw [Bool.toNat_false]
    exact ⟨fun _ => by omega, fun _ => rfl⟩

/-- The zones of a name have no room but for the first, exactly when it has all of the rooms. -/
theorem sum_rooms_eq_first_iff {zones : List Zone} {z : Zone} (positive : 0 < q)
    (first : zones.find? (fun z => z.name = name) = some z) :
    (zones.map (Zone.rooms name capacity q)).sum = roomFor capacity q z.bookedCount ↔
      ∀ z' ∈ (zones.filter fun z => z.name = name).tail, capacity - q < z'.bookedCount := by
  have room : ∀ z' : Zone, 0 < roomFor capacity q z'.bookedCount ↔ z'.bookedCount ≤ capacity - q :=
    fun z' => roomFor_pos_iff positive
  have others : ∀ zones : List Zone, (zones.map (Zone.rooms name capacity q)).sum = 0 ↔
      ∀ z' ∈ zones.filter (fun z => z.name = name), capacity - q < z'.bookedCount := by
    intro zones
    rw [List.sum_eq_zero_iff]
    constructor
    · intro none z' mem
      obtain ⟨inZones, named⟩ := List.mem_filter.mp mem
      have noRoom := none _ (List.mem_map_of_mem inZones)
      rw [Zone.rooms, if_pos (by simpa using named)] at noRoom
      have closed := (room z').not.mp (by omega)
      omega
    · intro closed n mem
      obtain ⟨z', inZones, rfl⟩ := List.mem_map.mp mem
      rw [Zone.rooms]
      split
      case isTrue named =>
        have full := closed z' (List.mem_filter.mpr ⟨inZones, by simpa using named⟩)
        have noRoom := (room z').not.mpr (by omega)
        omega
      case isFalse => rfl
  induction zones with
  | nil => cases first
  | cons b zones ih =>
    by_cases named : b.name = name
    · rw [List.find?_cons_of_pos (by simpa using named)] at first
      cases first
      rw [List.filter_cons_of_pos (by simpa using named), List.tail_cons, ← others zones,
        List.map_cons, List.sum_cons, Zone.rooms, if_pos named]
      omega
    · rw [List.find?_cons_of_neg (by simpa using named)] at first
      rw [List.filter_cons_of_neg (by simpa using named), List.map_cons, List.sum_cons, Zone.rooms,
        if_neg named, zero_add]
      exact ih first

/-! ### The first zone of the name -/

/-- What a reservation does to the first zone of its name. -/
theorem Catalog.zone?_reserved {z : Zone} (first : c.zone? oid name = some z) :
    (c.incBooked oid name (leavesRoom capacity q) q).zone? oid name =
      some (if z.bookedCount ≤ capacity - q then z.inc q else z) := by
  split
  case isTrue room => exact Catalog.zone?_incBooked_hit _ first (by simpa [leavesRoom] using room)
  case isFalse full =>
    obtain ⟨d, found, inDoc⟩ := Option.bind_eq_some_iff.mp first
    rw [Catalog.zone?, find?_incBooked, found]
    simp only [Option.map_some, Option.bind_some, c.find?_id found, if_true]
    apply find?_updateFirst_pass inDoc (by simp [Zone.matches, leavesRoom, full])
    intro b matched
    simp only [Zone.matches, Bool.and_eq_true] at matched
    exact matched.1

end Rooms

/-! ## Requests for one zone -/

/-- The request asks for `q` seatless tickets of the zone, in any spelling. -/
structure OrderCreate.Asks (lower : String → String) (oid : ObjectId) (key : String) (q : ℕ)
    (orderIn : OrderCreate) : Prop where
  count : orderIn.items.length = q
  items : ∀ i ∈ orderIn.items, ObjectId.ofString? i.eventId = some oid ∧
    zoneKey lower i.seatZone = key ∧ normaliseSeat i.seatNumber = none

/-- What validation makes of each item. -/
def seatlessItem (oid : ObjectId) (d : EventDoc) (z : Zone) : ValidatedItem :=
  ⟨oid, d.title, z.name, none, z.price, z.capacity⟩

def seatlessPlan (oid : ObjectId) (d : EventDoc) (z : Zone) (q : ℕ) : OrderPlan where
  items := List.replicate q (seatlessItem oid d z)
  totalAmount := (List.replicate q z.price).foldl decimalAdd 0

def seatlessRequest (oid : ObjectId) (d : EventDoc) (z : Zone) (q : ℕ) : ZoneRequest :=
  ⟨oid, z.name, q, z.capacity, d.title⟩

section Planning

variable {lower : String → String} {catalog : Catalog} {oid : ObjectId} {d : EventDoc} {z : Zone}
  {key : String} {q : ℕ} {orderIn : OrderCreate}

theorem forall₂_replicate {α β : Type} {R : α → β → Prop} {b : β} {as : List α}
    (all : ∀ a ∈ as, R a b) : List.Forall₂ R as (List.replicate as.length b) := by
  induction as with
  | nil => exact .nil
  | cons a as ih => exact .cons (all a (by simp)) (ih fun a' mem => all a' (by simp [mem]))

/-- One group holds all copies of an element. -/
theorem groupCount_replicate {α κ : Type} [DecidableEq κ] (key : α → κ) (a : α) {n : ℕ}
    (positive : 0 < n) : groupCount key (List.replicate n a) = [(a, n)] := by
  have bumped : ∀ n k, (List.replicate n a).foldl (bump key) [(a, k)] = [(a, k + n)] := by
    intro n
    induction n with
    | zero => intro k; rfl
    | succ n ih =>
      intro k
      rw [List.replicate_succ, List.foldl_cons, bump, if_pos rfl, ih]
      congr 2
      omega
  obtain ⟨m, rfl⟩ : ∃ m, n = m + 1 := ⟨n - 1, by omega⟩
  rw [groupCount, List.replicate_succ, List.foldl_cons, bump, bumped]
  congr 2
  omega

theorem planOrder_seatless (found : catalog.find? oid = some d)
    (first : (d.zones.find? fun z => zoneKey lower z.name = key) = some z)
    (asks : orderIn.Asks lower oid key q) :
    planOrder lower catalog orderIn = .ok (seatlessPlan oid d z q) := by
  have each : ∀ i ∈ orderIn.items, validateItem lower catalog i = .ok (seatlessItem oid d z) := by
    intro i mem
    obtain ⟨parsed, sameKey, noSeat⟩ := asks.items i mem
    refine validateItem_ok_iff.mpr ⟨parsed, d, z, found, ?_, ?_⟩
    · rw [sameKey]
      exact first
    · rw [noSeat]
      rfl
  have validated := mapM_ok_iff.mpr (forall₂_replicate each)
  have sorted : ∀ le : ValidatedItem → ValidatedItem → Prop, ∀ [DecidableRel le],
      (List.replicate q (seatlessItem oid d z)).insertionSort le =
        List.replicate q (seatlessItem oid d z) := by
    intro le _
    refine List.eq_replicate_iff.mpr ⟨by simp, fun v mem => ?_⟩
    exact List.eq_of_mem_replicate ((List.mem_insertionSort _).mp mem)
  rw [asks.count] at validated
  rw [planOrder, validated]
  simp only [Except.map, seatlessPlan, sorted, List.map_replicate]
  rfl

theorem zoneRequests_seatless (positive : 0 < q) :
    (seatlessPlan oid d z q).zoneRequests = [seatlessRequest oid d z q] := by
  rw [OrderPlan.zoneRequests, seatlessPlan, groupCount_replicate _ _ positive]
  rfl

/-- Rows without seats are accepted as long as the user exists. -/
theorem Postgres.Insertable.of_seatless {pg pg' : Postgres} {draw : Draw}
    (users : pg'.users = pg.users)
    (rows : pg.Insertable (newOrder orderIn none (seatlessPlan oid d z q) draw)
      ((seatlessPlan oid d z q).tickets draw.orderId)) (draw' : Draw) :
    pg'.Insertable (newOrder orderIn none (seatlessPlan oid d z q) draw')
      ((seatlessPlan oid d z q).tickets draw'.orderId) := by
  have redrawn := rows.redraw draw'
  have noEntries : ((seatlessPlan oid d z q).tickets draw'.orderId).filterMap Ticket.seatEntry =
      [] := by
    rw [List.filterMap_eq_nil_iff]
    intro t mem
    obtain ⟨v, inPlan, rfl⟩ := List.mem_map.mp mem
    rw [List.eq_of_mem_replicate inPlan]
    rfl
  refine ⟨redrawn.orderFits, redrawn.totalNonneg, fun keyed => ?_, users ▸ redrawn.userKnown,
    redrawn.ticketsFit, ?_, ?_⟩
  · cases keyed.1
  · rw [noEntries]
    exact List.nodup_nil
  · rw [noEntries]
    exact fun e mem => (List.not_mem_nil mem).elim

end Planning

/-! ## One step of a request -/

/-- Where a request can be. -/
inductive BuyerAt (plan : OrderPlan) (r : ZoneRequest) : CreatePc → Prop
  | lookup : BuyerAt plan r .lookup
  | readCatalog : BuyerAt plan r .readCatalog
  | asking : BuyerAt plan r (.reserve plan [] [r])
  | holding : BuyerAt plan r (.reserve plan [r.reservation] [])
  | refused : BuyerAt plan r (.release [] (.answer r.soldOut))
  | created (order : Order) (tickets : List Ticket) :
      BuyerAt plan r (.done (.created order tickets))
  | soldOut : BuyerAt plan r (.done (.raised r.soldOut))

/-- The request has its seats: one, for the sum over all calls. -/
def CreatePc.won : CreatePc → ℕ
  | .reserve _ (_ :: _) _ => 1
  | .done (.created _ _) => 1
  | _ => 0

/-- The zone was full for the request. -/
def CreatePc.refused : CreatePc → Bool
  | .release _ _ => true
  | .done (.raised _) => true
  | _ => false

def Call.won : Call → ℕ
  | .create c => c.pc.won
  | _ => 0

def Call.refused : Call → Bool
  | .create c => c.pc.refused
  | _ => false

/-- What the databases of the requests look like, with `won` requests holding their seats. -/
structure Databases.Filled (start : Databases) (oid : ObjectId) (z : Zone) (q won : ℕ)
    (dbs : Databases) : Prop where
  users : dbs.pg.users = start.pg.users
  rooms : dbs.mongo.rooms oid z.name z.capacity q + won =
    start.mongo.rooms oid z.name z.capacity q
  first : ∃ z', dbs.mongo.zone? oid z.name = some z' ∧ z'.bookedCount =
    z.bookedCount + q * (min won (roomFor z.capacity q z.bookedCount) : ℕ)

section Step

variable {cfg : Config} {start dbs dbs' : Databases} {fault : Fault} {draw : Draw}
  {c c' : CreateCall} {oid : ObjectId} {d : EventDoc} {z : Zone} {key : String} {q won : ℕ}

/-- The reservation keeps the count. -/
theorem Databases.Filled.reserve (filled : start.Filled oid z q won dbs) (positive : 0 < q)
    (reserved : dbs.mongo.modifiedCount oid z.name (leavesRoom z.capacity q) q ≠ 0) :
    start.Filled oid z q (won + 1)
      ⟨dbs.pg, dbs.mongo.incBooked oid z.name (leavesRoom z.capacity q) q⟩ := by
  obtain ⟨z', first, level⟩ := filled.first
  obtain ⟨d', found, -⟩ := Option.bind_eq_some_iff.mp first
  have rooms : (dbs.mongo.incBooked oid z.name (leavesRoom z.capacity q) q).rooms oid z.name
      z.capacity q + dbs.mongo.modifiedCount oid z.name (leavesRoom z.capacity q) q =
        dbs.mongo.rooms oid z.name z.capacity q := Catalog.rooms_incBooked positive found
  have one : dbs.mongo.modifiedCount oid z.name (leavesRoom z.capacity q) q = 1 := by
    unfold Catalog.modifiedCount at reserved ⊢
    split
    case isTrue => rfl
    case isFalse none => exact absurd (if_neg none) reserved
  have total := filled.rooms
  refine ⟨filled.users, ?_, ?_⟩
  · dsimp only
    omega
  · refine ⟨_, Catalog.zone?_reserved first, ?_⟩
    have fits : z'.bookedCount ≤ z.capacity - q ↔ won < roomFor z.capacity q z.bookedCount := by
      rw [level]
      exact fits_after_iff positive won
    split
    case isTrue room =>
      have below := fits.mp room
      rw [Nat.min_eq_left (by omega)] at level ⊢
      rw [Zone.inc_bookedCount, level, Nat.cast_add, Nat.cast_one, mul_add, mul_one, add_assoc]
    case isFalse full =>
      have above := fits.not.mp full
      rw [Nat.min_eq_right (by omega)] at level ⊢
      exact level

theorem CreateStep.buyer (positive : 0 < q) (found : start.mongo.find? oid = some d)
    (first : (d.zones.find? fun z => zoneKey cfg.lower z.name = key) = some z)
    (asks : c.orderIn.Asks cfg.lower oid key q) (noKey : c.idempotencyKey = none)
    (rows : ∃ draw, start.pg.Insertable (newOrder c.orderIn none (seatlessPlan oid d z q) draw)
      ((seatlessPlan oid d z q).tickets draw.orderId))
    (same : dbs.mongo.listing = start.mongo.listing)
    (position : BuyerAt (seatlessPlan oid d z q) (seatlessRequest oid d z q) c.pc)
    (filled : start.Filled oid z q (won + c.pc.won) dbs)
    (moved : CreateStep cfg.lower dbs .none draw c dbs' c') :
    c'.orderIn = c.orderIn ∧ c'.idempotencyKey = none ∧
      BuyerAt (seatlessPlan oid d z q) (seatlessRequest oid d z q) c'.pc ∧
      c.pc.won ≤ c'.pc.won ∧ start.Filled oid z q (won + c'.pc.won) dbs' ∧
      (c'.pc.refused = true → c.pc.refused = true ∨
        dbs'.mongo.rooms oid z.name z.capacity q = 0) := by
  have falsy : truthyKey c.idempotencyKey = none := by rw [noKey]; rfl
  have plans : planOrder cfg.lower dbs.mongo c.orderIn = .ok (seatlessPlan oid d z q) := by
    rw [planOrder_listing same]
    exact planOrder_seatless found first asks
  cases moved with
  | ends ended =>
    cases ended with
    | keyRefused _ truthy | keyReplayed _ truthy => cases falsy.symm.trans truthy
    | invalid _ refused => cases plans.symm.trans refused
    | compensated at_pc =>
      rw [at_pc] at position filled ⊢
      cases position
      exact ⟨rfl, noKey, .soldOut, Nat.zero_le _, filled, fun _ => .inl rfl⟩
    | raceLost at_pc | integrity at_pc =>
      rw [at_pc] at position
      cases position
    | keyUnread _ raised | catalogUnread _ raised => cases raised
  | keyFree at_pc =>
    rw [at_pc] at filled ⊢
    exact ⟨rfl, noKey, .readCatalog, Nat.zero_le _, filled, fun refused => by cases refused⟩
  | planned at_pc valid =>
    cases plans.symm.trans valid
    rw [at_pc] at filled ⊢
    refine ⟨rfl, noKey, ?_, Nat.zero_le _, ?_, fun refused => ?_⟩
    · rw [CreateCall.goto_pc, zoneRequests_seatless positive]
      exact .asking
    · exact filled
    · cases refused
  | @reserved plan held r rest at_pc modified =>
    rw [at_pc] at position filled ⊢
    cases position with
    | asking =>
      exact ⟨rfl, noKey, .holding, Nat.zero_le _, filled.reserve positive modified,
        fun refused => by cases refused⟩
  | @soldOut plan held r rest at_pc unmodified =>
    rw [at_pc] at position filled ⊢
    cases position with
    | asking =>
      obtain ⟨z', zone, -⟩ := filled.first
      obtain ⟨d', found', -⟩ := Option.bind_eq_some_iff.mp zone
      have full := (Catalog.modifiedCount_eq_zero_iff positive found').mp unmodified
      have unchanged : dbs.mongo.incBooked (seatlessRequest oid d z q).eventOid
          (seatlessRequest oid d z q).zoneName (seatlessRequest oid d z q).hasRoom
          (seatlessRequest oid d z q).quantity = dbs.mongo :=
        Catalog.incBooked_unmodified (by simp only [seatlessRequest]; omega) unmodified
      rw [unchanged]
      exact ⟨rfl, noKey, .refused, Nat.zero_le _, ⟨filled.users, filled.rooms, filled.first⟩,
        fun _ => .inr full⟩
  | reserveRaised _ raised => cases raised
  | @committed plan held pg' at_pc fresh statements =>
    rw [at_pc] at position filled ⊢
    cases position with
    | holding =>
      obtain ⟨-, rfl⟩ := createTx_ok_iff.mp statements
      exact ⟨rfl, noKey, .created _ _, Nat.le_refl 1, ⟨filled.users, filled.rooms, filled.first⟩,
        fun refused => by cases refused⟩
  | @aborted plan held exc at_pc fresh cause =>
    rw [at_pc] at position
    cases position with
    | holding =>
      rcases cause with raised | statements
      · cases raised
      · obtain ⟨draw', rows⟩ := rows
        have users : (dbs.pg.drawOrderId draw.orderId).users = start.pg.users := filled.users
        have accepted : (dbs.pg.drawOrderId draw.orderId).Insertable
            (newOrder c.orderIn none (seatlessPlan oid d z q) draw)
            ((seatlessPlan oid d z q).tickets draw.orderId) := rows.of_seatless users draw
        rw [noKey] at statements
        cases (createTx_ok_iff.mpr ⟨accepted, rfl⟩).symm.trans statements
  | replyLost _ _ lost => cases lost
  | gaveBack at_pc =>
    rw [at_pc] at position
    cases position

end Step

/-! ## Over runs -/

/-- No traffic but requests for the zone whose rows the tables accept, and no failure. -/
def Action.Buys (lower : String → String) (start : Databases) (oid : ObjectId) (key : String)
    (q : ℕ) : Action → Prop
  | .spawn request => ∃ orderIn plan draw, request = .createOrder orderIn none ∧
      orderIn.Asks lower oid key q ∧ planOrder lower start.mongo orderIn = .ok plan ∧
      start.pg.Insertable (newOrder orderIn none plan draw) (plan.tickets draw.orderId)
  | .step _ fault _ => fault = .none
  | .crash _ => False

/-- The calls, the counters and the refusals fit together. -/
structure State.Contended (start : State) (lower : String → String) (oid : ObjectId) (d : EventDoc)
    (z : Zone) (key : String) (q : ℕ) (s : State) : Prop where
  buyers : ∀ (i : ℕ) call, s.calls[i]? = some call → ∃ c, call = .create c ∧
    c.orderIn.Asks lower oid key q ∧ c.idempotencyKey = none ∧
    (∃ draw, start.dbs.pg.Insertable (newOrder c.orderIn none (seatlessPlan oid d z q) draw)
      ((seatlessPlan oid d z q).tickets draw.orderId)) ∧
    BuyerAt (seatlessPlan oid d z q) (seatlessRequest oid d z q) c.pc
  filled : start.dbs.Filled oid z q (s.calls.map Call.won).sum s.dbs
  full : ∀ (i : ℕ) call, s.calls[i]? = some call → call.refused = true →
    s.dbs.mongo.rooms oid z.name z.capacity q = 0

/-- The call answered 201. -/
def Call.created : Call → Bool
  | .create ⟨_, _, _, .done (.created _ _)⟩ => true
  | _ => false

/-- As many calls succeeded as fit in the zone, all others were told that it is sold out, and its
counter grew by the seats of those that succeeded. -/
structure State.FillsZone (s : State) (oid : ObjectId) (d : EventDoc) (z : Zone)
    (q : ℕ) : Prop where
  winners : s.calls.countP Call.created =
    min s.calls.length (roomFor z.capacity q z.bookedCount)
  losers : ∀ call ∈ s.calls, call.created = true ∨ ∃ c, call = .create c ∧
    c.pc = .done (.raised ⟨409, .soldOut z.name d.title, none⟩)
  counter : ∃ z', s.dbs.mongo.zone? oid z.name = some z' ∧
    z'.bookedCount = z.bookedCount + q * s.calls.countP Call.created

section Runs

variable {cfg : Config} {start s s' : State} {a : Action} {oid : ObjectId} {d : EventDoc} {z : Zone}
  {key : String} {q : ℕ}

/-- The zone that is asked for is the first of its exact name, too. -/
theorem find?_name_of_key {lower : String → String}
    (first : (d.zones.find? fun z => zoneKey lower z.name = key) = some z) :
    (d.zones.find? fun z' => z'.name = z.name) = some z := by
  have sameKey : zoneKey lower z.name = key := by simpa using List.find?_some first
  refine find?_narrow first (by simp) fun b named => ?_
  simp only [decide_eq_true_eq] at named ⊢
  rw [named, sameKey]

theorem State.Contended.idle (idle : start.calls = []) (found : start.dbs.mongo.find? oid = some d)
    (first : (d.zones.find? fun z => zoneKey cfg.lower z.name = key) = some z) :
    start.Contended cfg.lower oid d z key q start where
  buyers i call at_i := by simp [idle] at at_i
  filled := by
    refine ⟨rfl, by simp [idle], z, ?_, by simp [idle]⟩
    rw [Catalog.zone?, found]
    exact find?_name_of_key first
  full i call at_i := by simp [idle] at at_i

theorem State.Contended.step (positive : 0 < q) (found : start.dbs.mongo.find? oid = some d)
    (first : (d.zones.find? fun z => zoneKey cfg.lower z.name = key) = some z)
    (same : s.dbs.mongo.listing = start.dbs.mongo.listing)
    (contended : start.Contended cfg.lower oid d z key q s)
    (allowed : a.Buys cfg.lower start.dbs oid key q) (moved : SystemStep cfg s a s') :
    start.Contended cfg.lower oid d z key q s' := by
  cases moved with
  | spawn request =>
    obtain ⟨orderIn, plan, draw, rfl, asks, planned, rows⟩ := allowed
    cases (planOrder_seatless found first asks).symm.trans planned
    refine ⟨?_, ?_, ?_⟩
    · exact forall_getElem?_concat contended.buyers ⟨_, rfl, asks, rfl, ⟨draw, rows⟩, .lookup⟩
    · have sameSum : ((s.calls ++ [(Request.createOrder orderIn none).start cfg]).map
          Call.won).sum = (s.calls.map Call.won).sum := by
        simp [Request.start, Call.won, CreateCall.start, CreatePc.won]
      exact sameSum ▸ contended.filled
    · exact forall_getElem?_concat contended.full fun refused => by cases refused
  | @call i fault draw call call' dbs' at_i called =>
    obtain rfl : fault = .none := allowed
    obtain ⟨c, rfl, asks, noKey, rows, position⟩ := contended.buyers i call at_i
    cases called with
    | @create _ c' _ moved =>
      have total := sum_map_set Call.won (.create c') at_i
      obtain ⟨others, sum⟩ : ∃ others, (s.calls.map Call.won).sum = others + c.pc.won :=
        ⟨(s.calls.map Call.won).sum - c.pc.won, by
          have counted := List.le_sum_of_mem (List.mem_map_of_mem (f := Call.won)
            (List.mem_of_getElem? at_i))
          simp only [Call.won] at counted
          omega⟩
      have filled := contended.filled
      rw [sum] at filled
      obtain ⟨sameOrder, noKey', position', more, filled', turnedAway⟩ :=
        moved.buyer positive found first asks noKey rows same position filled
      have sum' : ((s.calls.set i (.create c')).map Call.won).sum = others + c'.pc.won := by
        simp only [Call.won] at total
        omega
      refine ⟨?_, ?_, ?_⟩
      · exact forall_getElem?_set (fun j other _ at_j => contended.buyers j other at_j)
          ⟨c', rfl, sameOrder ▸ asks, noKey', sameOrder ▸ rows, position'⟩
      · exact sum' ▸ filled'
      · -- rooms only go down
        have roomsBefore := filled.rooms
        have roomsAfter := filled'.rooms
        refine forall_getElem?_set (fun j other _ at_j refused => ?_) fun refused => ?_
        · have none := contended.full j other at_j refused
          dsimp only
          omega
        · rcases turnedAway refused with before | none
          · have none := contended.full i _ at_i before
            dsimp only
            omega
          · exact none
  | crash => exact allowed.elim

theorem contended_of_reachable (idle : start.calls = []) (positive : 0 < q)
    (found : start.dbs.mongo.find? oid = some d)
    (first : (d.zones.find? fun z => zoneKey cfg.lower z.name = key) = some z)
    (reached : Reachable (TicketBooking.step cfg)
      (fun _ a => a.Buys cfg.lower start.dbs oid key q) start s) :
    start.Contended cfg.lower oid d z key q s :=
  reached.invariant₂ (P := start.Contended cfg.lower oid d z key q) (.idle idle found first)
    fun _ _ _ before contended allowed moved => contended.step positive found first
      (listing_of_reachable before) allowed (step_cases moved)

/-- Among calls that have ended, those that won are those that answered 201. -/
theorem sum_won_eq_countP {plan : OrderPlan} {r : ZoneRequest} {calls : List Call}
    (ended : ∀ call ∈ calls, ∃ c, call = .create c ∧ BuyerAt plan r c.pc ∧ call.ended = true) :
    (calls.map Call.won).sum = calls.countP Call.created ∧
      ∀ call ∈ calls, call.created = true ∨
        ∃ c, call = .create c ∧ c.pc = .done (.raised r.soldOut) := by
  induction calls with
  | nil => exact ⟨rfl, fun _ mem => (List.not_mem_nil mem).elim⟩
  | cons call calls ih =>
    obtain ⟨sum, each⟩ := ih fun other mem => ended other (List.mem_cons_of_mem _ mem)
    obtain ⟨⟨orderIn, key, attempt, pc⟩, rfl, position, done⟩ := ended call List.mem_cons_self
    obtain ⟨outcome, at_pc⟩ := Call.ended_create.mp done
    simp only at at_pc position
    subst at_pc
    rw [List.map_cons, List.sum_cons, List.countP_cons, sum]
    cases position with
    | created order tickets =>
      refine ⟨by rw [Nat.add_comm]; rfl, fun other mem => ?_⟩
      rcases List.mem_cons.mp mem with rfl | inTail
      · exact .inl rfl
      · exact each other inTail
    | soldOut =>
      refine ⟨by rw [Nat.add_comm]; rfl, fun other mem => ?_⟩
      rcases List.mem_cons.mp mem with rfl | inTail
      · exact .inr ⟨_, rfl, rfl⟩
      · exact each other inTail

/-- Once every call has ended, as many orders were created as the zones of the name have room for: a
refusal means that no room was left. -/
theorem State.Contended.created_eq (contended : start.Contended cfg.lower oid d z key q s)
    (found : start.dbs.mongo.find? oid = some d) (quiet : ∀ call ∈ s.calls, call.ended = true) :
    (s.calls.map Call.won).sum = s.calls.countP Call.created ∧
    (∀ call ∈ s.calls, call.created = true ∨ ∃ c, call = .create c ∧
      c.pc = .done (.raised (seatlessRequest oid d z q).soldOut)) ∧
    s.calls.countP Call.created =
      min s.calls.length (d.zones.map (Zone.rooms z.name z.capacity q)).sum := by
  have ended : ∀ call ∈ s.calls, ∃ c, call = .create c ∧
      BuyerAt (seatlessPlan oid d z q) (seatlessRequest oid d z q) c.pc ∧ call.ended = true := by
    intro call mem
    obtain ⟨i, at_i⟩ := List.mem_iff_getElem?.mp mem
    obtain ⟨c, rfl, -, -, -, position⟩ := contended.buyers i call at_i
    exact ⟨c, rfl, position, quiet _ mem⟩
  obtain ⟨winners, losers⟩ := sum_won_eq_countP ended
  refine ⟨winners, losers, ?_⟩
  have rooms := contended.filled.rooms
  have startRooms : start.dbs.mongo.rooms oid z.name z.capacity q =
      (d.zones.map (Zone.rooms z.name z.capacity q)).sum := by
    rw [Catalog.rooms, found]
    rfl
  rw [winners, startRooms] at rooms
  have total := List.countP_le_length (p := Call.created) (l := s.calls)
  by_cases all : s.calls.countP Call.created = s.calls.length
  · omega
  · obtain ⟨call, mem, refused⟩ : ∃ call ∈ s.calls, call.created ≠ true := by
      by_contra none
      refine all (List.countP_eq_length.mpr fun call mem => ?_)
      by_contra refused
      exact none ⟨call, mem, refused⟩
    obtain ⟨i, at_i⟩ := List.mem_iff_getElem?.mp mem
    rcases losers call mem with created | ⟨c, rfl, at_pc⟩
    · exact absurd created refused
    · have none := contended.full i _ at_i (by rw [Call.refused, at_pc]; rfl)
      omega

/-- **A contended zone is filled as far as it can be** exactly when it has room for all of the
requests, or no other zone of its name has room for one.  In every state the counter has grown by
whole requests, and every call that has not ended can go on to its end. -/
theorem contended_zone_filled_iff (idle : start.calls = []) (positive : 0 < q)
    (found : start.dbs.mongo.find? oid = some d)
    (first : (d.zones.find? fun z => zoneKey cfg.lower z.name = key) = some z)
    (reached : Reachable (TicketBooking.step cfg)
      (fun _ a => a.Buys cfg.lower start.dbs oid key q) start s) :
    (∀ (i : ℕ) call draw, s.calls[i]? = some call → call.ended = false →
      draw.orderId ∉ s.dbs.pg.orderIdsDrawn →
      ∃ s', step cfg s (.step i .none draw) = some s' ∧ s'.stepsLeft < s.stepsLeft) ∧
    (∃ z' k, s.dbs.mongo.zone? oid z.name = some z' ∧
      z'.bookedCount = z.bookedCount + q * (k : ℕ)) ∧
    ((∀ call ∈ s.calls, call.ended = true) →
      (s.FillsZone oid d z q ↔
        s.calls.length ≤ roomFor z.capacity q z.bookedCount ∨
        ∀ z' ∈ (d.zones.filter fun z' => z'.name = z.name).tail,
          z.capacity - q < z'.bookedCount)) := by
  have contended := contended_of_reachable idle positive found first reached
  obtain ⟨zone, atZone, level⟩ := contended.filled.first
  refine ⟨?_, ⟨zone, _, atZone, level⟩, fun quiet => ?_⟩
  · intro i call draw at_i running fresh
    obtain ⟨c, rfl, -, -, -, position⟩ := contended.buyers i call at_i
    refine create_progress .none at_i (fun outcome at_pc => ?_) (fun at_pc => ?_) fresh
    · rw [Call.ended_create.mpr ⟨outcome, at_pc⟩] at running
      cases running
    · rw [at_pc] at position
      cases position
  · obtain ⟨winners, losers, exact⟩ := contended.created_eq found quiet
    rw [winners] at level
    have named := find?_name_of_key first
    have share : roomFor z.capacity q z.bookedCount ≤
        (d.zones.map (Zone.rooms z.name z.capacity q)).sum := by
      have own : z.rooms z.name z.capacity q = roomFor z.capacity q z.bookedCount := if_pos rfl
      rw [← own]
      exact List.le_sum_of_mem (List.mem_map_of_mem (List.mem_of_find?_eq_some named))
    have total := List.countP_le_length (p := Call.created) (l := s.calls)
    rw [← sum_rooms_eq_first_iff positive named]
    constructor
    · intro fills
      have claimed := fills.winners
      omega
    · intro condition
      have winners' : s.calls.countP Call.created =
          min s.calls.length (roomFor z.capacity q z.bookedCount) := by omega
      refine ⟨winners', fun call mem => losers call mem, zone, atZone, ?_⟩
      rw [level, Nat.min_eq_left (by omega)]

end Runs

/-- Two requests for one seat each. -/
def twoStandingSchedule : List Action :=
  [.spawn (.createOrder Sample.standing none), .spawn (.createOrder Sample.standing none)] ++
    Sample.advance 0 4 1 ++ Sample.advance 1 4 2

theorem contended_last_seat_filled :
    ∃ s, run (step Sample.cfg) (Sample.start Sample.lastSeat) twoStandingSchedule = some s ∧
      s.calls.length = 2 ∧ s.FillsZone Sample.oid
        (createEvent (Sample.event Sample.lastSeat) Sample.oid) Sample.lastSeat.toZone 1 := by
  obtain ⟨s, checked⟩ := Option.isSome_iff_exists.mp (show ((checkedRun (step Sample.cfg)
    (fun _ a => a ∈ twoStandingSchedule) (Sample.start Sample.lastSeat) twoStandingSchedule).filter
      fun s => s.calls.length = 2 ∧ ∀ call ∈ s.calls, call.ended = true).isSome = true by
        decide +kernel)
  obtain ⟨ran, facts⟩ := Option.filter_eq_some_iff.mp checked
  obtain ⟨two, quiet⟩ := of_decide_eq_true facts
  have asks : Sample.standing.Asks Sample.cfg.lower Sample.oid "floor" 1 :=
    ⟨rfl, by decide +kernel⟩
  have inserted : createTx (Sample.start Sample.lastSeat).dbs.pg Sample.standing none
      (seatlessPlan Sample.oid (createEvent (Sample.event Sample.lastSeat) Sample.oid)
        Sample.lastSeat.toZone 1) (Sample.draw 1) =
          .ok ((Sample.start Sample.lastSeat).dbs.pg.created
          Sample.standing none (seatlessPlan Sample.oid
            (createEvent (Sample.event Sample.lastSeat) Sample.oid) Sample.lastSeat.toZone 1)
          (Sample.draw 1)) := by decide +kernel
  have buys : ∀ a ∈ twoStandingSchedule, a.Buys Sample.cfg.lower (Sample.start Sample.lastSeat).dbs
      Sample.oid "floor" 1 := by
    intro a mem
    simp only [twoStandingSchedule, Sample.advance, List.mem_append, List.mem_cons,
      List.not_mem_nil, or_false, List.mem_replicate] at mem
    rcases mem with ((rfl | rfl) | ⟨-, rfl⟩) | ⟨-, rfl⟩
    · exact ⟨_, _, _, rfl, asks, by decide +kernel, (createTx_ok_iff.mp inserted).1⟩
    · exact ⟨_, _, _, rfl, asks, by decide +kernel, (createTx_ok_iff.mp inserted).1⟩
    · rfl
    · rfl
  have reached := (reachable_of_checkedRun ran).mono fun s a mem => buys a mem
  exact ⟨s, run_of_checkedRun ran, two, ((contended_zone_filled_iff rfl (by decide)
    (by decide +kernel) (by decide +kernel) reached).2.2 quiet).mpr (.inr (by decide +kernel))⟩

/-- **A zone of the same name takes the overflow**: two requests succeed in a zone with one free
seat. -/
theorem twin_zone_takes_overflow :
    ((run (step Sample.cfg) (Sample.twinStart Sample.lastSeat Sample.floor) twoStandingSchedule).map
      fun s => (s.calls.countP Call.created, s.calls.length,
        s.dbs.mongo.docs.map fun d => d.zones.map Zone.bookedCount)) = some (2, 2, [[1, 1]]) ∧
    min 2 (roomFor Sample.lastSeat.capacity 1 0) = 1 := by
  constructor <;> decide +kernel

end TicketBooking
