import TicketBooking.LifeCycle

/-!
# Idempotency keys

What a key stands for (`Payload`: the user, and event and zone of each ticket), which requests the
fingerprint check accepts, and that a committed key keeps its payload for ever.  The result is about
concurrent calls with one key: the up-front look-up checks the fingerprint, the IntegrityError
handler does not, so a call gets only orders of its own payload in the runs in which every order the
handler finds passes the check that it leaves out.
-/

namespace TicketBooking

open Fallible ListUpdate StepSystem

/-! ## Payloads -/

structure Payload where
  userId : ℕ
  zones : List (String ×ₗ String)

/-- The same user, and the same events and zones in any order. -/
def Payload.Same (p q : Payload) : Prop := p.userId = q.userId ∧ p.zones.Perm q.zones

def orderPayload (lower : String → String) (o : Order) (tickets : List Ticket) : Payload :=
  ⟨o.userId, tickets.map fun t => toLex (t.eventId, zoneKey lower t.seatZone)⟩

def OrderCreate.payload (lower : String → String) (orderIn : OrderCreate) : Payload :=
  ⟨orderIn.userId,
    orderIn.items.map fun i => toLex (canonicalEventId i.eventId, zoneKey lower i.seatZone)⟩

section Fingerprint

variable {lower : String → String} {o : Order} {tickets : List Ticket} {orderIn : OrderCreate}

theorem sortedSignature_eq_iff {a b : List (String ×ₗ String)} :
    sortedSignature a = sortedSignature b ↔ a.Perm b := by
  unfold sortedSignature
  constructor
  · intro same
    exact (a.perm_insertionSort (· ≤ ·)).symm.trans (same ▸ b.perm_insertionSort (· ≤ ·))
  · intro perm
    have sorted := ((a.perm_insertionSort (· ≤ ·)).trans perm).trans
      (b.perm_insertionSort (· ≤ ·)).symm
    exact sorted.eq_of_sortedLE List.sortedLE_insertionSort List.sortedLE_insertionSort

/-- The fingerprint check lets exactly the same payload through. -/
theorem fingerprintAnswer_eq_none_iff : fingerprintAnswer lower o tickets orderIn = none ↔
    (orderPayload lower o tickets).Same (orderIn.payload lower) := by
  unfold fingerprintAnswer Payload.Same orderPayload OrderCreate.payload
  dsimp only
  split
  case isTrue mismatch =>
    simp only [reduceCtorEq, false_iff, not_and]
    intro sameUser perm
    rcases mismatch with user | count
    · exact user sameUser
    · exact count (by simpa using perm.length_eq)
  case isFalse matched =>
    simp only [ne_eq, not_or, not_not] at matched
    split
    case isTrue items =>
      simp only [reduceCtorEq, false_iff, not_and]
      exact fun _ perm => items (sortedSignature_eq_iff.mpr perm)
    case isFalse items =>
      simp only [true_iff]
      exact ⟨matched.1, sortedSignature_eq_iff.mp (not_not.mp items)⟩

/-- Its refusals are conflicts. -/
theorem fingerprintAnswer_statusCode {answer : HttpException}
    (refused : fingerprintAnswer lower o tickets orderIn = some answer) :
    answer.statusCode = 409 := by
  unfold fingerprintAnswer at refused
  split at refused
  · cases refused; rfl
  · split at refused
    · cases refused; rfl
    · cases refused

/-- The order a call creates has the payload of its request. -/
theorem planOrder_payload {catalog : Catalog} {plan : OrderPlan}
    (planned : planOrder lower catalog orderIn = .ok plan) (idempotencyKey : Option String)
    (draw : Draw) : (orderPayload lower (newOrder orderIn idempotencyKey plan draw)
      (plan.tickets draw.orderId)).Same (orderIn.payload lower) := by
  obtain ⟨validated, turns, items, -⟩ := planOrder_ok planned
  refine ⟨rfl, ?_⟩
  have zones : (orderIn.items.map fun i =>
      toLex (canonicalEventId i.eventId, zoneKey lower i.seatZone)) =
      validated.map fun v => toLex (v.eventId, zoneKey lower v.seatZone) := by
    refine map_eq_map_of_forall₂ turns fun i v validated => ?_
    obtain ⟨parsed, d, z, -, matched, same⟩ := validateItem_ok_iff.mp validated
    have sameKey : zoneKey lower z.name = zoneKey lower i.seatZone := by
      simpa using List.find?_some matched
    have zone : v.seatZone = z.name := by rw [same]
    rw [canonicalEventId, parsed, zone, sameKey]
    rfl
  unfold orderPayload OrderCreate.payload OrderPlan.tickets
  rw [List.map_map, zones, items]
  exact (validated.perm_insertionSort _).map _

end Fingerprint

/-! ## The payload of a key -/

/-- What the committed order with this key was ordered as. -/
def Postgres.payloadOf (lower : String → String) (pg : Postgres) (key : String) : Option Payload :=
  (pg.findByKey key).map fun o => orderPayload lower o (pg.ticketsOf o.id)

section PayloadOf

variable {lower : String → String} {catalog : Catalog} {pg pg' : Postgres}

theorem orderPayload_fromHeld (o : Order) (orderIds : List ℕ) (status : TicketStatus)
    (tickets : List Ticket) :
    orderPayload lower o (tickets.map (Ticket.fromHeld orderIds status)) =
      orderPayload lower o tickets := by
  unfold orderPayload
  rw [List.map_map]
  congr 1
  refine List.map_congr_left fun t _ => ?_
  simp only [Function.comp_apply, Ticket.fromHeld]
  split <;> rfl

/-- An update of the order rows that keeps their keys finds the same order, updated. -/
theorem find?_key_map {f : Order → Order} (keeps : ∀ o, (f o).idempotencyKey = o.idempotencyKey)
    (orders : List Order) (key : String) :
    ((orders.map f).find? fun o => o.idempotencyKey = some key) =
      (orders.find? fun o => o.idempotencyKey = some key).map f := by
  rw [List.find?_map]
  congr 2
  funext o
  simp [keeps]

@[simp] theorem Order.expire_idempotencyKey (orderIds : List ℕ) (o : Order) :
    (o.expire orderIds).idempotencyKey = o.idempotencyKey := by
  unfold expire
  split <;> rfl

@[simp] theorem Order.confirm_idempotencyKey (orderId : ℕ) (o : Order) :
    (o.confirm orderId).idempotencyKey = o.idempotencyKey := by
  unfold confirm
  split <;> rfl

/-- A committed key keeps its payload. -/
theorem Commit.payloadOf (committed : Commit lower catalog pg pg') (ids : pg.IdsDrawn)
    {key : String} {p : Payload} (held : pg.payloadOf lower key = some p) :
    pg'.payloadOf lower key = some p := by
  obtain ⟨o, found, rfl⟩ := Option.map_eq_some_iff.mp held
  have stored : o ∈ pg.orders := List.mem_of_find?_eq_some found
  have found : (pg.orders.find? fun o => o.idempotencyKey = some key) = some o := found
  have updated : ∀ (f : Order → Order) (orderIds : List ℕ) (status : TicketStatus),
      (∀ o, (f o).idempotencyKey = o.idempotencyKey) → (f o).id = o.id → (f o).userId = o.userId →
      (((pg.orders.map f).find? fun o => o.idempotencyKey = some key).map fun o' =>
        orderPayload lower o' ((pg.tickets.map (Ticket.fromHeld orderIds status)).filter
          fun t => t.orderId = o'.id)) = some (orderPayload lower o (pg.ticketsOf o.id)) := by
    intro f orderIds status keeps sameId sameUser
    rw [find?_key_map keeps, found, Option.map_some, Option.map_some, sameId,
      filter_key_map (Ticket.fromHeld_orderId _ _), orderPayload_fromHeld]
    rw [orderPayload, sameUser]
    rfl
  cases committed with
  | nothing => exact held
  | drawn => exact held
  | @created orderIn key' plan draw planned fresh rows =>
    have other : o.id ≠ draw.orderId := fun same => fresh (same ▸ ids.2 o stored)
    have tickets := congrArg OrderRows.tickets
      (rowsOf_created_other (pg.drawOrderId draw.orderId) orderIn key' plan draw other)
    have found' : ((pg.orders ++ [(newOrder orderIn key' plan draw).stored]).find?
        fun o => o.idempotencyKey = some key) = some o := by
      rw [List.find?_append, found, Option.some_or]
    rw [Postgres.payloadOf, Postgres.findByKey]
    exact (congrArg (Option.map _) found').trans
      (congrArg (fun ts => some (orderPayload lower o ts)) tickets)
  | @expired rows reason distinct pending =>
    refine updated (Order.expire (rows.map Prod.fst)) _ _ (Order.expire_idempotencyKey _)
      (o.expire_id _) ?_
    unfold Order.expire
    split <;> rfl
  | @confirmed order payment event =>
    refine updated (Order.confirm order.id) _ _ (Order.confirm_idempotencyKey _) (o.confirm_id _) ?_
    unfold Order.confirm
    split <;> rfl

end PayloadOf

/-! ## Concurrent calls with one key -/

/-- The order that the IntegrityError handler of call `i` is about to return. -/
def State.racedOrder (s : State) (i : ℕ) : Option (CreateCall × Order) :=
  match s.calls[i]? with
  | some (.create c) =>
    match c.pc with
    | .release [] (.integrity exc) =>
      ((racedKey c.idempotencyKey exc).bind s.dbs.pg.findByKey).map fun winning => (c, winning)
    | _ => none
  | _ => none

/-- An order found by the IntegrityError handler passes the check that the handler leaves out. -/
def RaceMatches (lower : String → String) (s : State) : Action → Prop
  | .step i _ _ => ∀ r ∈ s.racedOrder i,
      fingerprintAnswer lower r.2 (s.dbs.pg.ticketsOf r.2.id) r.1.orderIn = none
  | _ => True

instance (lower : String → String) (s : State) : (a : Action) → Decidable (RaceMatches lower s a)
  | .step i _ _ => inferInstanceAs (Decidable (∀ r ∈ s.racedOrder i,
      fingerprintAnswer lower r.2 (s.dbs.pg.ticketsOf r.2.id) r.1.orderIn = none))
  | .spawn _ | .crash _ => inferInstanceAs (Decidable True)

/-- The call has the key and is about to learn of a committed order with it: at its look-up, or
after it lost the race for the key. -/
def CreateCall.Meets (key : String) (c : CreateCall) : Prop :=
  truthyKey c.idempotencyKey = some key ∧
    (c.pc = .lookup ∨ ∃ held exc, c.pc = .release held (.integrity exc) ∧ exc.mentionsKey = true)

section Race

variable {cfg : Config} {dbs dbs' : Databases} {fault : Fault} {draw : Draw} {catalog : Catalog}

/-- A call that meets a committed order of another payload ends in a conflict. -/
theorem CreateStep.meets {c c' : CreateCall} {key : String} {p : Payload} (meets : c.Meets key)
    (held : dbs.pg.payloadOf cfg.lower key = some p)
    (differs : ¬ p.Same (c.orderIn.payload cfg.lower)) (up : fault.PgUp)
    (matching : ∀ exc key winning, c.pc = .release [] (.integrity exc) →
      racedKey c.idempotencyKey exc = some key → dbs.pg.findByKey key = some winning →
      fingerprintAnswer cfg.lower winning (dbs.pg.ticketsOf winning.id) c.orderIn = none)
    (moved : CreateStep cfg.lower dbs fault draw c dbs' c') :
    c'.orderIn = c.orderIn ∧
      (c'.Meets key ∨ ∃ answer, c'.pc = .done (.raised answer) ∧ answer.statusCode = 409) := by
  obtain ⟨truthy, position⟩ := meets
  obtain ⟨o, found, rfl⟩ := Option.map_eq_some_iff.mp held
  have refused : fingerprintAnswer cfg.lower o (dbs.pg.ticketsOf o.id) c.orderIn ≠ none := by
    intro none
    exact differs (fingerprintAnswer_eq_none_iff.mp none)
  rcases position with at_lookup | ⟨left, exc, at_release, mentions⟩
  · cases moved with
    | ends ended =>
      cases ended with
      | keyRefused at_pc truthy' found' refused' =>
        exact ⟨rfl, .inr ⟨_, rfl, fingerprintAnswer_statusCode refused'⟩⟩
      | keyReplayed at_pc truthy' found' matched =>
        cases truthy.symm.trans truthy'
        cases found.symm.trans found'
        exact absurd matched refused
      | keyUnread at_pc raised =>
        rw [raised] at up
        exact up.elim
      | invalid at_pc | compensated at_pc | raceLost at_pc | integrity at_pc
          | catalogUnread at_pc =>
        cases at_lookup.symm.trans at_pc
    | keyFree at_pc unused => cases (unused key truthy).symm.trans found
    | planned at_pc | reserved at_pc | soldOut at_pc | reserveRaised at_pc | committed at_pc
    | aborted at_pc | replyLost at_pc | gaveBack at_pc => cases at_lookup.symm.trans at_pc
  · have raced : racedKey c.idempotencyKey exc = some key := by
      rw [racedKey, if_pos mentions, truthy]
    cases moved with
    | ends ended =>
      cases ended with
      | raceLost at_pc raced' found' =>
        cases at_release.symm.trans at_pc
        cases raced.symm.trans raced'
        cases found.symm.trans found'
        exact absurd (matching _ _ _ at_pc raced found) refused
      | integrity at_pc noWinner =>
        cases at_release.symm.trans at_pc
        cases (noWinner key raced).symm.trans found
      | keyUnread at_pc raised =>
        rw [raised] at up
        exact up.elim
      | keyRefused at_pc | keyReplayed at_pc | invalid at_pc | compensated at_pc
      | catalogUnread at_pc => cases at_release.symm.trans at_pc
    | gaveBack at_pc =>
      cases at_release.symm.trans at_pc
      exact ⟨rfl, .inl ⟨truthy, .inr ⟨_, exc, rfl, mentions⟩⟩⟩
    | keyFree at_pc | planned at_pc | reserved at_pc | soldOut at_pc | reserveRaised at_pc
    | committed at_pc | aborted at_pc | replyLost at_pc => cases at_release.symm.trans at_pc

end Race

section Runs

variable {cfg : Config} {start s : State}

/-- The condition, for the call that is about to move. -/
theorem RaceMatches.matching {lower : String → String} {i : ℕ} {fault : Fault} {draw : Draw}
    {c : CreateCall} (allowed : RaceMatches lower s (.step i fault draw))
    (at_i : s.calls[i]? = some (.create c)) :
    ∀ exc key winning, c.pc = .release [] (.integrity exc) →
      racedKey c.idempotencyKey exc = some key → s.dbs.pg.findByKey key = some winning →
      fingerprintAnswer lower winning (s.dbs.pg.ticketsOf winning.id) c.orderIn = none := by
  intro exc key winning at_pc raced found
  refine allowed (c, winning) ?_
  simp [State.racedOrder, at_i, at_pc, raced, found]

/-- Two calls with one key pass the look-up before either commits; call 0 wins the key. -/
def keyRaceSchedule (second : OrderCreate) : List Action :=
  [.spawn (.createOrder Sample.order "k"), .spawn (.createOrder second "k")] ++
    Sample.advance 1 3 2 ++ Sample.advance 0 4 1 ++ Sample.advance 1 3 2

/-- The order that wins the key. -/
def wonOrder : Order := ⟨1, "ORD-1", 1, 10, .pending, "promptpay", some 600000000, "k", 0⟩

def wonTickets : List Ticket := [⟨1, Sample.oid.hex, "Floor", "A1", 10, .held⟩]

end Runs

end TicketBooking
