import TicketBooking.CommitOutcome
import TicketBooking.Replays

/-!
# Where the orders come from

Every row of `orders` was written by the transaction of one create call, which drew its id, and the
row has the key, the user and the seats of that call (`CreateCall.Booked`).  A call that answers
with an order answers with a row of its own key, written by itself or by another call.

* `booked_of_reachable`: the call behind every order.
* `answersRow_of_reachable`: the row behind every answer.
* `CreateCall.Dead`: nothing asked by the call can come true any more.
-/

namespace TicketBooking

open Fallible ListUpdate StepSystem

/-- The order is the one that the transaction of the call wrote, and it is what the call asks
for. -/
structure CreateCall.Booked (lower : String → String) (pg : Postgres) (c : CreateCall)
    (o : Order) : Prop where
  attempt : c.attempt = some o.id
  key : o.idempotencyKey = c.idempotencyKey
  same : c.orderIn.SameOrder lower o (pg.ticketsOf o.id)

/-- An answer with an order is an answer with a row of the call's key. -/
def CreateCall.AnswersRow (pg : Postgres) (c : CreateCall) : Prop :=
  ∀ o tickets, c.pc = .done (.created o tickets) ∨ c.pc = .done (.replayed o tickets) →
    ∃ o' ∈ pg.orders, o'.id = o.id ∧ o'.idempotencyKey = c.idempotencyKey

/-- The call has stopped, or has answered with an error. -/
def CreatePc.failed : CreatePc → Bool
  | .crashed | .done (.raised _) => true
  | _ => false

/-- The call has ended without an order, and has written none. -/
def CreateCall.Dead (pg : Postgres) (c : CreateCall) : Prop :=
  c.pc.failed = true ∧ ∀ orderId ∈ c.attempt, ∀ o ∈ pg.orders, o.id ≠ orderId

instance (pg : Postgres) (c : CreateCall) : Decidable (c.Dead pg) :=
  inferInstanceAs (Decidable (_ ∧ ∀ orderId ∈ c.attempt, ∀ o ∈ pg.orders, o.id ≠ orderId))

section Seats

variable {lower : String → String} {catalog : Catalog} {orderIn : OrderCreate}

theorem normaliseSeat_idem (raw : Option String) :
    normaliseSeat (normaliseSeat raw) = normaliseSeat raw := by
  cases seat : normaliseSeat raw with
  | none => rfl
  | some n =>
    obtain ⟨stripped, nonempty⟩ := normaliseSeat_eq_some seat
    have same : strip ((some n).getD "") = n := stripped
    rw [normaliseSeat, same]
    exact if_neg nonempty

/-- The tickets of a plan are the items of the request. -/
theorem planOrder_sameItems {plan : OrderPlan}
    (planned : planOrder lower catalog orderIn = .ok plan) (orderId : ℕ) :
    orderIn.SameItems lower ((plan.tickets orderId).map Ticket.stored) := by
  obtain ⟨validated, turns, items, -⟩ := planOrder_ok planned
  let booked : ValidatedItem → Option ObjectId × String × Option String :=
    fun v => bookedItem lower v.eventId v.seatZone v.seatNumber
  have requested : orderIn.items.map (TicketItemCreate.item lower) = validated.map booked := by
    refine map_eq_map_of_forall₂ turns fun i v validated => ?_
    obtain ⟨parsed, d, z, -, matched, same⟩ := validateItem_ok_iff.mp validated
    have sameKey : zoneKey lower z.name = zoneKey lower i.seatZone := by
      simpa using List.find?_some matched
    have event : ObjectId.ofString? v.eventId = ObjectId.ofString? i.eventId := by
      rw [parsed, ValidatedItem.eventId, ObjectId.ofString?_hex]
    have zone : zoneKey lower v.seatZone = zoneKey lower i.seatZone := by
      rw [← sameKey, same]
    have seat : normaliseSeat v.seatNumber = normaliseSeat i.seatNumber := by
      rw [same]
      exact normaliseSeat_idem i.seatNumber
    simp only [booked, TicketItemCreate.item, bookedItem, event, zone, seat]
  have stored : ((plan.tickets orderId).map Ticket.stored).map (Ticket.item lower) =
      plan.items.map booked := by
    rw [OrderPlan.tickets, List.map_map, List.map_map]
    rfl
  unfold OrderCreate.SameItems
  rw [stored, requested, items]
  exact (List.perm_insertionSort _ _).map booked

/-- What an order is the same as is seen in what identifies its tickets. -/
theorem OrderCreate.SameItems.of_places {tickets tickets' : List Ticket}
    (same : orderIn.SameItems lower tickets)
    (places : tickets'.map Ticket.place = tickets.map Ticket.place) :
    orderIn.SameItems lower tickets' := by
  let seen : String × String × Option String → Option ObjectId × String × Option String :=
    fun p => bookedItem lower p.1 p.2.1 p.2.2
  have byPlace : ∀ ts : List Ticket, ts.map (Ticket.item lower) = (ts.map Ticket.place).map seen :=
    fun ts => by rw [List.map_map]; rfl
  unfold OrderCreate.SameItems at same ⊢
  rw [byPlace, places, ← byPlace]
  exact same

end Seats

/-! ## One step -/

section Step

variable {cfg : Config} {catalog : Catalog} {pg pg' : Postgres} {dbs dbs' : Databases}
  {fault : Fault} {draw : Draw} {c c' : CreateCall} {o o' : Order}

/-- An order after a COMMIT is an order from before, or it has an id that was not drawn yet. -/
theorem Commit.old_or_new (committed : Commit cfg.lower catalog pg pg') (ids : pg.IdsDrawn)
    (stored : o' ∈ pg'.orders) :
    (∃ o ∈ pg.orders, pg'.StillHolds o ((pg.ticketsOf o.id).map Ticket.place) o') ∨
      o'.id ∉ pg.orderIdsDrawn := by
  by_cases known : o'.id ∈ pg.orders.map Order.id
  · obtain ⟨o, old, sameId⟩ := List.mem_map.mp known
    obtain ⟨o'', holds⟩ := committed.stillHolds ids
      (⟨old, rfl, rfl, rfl, rfl⟩ : pg.StillHolds o ((pg.ticketsOf o.id).map Ticket.place) o)
    obtain rfl : o'' = o' := eq_of_key_eq (committed.idsDrawn ids).1 holds.stored stored
      (holds.id.trans sameId)
    exact .inl ⟨o, old, holds⟩
  · refine .inr ?_
    cases committed with
    | nothing | drawn => exact absurd (List.mem_map_of_mem stored) known
    | @created orderIn key plan draw planned fresh rows =>
      rcases List.mem_append.mp stored with old | new
      · exact absurd (List.mem_map_of_mem old) known
      · rw [List.mem_singleton.mp new]
        exact fresh
    | expired =>
      obtain ⟨o, old, rfl⟩ := List.mem_map.mp stored
      rw [Order.expire_id] at known
      exact absurd (List.mem_map_of_mem old) known
    | confirmed =>
      obtain ⟨o, old, rfl⟩ := List.mem_map.mp stored
      rw [Order.confirm_id] at known
      exact absurd (List.mem_map_of_mem old) known

/-- A call keeps its request and its key, and its attempt once it has one. -/
theorem CreateStep.keeps_request (before : Call.Attempted dbs.pg (.create c))
    (moved : CreateStep cfg.lower dbs fault draw c dbs' c') :
    c'.orderIn = c.orderIn ∧ c'.idempotencyKey = c.idempotencyKey ∧
      ∀ orderId, c.attempt = some orderId → c'.attempt = some orderId := by
  obtain ⟨-, untried⟩ := before
  cases moved with
  | committed at_pc | aborted at_pc | replyLost at_pc =>
    refine ⟨rfl, rfl, fun orderId tried => ?_⟩
    cases tried.symm.trans (untried (.inr (.inr ⟨_, _, _, at_pc⟩)))
  | ends | keyFree | planned | reserved | soldOut | reserveRaised | gaveBack =>
    exact ⟨rfl, rfl, fun _ tried => tried⟩

/-- The order a step writes is the order of the call that makes the step. -/
theorem CreateStep.books (cycle : dbs.pg.LifeCycle) (planned : c.Planned cfg.lower catalog)
    (moved : CreateStep cfg.lower dbs fault draw c dbs' c') (stored : o ∈ dbs'.pg.orders)
    (new : o.id ∉ dbs.pg.orderIdsDrawn) : c'.Booked cfg.lower dbs'.pg o := by
  have known : o ∉ dbs.pg.orders := fun old => new (cycle.ids.2 o old)
  cases moved with
  | @committed plan held pg' at_pc fresh statements
  | @replyLost plan held exc pg' at_pc fresh _ statements =>
    obtain ⟨-, rfl⟩ := createTx_ok_iff.mp statements
    obtain ⟨valid, -⟩ := planned _ _ _ at_pc
    obtain rfl : o = (newOrder c.orderIn c.idempotencyKey plan draw).stored := by
      rcases List.mem_append.mp stored with old | own
      · exact absurd old known
      · exact List.mem_singleton.mp own
    have rows := rowsOf_created_self (dbs.pg.drawOrderId draw.orderId) c.orderIn c.idempotencyKey
      plan draw (cycle.undrawn draw.orderId fresh)
    have tickets := congrArg OrderRows.tickets rows
    refine ⟨rfl, rfl, rfl, ?_⟩
    exact (planOrder_sameItems valid draw.orderId).of_places
      (congrArg (List.map Ticket.place) tickets)
  | ends | keyFree | planned | reserved | soldOut | reserveRaised | aborted | gaveBack =>
    exact absurd stored known

theorem Postgres.expireHolds_ids (pg : Postgres) (rows : List (ℕ × String)) (reason : String) :
    (pg.expireHolds rows reason).orders.map Order.id = pg.orders.map Order.id := by
  rw [Postgres.expireHolds, List.map_map]
  exact List.map_congr_left fun o _ => o.expire_id _

/-- Payments and sweeps write no order. -/
theorem CallStep.writes_order {lockedElsewhere : List ℕ} {call call' : Call}
    (moved : CallStep cfg dbs lockedElsewhere fault draw call dbs' call')
    (stored : o ∈ dbs'.pg.orders) (new : o.id ∉ dbs.pg.orders.map Order.id) :
    ∃ c c', call = .create c ∧ call' = .create c' ∧
      CreateStep cfg.lower dbs fault draw c dbs' c' := by
  cases moved with
  | create moved => exact ⟨_, _, rfl, rfl, moved⟩
  | pay moved =>
    have ids : dbs'.pg.orders.map Order.id = dbs.pg.orders.map Order.id := by
      cases moved with
      | expired | expiredReplyLost => exact dbs.pg.expireHolds_ids _ _
      | @confirmed order pg' outcome at_pc decided statements =>
        obtain ⟨-, unpaid, event, paid, eventOf, rfl⟩ := confirmTx_ok statements
        rw [Postgres.confirmOrder, List.map_map]
        exact List.map_congr_left fun o _ => o.confirm_id _
      | locks | refused | releases | released => rfl
    exact absurd (ids ▸ List.mem_map_of_mem stored) new
  | sweep moved =>
    have ids : dbs'.pg.orders.map Order.id = dbs.pg.orders.map Order.id := by
      cases moved with
      | expired | expiredReplyLost => exact dbs.pg.expireHolds_ids _ _
      | claims | nothing | ended | releases | released => rfl
    exact absurd (ids ▸ List.mem_map_of_mem stored) new

/-- The order of a call keeps being its order. -/
theorem CreateCall.Booked.stillHolds (booked : c.Booked cfg.lower pg o)
    (holds : pg'.StillHolds o ((pg.ticketsOf o.id).map Ticket.place) o')
    (sameRequest : c'.orderIn = c.orderIn) (sameKey : c'.idempotencyKey = c.idempotencyKey)
    (sameAttempt : c'.attempt = some o.id) : c'.Booked cfg.lower pg' o' where
  attempt := by rw [sameAttempt, holds.id]
  key := by rw [holds.key, sameKey, booked.key]
  same := by
    rw [sameRequest]
    exact ⟨booked.same.1.trans holds.userId.symm, booked.same.2.of_places holds.places⟩

theorem Postgres.findByKey_some {key : String} (found : pg.findByKey key = some o) :
    o ∈ pg.orders ∧ o.idempotencyKey = some key :=
  ⟨List.mem_of_find?_eq_some found, by simpa using List.find?_some found⟩

theorem truthyKey_some {idempotencyKey : Option String} {key : String}
    (truthy : truthyKey idempotencyKey = some key) : idempotencyKey = some key :=
  (Option.filter_eq_some_iff.mp truthy).1

theorem racedKey_some {idempotencyKey : Option String} {exc : DbExc} {key : String}
    (raced : racedKey idempotencyKey exc = some key) : idempotencyKey = some key := by
  unfold racedKey at raced
  split at raced
  · exact truthyKey_some raced
  · cases raced

/-- The row behind an answer. -/
theorem CreateStep.answersRow (moved : CreateStep cfg.lower dbs fault draw c dbs' c') :
    c'.AnswersRow dbs'.pg := by
  intro o tickets answered
  cases moved with
  | ends ended =>
    cases ended with
    | keyReplayed at_pc truthy found =>
      rcases answered with at_pc' | at_pc'
      · cases at_pc'
      · cases at_pc'
        obtain ⟨stored, keyed⟩ := Postgres.findByKey_some found
        exact ⟨_, stored, rfl, keyed.trans (truthyKey_some truthy).symm⟩
    | raceLost at_pc raced found =>
      rcases answered with at_pc' | at_pc'
      · cases at_pc'
      · cases at_pc'
        obtain ⟨stored, keyed⟩ := Postgres.findByKey_some found
        exact ⟨_, stored, rfl, keyed.trans (racedKey_some raced).symm⟩
    | keyRefused | invalid | compensated | integrity | keyUnread | catalogUnread =>
      rcases answered with at_pc' | at_pc' <;> cases at_pc'
  | @committed plan held pg' at_pc fresh statements =>
    obtain ⟨-, rfl⟩ := createTx_ok_iff.mp statements
    rcases answered with at_pc' | at_pc'
    · cases at_pc'
      exact ⟨_, List.mem_append_right _ (List.mem_singleton_self _), rfl, rfl⟩
    · cases at_pc'
  | keyFree | planned | reserved | soldOut | reserveRaised | aborted | replyLost | gaveBack =>
    rcases answered with at_pc' | at_pc' <;> cases at_pc'

/-- An ended call without an order never gets one. -/
theorem CreateCall.Dead.mono (dead : c.Dead pg) (attempted : Call.Attempted pg (.create c))
    (committed : Commit cfg.lower catalog pg pg') (ids : pg.IdsDrawn) : c.Dead pg' := by
  obtain ⟨ended, none⟩ := dead
  refine ⟨ended, fun orderId tried o stored same => ?_⟩
  rcases committed.old_or_new ids stored with ⟨old, before, holds⟩ | new
  · exact none orderId tried old before (holds.id.symm.trans same)
  · exact new (same ▸ attempted.1 orderId tried)

end Step

/-! ## Over runs -/

section Runs

variable {cfg : Config} {ok : State → Action → Prop} {start s s' : State} {a : Action}

/-- What an action does to a create call. -/
theorem SystemStep.create_call {i : ℕ} {c : CreateCall} (at_i : s.calls[i]? = some (.create c))
    (attempted : Call.Attempted s.dbs.pg (.create c)) (moved : SystemStep cfg s a s') :
    ∃ c', s'.calls[i]? = some (.create c') ∧ c'.orderIn = c.orderIn ∧
      c'.idempotencyKey = c.idempotencyKey ∧
      (∀ orderId, c.attempt = some orderId → c'.attempt = some orderId) ∧
      (c' = c ∨ (c' = c.goto .crashed ∧ (Call.create c).ended = false) ∨ ∃ fault draw,
        CreateStep cfg.lower s.dbs fault draw c s'.dbs c') := by
  cases moved with
  | spawn request =>
    have inside := (List.getElem?_eq_some_iff.mp at_i).1
    exact ⟨c, by rw [List.getElem?_append_left inside]; exact at_i, rfl, rfl, fun _ => id, .inl rfl⟩
  | @call j fault draw call call' dbs' at_j called =>
    by_cases same : j = i
    · subst same
      cases at_i.symm.trans at_j
      cases called with
      | @create _ c' _ stepped =>
        obtain ⟨sameRequest, sameKey, tried⟩ := stepped.keeps_request attempted
        exact ⟨c', getElem?_set_self _ at_j, sameRequest, sameKey, tried,
          .inr (.inr ⟨fault, draw, stepped⟩)⟩
    · exact ⟨c, by rw [List.getElem?_set_ne same]; exact at_i, rfl, rfl, fun _ => id, .inl rfl⟩
  | @crash j call at_j running =>
    by_cases same : j = i
    · subst same
      cases at_i.symm.trans at_j
      exact ⟨c.goto .crashed, getElem?_set_self _ at_j, rfl, rfl, fun _ => id,
        .inr (.inl ⟨rfl, running⟩)⟩
    · exact ⟨c, by rw [List.getElem?_set_ne same]; exact at_i, rfl, rfl, fun _ => id, .inl rfl⟩

/-- Where a create call comes from: it was there, or it has just been started. -/
theorem SystemStep.create_before {i : ℕ} {c' : CreateCall} (attempted : ∀ (i : ℕ) call,
    s.calls[i]? = some call → call.Attempted s.dbs.pg) (moved : SystemStep cfg s a s')
    (at_i : s'.calls[i]? = some (.create c')) :
    (∃ c, s.calls[i]? = some (.create c) ∧ c'.idempotencyKey = c.idempotencyKey) ∨
      ∃ orderIn key, a = .spawn (.createOrder orderIn key) ∧ c' = .start orderIn key ∧
        i = s.calls.length := by
  have general : ∀ (i : ℕ) call', s'.calls[i]? = some call' → ∀ c', call' = .create c' →
      (∃ c, s.calls[i]? = some (.create c) ∧ c'.idempotencyKey = c.idempotencyKey) ∨
        ∃ orderIn key, a = .spawn (.createOrder orderIn key) ∧ c' = .start orderIn key ∧
          i = s.calls.length := by
    cases moved with
    | spawn request =>
      refine forall_getElem?_concat (fun j call at_j c same => ?_) (fun c same => ?_)
      · exact .inl ⟨c, same ▸ at_j, rfl⟩
      · cases request with
        | createOrder orderIn key =>
          cases same
          exact .inr ⟨orderIn, key, rfl, rfl, rfl⟩
        | processPayment | cleanup => cases same
    | @call j fault draw call call' dbs' at_j called =>
      refine forall_getElem?_set (fun j call _ at_j c same => ?_) (fun c same => ?_)
      · exact .inl ⟨c, same ▸ at_j, rfl⟩
      · subst same
        cases called with
        | @create c₀ _ _ stepped =>
          exact .inl ⟨c₀, at_j, (stepped.keeps_request (attempted j _ at_j)).2.1⟩
    | @crash j call at_j running =>
      refine forall_getElem?_set (fun j call _ at_j c same => ?_) (fun c same => ?_)
      · exact .inl ⟨c, same ▸ at_j, rfl⟩
      · cases call with
        | create c₀ =>
          cases same
          exact .inl ⟨c₀, at_j, rfl⟩
        | pay | sweep => cases same
  exact general i _ at_i c' rfl

/-- **Every order is the order of a call.** -/
theorem booked_of_reachable (fresh : start.Fresh) (reached : Reachable (step cfg) ok start s) :
    ∀ o ∈ s.dbs.pg.orders, ∃ (i : ℕ) (c : CreateCall), s.calls[i]? = some (.create c) ∧
      c.Booked cfg.lower s.dbs.pg o := by
  refine reached.invariant₂ (P := fun s => ∀ o ∈ s.dbs.pg.orders, ∃ (i : ℕ) (c : CreateCall),
    s.calls[i]? = some (.create c) ∧ c.Booked cfg.lower s.dbs.pg o) ?_ ?_
  · simp [fresh.2.1]
  intro s a s' before booked _ moved o stored
  have cycle := lifeCycle_of_reachable fresh before
  have committed := commit_of_step before fresh.1 fresh.idsDrawn moved
  rcases committed.old_or_new cycle.ids stored with ⟨old, inTable, holds⟩ | new
  · obtain ⟨i, c, at_i, own⟩ := booked old inTable
    have attempted := attempted_of_reachable fresh before i _ at_i
    obtain ⟨c', at_i', sameRequest, sameKey, tried, -⟩ :=
      (step_cases moved).create_call at_i attempted
    exact ⟨i, c', at_i', own.stillHolds holds sameRequest sameKey (tried _ own.attempt)⟩
  · have unknown : o.id ∉ s.dbs.pg.orders.map Order.id := by
      intro known
      obtain ⟨old, inTable, same⟩ := List.mem_map.mp known
      exact new (same ▸ cycle.ids.2 old inTable)
    cases step_cases moved with
    | spawn | crash => exact absurd (List.mem_map_of_mem stored) unknown
    | @call i fault draw call call' dbs' at_i called =>
      obtain ⟨c, c', rfl, rfl, stepped⟩ := called.writes_order stored unknown
      exact ⟨i, c', getElem?_set_self _ at_i,
        stepped.books cycle (planned_of_reachable before fresh.1 i _ at_i) stored new⟩

/-- **Every answer is a row of the call's key.** -/
theorem answersRow_of_reachable (fresh : start.Fresh) (reached : Reachable (step cfg) ok start s)
    {i : ℕ} {c : CreateCall} (at_i : s.calls[i]? = some (.create c)) : c.AnswersRow s.dbs.pg := by
  have general : ∀ (i : ℕ) call, s.calls[i]? = some call →
      ∀ c, call = .create c → c.AnswersRow s.dbs.pg := by
    refine forall_calls_of_reachable
      (Q := fun dbs call => ∀ c, call = .create c → c.AnswersRow dbs.pg) reached fresh.1 ?_ ?_ ?_
    · rintro dbs (_ | _ | _) c started o tickets (at_pc | at_pc)
      all_goals
        cases started
      all_goals cases at_pc
    · rintro dbs (c | c | c) before c' crashed o tickets (at_pc | at_pc)
      all_goals
        cases crashed
      all_goals cases at_pc
    · intro s i fault draw call dbs' call' before _ at_i answers moved
      have locked := rowsLocked_of_reachable before fresh.1 fresh.idsDrawn
      obtain ⟨committed, -⟩ := moved.commit (locked.current i call at_i)
        (planned_of_reachable before fresh.1 i call at_i)
      constructor
      · rintro c' rfl
        cases moved with
        | create stepped => exact stepped.answersRow
      · intro j other _ at_j c isCreate o tickets answered
        obtain ⟨row, stored, sameId, keyed⟩ := answers j other at_j c isCreate o tickets answered
        obtain ⟨row', holds⟩ := committed.stillHolds locked.ids
          (⟨stored, rfl, rfl, rfl, rfl⟩ : s.dbs.pg.StillHolds row
            ((s.dbs.pg.ticketsOf row.id).map Ticket.place) row)
        exact ⟨row', holds.stored, holds.id.trans sameId, holds.key.trans keyed⟩
  exact general i _ at_i c rfl

/-- A dead call stays dead. -/
theorem dead_of_step (fresh : start.Fresh) (reached : Reachable (step cfg) ok start s)
    (moved : step cfg s a = some s') {i : ℕ} {c : CreateCall}
    (at_i : s.calls[i]? = some (.create c)) (dead : c.Dead s.dbs.pg) :
    ∃ c', s'.calls[i]? = some (.create c') ∧ c'.Dead s'.dbs.pg := by
  have attempted := attempted_of_reachable fresh reached i _ at_i
  have ids := (rowsLocked_of_reachable reached fresh.1 fresh.idsDrawn).ids
  have later := dead.mono attempted (commit_of_step reached fresh.1 fresh.idsDrawn moved) ids
  obtain ⟨c', at_i', -, -, -, rfl | ⟨rfl, -⟩ | ⟨fault, draw, stepped⟩⟩ :=
    (step_cases moved).create_call at_i attempted
  · exact ⟨c', at_i', later⟩
  · exact ⟨_, at_i', rfl, later.2⟩
  · have failed := dead.1
    obtain ⟨alive, unanswered⟩ := stepped.running
    cases at_pc : c.pc with
    | crashed => exact absurd at_pc alive
    | done outcome => exact absurd at_pc (unanswered outcome)
    | lookup | readCatalog | reserve | release =>
      rw [at_pc] at failed
      cases failed

end Runs

end TicketBooking
