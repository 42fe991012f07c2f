import TicketBooking.LifeCycle

/-!
# Prices and totals

A total is summed before it is rounded to the column and returned without being read back, while the
ticket prices are rounded one by one.

* `State.confirms_iff`: alone, a payment confirms a pending order exactly when its amount is the
  stored total.  `quoted_total_payable_iff` says which quoted totals that makes payable.
* `order_totals_add_up_iff`: a schedule keeps the audit check `order_total_mismatch` empty exactly
  when the rounding errors of every order it commits cancel to less than half a cent.
-/

namespace TicketBooking

open Fallible ListUpdate Rounding StepSystem

/-! ## The prices of a request -/

/-- The catalog prices of the requested zones, in request order. -/
def OrderCreate.prices (lower : String → String) (catalog : Catalog) (orderIn : OrderCreate) :
    List ℚ :=
  orderIn.items.filterMap fun item =>
    (validateItem lower catalog item).toOption.map ValidatedItem.price

/-- The total of a request as `Decimal` adds it up. -/
def decimalSum (prices : List ℚ) : ℚ := prices.foldl decimalAdd 0

theorem decimalSum_nonneg {prices : List ℚ} (nonneg : ∀ p ∈ prices, 0 ≤ p) :
    0 ≤ decimalSum prices := by
  have general : ∀ (prices : List ℚ) (total : ℚ), (∀ p ∈ prices, 0 ≤ p) → 0 ≤ total →
      0 ≤ prices.foldl decimalAdd total := by
    intro prices
    induction prices with
    | nil => intro total _ nonneg; exact nonneg
    | cons p prices ih =>
      intro total each nonneg
      have first : 0 ≤ p := each p List.mem_cons_self
      exact ih _ (fun q mem => each q (List.mem_cons_of_mem p mem))
        (toDigits_nonneg 28 (add_nonneg nonneg first))
  exact general prices 0 nonneg le_rfl

section Prices

variable {lower : String → String} {catalog c : Catalog} {orderIn : OrderCreate} {plan : OrderPlan}

theorem OrderCreate.prices_eq {validated : List ValidatedItem}
    (turns : List.Forall₂ (fun i v => validateItem lower catalog i = .ok v) orderIn.items
      validated) :
    orderIn.prices lower catalog = validated.map ValidatedItem.price := by
  have general : ∀ {items : List TicketItemCreate} {validated : List ValidatedItem},
      List.Forall₂ (fun i v => validateItem lower catalog i = .ok v) items validated →
      items.filterMap (fun i => (validateItem lower catalog i).toOption.map ValidatedItem.price) =
        validated.map ValidatedItem.price := by
    intro items validated turns
    induction turns with
    | nil => rfl
    | @cons i v items validated first _ ih =>
      rw [List.filterMap_cons, first, List.map_cons, ← ih]
      rfl
  exact general turns

theorem planOrder_total (planned : planOrder lower catalog orderIn = .ok plan) :
    plan.totalAmount = decimalSum (orderIn.prices lower catalog) := by
  obtain ⟨validated, turns, -, total⟩ := planOrder_ok planned
  rw [total, orderIn.prices_eq turns]
  rfl

theorem planOrder_prices (planned : planOrder lower catalog orderIn = .ok plan) :
    (plan.items.map ValidatedItem.price).Perm (orderIn.prices lower catalog) := by
  obtain ⟨validated, turns, items, -⟩ := planOrder_ok planned
  rw [items, orderIn.prices_eq turns]
  exact (validated.perm_insertionSort _).map _

theorem OrderCreate.prices_listing (same : c.listing = catalog.listing) (orderIn : OrderCreate) :
    orderIn.prices lower c = orderIn.prices lower catalog := by
  have each : validateItem lower c = validateItem lower catalog :=
    funext (validateItem_listing same)
  rw [OrderCreate.prices, OrderCreate.prices, each]

/-- Every event is one that `create_event` inserted. -/
def Catalog.Created (c : Catalog) : Prop := ∀ d ∈ c.docs, ∃ eventIn id, d = createEvent eventIn id

/-- Prices are not negative. -/
theorem Catalog.Created.prices_nonneg (created : catalog.Created) (orderIn : OrderCreate) :
    ∀ p ∈ orderIn.prices lower catalog, 0 ≤ p := by
  intro p mem
  obtain ⟨item, -, priced⟩ := List.mem_filterMap.mp mem
  obtain ⟨v, valid, rfl⟩ := Option.map_eq_some_iff.mp priced
  have validated : validateItem lower catalog item = .ok v := by
    cases result : validateItem lower catalog item with
    | error => rw [result] at valid; cases valid
    | ok v' => rw [result] at valid; cases valid; rfl
  obtain ⟨z, found, samePrice, -⟩ := (validateItem_listed validated).zone
  obtain ⟨d, inCatalog, inDoc⟩ := Option.bind_eq_some_iff.mp found
  obtain ⟨eventIn, id, rfl⟩ := created d (catalog.mem_of_find? inCatalog)
  obtain ⟨schema, -, rfl⟩ := List.mem_map.mp (List.mem_of_find?_eq_some inDoc)
  rw [← samePrice]
  exact schema.price_nonneg

end Prices

/-! ## Paying alone -/

/-- A payment with this body passes validation and, alone from `s`, confirms the order. -/
def State.Confirms (cfg : Config) (s : State) (orderId : ℕ) (body : PaymentBody) (draw : Draw) :
    Prop :=
  ∃ (accepted : body.Accepted) (s' : State) (payment : Payment),
    run (step cfg) s [.spawn (.processPayment orderId ⟨body, accepted⟩),
      .step s.calls.length .none draw, .step s.calls.length .none draw] = some s' ∧
    s'.calls[s.calls.length]? = some (.pay ⟨orderId, ⟨body, accepted⟩, .done (.ok payment)⟩) ∧
    ∃ o ∈ s'.dbs.pg.orders, o.id = orderId ∧ o.status = .confirmed

section Paying

variable {cfg : Config} {s : State} {dbs : Databases} {lockedElsewhere : List ℕ} {draw : Draw}
  {o : Order}

theorem PayCall.step_lock (found : dbs.pg.findOrder o.id = some o) (free : o.id ∉ lockedElsewhere)
    (paymentIn : PaymentCreate) :
    (PayCall.start o.id paymentIn).step dbs lockedElsewhere .none draw =
      some (dbs, ⟨o.id, paymentIn, .locked o⟩) := by
  simp only [step, start, found, if_neg free, goto]

/-- **A payment confirms a pending order in time exactly when its amount is the stored total** and
its reference can be stored. -/
theorem State.confirms_iff (cycle : s.dbs.pg.LifeCycle) (stored : o ∈ s.dbs.pg.orders)
    (pending : o.status = .pending) (inTime : o.expiresAt.any (· < draw.now) = false)
    (unlocked : ∀ call ∈ s.calls, o.id ∉ call.locks) (body : PaymentBody) :
    s.Confirms cfg o.id body draw ↔ body.Accepted ∧ body.amount = o.totalAmount ∧
      FitsVarchar 128 (body.providerTxId.getD "") := by
  have found : s.dbs.pg.findOrder o.id = some o := find?_key_of_mem cycle.ids.1 stored
  have free : o.id ∉ s.calls.flatMap Call.locks := fun held => by
    obtain ⟨call, mem, locked⟩ := List.mem_flatMap.mp held
    exact unlocked call mem locked
  have runs : ∀ accepted : body.Accepted,
      run (step cfg) s [.spawn (.processPayment o.id ⟨body, accepted⟩),
        .step s.calls.length .none draw, .step s.calls.length .none draw] =
      (PayCall.step s.dbs (s.calls.flatMap Call.locks) .none draw
        ⟨o.id, ⟨body, accepted⟩, .locked o⟩).map fun r => ⟨r.1, s.calls ++ [.pay r.2]⟩ := by
    intro accepted
    have locks : (PayCall.start o.id ⟨body, accepted⟩).step s.dbs (s.calls.flatMap Call.locks) .none
        draw = some (s.dbs, ⟨o.id, ⟨body, accepted⟩, .locked o⟩) :=
      PayCall.step_lock found free ⟨body, accepted⟩
    simp only [run_cons, run_nil]
    rw [show step cfg s (.spawn (.processPayment o.id ⟨body, accepted⟩)) =
      some ⟨s.dbs, s.calls ++ [.pay (.start o.id ⟨body, accepted⟩)]⟩ from rfl, Option.bind_some,
      step_concat, Call.step, locks, Option.map_some, Option.map_some, Option.bind_some,
      step_concat, Call.step]
    cases PayCall.step s.dbs (s.calls.flatMap Call.locks) .none draw
      ⟨o.id, ⟨body, accepted⟩, .locked o⟩ <;> rfl
  constructor
  · rintro ⟨accepted, s', payment, ran, answered, -⟩
    refine ⟨accepted, ?_⟩
    rw [runs accepted] at ran
    obtain ⟨⟨dbs', c'⟩, moved, rfl⟩ := Option.map_eq_some_iff.mp ran
    rw [List.getElem?_concat_length] at answered
    cases answered
    generalize at_c : (⟨o.id, ⟨body, accepted⟩, .locked o⟩ : PayCall) = c at moved
    generalize at_c' : (⟨o.id, ⟨body, accepted⟩, .done (.ok payment)⟩ : PayCall) = c' at moved
    cases PayCall.step_cases moved with
    | @confirmed order pg' outcome at_pc decided statements =>
      subst at_c
      cases at_pc
      exact ⟨(paymentDecision_confirm.mp decided).2.2, (confirmTx_ok statements).1⟩
    | locks | refused | expired | expiredReplyLost | releases | released =>
      cases congrArg PayCall.pc at_c'
  · rintro ⟨accepted, sameAmount, fits⟩
    obtain ⟨ts, created, rows, -⟩ := cycle.held_of_pending stored pending
    have unpaid : ∀ q ∈ s.dbs.pg.payments, q.orderId ≠ o.id := by
      intro q mem same
      have paid : q ∈ (s.dbs.pg.rowsOf o.id).payments :=
        List.mem_filter.mpr ⟨mem, by simpa using same⟩
      rw [rows] at paid
      exact List.not_mem_nil paid
    obtain ⟨pg', commits, inTable⟩ : ∃ pg', confirmTx s.dbs.pg o ⟨body, accepted⟩ draw = .ok pg' ∧
        o.confirm o.id ∈ pg'.orders := by
      obtain ⟨event, commits⟩ := confirmTx_of_unpaid unpaid
        (show FitsVarchar 128 ((⟨body, accepted⟩ : PaymentCreate).providerTxId.getD "") from fits)
        draw
      exact ⟨_, commits, List.mem_map_of_mem stored⟩
    have decided : paymentDecision o draw.now body.amount = .confirm :=
      paymentDecision_confirm.mpr ⟨pending, inTime, sameAmount⟩
    have moved : PayCall.step s.dbs (s.calls.flatMap Call.locks) .none draw
        ⟨o.id, ⟨body, accepted⟩, .locked o⟩ = some (⟨pg', s.dbs.mongo⟩, ⟨o.id, ⟨body, accepted⟩,
          .done (.ok (newPayment o ⟨body, accepted⟩ draw))⟩) := by
      simp only [PayCall.step, decided, commits, Postgres.transact, PayCall.goto]
    refine ⟨accepted, _, newPayment o ⟨body, accepted⟩ draw,
      (runs accepted).trans (congrArg (Option.map _) moved), List.getElem?_concat_length,
      _, inTable, o.confirm_id o.id, ?_⟩
    rw [Order.confirm, if_pos rfl]

end Paying

/-! ## The total a client was quoted -/

/-- Every stored total is a value of its column. -/
def Postgres.TotalsRounded (pg : Postgres) : Prop :=
  ∀ o ∈ pg.orders, numeric o.totalAmount = o.totalAmount

/-- The order is in the table, with its total rounded. -/
def Postgres.Stores (pg : Postgres) (order : Order) : Prop :=
  ∃ o ∈ pg.orders, o.id = order.id ∧ o.totalAmount = numeric order.totalAmount

@[simp] theorem Order.confirm_totalAmount (orderId : ℕ) (o : Order) :
    (o.confirm orderId).totalAmount = o.totalAmount := by
  unfold confirm
  split <;> rfl

@[simp] theorem Order.expire_totalAmount (orderIds : List ℕ) (o : Order) :
    (o.expire orderIds).totalAmount = o.totalAmount := by
  unfold expire
  split <;> rfl

section Quoted

variable {lower : String → String} {catalog : Catalog} {pg pg' : Postgres}

theorem Commit.totalsRounded (committed : Commit lower catalog pg pg')
    (rounded : pg.TotalsRounded) : pg'.TotalsRounded := by
  cases committed with
  | nothing | drawn => exact rounded
  | created =>
    intro o mem
    rcases List.mem_append.mp mem with old | new
    · exact rounded o old
    · rw [List.mem_singleton.mp new]
      exact toPlaces_toPlaces 2 _
  | expired | confirmed =>
    intro o mem
    obtain ⟨old, stored, rfl⟩ := List.mem_map.mp mem
    simpa using rounded old stored

theorem Commit.stores (committed : Commit lower catalog pg pg') {order : Order}
    (stores : pg.Stores order) : pg'.Stores order := by
  obtain ⟨o, stored, sameId, total⟩ := stores
  cases committed with
  | nothing | drawn => exact ⟨o, stored, sameId, total⟩
  | created => exact ⟨o, List.mem_append_left _ stored, sameId, total⟩
  | expired | confirmed =>
    exact ⟨_, List.mem_map_of_mem stored, by simpa using sameId, by simpa using total⟩

variable {cfg : Config} {ok : State → Action → Prop} {start s : State}

theorem totalsRounded_of_reachable (fresh : start.Fresh)
    (reached : Reachable (step cfg) ok start s) : s.dbs.pg.TotalsRounded := by
  refine pg_invariant reached fresh.1 fresh.idsDrawn ?_ fun _ _ rounded committed =>
    committed.totalsRounded rounded
  obtain ⟨-, noOrders, -⟩ := fresh
  simp [Postgres.TotalsRounded, noOrders]

/-- The returned order is stored; a new one has the catalog total of its request. -/
def Call.Quoted (lower : String → String) (catalog : Catalog) (pg : Postgres) : Call → Prop
  | .create c => ∀ order tickets,
      (c.pc = .done (.created order tickets) → pg.Stores order ∧
        order.totalAmount = decimalSum (c.orderIn.prices lower catalog)) ∧
      (c.pc = .done (.replayed order tickets) → pg.Stores order ∧
        numeric order.totalAmount = order.totalAmount)
  | _ => True

theorem CreateStep.quoted {dbs dbs' : Databases} {fault : Fault} {draw : Draw} {c c' : CreateCall}
    (rounded : dbs.pg.TotalsRounded) (planned : c.Planned cfg.lower catalog)
    (moved : CreateStep cfg.lower dbs fault draw c dbs' c') :
    Call.Quoted cfg.lower catalog dbs'.pg (.create c') := by
  have replays : ∀ {key existing}, dbs.pg.findByKey key = some existing →
      dbs.pg.Stores existing ∧ numeric existing.totalAmount = existing.totalAmount := by
    intro key existing found
    have stored : existing ∈ dbs.pg.orders := List.mem_of_find?_eq_some found
    exact ⟨⟨existing, stored, rfl, (rounded existing stored).symm⟩, rounded existing stored⟩
  intro order tickets
  cases moved with
  | ends ended =>
    cases ended with
    | keyReplayed _ _ found | raceLost _ _ found =>
      refine ⟨nofun, fun at_pc => ?_⟩
      cases at_pc
      exact replays found
    | keyRefused | invalid | compensated | integrity | keyUnread | catalogUnread =>
      exact ⟨nofun, nofun⟩
  | @committed plan held pg' at_pc fresh statements =>
    refine ⟨fun at_pc' => ?_, nofun⟩
    cases at_pc'
    obtain ⟨-, rfl⟩ := createTx_ok_iff.mp statements
    obtain ⟨valid, -⟩ := planned _ _ _ at_pc
    exact ⟨⟨_, List.mem_append_right _ (List.mem_singleton_self _), rfl, rfl⟩,
      planOrder_total valid⟩
  | keyFree | planned | reserved | soldOut | reserveRaised | aborted | replyLost | gaveBack =>
    exact ⟨nofun, nofun⟩

theorem quoted_of_reachable (fresh : start.Fresh) (reached : Reachable (step cfg) ok start s) :
    ∀ (i : ℕ) call, s.calls[i]? = some call →
      call.Quoted cfg.lower start.dbs.mongo s.dbs.pg := by
  refine forall_calls_of_reachable
    (Q := fun dbs call => call.Quoted cfg.lower start.dbs.mongo dbs.pg) reached fresh.1 ?_ ?_ ?_
  · rintro _ (_ | _ | _)
    · exact fun order tickets => ⟨nofun, nofun⟩
    · trivial
    · trivial
  · rintro _ (c | c | c) _
    · exact fun order tickets => ⟨nofun, nofun⟩
    · trivial
    · trivial
  · intro s i fault draw call dbs' call' before _ at_i quoted moved
    have planned := planned_of_reachable before fresh.1
    have locked := rowsLocked_of_reachable before fresh.1 fresh.idsDrawn
    obtain ⟨committed, -⟩ := moved.commit (locked.current i call at_i) (planned i call at_i)
    constructor
    · cases moved with
      | create moved =>
        exact moved.quoted (totalsRounded_of_reachable fresh before) (planned i _ at_i)
      | pay | sweep => trivial
    · intro j other _ at_j
      have old := quoted j other at_j
      cases other with
      | create c =>
        intro order tickets
        obtain ⟨new, replay⟩ := old order tickets
        exact ⟨fun at_pc => ⟨committed.stores (new at_pc).1, (new at_pc).2⟩,
          fun at_pc => ⟨committed.stores (replay at_pc).1, (replay at_pc).2⟩⟩
      | pay | sweep => trivial

/-- **Which quoted totals can be paid.**  The client sends back the total that its call returned,
the order being pending, in time and not locked by another call.  The total of a new order is
confirmed exactly when it is positive and has no more than two decimals; the total of a replayed
order exactly when it is positive.  Whatever the total, the reference must have no NUL. -/
theorem quoted_total_payable_iff (fresh : start.Fresh) (reached : Reachable (step cfg) ok start s)
    {i : ℕ} {c : CreateCall} (at_i : s.calls[i]? = some (.create c)) {order o : Order}
    (stored : o ∈ s.dbs.pg.orders) (sameId : o.id = order.id) (pending : o.status = .pending)
    (unlocked : ∀ call ∈ s.calls, o.id ∉ call.locks) {draw : Draw}
    (inTime : o.expiresAt.any (· < draw.now) = false) {provider : String}
    {providerTxId : Option String} (provided : PaymentBody.Accepted ⟨1, provider, providerTxId⟩)
    (tickets : List Ticket) :
    (c.pc = .done (.created order tickets) →
      (s.Confirms cfg order.id ⟨order.totalAmount, provider, providerTxId⟩ draw ↔
        0 < decimalSum (c.orderIn.prices cfg.lower start.dbs.mongo) ∧
        OnGrid 2 (decimalSum (c.orderIn.prices cfg.lower start.dbs.mongo)) ∧
        FitsVarchar 128 (providerTxId.getD ""))) ∧
    (c.pc = .done (.replayed order tickets) →
      (s.Confirms cfg order.id ⟨order.totalAmount, provider, providerTxId⟩ draw ↔
        0 < o.totalAmount ∧ FitsVarchar 128 (providerTxId.getD ""))) := by
  have cycle := lifeCycle_of_reachable fresh reached
  obtain ⟨-, known, short⟩ := provided
  obtain ⟨new, replay⟩ := quoted_of_reachable fresh reached i _ at_i order tickets
  have total : s.dbs.pg.Stores order → o.totalAmount = numeric order.totalAmount := by
    rintro ⟨o', stored', sameId', total⟩
    rw [eq_of_key_eq cycle.ids.1 stored stored' (sameId.trans sameId'.symm)]
    exact total
  have confirms : s.Confirms cfg o.id ⟨order.totalAmount, provider, providerTxId⟩ draw ↔ _ :=
    State.confirms_iff cycle stored pending inTime unlocked _
  rw [sameId] at confirms
  rw [confirms]
  constructor
  · intro at_pc
    obtain ⟨stores, quoted⟩ := new at_pc
    rw [← quoted, ← toPlaces_eq_self_iff, total stores]
    exact ⟨fun ⟨accepted, same, fits⟩ => ⟨accepted.1, same.symm, fits⟩,
      fun ⟨positive, same, fits⟩ => ⟨⟨positive, known, short⟩, same.symm, fits⟩⟩
  · intro at_pc
    obtain ⟨stores, rounded⟩ := replay at_pc
    rw [total stores, rounded]
    exact ⟨fun ⟨accepted, _, fits⟩ => ⟨accepted.1, fits⟩,
      fun ⟨positive, fits⟩ => ⟨⟨positive, known, short⟩, rfl, fits⟩⟩

end Quoted

theorem quoted_ten_payable :
    ∃ s, run (step Sample.cfg) (Sample.start Sample.floor)
        (.spawn (.createOrder Sample.order none) :: Sample.advance 0 4 1) = some s ∧
      s.Confirms Sample.cfg 1 ⟨10, "promptpay", none⟩ (Sample.draw 1) := by
  have ended : (checkedRun (step Sample.cfg) (fun _ _ => True) (Sample.start Sample.floor)
      (.spawn (.createOrder Sample.order none) :: Sample.advance 0 4 1)).map
        (fun s => (s.calls, s.dbs.pg.orders)) =
      some ([.create ⟨Sample.order, none, some 1, .done (.created
        (newOrder Sample.order none (Sample.plan Sample.floor) (Sample.draw 1))
        ((Sample.plan Sample.floor).tickets 1))⟩],
        [newOrder Sample.order none (Sample.plan Sample.floor) (Sample.draw 1)]) := by
    decide +kernel
  obtain ⟨s, ran, reached⟩ := Option.map_eq_some_iff.mp ended
  simp only [Prod.mk.injEq] at reached
  obtain ⟨calls, orders⟩ := reached
  refine ⟨s, run_of_checkedRun ran, ?_⟩
  refine ((quoted_total_payable_iff (Sample.fresh Sample.floor) (reachable_of_checkedRun ran)
    (i := 0) (by rw [calls]; rfl) (by rw [orders]; exact List.mem_singleton_self _) rfl rfl ?_ ?_ ?_
    ((Sample.plan Sample.floor).tickets 1)).1 rfl).mpr ⟨?_, ⟨1000, by decide +kernel⟩, ?_⟩
  · simp [calls, Call.locks]
  · decide +kernel
  · decide +kernel
  · decide +kernel
  · decide

/-- **A quoted total that cannot be paid**: the client is told 10.005 and the table holds 10.01. -/
theorem quoted_odd_total_refused :
    (run (step Sample.cfg) (Sample.start Sample.oddPrice)
      (.spawn (.createOrder Sample.order none) :: Sample.advance 0 4 1 ++
        .spawn (.processPayment 1 (Sample.payment (2001 / 200) (by decide +kernel))) ::
          Sample.advance 1 2 1)).map (fun s => s.calls) =
      some [.create ⟨Sample.order, none, some 1, .done (.created
          (newOrder Sample.order none (Sample.plan Sample.oddPrice) (Sample.draw 1))
          ((Sample.plan Sample.oddPrice).tickets 1))⟩,
        .pay ⟨1, Sample.payment (2001 / 200) (by decide +kernel),
          .done (.error ⟨400, .amountMismatch (2001 / 200) (1001 / 100), none⟩)⟩] ∧
      (newOrder Sample.order none (Sample.plan Sample.oddPrice) (Sample.draw 1)).totalAmount =
        2001 / 200 :=
  ⟨by decide +kernel, rfl⟩

/-! ## Totals in the table -/

/-- The audit check `order_total_mismatch`. -/
def Postgres.orderTotalMismatch (pg : Postgres) : List Order :=
  pg.orders.filter fun o => o.totalAmount ≠ ((pg.ticketsOf o.id).map Ticket.price).sum

/-- The rounding errors of the prices, less that of the total, cancel to less than half a cent. -/
def RoundTogether (prices : List ℚ) : Prop :=
  -(1 / 200) < (prices.map numeric).sum - decimalSum prices ∧
    (prices.map numeric).sum - decimalSum prices ≤ 1 / 200

instance (prices : List ℚ) : Decidable (RoundTogether prices) :=
  inferInstanceAs (Decidable (_ ∧ _))

theorem numeric_decimalSum_eq_iff {prices : List ℚ} (nonneg : ∀ p ∈ prices, 0 ≤ p) :
    numeric (decimalSum prices) = (prices.map numeric).sum ↔ RoundTogether prices := by
  have grid : OnGrid 2 (prices.map numeric).sum := by
    refine OnGrid.sum fun x mem => ?_
    obtain ⟨p, -, rfl⟩ := List.mem_map.mp mem
    exact toPlaces_onGrid 2 p
  have halfCent : (1 : ℚ) / 2 / 10 ^ 2 = 1 / 200 := by norm_num
  rw [numeric, toPlaces_eq_iff (decimalSum_nonneg nonneg) grid, halfCent, RoundTogether]

/-- The server applies the COMMIT of the step. -/
def Fault.Applies : Fault → Prop
  | .pgRaised _ committed => committed = true
  | _ => True

instance : (fault : Fault) → Decidable fault.Applies
  | .pgRaised _ committed => inferInstanceAs (Decidable (committed = true))
  | .none | .mongoRaised _ _ => inferInstanceAs (Decidable True)

theorem Fault.PgUp.applies {fault : Fault} (up : fault.PgUp) : fault.Applies := by
  cases fault with
  | pgRaised => exact up.elim
  | none | mongoRaised => trivial

/-- When the action commits an order, the catalog prices of its request round together. -/
def CommitsRoundTogether (lower : String → String) (s : State) : Action → Prop
  | .step i fault draw =>
    ∀ r ∈ s.committing i, fault.Applies → (createTx (s.dbs.pg.drawOrderId draw.orderId) r.1.orderIn
      r.1.idempotencyKey r.2 draw).toOption.isSome →
      RoundTogether (r.1.orderIn.prices lower s.dbs.mongo)
  | _ => True

instance (lower : String → String) (s : State) : (a : Action) →
    Decidable (CommitsRoundTogether lower s a)
  | .step i fault draw => inferInstanceAs (Decidable (∀ r ∈ s.committing i, fault.Applies →
      (createTx (s.dbs.pg.drawOrderId draw.orderId) r.1.orderIn r.1.idempotencyKey r.2
        draw).toOption.isSome → RoundTogether (r.1.orderIn.prices lower s.dbs.mongo)))
  | .spawn _ | .crash _ => inferInstanceAs (Decidable True)

section Totals

variable {pg : Postgres}

theorem Postgres.orderTotalMismatch_eq_nil_iff : pg.orderTotalMismatch = [] ↔
    ∀ o ∈ pg.orders, o.totalAmount = ((pg.ticketsOf o.id).map Ticket.price).sum := by
  simp [orderTotalMismatch, List.filter_eq_nil_iff]

/-- Updates of the status of orders and tickets do not change the audit. -/
theorem Postgres.audit_of_update {pg' : Postgres} {f : Order → Order} {g : Ticket → Ticket}
    (orders : pg'.orders = pg.orders.map f) (tickets : pg'.tickets = pg.tickets.map g)
    (keepsId : ∀ o, (f o).id = o.id) (keepsTotal : ∀ o, (f o).totalAmount = o.totalAmount)
    (keepsOrder : ∀ t, (g t).orderId = t.orderId) (keepsPrice : ∀ t, (g t).price = t.price)
    (clean : pg.orderTotalMismatch = []) : pg'.orderTotalMismatch = [] := by
  rw [orderTotalMismatch_eq_nil_iff] at clean ⊢
  intro o mem
  rw [orders] at mem
  obtain ⟨old, stored, rfl⟩ := List.mem_map.mp mem
  have prices : ((pg'.ticketsOf old.id).map Ticket.price) =
      (pg.ticketsOf old.id).map Ticket.price := by
    rw [ticketsOf, tickets, filter_key_map keepsOrder, List.map_map]
    exact List.map_congr_left fun t _ => keepsPrice t
  rw [keepsTotal, keepsId, prices]
  exact clean old stored

theorem Ticket.fromHeld_price (orderIds : List ℕ) (status : TicketStatus) (t : Ticket) :
    (t.fromHeld orderIds status).price = t.price := by
  unfold fromHeld
  split <;> rfl

theorem Postgres.audit_expireHolds (rows : List (ℕ × String)) (reason : String)
    (clean : pg.orderTotalMismatch = []) : (pg.expireHolds rows reason).orderTotalMismatch = [] :=
  audit_of_update rfl rfl (Order.expire_id _) (Order.expire_totalAmount _)
    (Ticket.fromHeld_orderId _ _) (Ticket.fromHeld_price _ _) clean

theorem Postgres.audit_confirmOrder (orderId : ℕ) (event : OutboxEvent)
    (clean : pg.orderTotalMismatch = []) :
    (pg.confirmOrder orderId event).orderTotalMismatch = [] :=
  audit_of_update rfl rfl (Order.confirm_id _) (Order.confirm_totalAmount _)
    (Ticket.fromHeld_orderId _ _) (Ticket.fromHeld_price _ _) clean

/-- After a create transaction the audit is clean when it was and the new rows add up. -/
theorem Postgres.audit_created (cycle : pg.LifeCycle) {orderIn : OrderCreate} {key : Option String}
    {plan : OrderPlan} {draw : Draw} (fresh : draw.orderId ∉ pg.orderIdsDrawn) :
    ((pg.drawOrderId draw.orderId).created orderIn key plan draw).orderTotalMismatch = [] ↔
      pg.orderTotalMismatch = [] ∧
      numeric plan.totalAmount = (plan.items.map fun v => numeric v.price).sum := by
  have others : ∀ o ∈ pg.orders,
      ((pg.drawOrderId draw.orderId).created orderIn key plan draw).ticketsOf o.id =
        pg.ticketsOf o.id := by
    intro o stored
    have other : o.id ≠ draw.orderId := fun same => fresh (same ▸ cycle.ids.2 o stored)
    exact congrArg OrderRows.tickets
      (rowsOf_created_other (pg.drawOrderId draw.orderId) orderIn key plan draw other)
  have own : ((pg.drawOrderId draw.orderId).created orderIn key plan draw).ticketsOf draw.orderId =
      (plan.tickets draw.orderId).map Ticket.stored :=
    congrArg OrderRows.tickets (rowsOf_created_self
      (pg.drawOrderId draw.orderId) orderIn key plan draw (cycle.undrawn draw.orderId fresh))
  have prices : (((plan.tickets draw.orderId).map Ticket.stored).map Ticket.price) =
      plan.items.map fun v => numeric v.price := by
    rw [OrderPlan.tickets, List.map_map, List.map_map]
    rfl
  rw [orderTotalMismatch_eq_nil_iff, orderTotalMismatch_eq_nil_iff]
  constructor
  · intro clean
    refine ⟨fun o stored => ?_, ?_⟩
    · rw [clean o (List.mem_append_left _ stored), others o stored]
    · have new := clean _ (List.mem_append_right _ (List.mem_singleton_self _))
      rw [Order.stored_id, newOrder, own, prices] at new
      exact new
  · rintro ⟨clean, new⟩ o mem
    rcases List.mem_append.mp mem with old | last
    · rw [others o old]
      exact clean o old
    · rw [List.mem_singleton.mp last, Order.stored_id, newOrder, own, prices]
      exact new

/-- The audit after the transaction of a planned request. -/
theorem Postgres.audit_planned (cycle : pg.LifeCycle) {lower : String → String} {catalog : Catalog}
    (created : catalog.Created) {orderIn : OrderCreate} {key : Option String} {plan : OrderPlan}
    (planned : planOrder lower catalog orderIn = .ok plan) {draw : Draw}
    (fresh : draw.orderId ∉ pg.orderIdsDrawn) :
    ((pg.drawOrderId draw.orderId).created orderIn key plan draw).orderTotalMismatch = [] ↔
      pg.orderTotalMismatch = [] ∧ RoundTogether (orderIn.prices lower catalog) := by
  have sums : (plan.items.map fun v => numeric v.price).sum =
      ((orderIn.prices lower catalog).map numeric).sum := by
    have perm := (planOrder_prices planned).map numeric
    rw [List.map_map] at perm
    exact perm.sum_eq
  rw [audit_created cycle fresh, planOrder_total planned, sums,
    numeric_decimalSum_eq_iff (created.prices_nonneg orderIn)]

variable {cfg : Config} {start s s' : State} {a : Action}

/-- A payment or a sweep keeps the audit clean. -/
theorem PayStep.audit {dbs dbs' : Databases} {lockedElsewhere : List ℕ} {fault : Fault}
    {draw : Draw} {c c' : PayCall} (moved : PayStep dbs lockedElsewhere fault draw c dbs' c')
    (clean : dbs.pg.orderTotalMismatch = []) : dbs'.pg.orderTotalMismatch = [] := by
  cases moved with
  | expired | expiredReplyLost => exact Postgres.audit_expireHolds _ _ clean
  | confirmed at_pc decided statements =>
    obtain ⟨-, -, event, -, -, rfl⟩ := confirmTx_ok statements
    refine Postgres.audit_confirmOrder _ event ?_
    rwa [Postgres.orderTotalMismatch_eq_nil_iff] at clean ⊢
  | locks | refused | releases | released => exact clean

theorem SweepStep.audit {dbs dbs' : Databases} {lockedElsewhere : List ℕ} {fault : Fault}
    {draw : Draw} {c c' : SweepCall} (moved : SweepStep dbs lockedElsewhere fault draw c dbs' c')
    (clean : dbs.pg.orderTotalMismatch = []) : dbs'.pg.orderTotalMismatch = [] := by
  cases moved with
  | expired | expiredReplyLost => exact Postgres.audit_expireHolds _ _ clean
  | claims | nothing | ended | releases | released => exact clean

/-- A step that meets the condition keeps the audit clean. -/
theorem audit_step (fresh : start.Fresh) (created : start.dbs.mongo.Created)
    (reached : Reachable (step cfg) (fun _ _ => True) start s)
    (clean : s.dbs.pg.orderTotalMismatch = []) (allowed : CommitsRoundTogether cfg.lower s a)
    (moved : step cfg s a = some s') : s'.dbs.pg.orderTotalMismatch = [] := by
  have cycle := lifeCycle_of_reachable fresh reached
  have same := listing_of_reachable reached
  have commits : ∀ {i fault draw c plan held pg'}, s.calls[i]? = some (.create c) →
      c.pc = .reserve plan held [] → draw.orderId ∉ s.dbs.pg.orderIdsDrawn →
      createTx (s.dbs.pg.drawOrderId draw.orderId) c.orderIn c.idempotencyKey plan draw = .ok pg' →
      Fault.Applies fault → CommitsRoundTogether cfg.lower s (.step i fault draw) →
      pg'.orderTotalMismatch = [] := by
    intro i fault draw c plan held pg' at_i at_pc fresh' statements applies allowed
    have together := allowed _ (State.committing_eq_some.mpr ⟨at_i, _, at_pc⟩) applies
      (by rw [statements]; rfl)
    rw [OrderCreate.prices_listing same] at together
    obtain ⟨-, rfl⟩ := createTx_ok_iff.mp statements
    obtain ⟨valid, -⟩ := planned_of_reachable reached fresh.1 i _ at_i _ _ _ at_pc
    exact (Postgres.audit_planned cycle created valid fresh').mpr ⟨clean, together⟩
  cases step_cases moved with
  | spawn | crash => exact clean
  | call at_i called =>
    cases called with
    | create stepped =>
      cases stepped with
      | committed at_pc fresh' statements replied =>
        exact commits at_i at_pc fresh' statements replied.applies allowed
      | replyLost at_pc fresh' lost statements =>
        exact commits at_i at_pc fresh' statements (lost ▸ rfl) allowed
      | aborted => exact clean
      | ends | keyFree | planned | reserved | soldOut | reserveRaised | gaveBack => exact clean
    | pay stepped => exact stepped.audit clean
    | sweep stepped => exact stepped.audit clean

/-- A step that violates the condition soils the audit. -/
theorem audit_step_violated (fresh : start.Fresh) (created : start.dbs.mongo.Created)
    (reached : Reachable (step cfg) (fun _ _ => True) start s)
    (violated : ¬ CommitsRoundTogether cfg.lower s a) (moved : step cfg s a = some s') :
    s'.dbs.pg.orderTotalMismatch ≠ [] := by
  have cycle := lifeCycle_of_reachable fresh reached
  have same := listing_of_reachable reached
  cases a with
  | spawn | crash => exact absurd trivial violated
  | step i fault draw =>
    simp only [CommitsRoundTogether, not_forall] at violated
    obtain ⟨⟨c, plan⟩, committing, applies, commits, apart⟩ := violated
    obtain ⟨at_i, held, at_pc⟩ := State.committing_eq_some.mp committing
    obtain ⟨pg', statements⟩ : ∃ pg', createTx (s.dbs.pg.drawOrderId draw.orderId) c.orderIn
        c.idempotencyKey plan draw = .ok pg' := by
      cases result : createTx (s.dbs.pg.drawOrderId draw.orderId) c.orderIn c.idempotencyKey plan
          draw with
      | error => rw [result] at commits; cases commits
      | ok pg' => exact ⟨pg', rfl⟩
    obtain ⟨valid, -⟩ := planned_of_reachable reached fresh.1 i _ at_i _ _ _ at_pc
    have soiled : draw.orderId ∉ s.dbs.pg.orderIdsDrawn → pg'.orderTotalMismatch ≠ [] := by
      intro fresh' clean
      obtain ⟨-, rfl⟩ := createTx_ok_iff.mp statements
      have together := ((Postgres.audit_planned cycle created valid fresh').mp clean).2
      exact apart (by rwa [OrderCreate.prices_listing same])
    cases step_cases moved with
    | call at_i' called =>
      cases at_i.symm.trans at_i'
      cases called with
      | create stepped =>
        cases stepped with
        | committed at_pc' fresh' statements' | replyLost at_pc' fresh' lost statements' =>
          cases at_pc.symm.trans at_pc'
          cases statements.symm.trans statements'
          exact soiled fresh'
        | aborted at_pc' fresh' cause =>
          cases at_pc.symm.trans at_pc'
          rcases cause with raised | statements'
          · rw [raised] at applies
            cases applies
          · cases statements.symm.trans statements'
        | ends ended => exact absurd at_pc ended.not_reserving
        | keyFree at_pc' | planned at_pc' | reserved at_pc' | soldOut at_pc' | reserveRaised at_pc'
        | gaveBack at_pc' => cases at_pc.symm.trans at_pc'

/-- **A schedule keeps the audit check `order_total_mismatch` empty exactly when the prices of every
order that it commits round together.** -/
theorem order_totals_add_up_iff {t : State} {as : List Action} (fresh : start.Fresh)
    (created : start.dbs.mongo.Created) (executed : run (step cfg) start as = some t) :
    Along (step cfg) start as (fun s => s.dbs.pg.orderTotalMismatch = []) ↔
      StepsMeet (step cfg) start as (CommitsRoundTogether cfg.lower) := by
  refine along_iff_stepsMeet (I := Reachable (step cfg) (fun _ _ => True) start) executed .init ?_
    ?_ ?_ ?_
  · obtain ⟨-, noOrders, -⟩ := fresh
    simp [Postgres.orderTotalMismatch, noOrders]
  · exact fun s a s' reached moved => .next reached trivial moved
  · exact fun s a s' reached clean allowed moved =>
      audit_step fresh created reached clean allowed moved
  · exact fun s a s' reached _ violated moved =>
      audit_step_violated fresh created reached violated moved

end Totals

theorem order_total_ten_adds_up :
    Along (step Sample.cfg) (Sample.start Sample.floor)
      (.spawn (.createOrder Sample.order none) :: Sample.advance 0 4 1)
      fun s => s.dbs.pg.orderTotalMismatch = [] := by
  obtain ⟨t, checked⟩ := Option.isSome_iff_exists.mp (show (checkedRun (step Sample.cfg)
    (CommitsRoundTogether Sample.cfg.lower) (Sample.start Sample.floor)
    (.spawn (.createOrder Sample.order none) :: Sample.advance 0 4 1)).isSome = true by
      decide +kernel)
  refine (order_totals_add_up_iff (Sample.fresh Sample.floor) ?_ (run_of_checkedRun checked)).mpr
    (stepsMeet_of_checkedRun checked)
  intro d mem
  rw [List.mem_singleton.mp mem]
  exact ⟨_, _, rfl⟩

/-- **Two tickets of half a cent**: the total is stored as 0.01 and each ticket as 0.01. -/
theorem half_cent_totals_mismatch :
    ((run (step Sample.cfg) (Sample.start Sample.halfCent)
      (.spawn (.createOrder Sample.pair none) :: Sample.advance 0 4 1)).map fun s =>
          (s.dbs.pg.orderTotalMismatch.map Order.totalAmount, s.dbs.pg.tickets.map Ticket.price)) =
      some ([1 / 100], [1 / 100, 1 / 100]) := by decide +kernel

end TicketBooking
