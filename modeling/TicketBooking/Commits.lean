import TicketBooking.Planning

/-!
# Transactions and row locks

What the calls do to PostgreSQL, seen from the tables.  `Commit` lists the transactions of the
booking flow with the state of the rows they rely on; `commit_of_step` shows that every step of the
running system is one of them, because a row that a call has locked stays as the call read it.

* `State.RowsLocked` is the locking invariant: no row is locked twice, and what a call read under
  its locks is still in the table.
* `pg_invariant` is the induction rule it gives: what every `Commit` keeps holds in every reachable
  state.
-/

namespace TicketBooking

open ListUpdate StepSystem

/-! ## The transactions -/

/-- The COMMITs of the booking flow. -/
inductive Commit (lower : String → String) (catalog : Catalog) (pg : Postgres) : Postgres → Prop
  | nothing : Commit lower catalog pg pg
  /-- A rolled back transaction has drawn an order id. -/
  | drawn (orderId : ℕ) : Commit lower catalog pg (pg.drawOrderId orderId)
  | created {orderIn : OrderCreate} {idempotencyKey : Option String} {plan : OrderPlan}
    {draw : Draw}
    (planned : planOrder lower catalog orderIn = .ok plan) (fresh : draw.orderId ∉ pg.orderIdsDrawn)
    (rows : pg.Insertable (newOrder orderIn idempotencyKey plan draw) (plan.tickets draw.orderId)) :
    Commit lower catalog pg
      ((pg.drawOrderId draw.orderId).created orderIn idempotencyKey plan draw)
  | expired {rows : List (ℕ × String)} {reason : String} (distinct : (rows.map Prod.fst).Nodup)
    (pending : ∀ row ∈ rows, ∃ o ∈ pg.orders, o.id = row.1 ∧ o.status = .pending) :
    Commit lower catalog pg (pg.expireHolds rows reason)
  | confirmed {order : Order} {payment : Payment} {event : OutboxEvent} (stored : order ∈ pg.orders)
    (pending : order.status = .pending)
    (unpaid : ∀ q ∈ pg.payments, q.status = .completed → q.orderId ≠ order.id)
    (paymentOf : payment.orderId = order.id) (completed : payment.status = .completed)
    (amount : payment.amount = numeric order.totalAmount) (paid : event.eventType = .orderPaid)
    (eventOf : event.aggregateId = order.id) :
    Commit lower catalog pg
      (({ pg with payments := pg.payments ++ [payment] } : Postgres).confirmOrder order.id event)

section Commit

variable {lower : String → String} {catalog : Catalog} {pg pg' : Postgres}

@[simp] theorem Order.confirm_id (orderId : ℕ) (o : Order) : (o.confirm orderId).id = o.id := by
  unfold confirm
  split <;> rfl

@[simp] theorem Order.expire_id (orderIds : List ℕ) (o : Order) :
    (o.expire orderIds).id = o.id := by
  unfold expire
  split <;> rfl

/-- Order ids are distinct and come from the sequence. -/
def Postgres.IdsDrawn (pg : Postgres) : Prop :=
  (pg.orders.map Order.id).Nodup ∧ ∀ o ∈ pg.orders, o.id ∈ pg.orderIdsDrawn

theorem Commit.idsDrawn (committed : Commit lower catalog pg pg') (ids : pg.IdsDrawn) :
    pg'.IdsDrawn := by
  obtain ⟨distinct, drawn⟩ := ids
  cases committed with
  | nothing => exact ⟨distinct, drawn⟩
  | drawn orderId => exact ⟨distinct, fun o mem => List.mem_cons_of_mem _ (drawn o mem)⟩
  | @created orderIn key plan draw planned fresh rows =>
    constructor
    · simp only [Postgres.created, Postgres.drawOrderId, List.map_append, List.map_cons,
        List.map_nil, Order.stored_id, List.nodup_append, List.mem_singleton]
      refine ⟨distinct, List.nodup_singleton _, ?_⟩
      rintro x old y rfl rfl
      obtain ⟨o, mem, same⟩ := List.mem_map.mp old
      have same : o.id = draw.orderId := same
      exact fresh (same ▸ drawn o mem)
    · intro o mem
      rcases List.mem_append.mp mem with old | new
      · exact List.mem_cons_of_mem _ (drawn o old)
      · rw [List.mem_singleton.mp new]
        exact List.mem_cons_self
  | expired =>
    have ids : ∀ orderIds, (pg.orders.map (Order.expire orderIds)).map Order.id =
        pg.orders.map Order.id := by
      intro orderIds
      rw [List.map_map]
      exact List.map_congr_left fun o _ => o.expire_id orderIds
    refine ⟨by rw [Postgres.expireHolds, ids]; exact distinct, fun o mem => ?_⟩
    obtain ⟨old, oldMem, rfl⟩ := List.mem_map.mp mem
    rw [Order.expire_id]
    exact drawn old oldMem
  | @confirmed order =>
    have ids : (pg.orders.map (Order.confirm order.id)).map Order.id = pg.orders.map Order.id := by
      rw [List.map_map]
      exact List.map_congr_left fun o _ => o.confirm_id order.id
    refine ⟨by rw [Postgres.confirmOrder, ids]; exact distinct, fun o mem => ?_⟩
    obtain ⟨old, oldMem, rfl⟩ := List.mem_map.mp mem
    rw [Order.confirm_id]
    exact drawn old oldMem

theorem Commit.drawn_mono (committed : Commit lower catalog pg pg') {orderId : ℕ}
    (drawn : orderId ∈ pg.orderIdsDrawn) : orderId ∈ pg'.orderIdsDrawn := by
  cases committed with
  | nothing | expired | confirmed => exact drawn
  | drawn | created => exact List.mem_cons_of_mem _ drawn

theorem Postgres.Insertable.of_drawn {orderId : ℕ} {order : Order} {tickets : List Ticket}
    (rows : (pg.drawOrderId orderId).Insertable order tickets) : pg.Insertable order tickets :=
  ⟨rows.orderFits, rows.totalNonneg, rows.keyFree, rows.userKnown, rows.ticketsFit,
    rows.seatsDistinct, rows.seatsFree⟩

end Commit

/-! ## Row locks -/

/-- What the call read under its locks is in the table. -/
def Call.Current (pg : Postgres) : Call → Prop
  | .create _ => True
  | .pay c => ∀ order, c.pc = .locked order → order ∈ pg.orders
  | .sweep c => ∀ rows, c.pc = .claimed rows → (rows.map Prod.fst).Nodup ∧
      ∀ row ∈ rows, ∃ o ∈ pg.orders, o.id = row.1 ∧ o.orderNumber = row.2 ∧ o.status = .pending

structure State.RowsLocked (s : State) : Prop where
  ids : s.dbs.pg.IdsDrawn
  exclusive : ∀ (i j : ℕ) a b, i ≠ j → s.calls[i]? = some a → s.calls[j]? = some b →
    ∀ orderId ∈ a.locks, orderId ∉ b.locks
  current : ∀ (i : ℕ) call, s.calls[i]? = some call → call.Current s.dbs.pg

section RowLocks

variable {cfg : Config} {dbs dbs' : Databases} {lockedElsewhere : List ℕ} {fault : Fault}
  {draw : Draw} {call call' : Call} {catalog : Catalog}

theorem CreateStep.commit {c c' : CreateCall} (planned : c.Planned cfg.lower catalog)
    (moved : CreateStep cfg.lower dbs fault draw c dbs' c') :
    Commit cfg.lower catalog dbs.pg dbs'.pg ∧ ∀ o ∈ dbs.pg.orders, o ∈ dbs'.pg.orders := by
  cases moved with
  | @committed plan held pg' at_pc fresh statements
  | @replyLost plan held exc pg' at_pc fresh _ statements =>
    obtain ⟨rows, rfl⟩ := createTx_ok_iff.mp statements
    obtain ⟨valid, -⟩ := planned _ _ _ at_pc
    exact ⟨.created valid fresh rows.of_drawn, fun o mem => List.mem_append_left _ mem⟩
  | aborted => exact ⟨.drawn draw.orderId, fun o mem => mem⟩
  | ends | keyFree | planned | reserved | soldOut | reserveRaised | gaveBack =>
    exact ⟨.nothing, fun o mem => mem⟩

/-- The rows that an expiry of these orders leaves alone. -/
theorem Postgres.mem_expireHolds {pg : Postgres} {rows : List (ℕ × String)} {reason : String}
    {o : Order} (mem : o ∈ pg.orders) (other : o.id ∉ rows.map Prod.fst) :
    o ∈ (pg.expireHolds rows reason).orders :=
  List.mem_map.mpr ⟨o, mem, if_neg other⟩

theorem PayStep.commit {c c' : PayCall}
    (current : ∀ order, c.pc = .locked order → order ∈ dbs.pg.orders)
    (moved : PayStep dbs lockedElsewhere fault draw c dbs' c') :
    Commit cfg.lower catalog dbs.pg dbs'.pg ∧
      ∀ o ∈ dbs.pg.orders, o.id ∉ c.pc.locks → o ∈ dbs'.pg.orders := by
  cases moved with
  | @expired order at_pc decided | @expiredReplyLost order exc at_pc decided =>
    have stored := current order at_pc
    have pending := paymentDecision_pending (.inl decided)
    refine ⟨.expired (by simp) ?_, fun o mem free => ?_⟩
    · intro row inRows
      rw [List.mem_singleton.mp inRows]
      exact ⟨order, stored, rfl, pending⟩
    · rw [at_pc] at free
      exact Postgres.mem_expireHolds mem free
  | @confirmed order pg' outcome at_pc decided statements told =>
    have stored := current order at_pc
    obtain ⟨-, unpaid, event, paid, eventOf, rfl⟩ := confirmTx_ok statements
    refine ⟨.confirmed stored (paymentDecision_pending (.inr decided)) unpaid rfl rfl rfl paid
      eventOf, fun o mem free => ?_⟩
    rw [at_pc] at free
    have other : o.id ≠ order.id := by simpa [PayPc.locks] using free
    exact List.mem_map.mpr ⟨o, mem, if_neg other⟩
  | locks | refused | releases | released => exact ⟨.nothing, fun o mem _ => mem⟩

theorem SweepStep.commit {c c' : SweepCall}
    (current : ∀ rows, c.pc = .claimed rows → (rows.map Prod.fst).Nodup ∧
      ∀ row ∈ rows, ∃ o ∈ dbs.pg.orders, o.id = row.1 ∧ o.orderNumber = row.2 ∧ o.status = .pending)
    (moved : SweepStep dbs lockedElsewhere fault draw c dbs' c') :
    Commit cfg.lower catalog dbs.pg dbs'.pg ∧
      ∀ o ∈ dbs.pg.orders, o.id ∉ c.pc.locks → o ∈ dbs'.pg.orders := by
  cases moved with
  | @expired rows at_pc | @expiredReplyLost rows exc at_pc =>
    obtain ⟨distinct, pending⟩ := current rows at_pc
    refine ⟨.expired distinct fun row inRows => ?_, fun o mem free => ?_⟩
    · obtain ⟨o, mem, same, -, status⟩ := pending row inRows
      exact ⟨o, mem, same, status⟩
    · rw [at_pc] at free
      exact Postgres.mem_expireHolds mem free
  | claims | nothing | ended | releases | released => exact ⟨.nothing, fun o mem _ => mem⟩

/-- A step of a call is one COMMIT, and it keeps the rows the call has not locked. -/
theorem CallStep.commit (current : call.Current dbs.pg) (planned : call.Planned cfg.lower catalog)
    (moved : CallStep cfg dbs lockedElsewhere fault draw call dbs' call') :
    Commit cfg.lower catalog dbs.pg dbs'.pg ∧
      ∀ o ∈ dbs.pg.orders, o.id ∉ call.locks → o ∈ dbs'.pg.orders := by
  cases moved with
  | create moved =>
    obtain ⟨committed, kept⟩ := moved.commit planned
    exact ⟨committed, fun o mem _ => kept o mem⟩
  | pay moved => exact moved.commit current
  | sweep moved => exact moved.commit current

theorem SweepCall.next_pc_ne (c : SweepCall) (expired : ℕ) (rows : List (ℕ × String)) :
    (c.next expired).pc ≠ .claimed rows := by
  unfold next
  dsimp only
  split <;> nofun

theorem SweepCall.next_locks (c : SweepCall) (expired : ℕ) : (c.next expired).pc.locks = [] := by
  unfold next
  dsimp only
  split <;> rfl

/-- A step locks only rows nobody else holds, and reads them as they are. -/
theorem CallStep.locked (ids : dbs.pg.IdsDrawn)
    (moved : CallStep cfg dbs lockedElsewhere fault draw call dbs' call') :
    (∀ orderId ∈ call'.locks, orderId ∉ lockedElsewhere) ∧ call'.Current dbs'.pg := by
  cases moved with
  | create moved => exact ⟨fun orderId held => (List.not_mem_nil held).elim, trivial⟩
  | pay moved =>
    cases moved with
    | @locks order at_pc found free =>
      refine ⟨fun orderId held => ?_, fun order' same => ?_⟩
      · rw [List.mem_singleton.mp held]
        exact free
      · cases same
        exact List.mem_of_find?_eq_some found
    | refused | expired | expiredReplyLost | confirmed | releases | released =>
      exact ⟨fun orderId held => (List.not_mem_nil held).elim, fun _ same => by cases same⟩
  | sweep moved =>
    cases moved with
    | @claims rows at_pc claimed =>
      subst claimed
      refine ⟨fun orderId held => ?_, fun rows same => ?_⟩
      · obtain ⟨row, mem, rfl⟩ := List.mem_map.mp held
        exact (Postgres.claimOverdue_mem mem).1
      · cases same
        exact ⟨Postgres.claimOverdue_nodup ids.1 _ _ _,
          fun row mem => (Postgres.claimOverdue_mem mem).2⟩
    | nothing | released =>
      refine ⟨fun orderId held => ?_, fun rows same => (SweepCall.next_pc_ne _ _ _ same).elim⟩
      rw [Call.locks, SweepCall.next_locks] at held
      exact (List.not_mem_nil held).elim
    | ended | expired | expiredReplyLost | releases =>
      exact ⟨fun orderId held => (List.not_mem_nil held).elim, fun _ same => by cases same⟩

/-- A call still reads what it locked when other rows change. -/
theorem Call.Current.mono {pg pg' : Postgres} (current : call.Current pg)
    (kept : ∀ o ∈ pg.orders, o.id ∈ call.locks → o ∈ pg'.orders) : call.Current pg' := by
  cases call with
  | create => trivial
  | pay c =>
    intro order at_pc
    exact kept order (current order at_pc) (by simp [Call.locks, at_pc, PayPc.locks])
  | sweep c =>
    intro rows at_pc
    obtain ⟨distinct, read⟩ := current rows at_pc
    refine ⟨distinct, fun row inRows => ?_⟩
    obtain ⟨o, mem, same, rest⟩ := read row inRows
    refine ⟨o, kept o mem ?_, same, rest⟩
    rw [Call.locks, at_pc, same]
    exact List.mem_map_of_mem inRows

end RowLocks

/-! ## Over runs -/

section Runs

variable {cfg : Config} {ok : State → Action → Prop} {start s s' : State} {a : Action}

theorem rowsLocked_start (idle : start.calls = []) (ids : start.dbs.pg.IdsDrawn) :
    start.RowsLocked where
  ids := ids
  exclusive i j a b _ at_i := by simp [idle] at at_i
  current i call at_i := by simp [idle] at at_i

/-- A call replaced by one that locks nothing new. -/
theorem State.RowsLocked.set {dbs' : Databases} {i : ℕ} {call' : Call} (locked : s.RowsLocked)
    (ids : dbs'.pg.IdsDrawn)
    (free : ∀ orderId ∈ call'.locks, orderId ∉ s.lockedElsewhere i)
    (current : call'.Current dbs'.pg)
    (others : ∀ (j : ℕ) other, j ≠ i → s.calls[j]? = some other → other.Current dbs'.pg) :
    State.RowsLocked ⟨dbs', s.calls.set i call'⟩ where
  ids := ids
  current := forall_getElem?_set others current
  exclusive j k a b apart at_j at_k := by
    have new : ∀ (j : ℕ) other, j ≠ i → s.calls[j]? = some other →
        ∀ orderId ∈ call'.locks, orderId ∉ other.locks := fun j other away at_j orderId held both =>
      free orderId held (State.mem_lockedElsewhere.mpr ⟨j, other, away, at_j, both⟩)
    dsimp only at at_j at_k
    by_cases first : j = i
    · subst first
      have second : k ≠ j := Ne.symm apart
      rw [List.getElem?_set_ne apart] at at_k
      obtain rfl : call' = a := by
        rw [List.getElem?_set] at at_j
        simp only [↓reduceIte] at at_j
        split at at_j
        · exact Option.some.inj at_j
        · cases at_j
      exact new k b second at_k
    · rw [List.getElem?_set_ne (Ne.symm first)] at at_j
      by_cases second : k = i
      · subst second
        obtain rfl : call' = b := by
          rw [List.getElem?_set] at at_k
          simp only [↓reduceIte] at at_k
          split at at_k
          · exact Option.some.inj at_k
          · cases at_k
        exact fun orderId held both => new j a first at_j orderId both held
      · rw [List.getElem?_set_ne (Ne.symm second)] at at_k
        exact locked.exclusive j k a b apart at_j at_k

theorem Request.start_locks (request : Request) : (request.start cfg).locks = [] := by
  cases request <;> rfl

theorem Request.start_current (request : Request) (pg : Postgres) :
    (request.start cfg).Current pg := by
  cases request with
  | createOrder => trivial
  | processPayment | cleanup =>
    intro rows same
    cases same

theorem Call.crash_locks (call : Call) : call.crash.locks = [] := by
  cases call <;> rfl

theorem Call.crash_current (call : Call) (pg : Postgres) : call.crash.Current pg := by
  cases call with
  | create => trivial
  | pay | sweep =>
    intro rows same
    cases same

theorem State.RowsLocked.spawn (locked : s.RowsLocked) (request : Request) :
    State.RowsLocked { s with calls := s.calls ++ [request.start cfg] } where
  ids := locked.ids
  current := forall_getElem?_concat locked.current (request.start_current _)
  exclusive i j a b apart at_i at_j := by
    have old : ∀ (k : ℕ) call, (s.calls ++ [request.start cfg])[k]? = some call →
        s.calls[k]? = some call ∨ call.locks = [] :=
      forall_getElem?_concat (fun _ _ => .inl) (.inr request.start_locks)
    intro orderId held both
    rcases old i a at_i with first | none
    · rcases old j b at_j with second | none
      · exact locked.exclusive i j a b apart first second orderId held both
      · rw [none] at both
        exact List.not_mem_nil both
    · rw [none] at held
      exact List.not_mem_nil held

/-- Every action keeps the locking invariant, and is one COMMIT. -/
theorem SystemStep.commit (locked : s.RowsLocked) {catalog : Catalog}
    (planned : ∀ (i : ℕ) call, s.calls[i]? = some call → call.Planned cfg.lower catalog)
    (moved : SystemStep cfg s a s') :
    Commit cfg.lower catalog s.dbs.pg s'.dbs.pg ∧ s'.RowsLocked := by
  cases moved with
  | spawn request => exact ⟨.nothing, locked.spawn request⟩
  | @call i fault draw call call' dbs' at_i moved =>
    obtain ⟨committed, kept⟩ := moved.commit (locked.current i call at_i) (planned i call at_i)
    obtain ⟨free, current⟩ := moved.locked locked.ids
    refine ⟨committed, locked.set (committed.idsDrawn locked.ids) free current ?_⟩
    intro j other away at_j
    refine (locked.current j other at_j).mono fun o mem held => kept o mem fun both => ?_
    exact locked.exclusive i j call other (Ne.symm away) at_i at_j o.id both held
  | @crash i call at_i =>
    refine ⟨.nothing, locked.set locked.ids (fun orderId held => ?_) (call.crash_current _)
      fun j other _ at_j => locked.current j other at_j⟩
    rw [call.crash_locks] at held
    exact (List.not_mem_nil held).elim

theorem rowsLocked_of_reachable (reached : Reachable (step cfg) ok start s)
    (idle : start.calls = []) (ids : start.dbs.pg.IdsDrawn) : s.RowsLocked :=
  reached.invariant₂ (P := State.RowsLocked) (rowsLocked_start idle ids)
    fun _ _ _ before locked _ moved =>
      ((step_cases moved).commit locked (planned_of_reachable before idle)).2

/-- **Every step of the running system is one COMMIT.** -/
theorem commit_of_step (reached : Reachable (step cfg) ok start s) (idle : start.calls = [])
    (ids : start.dbs.pg.IdsDrawn) (moved : step cfg s a = some s') :
    Commit cfg.lower start.dbs.mongo s.dbs.pg s'.dbs.pg :=
  ((step_cases moved).commit (rowsLocked_of_reachable reached idle ids)
    (planned_of_reachable reached idle)).1

/-- The induction rule for properties of the tables. -/
theorem pg_invariant {P : Postgres → Prop} (reached : Reachable (step cfg) ok start s)
    (idle : start.calls = []) (ids : start.dbs.pg.IdsDrawn) (base : P start.dbs.pg)
    (keep : ∀ pg pg', P pg → Commit cfg.lower start.dbs.mongo pg pg' → P pg') : P s.dbs.pg :=
  reached.invariant₂ (P := fun s => P s.dbs.pg) base fun _ _ _ before holds _ moved =>
    keep _ _ holds (commit_of_step before idle ids moved)

theorem State.Fresh.idsDrawn (fresh : start.Fresh) : start.dbs.pg.IdsDrawn := by
  obtain ⟨-, noOrders, -⟩ := fresh
  simp [Postgres.IdsDrawn, noOrders]

end Runs

end TicketBooking
