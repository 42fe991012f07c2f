import TicketBooking.Amounts
import TicketBooking.Lib.OffsetPaging

/-!
# Paging through the orders of a user

`GET /orders/summary` (`app/api/v1/orders.py`) pages the orders of a user newest first by offset,
and `loadMore` of the account page (`frontend/app/account/account.js`) collects its pages while
other calls go on.  `Browsing` is the system with one open account page.

An order that is committed between two pages moves the rows behind it by one.  The page ends up with
every order exactly once if and only if every order of the user that is committed before the list is
complete sorts behind everything the page has received.
-/

namespace TicketBooking

open ListUpdate OffsetPaging StepSystem

/-! ## Server and client -/

/-- `schemas/order.py` -/
structure OrderSummary where
  id : ℕ
  orderNumber : String
  userId : ℕ
  status : OrderStatus
  totalAmount : ℚ
  ticketCount : ℕ
  paidAmount : ℚ
  expiresAt : Option ℤ
  createdAt : ℤ
deriving DecidableEq

/-- `_order_summary_query`: COUNT of the tickets, SUM of the completed payments. -/
def Postgres.orderSummary (pg : Postgres) (o : Order) : OrderSummary where
  id := o.id
  orderNumber := o.orderNumber
  userId := o.userId
  status := o.status
  totalAmount := o.totalAmount
  ticketCount := (pg.tickets.filter fun t => t.orderId = o.id).length
  paidAmount := ((pg.payments.filter fun p => p.orderId = o.id ∧ p.status = .completed).map
    Payment.amount).sum
  expiresAt := o.expiresAt
  createdAt := o.createdAt

/-- `ORDER BY created_at DESC, id DESC` compares these. -/
def Order.age (o : Order) : ℤ ×ₗ ℕ := toLex (o.createdAt, o.id)

def OrderSummary.age (o : OrderSummary) : ℤ ×ₗ ℕ := toLex (o.createdAt, o.id)

/-- The 404 of a user the table does not have. -/
inductive SummaryError
  | userNotFound (userId : ℕ)
deriving DecidableEq

def listOrderSummaries (pg : Postgres) (userId limit offset : ℕ) :
    Except SummaryError (List OrderSummary) :=
  if userId ∉ pg.users then .error (.userNotFound userId)
  else .ok ((((((pg.orders.filter fun o => o.userId = userId).insertionSort
    fun a b => a.age ≥ b.age).drop offset).take limit)).map pg.orderSummary)

/-- `PAGE` -/
def pageSize : ℕ := 20

/-- The `state` of the account page. -/
structure AccountPage where
  userId : ℕ
  orders : List OrderSummary
  offset : ℕ
  done : Bool
deriving DecidableEq

def AccountPage.opened (userId : ℕ) : AccountPage := ⟨userId, [], 0, false⟩

/-- `loadMore`, given the answer: an error leaves the state as it is. -/
def AccountPage.loadMore (page : AccountPage) :
    Option (Except SummaryError (List OrderSummary)) → AccountPage
  | some (.ok rows) => { page with
      offset := page.offset + rows.length
      done := rows.length < pageSize
      orders := page.orders ++ rows }
  | _ => page

/-- The system and one account page. -/
structure Browsing where
  sys : State
  page : AccountPage
deriving DecidableEq

inductive Visit
  | api (a : Action)
  /-- The button, shown until `done`; `answered` says that the server answers. -/
  | loadMore (answered : Bool)
deriving DecidableEq

def browse (cfg : Config) (b : Browsing) : Visit → Option Browsing
  | .api a => (step cfg b.sys a).map fun sys => { b with sys }
  | .loadMore answered =>
    if b.page.done then none
    else some { b with page := b.page.loadMore (if answered then
      some (listOrderSummaries b.sys.dbs.pg b.page.userId pageSize b.page.offset) else none) }

/-! ## What a step adds -/

/-- The order that the action commits: its user and its age. -/
def State.booked (s : State) : Action → Option (ℕ × ℤ ×ₗ ℕ)
  | .step i fault draw =>
    ((s.committing i).filter fun r => fault.Applies ∧ (createTx (s.dbs.pg.drawOrderId draw.orderId)
      r.1.orderIn r.1.idempotencyKey r.2 draw).toOption.isSome).map fun r =>
        (r.1.orderIn.userId, toLex (draw.createdAt, draw.orderId))
  | _ => none

def Order.listed (o : Order) : ℕ × ℤ ×ₗ ℕ := (o.userId, o.age)

section Booked

variable {cfg : Config} {s s' : State} {a : Action} {dbs dbs' : Databases} {fault : Fault}
  {draw : Draw} {lockedElsewhere : List ℕ}

/-- Payments and sweeps move the status of orders. -/
theorem Postgres.listed_update {pg : Postgres} {f : Order → Order}
    (keeps : ∀ o, (f o).listed = o.listed) :
    (pg.orders.map f).map Order.listed = pg.orders.map Order.listed := by
  rw [List.map_map]
  exact List.map_congr_left fun o _ => keeps o

theorem Order.expire_listed (orderIds : List ℕ) (o : Order) :
    (o.expire orderIds).listed = o.listed := by
  unfold expire
  split <;> rfl

theorem Order.confirm_listed (orderId : ℕ) (o : Order) : (o.confirm orderId).listed = o.listed := by
  unfold confirm
  split <;> rfl

theorem PayStep.listed {c c' : PayCall} (moved : PayStep dbs lockedElsewhere fault draw c dbs' c') :
    dbs'.pg.orders.map Order.listed = dbs.pg.orders.map Order.listed := by
  cases moved with
  | expired | expiredReplyLost => exact Postgres.listed_update (Order.expire_listed _)
  | confirmed at_pc decided statements =>
    obtain ⟨-, -, event, -, -, rfl⟩ := confirmTx_ok statements
    exact Postgres.listed_update (Order.confirm_listed _)
  | locks | refused | releases | released => rfl

theorem SweepStep.listed {c c' : SweepCall}
    (moved : SweepStep dbs lockedElsewhere fault draw c dbs' c') :
    dbs'.pg.orders.map Order.listed = dbs.pg.orders.map Order.listed := by
  cases moved with
  | expired | expiredReplyLost => exact Postgres.listed_update (Order.expire_listed _)
  | claims | nothing | ended | releases | released => rfl

theorem State.booked_none {i : ℕ} (idle : s.committing i = none) :
    s.booked (.step i fault draw) = none := by
  rw [booked, idle]
  rfl

/-- The orders after an action are the orders before it and the one it commits. -/
theorem listed_step (moved : step cfg s a = some s') :
    s'.dbs.pg.orders.map Order.listed =
      s.dbs.pg.orders.map Order.listed ++ (s.booked a).toList := by
  cases step_cases moved with
  | spawn | crash => exact (List.append_nil _).symm
  | @call i fault draw call call' dbs' at_i called =>
    cases called with
    | pay stepped | sweep stepped =>
      have idle : s.committing i = none := by simp [State.committing, at_i]
      rw [State.booked_none idle, Option.toList_none, List.append_nil]
      exact stepped.listed
    | @create c c' _ stepped =>
      have elsewhere : (∀ plan held, c.pc ≠ .reserve plan held []) →
          s.booked (.step i fault draw) = none := by
        intro other
        refine State.booked_none (Option.eq_none_iff_forall_ne_some.mpr fun r committing => ?_)
        obtain ⟨at_i', held, at_pc⟩ := State.committing_eq_some.mp committing
        cases at_i.symm.trans at_i'
        exact other _ _ at_pc
      have booked : ∀ {plan held pg'}, c.pc = .reserve plan held [] → fault.Applies →
          createTx (s.dbs.pg.drawOrderId draw.orderId) c.orderIn c.idempotencyKey plan draw =
            .ok pg' →
          pg'.orders.map Order.listed =
            s.dbs.pg.orders.map Order.listed ++ (s.booked (.step i fault draw)).toList := by
        intro plan held pg' at_pc applies statements
        have committing : s.committing i = some (c, plan) :=
          State.committing_eq_some.mpr ⟨at_i, held, at_pc⟩
        rw [State.booked, committing, Option.filter_some, statements,
          if_pos (decide_eq_true ⟨applies, rfl⟩)]
        obtain ⟨-, rfl⟩ := createTx_ok_iff.mp statements
        exact List.map_append
      cases stepped with
      | committed at_pc _ statements replied => exact booked at_pc replied.applies statements
      | replyLost at_pc _ lost statements => exact booked at_pc (lost ▸ rfl) statements
      | @aborted plan held exc at_pc _ cause =>
        have committing : s.committing i = some (c, plan) :=
          State.committing_eq_some.mpr ⟨at_i, held, at_pc⟩
        have unbooked : s.booked (.step i fault draw) = none := by
          rw [State.booked, committing, Option.filter_some, if_neg, Option.map_none]
          simp only [decide_eq_true_eq, not_and]
          intro applies
          rcases cause with raised | statements
          · rw [raised] at applies
            cases applies
          · simp [statements, Except.toOption]
        rw [unbooked, Option.toList_none, List.append_nil]
        rfl
      | ends ended =>
        rw [elsewhere fun _ _ => ended.not_reserving, Option.toList_none, List.append_nil]
      | keyFree at_pc | planned at_pc | reserved at_pc | soldOut at_pc | reserveRaised at_pc
      | gaveBack at_pc =>
        rw [elsewhere (by simp [at_pc]), Option.toList_none, List.append_nil]

end Booked

/-! ## What the page has received -/

/-- The ages of the orders of a user, newest first. -/
def Postgres.agesOf (pg : Postgres) (userId : ℕ) : List (ℤ ×ₗ ℕ) :=
  (((pg.orders.map Order.listed).filter fun l => l.1 = userId).map Prod.snd).insertionSort (· ≥ ·)

def AccountPage.received (page : AccountPage) : List (ℤ ×ₗ ℕ) := page.orders.map OrderSummary.age

/-- The orders of the user that the action commits before the list is complete sort behind
everything received. -/
def SortsBehind (b : Browsing) : Visit → Prop
  | .api a => b.page.done = false → ∀ l ∈ b.sys.booked a, l.1 = b.page.userId →
      ∀ age ∈ b.page.received, l.2 < age
  | .loadMore _ => True

instance (b : Browsing) : (v : Visit) → Decidable (SortsBehind b v)
  | .api a => inferInstanceAs (Decidable (b.page.done = false → ∀ l ∈ b.sys.booked a,
      l.1 = b.page.userId → ∀ age ∈ b.page.received, l.2 < age))
  | .loadMore _ => inferInstanceAs (Decidable True)

section Received

variable {pg pg' : Postgres} {userId limit : ℕ}

theorem Postgres.agesOf_perm (pg : Postgres) (userId : ℕ) :
    (pg.agesOf userId).Perm ((pg.orders.filter fun o => o.userId = userId).map Order.age) := by
  refine (List.perm_insertionSort _ _).trans ?_
  rw [List.filter_map, List.map_map]
  exact .refl _

theorem Postgres.agesOf_ids (ids : pg.IdsDrawn) (userId : ℕ) :
    ((pg.agesOf userId).map fun age => (ofLex age).2).Nodup := by
  refine (((pg.agesOf_perm userId).map _).nodup_iff).mpr ?_
  rw [List.map_map]
  exact ids.1.sublist (List.filter_sublist.map Order.id)

/-- The rows of the summaries are those of the sorted ages. -/
theorem listOrderSummaries_ages {rows : List OrderSummary} {offset : ℕ}
    (answered : listOrderSummaries pg userId limit offset = .ok rows) :
    rows.map OrderSummary.age = ((pg.agesOf userId).drop offset).take limit := by
  have ages : ((pg.orders.filter fun o => o.userId = userId).insertionSort
      fun a b => a.age ≥ b.age).map Order.age = pg.agesOf userId := by
    rw [List.map_insertionSort (fun a b : Order => a.age ≥ b.age) (· ≥ ·) Order.age _
      fun a _ b _ => Iff.rfl, Postgres.agesOf, List.filter_map, List.map_map]
    rfl
  unfold listOrderSummaries at answered
  split at answered
  · cases answered
  · cases answered
    rw [List.map_map, ← ages, ← List.map_drop, ← List.map_take]
    rfl

/-- A committed order takes its place among the orders of its user. -/
theorem Postgres.agesOf_concat {l : ℕ × ℤ ×ₗ ℕ}
    (added : pg'.orders.map Order.listed = pg.orders.map Order.listed ++ [l]) (userId : ℕ) :
    pg'.agesOf userId = if l.1 = userId then (pg.agesOf userId).orderedInsert (· ≥ ·) l.2
      else pg.agesOf userId := by
  rw [agesOf, added, List.filter_append]
  split
  · rename_i own
    rw [List.filter_cons_of_pos (by simpa using own), List.filter_nil, List.map_append,
      List.map_singleton]
    refine List.Perm.eq_of_pairwise' (List.pairwise_insertionSort _ _)
      ((List.pairwise_insertionSort _ _).orderedInsert _ _) ?_
    refine (List.perm_insertionSort _ _).trans ((List.perm_append_singleton _ _).trans ?_)
    exact ((List.perm_insertionSort _ _).symm.cons _).trans (List.perm_orderedInsert _ _ _).symm
  · rename_i other
    rw [List.filter_cons_of_neg (by simpa using other), List.filter_nil, List.append_nil, agesOf]

end Received

/-! ## Over runs -/

/-- The list is complete: it has every order that `s` has exactly once, and nothing twice. -/
def AccountPage.ShowsOnce (page : AccountPage) (s : State) (userId : ℕ) : Prop :=
  (∀ o ∈ s.dbs.pg.orders, o.userId = userId → (page.orders.map OrderSummary.id).count o.id = 1) ∧
    (page.orders.map OrderSummary.id).Nodup

/-- The page that was opened in `s`, while other calls go on: `met` is whether every commit so far
sorted behind. -/
structure Browsing.Collecting (start s : State) (userId : ℕ) (cfg : Config) (b : Browsing)
    (met : Prop) : Prop where
  reached : Reachable (step cfg) (fun _ _ => True) start b.sys
  user : b.page.userId = userId
  offset : b.page.offset = b.page.received.length
  kept : ∀ age ∈ s.dbs.pg.agesOf userId, age ∈ b.sys.dbs.pg.agesOf userId
  inStep : b.page.done = false → met → InStep (b.sys.dbs.pg.agesOf userId) b.page.received
  repeats : b.page.done = false → ¬ met → Repeats (b.sys.dbs.pg.agesOf userId) b.page.received
  shown : b.page.done = true → (b.page.ShowsOnce s userId ↔ met)

section Runs

variable {cfg : Config} {start s : State} {userId : ℕ} {b b' : Browsing} {met : Prop}

/-- An action leaves the list of the user as it is, or puts one order into it. -/
theorem agesOf_step {a : Action} {sys : State} (moved : step cfg b.sys a = some sys) :
    (sys.dbs.pg.agesOf b.page.userId = b.sys.dbs.pg.agesOf b.page.userId ∧ SortsBehind b (.api a)) ∨
      ∃ x, sys.dbs.pg.agesOf b.page.userId =
          (b.sys.dbs.pg.agesOf b.page.userId).orderedInsert (· ≥ ·) x ∧
        (b.page.done = false → (SortsBehind b (.api a) ↔ ∀ age ∈ b.page.received, ¬ x ≥ age)) := by
  have listed := listed_step moved
  cases booked : b.sys.booked a with
  | none =>
    refine .inl ⟨?_, by simp [SortsBehind, booked]⟩
    rw [Postgres.agesOf, listed, booked, Option.toList_none, List.append_nil, Postgres.agesOf]
  | some l =>
    rw [booked] at listed
    rw [Postgres.agesOf_concat listed]
    by_cases own : l.1 = b.page.userId
    · refine .inr ⟨l.2, if_pos own, fun running => ?_⟩
      simp [SortsBehind, booked, running, own]
    · refine .inl ⟨if_neg own, ?_⟩
      simp [SortsBehind, booked, own]

/-- A step of the system moves the list under the page. -/
theorem Browsing.Collecting.api {a : Action} {sys : State}
    (collecting : b.Collecting start s userId cfg met) (moved : step cfg b.sys a = some sys) :
    Browsing.Collecting start s userId cfg { b with sys } (met ∧ SortsBehind b (.api a)) := by
  obtain ⟨reached, user, offset, kept, inStep, repeats, shown⟩ := collecting
  subst user
  refine ⟨.next reached trivial moved, rfl, offset, fun age mem => ?_, fun running both => ?_,
    fun running either => ?_, fun complete => ?_⟩
  · rcases agesOf_step moved with ⟨same, -⟩ | ⟨x, inserted, -⟩
    · rw [same]
      exact kept age mem
    · rw [inserted, List.mem_orderedInsert]
      exact .inr (kept age mem)
  · rcases agesOf_step moved with ⟨same, -⟩ | ⟨x, inserted, behind⟩
    · rw [same]
      exact inStep running both.1
    · rw [inserted]
      exact (inStep running both.1).insert ((behind running).mp both.2)
  · rcases agesOf_step moved with ⟨same, sorted⟩ | ⟨x, inserted, behind⟩
    · rw [same]
      exact repeats running fun before => either ⟨before, sorted⟩
    · rw [inserted]
      by_cases before : met
      · have ahead : ¬ ∀ age ∈ b.page.received, ¬ x ≥ age := fun all =>
          either ⟨before, (behind running).mpr all⟩
        push Not at ahead
        exact (inStep running before).insert_ahead ahead
      · exact (repeats running before).insert
  · have late : SortsBehind b (.api a) := fun running => by cases running.symm.trans complete
    rw [and_iff_left late]
    exact shown complete

/-- A page that was answered. -/
theorem AccountPage.received_loadMore {pg : Postgres} {page : AccountPage}
    {rows : List OrderSummary} (offset : page.offset = page.received.length)
    (answered : listOrderSummaries pg page.userId pageSize page.offset = .ok rows) :
    (page.loadMore (some (.ok rows))).received =
        page.received ++ OffsetPaging.page pageSize (pg.agesOf page.userId) page.received ∧
      rows.length = (OffsetPaging.page pageSize (pg.agesOf page.userId) page.received).length := by
  have ages := listOrderSummaries_ages answered
  rw [offset] at ages
  constructor
  · rw [loadMore, received, List.map_append, ages]
    rfl
  · exact (List.length_map _).symm.trans (congrArg List.length ages)

/-- An unanswered page, or one of a user who is not there, changes nothing. -/
theorem AccountPage.loadMore_cases (pg : Postgres) (page : AccountPage) (answered : Bool) :
    page.loadMore (if answered then
        some (listOrderSummaries pg page.userId pageSize page.offset) else none) = page ∨
      ∃ rows, listOrderSummaries pg page.userId pageSize page.offset = .ok rows ∧
        page.loadMore (if answered then
          some (listOrderSummaries pg page.userId pageSize page.offset) else none) =
            page.loadMore (some (.ok rows)) := by
  cases answered with
  | false => exact .inl rfl
  | true =>
    cases result : listOrderSummaries pg page.userId pageSize page.offset with
    | error => exact .inl rfl
    | ok rows => exact .inr ⟨rows, rfl, rfl⟩

theorem AccountPage.received_ids (page : AccountPage) :
    page.orders.map OrderSummary.id = page.received.map fun age => (ofLex age).2 := by
  rw [received, List.map_map]
  rfl

/-- The page that has the list shows everything once. -/
theorem showsOnce_of_complete {pg : Postgres} {page : AccountPage} (ids : pg.IdsDrawn)
    (kept : ∀ age ∈ s.dbs.pg.agesOf userId, age ∈ pg.agesOf userId)
    (complete : page.received = pg.agesOf userId) : page.ShowsOnce s userId := by
  have nodup : (page.orders.map OrderSummary.id).Nodup := by
    rw [page.received_ids, complete]
    exact pg.agesOf_ids ids userId
  refine ⟨fun o stored own => List.count_eq_one_of_mem nodup ?_, nodup⟩
  have listed : o.age ∈ s.dbs.pg.agesOf userId :=
    (s.dbs.pg.agesOf_perm userId).mem_iff.mpr
      (List.mem_map_of_mem (List.mem_filter.mpr ⟨stored, by simpa using own⟩))
  rw [page.received_ids, complete]
  exact List.mem_map_of_mem (f := fun age => (ofLex age).2) (kept _ listed)

theorem Browsing.Collecting.loadMore {answered : Bool} (idle : start.calls = [])
    (drawn : start.dbs.pg.IdsDrawn) (collecting : b.Collecting start s userId cfg met)
    (moved : browse cfg b (.loadMore answered) = some b') :
    b'.Collecting start s userId cfg met := by
  obtain ⟨reached, user, offset, kept, inStep, repeats, shown⟩ := collecting
  subst user
  simp only [browse] at moved
  split at moved
  case isTrue => cases moved
  case isFalse notDone =>
    have running : b.page.done = false := by simpa using notDone
    cases moved
    rcases AccountPage.loadMore_cases b.sys.dbs.pg b.page answered with
      same | ⟨rows, listed, same⟩
    · rw [same]
      exact ⟨reached, rfl, offset, kept, inStep, repeats, shown⟩
    · rw [same]
      obtain ⟨received, count⟩ := AccountPage.received_loadMore offset listed
      refine ⟨reached, rfl, ?_, kept, fun _ before => ?_, fun _ notMet => ?_, fun complete => ?_⟩
      · rw [received, List.length_append, ← count, ← offset]
        rfl
      · rw [received]
        exact (inStep running before).read pageSize
      · rw [received]
        exact (repeats running notMet).read pageSize
      · have short : rows.length < pageSize := by simpa [AccountPage.loadMore] using complete
        rw [count] at short
        constructor
        · intro once
          by_contra notMet
          have twice := (repeats running notMet).finish short
          rw [← received] at twice
          have nodup := once.2
          rw [AccountPage.received_ids] at nodup
          exact twice nodup.of_map
        · intro before
          have ids := (rowsLocked_of_reachable reached idle drawn).ids
          refine showsOnce_of_complete ids kept ?_
          rw [received]
          exact (inStep running before).finish short

/-- **When paging shows every order once.**  From any orders of a user, with any calls going on:
once `loadMore` has reported the end, every order that was there when the page was opened is shown
exactly once and nothing twice, if and only if the orders of the user that were committed in the
meantime sorted behind everything received. -/
theorem pages_show_orders_once_iff (idle : start.calls = []) (drawn : start.dbs.pg.IdsDrawn)
    (reached : Reachable (step cfg) (fun _ _ => True) start s) {visits : List Visit}
    (executed : run (browse cfg) ⟨s, .opened userId⟩ visits = some b)
    (complete : b.page.done = true) :
    b.page.ShowsOnce s userId ↔ StepsMeet (browse cfg) ⟨s, .opened userId⟩ visits SortsBehind := by
  have opened : Browsing.Collecting start s userId cfg ⟨s, .opened userId⟩ True :=
    ⟨reached, rfl, rfl, fun _ mem => mem, fun _ _ => List.nil_prefix, fun _ no => (no trivial).elim,
      fun complete => by cases complete⟩
  have everything : StepsMeet (browse cfg) ⟨s, .opened userId⟩ visits fun _ _ => True :=
    fun _ _ _ _ _ => trivial
  refine (run_accumulates (I := Browsing.Collecting start s userId cfg) (C := SortsBehind) opened ?_
    everything executed).shown complete
  intro u v u' met _ collecting _ moved
  cases v with
  | api a =>
    obtain ⟨sys, stepped, rfl⟩ := Option.map_eq_some_iff.mp moved
    exact collecting.api stepped
  | loadMore answered =>
    have vacuous : (met ∧ SortsBehind u (.loadMore answered)) = met :=
      propext (and_iff_left trivial)
    rw [vacuous]
    exact collecting.loadMore idle drawn moved

end Runs

/-- The first user has placed twenty orders, one a microsecond. -/
def twentyOrders : State where
  dbs := ⟨⟨[1, 2], (List.range 20).map fun k =>
      ⟨k + 1, "ORD-0", 1, 10, .confirmed, "promptpay", none, none, k⟩, [], [], [],
    (List.range 20).map (· + 1)⟩, (Sample.start Sample.floor).dbs.mongo⟩
  calls := []

/-- A page, a new order, the next page. -/
def pagingVisits (orderIn : OrderCreate) : List Visit :=
  .loadMore true :: .api (.spawn (.createOrder orderIn none)) ::
    (List.replicate 4 (.api (.step 0 .none { Sample.draw 21 with createdAt := 100 })) ++
      [.loadMore true])

theorem twentyOrders_drawn : twentyOrders.dbs.pg.IdsDrawn := by
  unfold Postgres.IdsDrawn
  decide +kernel

theorem other_users_order_not_in_the_way :
    ∃ b, run (browse Sample.cfg) ⟨twentyOrders, .opened 1⟩ (pagingVisits Sample.otherOrder) =
      some b ∧ b.page.done = true ∧ b.page.ShowsOnce twentyOrders 1 := by
  obtain ⟨b, checked⟩ := Option.isSome_iff_exists.mp (show ((checkedRun (browse Sample.cfg)
    SortsBehind ⟨twentyOrders, .opened 1⟩ (pagingVisits Sample.otherOrder)).filter fun b =>
      b.page.done = true).isSome = true by decide +kernel)
  obtain ⟨ran, complete⟩ := Option.filter_eq_some_iff.mp checked
  have complete : b.page.done = true := of_decide_eq_true complete
  exact ⟨b, run_of_checkedRun ran, complete,
    (pages_show_orders_once_iff rfl twentyOrders_drawn .init (run_of_checkedRun ran) complete).mpr
      (stepsMeet_of_checkedRun ran)⟩

/-- **A new order repeats an old one**: the oldest order closes the first page and comes again on
the second. -/
theorem own_order_repeats_oldest :
    ((run (browse Sample.cfg) ⟨twentyOrders, .opened 1⟩ (pagingVisits Sample.order)).map fun b =>
      (b.page.done, (b.page.orders.map OrderSummary.id).drop 18,
        (b.page.orders.map OrderSummary.id).count 1)) = some (true, [2, 1, 1], 2) := by
  decide +kernel

end TicketBooking
