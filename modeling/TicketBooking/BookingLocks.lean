import TicketBooking.Lib.OrderedLocking
import TicketBooking.System
import Mathlib.Data.Sum.Order

/-!
# Concurrent booking transactions

`createTx` one row at a time.  An INSERT takes the unique-index entry of its row (the idempotency
key of an order, the seat of a numbered ticket), waits while another uncommitted transaction owns
it, and keeps it until the transaction ends.

* `createTx_eq_rows`: the rows, inserted one after the other, are the transaction of the service,
  and `bookings_commit_serially`: side by side with others they still are.
* `bookingRows_sorted`: `_lock_order_key` puts the entries of a transaction in ascending order, the
  key first.
* `BookingStep.move` turns every step into a move of ascending lock processes, and so bookings never
  wait for each other in a circle.
-/

namespace TicketBooking

open Fallible ListUpdate OrderedLocking StepSystem UniqueIndex

/-! ## Rows and their index entries -/

/-- An entry of `uq_orders_idempotency_key` or of `uq_tickets_event_zone_seat`. -/
abbrev IndexEntry := String ⊕ₗ (String ×ₗ String ×ₗ String)

/-- One row of a create transaction. -/
inductive BookingRow
  | order (o : Order)
  | ticket (t : Ticket)
deriving DecidableEq

/-- The unique-index entry of the row; NULL keys and seatless tickets have none. -/
def BookingRow.entry : BookingRow → Option IndexEntry
  | .order o => o.idempotencyKey.map fun key => toLex (.inl key)
  | .ticket t => t.seatEntry.map fun e => toLex (.inr (toLex (e.1, toLex (e.2.1, e.2.2))))

def BookingRow.insert (mentionsKey : Bool) (pg : Postgres) : BookingRow → Except DbExc Postgres
  | .order o => pg.insertOrder o
  | .ticket t => pg.insertTicket mentionsKey t

/-- The tables with the row. -/
def BookingRow.append (pg : Postgres) : BookingRow → Postgres
  | .order o => { pg with orders := pg.orders ++ [o.stored] }
  | .ticket t => { pg with tickets := pg.tickets ++ [t.stored] }

/-- The order row first, then the tickets in plan order. -/
def bookingRows (orderIn : OrderCreate) (idempotencyKey : Option String) (plan : OrderPlan)
    (draw : Draw) : List BookingRow :=
  .order (newOrder orderIn idempotencyKey plan draw) :: (plan.tickets draw.orderId).map .ticket

def bookingEvent (orderIn : OrderCreate) (idempotencyKey : Option String) (plan : OrderPlan)
    (draw : Draw) : OutboxEvent :=
  seatHeldEvent (newOrder orderIn idempotencyKey plan draw) (plan.tickets draw.orderId)
    (draw.now + holdWindow)

/-- The transaction of the service is its rows, one after the other, and the outbox event. -/
theorem createTx_eq_rows (pg : Postgres) (orderIn : OrderCreate) (idempotencyKey : Option String)
    (plan : OrderPlan) (draw : Draw) : createTx pg orderIn idempotencyKey plan draw =
      ((bookingRows orderIn idempotencyKey plan draw).foldlM
        (BookingRow.insert draw.mentionsKey) pg).map fun pg' =>
          pg'.insertOutbox [bookingEvent orderIn idempotencyKey plan draw] := by
  unfold createTx bookingRows
  rw [List.foldlM_cons, BookingRow.insert]
  dsimp only
  cases pg.insertOrder (newOrder orderIn idempotencyKey plan draw) with
  | error => rfl
  | ok withOrder =>
    have tickets : ((plan.tickets draw.orderId).map BookingRow.ticket).foldlM
        (BookingRow.insert draw.mentionsKey) withOrder =
        withOrder.insertTickets draw.mentionsKey (plan.tickets draw.orderId) := by
      rw [List.foldlM_map]
      rfl
    change (withOrder.insertTickets draw.mentionsKey (plan.tickets draw.orderId) >>= _) =
      (List.foldlM (BookingRow.insert draw.mentionsKey) withOrder
        ((plan.tickets draw.orderId).map BookingRow.ticket)).map _
    rw [tickets]
    cases withOrder.insertTickets draw.mentionsKey (plan.tickets draw.orderId) <;> rfl

/-- `_lock_order_key` is the entry of a numbered seat. -/
theorem entry_ticket {v : ValidatedItem} {orderId : ℕ} {e : IndexEntry}
    (entry : (BookingRow.ticket (v.ticket orderId)).entry = some e) :
    e = toLex (.inr (lockOrderKey v)) := by
  obtain ⟨triple, indexed, rfl⟩ := Option.map_eq_some_iff.mp entry
  rw [Ticket.seatEntry, if_pos (.inl rfl)] at indexed
  obtain ⟨n, number, rfl⟩ := Option.map_eq_some_iff.mp indexed
  have number : v.seatNumber = some n := number
  rw [lockOrderKey, number]
  rfl

/-- **The entries of a transaction ascend.** -/
theorem bookingRows_sorted {lower : String → String} {catalog : Catalog} {orderIn : OrderCreate}
    {plan : OrderPlan} (planned : planOrder lower catalog orderIn = .ok plan)
    (idempotencyKey : Option String) (draw : Draw) :
    ((bookingRows orderIn idempotencyKey plan draw).filterMap BookingRow.entry).Pairwise
      (· ≤ ·) := by
  obtain ⟨validated, -, rfl⟩ := map_ok_iff.mp planned
  have transitive : IsTrans ValidatedItem fun a b => lockOrderKey a ≤ lockOrderKey b :=
    ⟨fun _ _ _ => le_trans⟩
  have total : Std.Total fun a b : ValidatedItem => lockOrderKey a ≤ lockOrderKey b :=
    ⟨fun a b => le_total (lockOrderKey a) (lockOrderKey b)⟩
  have sorted := List.pairwise_insertionSort
    (fun a b : ValidatedItem => lockOrderKey a ≤ lockOrderKey b) validated
  have seats : (((validated.insertionSort fun a b => lockOrderKey a ≤ lockOrderKey b).map
      (ValidatedItem.ticket draw.orderId)).map BookingRow.ticket).Pairwise
        fun r r' => ∀ e ∈ r.entry, ∀ e' ∈ r'.entry, e ≤ e' := by
    rw [List.map_map, List.pairwise_map]
    refine sorted.imp fun {a b} ascending e entry e' entry' => ?_
    rw [entry_ticket entry, entry_ticket entry', Sum.Lex.inr_le_inr_iff]
    exact ascending
  refine List.Pairwise.filterMap _ (fun r r' ascending e entry e' entry' =>
    ascending e entry e' entry') (List.pairwise_cons.mpr ⟨?_, seats⟩)
  -- the key comes before every seat
  intro row later e entry e' entry'
  obtain ⟨key, -, rfl⟩ := Option.map_eq_some_iff.mp entry
  obtain ⟨t, -, rfl⟩ := List.mem_map.mp later
  obtain ⟨triple, -, rfl⟩ := Option.map_eq_some_iff.mp entry'
  exact Sum.Lex.inl_le_inr _ _

/-! ## Transactions side by side -/

/-- A create transaction between its INSERTs; once it has ended it owns nothing. -/
inductive BookingTx
  | running (mentionsKey : Bool) (event : OutboxEvent) (inserted left : List BookingRow)
  | committed
  | rolledBack
deriving DecidableEq

/-- The entries that the uncommitted rows take. -/
def BookingTx.owned : BookingTx → List IndexEntry
  | .running _ _ inserted _ => inserted.filterMap BookingRow.entry
  | _ => []

def BookingTx.wanted : BookingTx → List IndexEntry
  | .running _ _ _ left => left.filterMap BookingRow.entry
  | _ => []

/-- The committed tables and the transactions over them. -/
structure Bookings where
  pg : Postgres
  txs : List BookingTx
deriving DecidableEq

inductive BookingAction
  /-- A call reaches its transaction, with the catalog it read. -/
  | begin (catalog : Catalog) (orderIn : OrderCreate) (idempotencyKey : Option String) (draw : Draw)
  | insert (i : ℕ)
  | commit (i : ℕ)
  /-- An error, a timeout or a lost connection. -/
  | rollback (i : ℕ)
deriving DecidableEq

/-- Another transaction than `i` owns the entry. -/
def Bookings.ownedElsewhere (s : Bookings) (i : ℕ) (e : IndexEntry) : Bool :=
  (s.txs.eraseIdx i).any fun tx => tx.owned.any fun e' => decide (e' = e)

/-- One statement of one transaction.  An INSERT whose entry another transaction owns waits. -/
def Bookings.step (lower : String → String) (s : Bookings) :
    BookingAction → Option Bookings
  | .begin catalog orderIn idempotencyKey draw =>
    match planOrder lower catalog orderIn with
    | .error _ => none
    | .ok plan => some ⟨s.pg.drawOrderId draw.orderId, s.txs ++ [.running draw.mentionsKey
        (bookingEvent orderIn idempotencyKey plan draw) []
        (bookingRows orderIn idempotencyKey plan draw)]⟩
  | .insert i =>
    match s.txs[i]? with
    | some (.running mentionsKey event inserted (row :: left)) =>
      if row.entry.any (s.ownedElsewhere i) then none
      else
        match row.insert mentionsKey (inserted.foldl BookingRow.append s.pg) with
        | .ok _ =>
          some { s with txs := s.txs.set i (.running mentionsKey event (inserted ++ [row]) left) }
        | .error _ => some { s with txs := s.txs.set i .rolledBack }
    | _ => none
  | .commit i =>
    match s.txs[i]? with
    | some (.running _ event inserted []) =>
      some ⟨(inserted.foldl BookingRow.append s.pg).insertOutbox [event], s.txs.set i .committed⟩
    | _ => none
  | .rollback i =>
    match s.txs[i]? with
    | some (.running _ _ _ _) => some { s with txs := s.txs.set i .rolledBack }
    | _ => none

/-- The transaction `i` waits for the transaction `j`: the entry of its next row is owned by `j`. -/
def Bookings.WaitsFor (s : Bookings) (i j : ℕ) : Prop :=
  i ≠ j ∧ ∃ mentionsKey event inserted row left e tx, s.txs[i]? =
      some (.running mentionsKey event inserted (row :: left)) ∧ row.entry = some e ∧
    s.txs[j]? = some tx ∧ e ∈ tx.owned

/-! ## What a statement can do -/

inductive BookingStep (lower : String → String) (s : Bookings) : BookingAction → Bookings → Prop
  | begins {catalog : Catalog} {orderIn : OrderCreate} {idempotencyKey : Option String}
    {draw : Draw} {plan : OrderPlan} (planned : planOrder lower catalog orderIn = .ok plan) :
    BookingStep lower s (.begin catalog orderIn idempotencyKey draw) ⟨s.pg.drawOrderId draw.orderId,
      s.txs ++ [.running draw.mentionsKey (bookingEvent orderIn idempotencyKey plan draw) []
        (bookingRows orderIn idempotencyKey plan draw)]⟩
  | inserts {i : ℕ} {mentionsKey : Bool} {event : OutboxEvent} {inserted left : List BookingRow}
    {row : BookingRow} {pg' : Postgres}
    (at_i : s.txs[i]? = some (.running mentionsKey event inserted (row :: left)))
    (free : ∀ e, row.entry = some e → ∀ (j : ℕ) tx, j ≠ i → s.txs[j]? = some tx → e ∉ tx.owned)
    (ran : row.insert mentionsKey (inserted.foldl BookingRow.append s.pg) = .ok pg') :
    BookingStep lower s (.insert i)
      { s with txs := s.txs.set i (.running mentionsKey event (inserted ++ [row]) left) }
  | commits {i : ℕ} {mentionsKey : Bool} {event : OutboxEvent} {inserted : List BookingRow}
    (at_i : s.txs[i]? = some (.running mentionsKey event inserted [])) :
    BookingStep lower s (.commit i)
      ⟨(inserted.foldl BookingRow.append s.pg).insertOutbox [event], s.txs.set i .committed⟩
  /-- An INSERT that is refused, or a rollback for another reason. -/
  | rollsBack {a : BookingAction} (i : ℕ) : BookingStep lower s a
      { s with txs := s.txs.set i .rolledBack }

section Moves

variable {lower : String → String} {s s' start : Bookings} {a : BookingAction}

theorem Bookings.ownedElsewhere_of_mem {i j : ℕ} {tx : BookingTx} {e : IndexEntry} (away : j ≠ i)
    (at_j : s.txs[j]? = some tx) (owned : e ∈ tx.owned) : s.ownedElsewhere i e = true :=
  List.any_eq_true.mpr ⟨tx, List.mem_eraseIdx_iff_getElem?.mpr ⟨j, away, at_j⟩,
    List.any_eq_true.mpr ⟨e, owned, decide_eq_true rfl⟩⟩

theorem Bookings.step_cases (moved : s.step lower a = some s') : BookingStep lower s a s' := by
  cases a with
  | begin catalog orderIn key draw =>
    simp only [step] at moved
    split at moved
    case h_1 => cases moved
    case h_2 plan planned => cases moved; exact .begins planned
  | insert i =>
    simp only [step] at moved
    split at moved
    case h_2 => cases moved
    case h_1 mentionsKey event inserted row left at_i =>
      split at moved
      case isTrue => cases moved
      case isFalse free =>
        split at moved
        case h_2 => cases moved; exact .rollsBack i
        case h_1 pg' ran =>
          cases moved
          refine .inserts at_i (fun e entry j tx away at_j owned => free ?_) ran
          rw [entry, Option.any_some]
          exact ownedElsewhere_of_mem away at_j owned
  | commit i =>
    simp only [step] at moved
    split at moved
    case h_1 at_i => cases moved; exact .commits at_i
    case h_2 => cases moved
  | rollback i =>
    simp only [step] at moved
    split at moved
    case h_1 => cases moved; exact .rollsBack i
    case h_2 => cases moved

/-! ## As lock processes -/

def BookingTx.proc (tx : BookingTx) : Proc IndexEntry := ⟨tx.owned, tx.wanted⟩

def Bookings.procs (s : Bookings) : List (Proc IndexEntry) := s.txs.map BookingTx.proc

theorem Bookings.procs_getElem? (s : Bookings) (i : ℕ) :
    s.procs[i]? = s.txs[i]?.map BookingTx.proc := by
  rw [procs, List.getElem?_map]

/-- Who waits for whom is read off the lock processes. -/
theorem Bookings.WaitsFor.procs {i j : ℕ} (waits : s.WaitsFor i j) :
    OrderedLocking.WaitsFor s.procs i j := by
  obtain ⟨apart, mentionsKey, event, inserted, row, left, e, tx, at_i, entry, at_j, owned⟩ := waits
  refine ⟨apart, (BookingTx.running mentionsKey event inserted (row :: left)).proc, tx.proc, e,
    left.filterMap BookingRow.entry, ?_, ?_, ?_, owned⟩
  · rw [s.procs_getElem?, at_i, Option.map_some]
  · rw [s.procs_getElem?, at_j, Option.map_some]
  · simp only [BookingTx.proc, BookingTx.wanted, List.filterMap_cons, entry]

/-- A row that takes no entry changes nothing for the locks. -/
theorem BookingTx.proc_insert_of_none {mentionsKey : Bool} {event : OutboxEvent}
    {inserted left : List BookingRow} {row : BookingRow} (entry : row.entry = none) :
    (BookingTx.running mentionsKey event (inserted ++ [row]) left).proc =
      (BookingTx.running mentionsKey event inserted (row :: left)).proc := by
  simp [proc, owned, wanted, entry]

theorem BookingTx.proc_insert_of_some {mentionsKey : Bool} {event : OutboxEvent}
    {inserted left : List BookingRow} {row : BookingRow} {e : IndexEntry}
    (entry : row.entry = some e) :
    (BookingTx.running mentionsKey event (inserted ++ [row]) left).proc =
      ⟨inserted.filterMap BookingRow.entry ++ [e], left.filterMap BookingRow.entry⟩ := by
  simp [proc, owned, wanted, entry]

/-- **Every statement is a move of ascending lock processes.** -/
theorem BookingStep.move (moved : BookingStep lower s a s') : Move s.procs s'.procs := by
  unfold Bookings.procs
  cases moved with
  | @begins catalog orderIn key draw plan planned =>
    rw [List.map_append]
    exact .starts (bookingRows_sorted planned key draw)
  | @inserts i mentionsKey event inserted left row pg' at_i free ran =>
    have at_proc : (s.txs.map BookingTx.proc)[i]? =
        some (BookingTx.running mentionsKey event inserted (row :: left)).proc := by
      rw [List.getElem?_map, at_i, Option.map_some]
    rw [List.map_set]
    cases entry : row.entry with
    | none =>
      obtain ⟨inside, here⟩ := List.getElem?_eq_some_iff.mp at_proc
      rw [BookingTx.proc_insert_of_none entry, ← here, List.set_getElem_self inside]
      exact .idle
    | some e =>
      rw [BookingTx.proc_insert_of_some entry]
      refine .takes ?_ fun j q away at_j taken => ?_
      · rw [at_proc]
        simp [BookingTx.proc, BookingTx.owned, BookingTx.wanted, entry]
      · rw [List.getElem?_map] at at_j
        obtain ⟨tx, at_tx, rfl⟩ := Option.map_eq_some_iff.mp at_j
        exact free e entry j tx away at_tx taken
  | commits | rollsBack =>
    rw [List.map_set]
    exact .drops _

/-- Transactions want their entries in ascending order, and no entry has two owners. -/
theorem Bookings.safe_of_reachable (idle : start.txs = [])
    (reached : Reachable (Bookings.step lower) (fun _ _ => True) start s) : Safe s.procs := by
  refine reached.invariant (P := fun s => Safe s.procs) ?_ fun s a s' safe _ moved =>
    (Bookings.step_cases moved).move.safe safe
  rw [procs, idle]
  exact ⟨by simp, by simp⟩

/-! ## Commits are serial -/

/-- The entries of both unique indexes. -/
def Postgres.indexEntries (pg : Postgres) : List IndexEntry :=
  (pg.orders.filterMap fun o => (BookingRow.order o).entry) ++
    pg.tickets.filterMap fun t => (BookingRow.ticket t).entry

theorem Postgres.key_mem_indexEntries {pg : Postgres} {key : String} :
    toLex (.inl key) ∈ pg.indexEntries ↔ some key ∈ pg.orders.map Order.idempotencyKey := by
  simp only [indexEntries, List.mem_append, List.mem_filterMap, List.mem_map, BookingRow.entry,
    Option.map_eq_some_iff]
  constructor
  · intro indexed
    rcases indexed with ⟨o, stored, key', hasKey, same⟩ | ⟨t, stored, e, entry, same⟩
    · cases same
      exact ⟨o, stored, hasKey⟩
    · cases same
  · intro indexed
    obtain ⟨o, stored, hasKey⟩ := indexed
    exact .inl ⟨o, stored, key, hasKey, rfl⟩

theorem Postgres.seat_mem_indexEntries {pg : Postgres} {eventId seatZone seatNumber : String} :
    toLex (.inr (toLex (eventId, toLex (seatZone, seatNumber)))) ∈ pg.indexEntries ↔
      (eventId, seatZone, seatNumber) ∈ pg.seatIndex := by
  simp only [indexEntries, seatIndex, List.mem_append, List.mem_filterMap, BookingRow.entry,
    Option.map_eq_some_iff]
  constructor
  · intro indexed
    rcases indexed with ⟨o, stored, key, hasKey, same⟩ | ⟨t, stored, e, entry, same⟩
    · cases same
    · cases same
      exact ⟨t, stored, entry⟩
  · intro indexed
    obtain ⟨t, stored, entry⟩ := indexed
    exact .inr ⟨t, stored, _, entry, rfl⟩

/-- What the server checks of a row besides the unique indexes. -/
def BookingRow.Fits (pg : Postgres) : BookingRow → Prop
  | .order o => o.FitsColumns ∧ 0 ≤ numeric o.totalAmount ∧ o.userId ∈ pg.users
  | .ticket t => t.FitsColumns ∧ 0 ≤ numeric t.price

theorem BookingRow.insert_rule (mentionsKey : Bool) :
    InsertRule (BookingRow.insert mentionsKey)
      BookingRow.Fits BookingRow.entry Postgres.indexEntries BookingRow.append where
  ok_iff pg pg' row := by
    cases row with
    | order o =>
      have free : ¬ (o.idempotencyKey.isSome ∧
          o.idempotencyKey ∈ pg.orders.map Order.idempotencyKey) ↔
          ∀ e, (order o).entry = some e → e ∉ pg.indexEntries := by
        rw [entry]
        cases o.idempotencyKey with
        | none => simp
        | some key => simp only [Option.isSome_some, true_and, Option.map_some, Option.some.injEq,
            forall_eq', Postgres.key_mem_indexEntries]
      rw [insert, Postgres.insertOrder_ok_iff, Fits, append, free]
      tauto
    | ticket t =>
      have free : (∀ e, t.seatEntry = some e → e ∉ pg.seatIndex) ↔
          ∀ e, (ticket t).entry = some e → e ∉ pg.indexEntries := by
        rw [entry]
        cases t.seatEntry with
        | none => simp
        | some e => simp only [Option.map_some, Option.some.injEq, forall_eq',
            Postgres.seat_mem_indexEntries]
      rw [insert, Postgres.insertTicket_ok_iff, Fits, append, free, and_assoc]
  fits_append pg row row' := by
    cases row <;> cases row' <;> exact Iff.rfl
  mem_index_append pg row e := by
    cases row with
    | order o =>
      have stored : (order o.stored).entry = (order o).entry := rfl
      simp only [append, Postgres.indexEntries, List.filterMap_append, List.filterMap_cons,
        List.filterMap_nil, List.mem_append, stored]
      cases (order o).entry <;> simp [or_right_comm, eq_comm]
    | ticket t =>
      have stored : (ticket t.stored).entry = (ticket t).entry := rfl
      simp only [append, Postgres.indexEntries, List.filterMap_append, List.filterMap_cons,
        List.filterMap_nil, List.mem_append, stored]
      cases (ticket t).entry <;> simp [or_assoc, eq_comm]

theorem BookingRow.appendAll_users (pg : Postgres) (rows : List BookingRow) :
    (rows.foldl append pg).users = pg.users := by
  induction rows generalizing pg with
  | nil => rfl
  | cons row rows ih =>
    rw [List.foldl_cons, ih]
    cases row <;> rfl

/-- A running transaction has inserted the first rows of a booking, and they also go into the tables
as they are committed now. -/
def BookingTx.Books (pg : Postgres) : BookingTx → Prop
  | .running mentionsKey event inserted left =>
    (∃ orderIn idempotencyKey plan draw, mentionsKey = draw.mentionsKey ∧
      event = bookingEvent orderIn idempotencyKey plan draw ∧
      inserted ++ left = bookingRows orderIn idempotencyKey plan draw) ∧
    inserted.foldlM (BookingRow.insert mentionsKey) pg = .ok (inserted.foldl BookingRow.append pg)
  | _ => True

/-- Commits of others that leave the owned entries alone do not matter. -/
theorem BookingTx.Books.later {pg pg' : Postgres} {tx : BookingTx} (books : tx.Books pg)
    (users : pg'.users = pg.users)
    (new : ∀ e ∈ tx.owned, e ∉ pg.indexEntries → e ∉ pg'.indexEntries) : tx.Books pg' := by
  cases tx with
  | committed | rolledBack => trivial
  | running mentionsKey event inserted left =>
    have sameFits : ∀ row : BookingRow, row.Fits pg → row.Fits pg' := by
      intro row fits
      cases row with
      | order o => exact ⟨fits.1, fits.2.1, users.symm ▸ fits.2.2⟩
      | ticket t => exact fits
    exact ⟨books.1, (BookingRow.insert_rule mentionsKey).insertAll_ok_elsewhere books.2
      sameFits new⟩

theorem BookingStep.books (safe : Safe s.procs)
    (books : ∀ (i : ℕ) tx, s.txs[i]? = some tx → tx.Books s.pg) (moved : BookingStep lower s a s') :
    ∀ (i : ℕ) tx, s'.txs[i]? = some tx → tx.Books s'.pg := by
  cases moved with
  | @begins catalog orderIn key draw plan planned =>
    refine forall_getElem?_concat (fun i tx at_i => ?_) ?_
    · exact (books i tx at_i).later rfl fun _ _ => id
    · exact ⟨⟨orderIn, key, plan, draw, rfl, rfl, rfl⟩, rfl⟩
  | @inserts i mentionsKey event inserted left row pg' at_i free ran =>
    refine forall_getElem?_set (fun j tx _ at_j => books j tx at_j) ?_
    obtain ⟨⟨orderIn, key, plan, draw, sameMentions, sameEvent, rows⟩, firstRows⟩ := books i _ at_i
    refine ⟨⟨orderIn, key, plan, draw, sameMentions, sameEvent, by simpa using rows⟩, ?_⟩
    obtain ⟨-, -, rfl⟩ := ((BookingRow.insert_rule mentionsKey).ok_iff _ _ _).mp ran
    rw [List.foldlM_append, firstRows, List.foldl_append]
    exact bind_ok_iff.mpr ⟨_, rfl, bind_ok_iff.mpr ⟨_, ran, rfl⟩⟩
  | @commits i mentionsKey event inserted at_i =>
    refine forall_getElem?_set (fun j tx away at_j => ?_) trivial
    refine (books j tx at_j).later (BookingRow.appendAll_users s.pg inserted) fun e owned new => ?_
    have indexed : e ∈ (inserted.foldl BookingRow.append s.pg).indexEntries ↔
        e ∈ s.pg.indexEntries ∨ e ∈ inserted.filterMap BookingRow.entry :=
      (BookingRow.insert_rule mentionsKey).mem_index_appendAll
    -- the entries of the committed rows belong to their transaction alone
    have apart : e ∉ inserted.filterMap BookingRow.entry := by
      refine safe.exclusive j i tx.proc (BookingTx.running mentionsKey event inserted []).proc away
        ?_ ?_ e owned
      · rw [s.procs_getElem?, at_j, Option.map_some]
      · rw [s.procs_getElem?, at_i, Option.map_some]
    exact fun mem => (indexed.mp mem).elim new apart
  | rollsBack i => exact forall_getElem?_set (fun j tx _ at_j => books j tx at_j) trivial

theorem Bookings.books_of_reachable (idle : start.txs = [])
    (reached : Reachable (Bookings.step lower) (fun _ _ => True) start s) :
    ∀ (i : ℕ) tx, s.txs[i]? = some tx → tx.Books s.pg := by
  refine reached.invariant₂ (P := fun s => ∀ (i : ℕ) tx, s.txs[i]? = some tx → tx.Books s.pg) ?_
    fun s a s' before books _ moved =>
      (Bookings.step_cases moved).books (Bookings.safe_of_reachable idle before) books
  intro i tx at_i
  rw [idle] at at_i
  cases at_i

/-- **Bookings commit one after the other**: whatever ran in between, a transaction that commits
changes the tables as the service's transaction does alone at that moment. -/
theorem bookings_commit_serially (idle : start.txs = [])
    (reached : Reachable (Bookings.step lower) (fun _ _ => True) start s) {i : ℕ}
    (moved : s.step lower (.commit i) = some s') :
    ∃ orderIn idempotencyKey plan draw,
      createTx s.pg orderIn idempotencyKey plan draw = .ok s'.pg := by
  have books := Bookings.books_of_reachable idle reached
  simp only [Bookings.step] at moved
  split at moved
  case h_2 => cases moved
  case h_1 mentionsKey event inserted at_i =>
    cases moved
    obtain ⟨⟨orderIn, key, plan, draw, rfl, rfl, rows⟩, allRows⟩ := books i _ at_i
    rw [List.append_nil] at rows
    refine ⟨orderIn, key, plan, draw, ?_⟩
    rw [createTx_eq_rows, ← rows, allRows]
    rfl

/-! ## No deadlock -/

/-- **Bookings cannot deadlock each other**: whatever they book and in whatever order their
statements run, they never wait for each other in a circle. -/
theorem bookings_never_deadlock (idle : start.txs = [])
    (reached : Reachable (Bookings.step lower) (fun _ _ => True) start s) (i : ℕ) :
    ¬ Relation.TransGen s.WaitsFor i i := by
  have links : s.WaitsFor ≤ OrderedLocking.WaitsFor s.procs := fun _ _ waits => waits.procs
  intro cycle
  exact (Bookings.safe_of_reachable idle reached).no_cycle i
    (Relation.TransGen.mono links i i cycle)

end Moves

/-- Two users book the same two seats, in opposite order. -/
def oppositeSchedule : List BookingAction :=
  [.begin (Sample.start Sample.floor).dbs.mongo Sample.pair none (Sample.draw 1),
    .begin (Sample.start Sample.floor).dbs.mongo Sample.reversedPair none (Sample.draw 2),
    .insert 0, .insert 1, .insert 0]

/-- The second one waits for the seat that the first one holds, and they are in no circle. -/
theorem opposite_orders_wait_in_line :
    ∃ s, run (Bookings.step Sample.cfg.lower) ⟨(Sample.start Sample.floor).dbs.pg, []⟩
        oppositeSchedule = some s ∧
      s.step Sample.cfg.lower (.insert 1) = none ∧ ∀ i, ¬ Relation.TransGen s.WaitsFor i i := by
  obtain ⟨s, checked, waits⟩ := Option.map_eq_some_iff.mp (show (checkedRun
    (Bookings.step Sample.cfg.lower) (fun _ _ => True) ⟨(Sample.start Sample.floor).dbs.pg, []⟩
      oppositeSchedule).map (fun s => (s.step Sample.cfg.lower (.insert 1)).isNone) = some true by
    decide +kernel)
  exact ⟨s, run_of_checkedRun checked, Option.isNone_iff_eq_none.mp waits,
    bookings_never_deadlock rfl (reachable_of_checkedRun checked)⟩

end TicketBooking
