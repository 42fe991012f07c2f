import TicketBooking.LifeCycle

/-!
# What an error answer promises

The handlers of `create_order_dual_db` infer from an exception of the transaction that nothing was
saved.  `State.NothingSaved` is that promise: a call that compensates or has answered with an error
has no rows in PostgreSQL.  `nothing_saved_iff`: a schedule keeps it throughout exactly when no
COMMIT that the server applies loses its reply.

A request is followed through the tables by the order id its transaction drew
(`CreateCall.attempt`).
-/

namespace TicketBooking

open StepSystem

/-! ## The promise -/

def OrderRows.none : OrderRows := ⟨[], [], [], []⟩

/-- The call gives its seats back, or has answered with an error. -/
def CreatePc.Failing : CreatePc → Prop
  | .release _ _ => True
  | .done (.raised _) => True
  | _ => False

def State.NothingSaved (s : State) : Prop :=
  ∀ (i : ℕ) c orderId, s.calls[i]? = some (.create c) → c.pc.Failing →
    c.attempt = some orderId → s.dbs.pg.rowsOf orderId = .none

/-- A create whose COMMIT the server applies learns of it. -/
def CommitReplyReceived (s : State) : Action → Prop
  | .step i fault draw =>
    ∀ r ∈ s.committing i, (createTx (s.dbs.pg.drawOrderId draw.orderId) r.1.orderIn
      r.1.idempotencyKey r.2 draw).toOption.isSome → fault.ReplyReceived
  | _ => True

instance (s : State) : (a : Action) → Decidable (CommitReplyReceived s a)
  | .step i fault draw => inferInstanceAs (Decidable (∀ r ∈ s.committing i,
      (createTx (s.dbs.pg.drawOrderId draw.orderId) r.1.orderIn r.1.idempotencyKey r.2
        draw).toOption.isSome → fault.ReplyReceived))
  | .spawn _ | .crash _ => inferInstanceAs (Decidable True)

/-! ## Orders that never came to be -/

/-- No COMMIT adds rows under an id that was drawn before. -/
theorem Commit.keeps_absent {lower : String → String} {catalog : Catalog} {pg pg' : Postgres}
    (committed : Commit lower catalog pg pg') {orderId : ℕ} (drawn : orderId ∈ pg.orderIdsDrawn)
    (absent : pg.rowsOf orderId = .none) : pg'.rowsOf orderId = .none := by
  have noOrder : ∀ o ∈ pg.orders, o.id ≠ orderId := by
    intro o stored same
    have mem : o ∈ (pg.rowsOf orderId).orders := List.mem_filter.mpr ⟨stored, by simpa using same⟩
    rw [absent] at mem
    exact List.not_mem_nil mem
  cases committed with
  | nothing | drawn => exact absent
  | @created orderIn key plan draw planned fresh rows =>
    have other : orderId ≠ draw.orderId := fun same => fresh (same ▸ drawn)
    rw [rowsOf_created_other _ _ _ _ _ other]
    exact absent
  | @expired rows reason distinct pending =>
    have other : orderId ∉ rows.map Prod.fst := by
      intro mem
      obtain ⟨row, inRows, rfl⟩ := List.mem_map.mp mem
      obtain ⟨o, stored, same, -⟩ := pending row inRows
      exact noOrder o stored same
    rw [rowsOf_expireHolds_other other]
    exact absent
  | @confirmed order payment event stored pending unpaid paymentOf completed amount paid eventOf =>
    have other : orderId ≠ order.id := (noOrder order stored).symm
    rw [rowsOf_confirm_other paymentOf eventOf other]
    exact absent

/-- The attempt of a call: none before its transaction, and drawn from the sequence after it. -/
def Call.Attempted (pg : Postgres) : Call → Prop
  | .create c => (∀ orderId, c.attempt = some orderId → orderId ∈ pg.orderIdsDrawn) ∧
      (c.pc = .lookup ∨ c.pc = .readCatalog ∨ (∃ plan held rest, c.pc = .reserve plan held rest) →
        c.attempt = none)
  | _ => True

section Attempts

variable {cfg : Config} {ok : State → Action → Prop} {start s s' : State} {a : Action}
  {dbs dbs' : Databases} {fault : Fault} {draw : Draw} {c c' : CreateCall}

theorem CreateStep.attempted (before : Call.Attempted dbs.pg (.create c))
    (moved : CreateStep cfg.lower dbs fault draw c dbs' c') :
    Call.Attempted dbs'.pg (.create c') := by
  obtain ⟨drawn, untried⟩ := before
  cases moved with
  | ends | gaveBack =>
    exact ⟨drawn, by rintro (at_pc | at_pc | ⟨plan, held, rest, at_pc⟩) <;> cases at_pc⟩
  | soldOut | reserveRaised =>
    exact ⟨drawn, by rintro (at_pc | at_pc | ⟨plan, held, rest, at_pc⟩) <;> cases at_pc⟩
  | keyFree at_pc => exact ⟨drawn, fun _ => untried (.inl at_pc)⟩
  | planned at_pc => exact ⟨drawn, fun _ => untried (.inr (.inl at_pc))⟩
  | reserved at_pc => exact ⟨drawn, fun _ => untried (.inr (.inr ⟨_, _, _, at_pc⟩))⟩
  | committed at_pc fresh statements | replyLost at_pc fresh lost statements =>
    obtain ⟨-, rfl⟩ := createTx_ok_iff.mp statements
    refine ⟨?_, by rintro (at_pc | at_pc | ⟨plan, held, rest, at_pc⟩) <;> cases at_pc⟩
    rintro orderId tried
    cases tried
    exact List.mem_cons_self
  | aborted at_pc fresh =>
    refine ⟨?_, by rintro (at_pc | at_pc | ⟨plan, held, rest, at_pc⟩) <;> cases at_pc⟩
    rintro orderId tried
    cases tried
    exact List.mem_cons_self

theorem attempted_of_reachable (fresh : start.Fresh) (reached : Reachable (step cfg) ok start s) :
    ∀ (i : ℕ) call, s.calls[i]? = some call → call.Attempted s.dbs.pg := by
  refine forall_calls_of_reachable (Q := fun dbs call => call.Attempted dbs.pg) reached fresh.1
    ?_ ?_ ?_
  · rintro dbs (_ | _ | _)
    · exact ⟨nofun, fun _ => rfl⟩
    · trivial
    · trivial
  · rintro dbs (c | c | c) before
    · exact ⟨before.1, by rintro (at_pc | at_pc | ⟨plan, held, rest, at_pc⟩) <;> cases at_pc⟩
    · trivial
    · trivial
  · intro s i fault draw call dbs' call' before _ at_i attempted moved
    have locked := rowsLocked_of_reachable before fresh.1 fresh.idsDrawn
    have planned := planned_of_reachable before fresh.1 i call at_i
    obtain ⟨committed, -⟩ := moved.commit (locked.current i call at_i) planned
    constructor
    · cases moved with
      | create moved => exact moved.attempted (attempted i _ at_i)
      | pay | sweep => trivial
    · intro j other _ at_j
      have old := attempted j other at_j
      cases other with
      | create c => exact ⟨fun orderId tried => committed.drawn_mono (old.1 orderId tried), old.2⟩
      | pay | sweep => trivial

/-! ## Over schedules -/

/-- A step of a create that learns of its COMMIT: when it fails afterwards, it has no rows. -/
theorem CreateStep.saves_nothing (cycle : dbs.pg.LifeCycle)
    (before : Call.Attempted dbs.pg (.create c))
    (saved : c.pc.Failing → ∀ orderId, c.attempt = some orderId → dbs.pg.rowsOf orderId = .none)
    (informed : ∀ plan held, c.pc = .reserve plan held [] →
      (createTx (dbs.pg.drawOrderId draw.orderId) c.orderIn c.idempotencyKey plan
        draw).toOption.isSome → fault.ReplyReceived)
    (moved : CreateStep cfg.lower dbs fault draw c dbs' c') (failing : c'.pc.Failing) (orderId : ℕ)
    (tried : c'.attempt = some orderId) : dbs'.pg.rowsOf orderId = .none := by
  have untried : c.pc = .lookup ∨ c.pc = .readCatalog ∨
      (∃ plan held rest, c.pc = .reserve plan held rest) → c.attempt ≠ some orderId := by
    intro early
    rw [before.2 early]
    nofun
  cases moved with
  | ends ended =>
    cases ended with
    | keyRefused at_pc => exact absurd tried (untried (.inl at_pc))
    | invalid at_pc | catalogUnread at_pc => exact absurd tried (untried (.inr (.inl at_pc)))
    | keyUnread at_pc =>
      rcases at_pc with at_pc | ⟨exc, at_pc⟩
      · exact absurd tried (untried (.inl at_pc))
      · exact saved (at_pc ▸ trivial) orderId tried
    | compensated at_pc | integrity at_pc => exact saved (at_pc ▸ trivial) orderId tried
    | keyReplayed | raceLost => exact failing.elim
  | keyFree | planned | reserved | committed => exact failing.elim
  | soldOut at_pc | reserveRaised at_pc =>
    exact absurd tried (untried (.inr (.inr ⟨_, _, _, at_pc⟩)))
  | aborted at_pc fresh =>
    cases tried
    exact cycle.undrawn draw.orderId fresh
  | replyLost at_pc fresh lost statements =>
    have received := informed _ _ at_pc (by rw [statements]; rfl)
    rw [lost] at received
    cases received
  | gaveBack at_pc => exact saved (at_pc ▸ trivial) orderId tried

theorem nothing_saved_step (fresh : start.Fresh)
    (reached : Reachable (step cfg) (fun _ _ => True) start s) (saved : s.NothingSaved)
    (allowed : CommitReplyReceived s a) (moved : step cfg s a = some s') : s'.NothingSaved := by
  have attempted := attempted_of_reachable fresh reached
  have committed := commit_of_step reached fresh.1 fresh.idsDrawn moved
  have old : ∀ (j : ℕ) c orderId, s.calls[j]? = some (.create c) → c.pc.Failing →
      c.attempt = some orderId → s'.dbs.pg.rowsOf orderId = .none := by
    intro j c orderId at_j failing tried
    exact committed.keeps_absent ((attempted j _ at_j).1 orderId tried)
      (saved j c orderId at_j failing tried)
  have calls : ∀ (j : ℕ) call, s'.calls[j]? = some call → ∀ c, call = .create c → c.pc.Failing →
      ∀ orderId, c.attempt = some orderId → s'.dbs.pg.rowsOf orderId = .none := by
    cases step_cases moved with
    | spawn request =>
      refine ListUpdate.forall_getElem?_concat ?_ ?_
      · rintro j _ at_j c rfl failing orderId
        exact old j c orderId at_j failing
      · intro c isCreate failing
        cases request with
        | createOrder => cases isCreate; exact failing.elim
        | processPayment | cleanup => cases isCreate
    | @call i fault draw call call' dbs' at_i called =>
      refine ListUpdate.forall_getElem?_set ?_ ?_
      · rintro j _ _ at_j c rfl failing orderId
        exact old j c orderId at_j failing
      · rintro c' rfl failing orderId
        cases called with
        | @create c _ _ stepped =>
          refine stepped.saves_nothing (lifeCycle_of_reachable fresh reached) (attempted i _ at_i)
            (fun failing orderId => saved i c orderId at_i failing) ?_ failing orderId
          intro plan held at_pc
          exact allowed _ (State.committing_eq_some.mpr ⟨at_i, _, at_pc⟩)
    | @crash i call at_i =>
      refine ListUpdate.forall_getElem?_set ?_ ?_
      · rintro j _ _ at_j c rfl failing orderId
        exact old j c orderId at_j failing
      · intro c' crashed failing
        cases call with
        | create => cases crashed; exact failing.elim
        | pay | sweep => cases crashed
  intro j c orderId at_j failing
  exact calls j _ at_j c rfl failing orderId

/-- A COMMIT whose reply is lost leaves rows behind a call that compensates. -/
theorem nothing_saved_step_violated (fresh : start.Fresh)
    (reached : Reachable (step cfg) (fun _ _ => True) start s)
    (violated : ¬ CommitReplyReceived s a)
    (moved : step cfg s a = some s') : ¬ s'.NothingSaved := by
  have cycle := lifeCycle_of_reachable fresh reached
  intro saved
  cases a with
  | spawn | crash => exact violated trivial
  | step i fault draw =>
    simp only [CommitReplyReceived, not_forall] at violated
    obtain ⟨⟨c, plan⟩, committing, commits, lost⟩ := violated
    obtain ⟨at_i, held, at_pc⟩ := State.committing_eq_some.mp committing
    cases step_cases moved with
    | call at_i' called =>
      cases at_i.symm.trans at_i'
      cases called with
      | create stepped =>
        cases stepped with
        | @replyLost plan' held' exc pg' at_pc' fresh' _ statements =>
          obtain ⟨-, rfl⟩ := createTx_ok_iff.mp statements
          have rows := saved i _ draw.orderId (ListUpdate.getElem?_set_self _ at_i) trivial rfl
          have own := rowsOf_created_self (s.dbs.pg.drawOrderId draw.orderId) c.orderIn
            c.idempotencyKey plan' draw (cycle.undrawn draw.orderId fresh')
          cases congrArg OrderRows.orders (own.symm.trans rows)
        | committed at_pc' fresh' statements replied =>
          cases fault with
          | pgRaised => exact replied
          | none | mongoRaised => exact lost trivial
        | aborted at_pc' fresh' cause =>
          cases at_pc.symm.trans at_pc'
          rcases cause with raised | statements
          · rw [raised] at lost
            exact lost rfl
          · rw [statements] at commits
            cases commits
        | ends ended => exact absurd at_pc ended.not_reserving
        | keyFree at_pc' | planned at_pc' | reserved at_pc' | soldOut at_pc' | reserveRaised at_pc'
        | gaveBack at_pc' => cases at_pc.symm.trans at_pc'

/-- **When an error answer means that nothing was saved.**  In every state of a schedule the calls
that compensate or have answered with an error have no rows in PostgreSQL, exactly when every create
whose COMMIT the server applies learns of it. -/
theorem nothing_saved_iff {t : State} {as : List Action} (fresh : start.Fresh)
    (executed : run (step cfg) start as = some t) :
    Along (step cfg) start as State.NothingSaved ↔
      StepsMeet (step cfg) start as CommitReplyReceived := by
  refine along_iff_stepsMeet (I := Reachable (step cfg) (fun _ _ => True) start) executed .init ?_
    ?_ ?_ ?_
  · intro i c orderId at_i
    rw [fresh.1] at at_i
    cases at_i
  · exact fun s a s' reached moved => .next reached trivial moved
  · exact fun s a s' reached saved allowed moved =>
      nothing_saved_step fresh reached saved allowed moved
  · exact fun s a s' reached _ violated moved =>
      nothing_saved_step_violated fresh reached violated moved

end Attempts

/-- The connection breaks. -/
def brokenConnection : DbExc := ⟨.operational, none, "", false⟩

/-- The COMMIT of one create raises; `applied` says whether the server applied it. -/
def brokenCommitSchedule (applied : Bool) : List Action :=
  .spawn (.createOrder Sample.order none) :: Sample.advance 0 3 1 ++
    .step 0 (.pgRaised brokenConnection applied) (Sample.draw 1) :: Sample.advance 0 2 1

theorem nothing_saved_by_aborted_commit :
    Along (step Sample.cfg) (Sample.start Sample.floor) (brokenCommitSchedule false)
      State.NothingSaved := by
  obtain ⟨t, checked⟩ := Option.isSome_iff_exists.mp (show (checkedRun (step Sample.cfg)
    CommitReplyReceived (Sample.start Sample.floor) (brokenCommitSchedule false)).isSome = true by
      decide +kernel)
  exact (nothing_saved_iff (Sample.fresh Sample.floor) (run_of_checkedRun checked)).mpr
    (stepsMeet_of_checkedRun checked)

/-- **An error answer for an order that exists**: the client is told to retry, the order and its
held ticket are in the table, and the seat has been given back. -/
theorem lost_reply_answers_unavailable :
    ((run (step Sample.cfg) (Sample.start Sample.floor) (brokenCommitSchedule true)).map fun s =>
      (s.calls, s.dbs.pg.orders.map Order.id, s.dbs.pg.tickets.map Ticket.status,
        (s.dbs.mongo.zone? Sample.oid "Floor").map Zone.bookedCount)) =
      some ([.create ⟨Sample.order, none, some 1, .done (.raised unavailableException)⟩], [1],
        [.held], some 0) := by decide +kernel

end TicketBooking
