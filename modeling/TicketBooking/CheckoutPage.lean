import TicketBooking.PaymentAnswers
import TicketBooking.SeatsPage

/-!
# The checkout page

`frontend/app/checkout/checkout.js` over the booking system: any number of pages show orders, pay
them and say what has become of them, while the reaper, other payments and other clients are at
work.  Reads and payments are answered at one moment and shown at a later one, and answers can be
lost.  The form and its checks, the event and the account (for display only) are left out.

* `Till` is the system, `TillStep` what an action can do to it.
* `Till.Truthful` is the invariant: what the pages show, and what is on its way to them, is true.
* `checkout_truthful`: "You're going!" is shown for paid orders only, with the tickets that are
  valid, an order the service has called expired is never paid, and no page asks for a payment that
  the service finds wrong.
-/

namespace TicketBooking

open ListUpdate StepSystem

/-! ## The page -/

/-- What `showState` shows. -/
inductive Notice
  | missing
  | busy
  | cancelled
  /-- The page has one text for both: the service has said it, or the countdown has ended. -/
  | expired (told : Bool)
deriving DecidableEq

structure CheckoutPage where
  orderId : ℕ
  /-- `order` -/
  order : Option (Order × List Ticket)
  /-- `#workspace` is visible. -/
  workspace : Bool
  /-- `#checkout-state`, when it is visible. -/
  notice : Option Notice
  /-- `#done` is visible. -/
  done : Bool
  /-- `#pay-btn` is enabled. -/
  payable : Bool
  /-- The interval of `timer` runs. -/
  counting : Bool
  /-- An interval runs that `timer` no longer refers to. -/
  stray : Bool
deriving DecidableEq

def CheckoutPage.opened (orderId : ℕ) : CheckoutPage :=
  ⟨orderId, none, true, none, false, false, false, false⟩

def CheckoutPage.showState (page : CheckoutPage) (notice : Notice) : CheckoutPage :=
  { page with notice := some notice, workspace := false, payable := false, counting := false }

def CheckoutPage.showDone (page : CheckoutPage) : CheckoutPage :=
  { page with counting := false, workspace := false, done := true }

/-- `finally` of the payment -/
def CheckoutPage.settle (page : CheckoutPage) : CheckoutPage :=
  if page.workspace = true ∧ page.order.any fun o => o.1.status = .pending then
    { page with payable := true }
  else page

/-- The interval starts after its first `tick`, which may have found the hold over. -/
def CheckoutPage.startCountdown (page : CheckoutPage) (order : Order) (timeLeft : Bool) :
    CheckoutPage :=
  if order.expiresAt.isNone then page
  else
    let page := if timeLeft then page else page.showState (.expired false)
    { page with counting := true, stray := page.stray || page.counting }

/-- The answer to `GET /orders/{id}`. -/
inductive OrderReply
  | found (order : Order) (tickets : List Ticket)
  | refused (statusCode : ℕ)
deriving DecidableEq

/-- `load` up to its `await` -/
def CheckoutPage.loading (page : CheckoutPage) : CheckoutPage := { page with notice := none }

/-- `load`, with the answer. -/
def CheckoutPage.loaded (page : CheckoutPage) (timeLeft : Bool) : OrderReply → CheckoutPage
  | .refused statusCode => page.showState (if 500 ≤ statusCode then .busy else .missing)
  | .found order tickets =>
    let page := { page with order := some (order, tickets) }
    match order.status with
    | .confirmed | .paid => page.showDone
    | .expired => page.showState (.expired true)
    | .cancelled => page.showState .cancelled
    | .pending => { page.startCountdown order timeLeft with payable := true }

/-- The order is read again after a payment. -/
def CheckoutPage.refreshed (page : CheckoutPage) : OrderReply → CheckoutPage
  | .refused _ => page.showDone
  | .found order tickets => { page with order := some (order, tickets) }.showDone

/-! ## The pages and the service -/

/-- A `GET /orders/{id}` of a page. -/
structure OrderRead where
  page : ℕ
  orderId : ℕ
  afterPayment : Bool
  /-- The answer of the service. -/
  reply : Option OrderReply
  waiting : Bool
deriving DecidableEq

/-- A `POST /orders/{id}/payments` of a page. -/
structure PaymentRequest where
  page : ℕ
  orderId : ℕ
  body : PaymentBody
  /-- The call it has started. -/
  call : Option ℕ
  waiting : Bool
deriving DecidableEq

structure Till where
  booking : State
  pages : List CheckoutPage
  reads : List OrderRead
  payments : List PaymentRequest
deriving DecidableEq

/-- How the call of a payment has ended. -/
def PaymentRequest.outcome (booking : State) (r : PaymentRequest) :
    Option (Except HttpException Payment) :=
  r.call.bind fun i =>
    match booking.calls[i]? with
    | some (.pay ⟨_, _, .done outcome⟩) => some outcome
    | _ => none

inductive TillAction
  | booking (action : Action)
  | openPage (orderId : ℕ)
  | retry (j : ℕ)
  /-- The countdown reaches zero. -/
  | timeUp (j : ℕ)
  /-- The form is submitted. -/
  | pay (j : ℕ) (provider providerTxId : String)
  /-- The service reads the order. -/
  | serveRead (n : ℕ)
  /-- The service or the proxy answers with another error. -/
  | refuseRead (n statusCode : ℕ)
  /-- The browser's clock says whether the hold is over. -/
  | readArrives (n : ℕ) (timeLeft : Bool)
  | readLost (n : ℕ)
  /-- A payment reaches the service. -/
  | deliver (n : ℕ)
  | answer (n : ℕ)
  /-- The fetch ends without an answer of `process_order_payment`. -/
  | fail (n : ℕ)
deriving DecidableEq

def Till.setPage (till : Till) (j : ℕ) (page : CheckoutPage) : Till :=
  { till with pages := till.pages.set j page }

def Till.setRead (till : Till) (n : ℕ) (r : OrderRead) : Till :=
  { till with reads := till.reads.set n r }

def Till.setPayment (till : Till) (n : ℕ) (r : PaymentRequest) : Till :=
  { till with payments := till.payments.set n r }

/-- A page sends a read. -/
def Till.read (till : Till) (j orderId : ℕ) (afterPayment : Bool) : Till :=
  { till with reads := till.reads ++ [⟨j, orderId, afterPayment, none, true⟩] }

/-- A page is opened and loads. -/
def Till.openPage (till : Till) (orderId : ℕ) : Till :=
  { till with pages := till.pages ++ [CheckoutPage.opened orderId] }.read till.pages.length orderId
    false

/-- `load` -/
def Till.load (till : Till) (j : ℕ) (page : CheckoutPage) : Till :=
  (till.setPage j page.loading).read j page.orderId false

/-- The payment form is submitted. -/
def Till.pay (till : Till) (j : ℕ) (page : CheckoutPage) (order : Order)
    (provider providerTxId : String) : Till :=
  let body := ⟨order.totalAmount, provider, some providerTxId⟩
  { till.setPage j { page with payable := false } with
    payments := till.payments ++ [⟨j, order.id, body, none, true⟩] }

/-- What the page does with the answer to its payment.  After `load`, `finally` changes nothing. -/
def Till.answered (till : Till) (j : ℕ) (page : CheckoutPage) (order : Order) :
    Except HttpException Payment → Till
  | .ok _ => till.read j order.id true
  | .error answer =>
    if answer.statusCode = 410 then till.setPage j (page.showState (.expired true))
    else if answer.statusCode = 409 ∧ answer.detail.mentions "already paid" = true then
      till.load j page
    else if answer.statusCode = 409 ∧ answer.detail.mentions "cancelled" = true then
      till.setPage j (page.showState .cancelled)
    else till.setPage j page.settle

/-- The body as `PaymentCreate` validates it; otherwise the answer is 400. -/
def PaymentBody.paymentIn? (body : PaymentBody) : Option PaymentCreate :=
  if accepted : body.Accepted then some ⟨body, accepted⟩ else none

/-- `get_order_by_id`: one SELECT with both joins. -/
def Postgres.getOrderById (pg : Postgres) (orderId : ℕ) : OrderReply :=
  match pg.findOrder orderId with
  | some order => .found order (pg.ticketsOf order.id)
  | none => .refused 404

section System

variable (cfg : Config)

def Till.step (till : Till) : TillAction → Option Till
  | .booking action =>
    (TicketBooking.step cfg till.booking action).map fun booking => { till with booking }
  | .openPage orderId => some (till.openPage orderId)
  | .retry j => till.pages[j]?.bind fun page =>
    if page.notice = some .busy then some (till.load j page) else none
  | .timeUp j => till.pages[j]?.bind fun page =>
    if page.counting || page.stray then some (till.setPage j (page.showState (.expired false)))
    else none
  | .pay j provider providerTxId => till.pages[j]?.bind fun page => page.order.bind fun order =>
    if page.workspace = true ∧ page.payable = true then
      some (till.pay j page order.1 provider providerTxId)
    else none
  | .serveRead n => till.reads[n]?.bind fun r =>
    if r.reply = none then
      some (till.setRead n { r with reply := till.booking.dbs.pg.getOrderById r.orderId })
    else none
  | .refuseRead n statusCode => till.reads[n]?.bind fun r =>
    if r.reply = none then
      some (till.setRead n { r with reply := some (.refused statusCode) })
    else none
  | .readArrives n timeLeft => till.reads[n]?.bind fun r => till.pages[r.page]?.bind fun page =>
    r.reply.bind fun reply =>
      if r.waiting then
        some ((till.setRead n { r with waiting := false }).setPage r.page
          (if r.afterPayment then page.refreshed reply else page.loaded timeLeft reply))
      else none
  | .readLost n => till.reads[n]?.bind fun r => till.pages[r.page]?.bind fun page =>
    if r.waiting then
      some ((till.setRead n { r with waiting := false }).setPage r.page
        (if r.afterPayment then page.settle else page.showState .busy))
    else none
  | .deliver n => till.payments[n]?.bind fun r => r.body.paymentIn?.bind fun paymentIn =>
    if r.call = none then
      (TicketBooking.step cfg till.booking (.spawn (.processPayment r.orderId paymentIn))).map
        fun booking => { till with booking }.setPayment n
          { r with call := some till.booking.calls.length }
    else none
  | .answer n => till.payments[n]?.bind fun r => till.pages[r.page]?.bind fun page =>
    page.order.bind fun order => (r.outcome till.booking).bind fun outcome =>
      if r.waiting then
        some ((till.setPayment n { r with waiting := false }).answered r.page page order.1 outcome)
      else none
  | .fail n => till.payments[n]?.bind fun r => till.pages[r.page]?.bind fun page =>
    if r.waiting then
      some ((till.setPayment n { r with waiting := false }).setPage r.page page.settle)
    else none

end System

/-- No page is open and the service is idle. -/
def Till.Fresh (till : Till) : Prop :=
  till.booking.Fresh ∧ till.pages = [] ∧ till.reads = [] ∧ till.payments = []

namespace Sample

def till : Till := ⟨start floor, [], [], []⟩

/-- An order is placed, opened at the checkout and paid. -/
def paidAtCheckout : List TillAction :=
  (Action.spawn (.createOrder order none) :: advance 0 4 1).map .booking ++
  [.openPage 1, .serveRead 0, .readArrives 0 true, .pay 0 "promptpay" "DEMO-1", .deliver 0] ++
  (advance 1 2 1).map .booking ++ [.answer 0, .serveRead 1, .readArrives 1 true]

end Sample

/-! ## What a step can do -/

section Steps

variable {cfg : Config} {till till' : Till} {action : TillAction}

/-- Everything an action can do to the till. -/
inductive TillStep (cfg : Config) (till : Till) : TillAction → Till → Prop
  | booking {action : Action} {booking : State}
    (moved : TicketBooking.step cfg till.booking action = some booking) :
    TillStep cfg till (.booking action) { till with booking }
  | opened (orderId : ℕ) : TillStep cfg till (.openPage orderId) (till.openPage orderId)
  | retried {j : ℕ} {page : CheckoutPage} (at_j : till.pages[j]? = some page) :
    TillStep cfg till (.retry j) (till.load j page)
  | timedOut {j : ℕ} {page : CheckoutPage} (at_j : till.pages[j]? = some page) :
    TillStep cfg till (.timeUp j) (till.setPage j (page.showState (.expired false)))
  | paying {j : ℕ} {page : CheckoutPage} {order : Order} {tickets : List Ticket}
    (provider providerTxId : String) (at_j : till.pages[j]? = some page)
    (shown : page.order = some (order, tickets)) :
    TillStep cfg till (.pay j provider providerTxId) (till.pay j page order provider providerTxId)
  | served {n : ℕ} {r : OrderRead} (at_n : till.reads[n]? = some r) :
    TillStep cfg till (.serveRead n)
      (till.setRead n { r with reply := till.booking.dbs.pg.getOrderById r.orderId })
  | unserved {n : ℕ} {r : OrderRead} (statusCode : ℕ) (at_n : till.reads[n]? = some r) :
    TillStep cfg till (.refuseRead n statusCode)
      (till.setRead n { r with reply := some (.refused statusCode) })
  | arrived {n : ℕ} {r : OrderRead} {page : CheckoutPage} {reply : OrderReply} (timeLeft : Bool)
    (at_n : till.reads[n]? = some r) (at_page : till.pages[r.page]? = some page)
    (replied : r.reply = some reply) :
    TillStep cfg till (.readArrives n timeLeft)
      ((till.setRead n { r with waiting := false }).setPage r.page
        (if r.afterPayment then page.refreshed reply else page.loaded timeLeft reply))
  | lost {n : ℕ} {r : OrderRead} {page : CheckoutPage} (at_n : till.reads[n]? = some r)
    (at_page : till.pages[r.page]? = some page) :
    TillStep cfg till (.readLost n)
      ((till.setRead n { r with waiting := false }).setPage r.page
        (if r.afterPayment then page.settle else page.showState .busy))
  | delivered {n : ℕ} {r : PaymentRequest} {paymentIn : PaymentCreate}
    (at_n : till.payments[n]? = some r) (valid : r.body.paymentIn? = some paymentIn)
    (onItsWay : r.call = none) :
    TillStep cfg till (.deliver n)
      ({ till with booking := { till.booking with
          calls := till.booking.calls ++ [Call.pay (.start r.orderId paymentIn)] } }.setPayment n
        { r with call := some till.booking.calls.length })
  | paid {n : ℕ} {r : PaymentRequest} {page : CheckoutPage} {order : Order} {tickets : List Ticket}
    {payment : Payment} (at_n : till.payments[n]? = some r)
    (at_page : till.pages[r.page]? = some page) (shown : page.order = some (order, tickets))
    (ended : r.outcome till.booking = some (.ok payment)) :
    TillStep cfg till (.answer n)
      ((till.setPayment n { r with waiting := false }).read r.page order.id true)
  | gone {n : ℕ} {r : PaymentRequest} {page : CheckoutPage} {answer : HttpException}
    (at_n : till.payments[n]? = some r) (at_page : till.pages[r.page]? = some page)
    (ended : r.outcome till.booking = some (.error answer)) (code : answer.statusCode = 410) :
    TillStep cfg till (.answer n)
      ((till.setPayment n { r with waiting := false }).setPage r.page
        (page.showState (.expired true)))
  | reloaded {n : ℕ} {r : PaymentRequest} {page : CheckoutPage}
    (at_n : till.payments[n]? = some r) (at_page : till.pages[r.page]? = some page) :
    TillStep cfg till (.answer n)
      ((till.setPayment n { r with waiting := false }).load r.page page)
  | cancelled {n : ℕ} {r : PaymentRequest} {page : CheckoutPage} {answer : HttpException}
    (at_n : till.payments[n]? = some r) (at_page : till.pages[r.page]? = some page)
    (ended : r.outcome till.booking = some (.error answer)) (code : answer.statusCode = 409)
    (unpaid : answer.detail.mentions "already paid" = false)
    (mentioned : answer.detail.mentions "cancelled" = true) :
    TillStep cfg till (.answer n)
      ((till.setPayment n { r with waiting := false }).setPage r.page (page.showState .cancelled))
  /-- The payment has failed, or no answer has come. -/
  | settled {n : ℕ} {r : PaymentRequest} {page : CheckoutPage} {action : TillAction}
    (at_n : till.payments[n]? = some r) (at_page : till.pages[r.page]? = some page) :
    TillStep cfg till action
      ((till.setPayment n { r with waiting := false }).setPage r.page page.settle)

/-- **Every action is one of these.** -/
theorem Till.step_cases (moved : till.step cfg action = some till') :
    TillStep cfg till action till' := by
  cases action with
  | booking action =>
    obtain ⟨booking, stepped, rfl⟩ := Option.map_eq_some_iff.mp moved
    exact .booking stepped
  | openPage orderId =>
    cases moved
    exact .opened orderId
  | retry j | timeUp j =>
    obtain ⟨page, at_j, guarded⟩ := Option.bind_eq_some_iff.mp moved
    split at guarded
    case isTrue =>
      cases guarded
      constructor
      exact at_j
    case isFalse => cases guarded
  | pay j provider providerTxId =>
    obtain ⟨page, at_j, bound⟩ := Option.bind_eq_some_iff.mp moved
    obtain ⟨order, shown, guarded⟩ := Option.bind_eq_some_iff.mp bound
    split at guarded
    case isTrue =>
      cases guarded
      exact .paying provider providerTxId at_j shown
    case isFalse => cases guarded
  | serveRead n =>
    obtain ⟨r, at_n, guarded⟩ := Option.bind_eq_some_iff.mp moved
    split at guarded
    case isTrue =>
      cases guarded
      exact .served at_n
    case isFalse => cases guarded
  | refuseRead n statusCode =>
    obtain ⟨r, at_n, guarded⟩ := Option.bind_eq_some_iff.mp moved
    split at guarded
    case isTrue =>
      cases guarded
      exact .unserved statusCode at_n
    case isFalse => cases guarded
  | readArrives n timeLeft =>
    obtain ⟨r, at_n, bound⟩ := Option.bind_eq_some_iff.mp moved
    obtain ⟨page, at_page, bound⟩ := Option.bind_eq_some_iff.mp bound
    obtain ⟨reply, replied, guarded⟩ := Option.bind_eq_some_iff.mp bound
    split at guarded
    case isTrue =>
      cases guarded
      exact .arrived timeLeft at_n at_page replied
    case isFalse => cases guarded
  | readLost n =>
    obtain ⟨r, at_n, bound⟩ := Option.bind_eq_some_iff.mp moved
    obtain ⟨page, at_page, guarded⟩ := Option.bind_eq_some_iff.mp bound
    split at guarded
    case isTrue =>
      cases guarded
      exact .lost at_n at_page
    case isFalse => cases guarded
  | deliver n =>
    obtain ⟨r, at_n, bound⟩ := Option.bind_eq_some_iff.mp moved
    obtain ⟨paymentIn, valid, guarded⟩ := Option.bind_eq_some_iff.mp bound
    split at guarded
    case isTrue onItsWay =>
      cases guarded
      exact .delivered at_n valid onItsWay
    case isFalse => cases guarded
  | answer n =>
    obtain ⟨r, at_n, bound⟩ := Option.bind_eq_some_iff.mp moved
    obtain ⟨page, at_page, bound⟩ := Option.bind_eq_some_iff.mp bound
    obtain ⟨order, shown, bound⟩ := Option.bind_eq_some_iff.mp bound
    obtain ⟨outcome, ended, guarded⟩ := Option.bind_eq_some_iff.mp bound
    split at guarded
    case isTrue =>
      cases guarded
      cases outcome with
      | ok payment => exact .paid at_n at_page shown ended
      | error answer =>
        unfold Till.answered
        dsimp only
        split
        case isTrue code => exact .gone at_n at_page ended code
        split
        case isTrue => exact .reloaded at_n at_page
        case isFalse notPaid =>
          split
          case isTrue code =>
            refine .cancelled at_n at_page ended code.1 ?_ code.2
            exact Bool.eq_false_iff.mpr fun paid => notPaid ⟨code.1, paid⟩
          case isFalse => exact .settled at_n at_page
    case isFalse => cases guarded
  | fail n =>
    obtain ⟨r, at_n, bound⟩ := Option.bind_eq_some_iff.mp moved
    obtain ⟨page, at_page, guarded⟩ := Option.bind_eq_some_iff.mp bound
    split at guarded
    case isTrue =>
      cases guarded
      exact .settled at_n at_page
    case isFalse => cases guarded

end Steps

/-! ## What a page shows -/

/-- What the page shows is so. -/
structure CheckoutPage.Truthful (pg : Postgres) (page : CheckoutPage) : Prop where
  shown : ∀ o tickets, page.order = some (o, tickets) → o.id = page.orderId ∧ pg.Shows o tickets
  going : page.done = true →
    page.order.isSome = true ∧ pg.HasStatus page.orderId .confirmed
  gone : page.notice = some (.expired true) → pg.HasStatus page.orderId .expired
  notCancelled : page.notice ≠ some .cancelled

/-- The reply is for the order, and shows it. -/
def OrderReply.Truthful (pg : Postgres) (orderId : ℕ) (reply : OrderReply) : Prop :=
  ∀ o tickets, reply = .found o tickets → o.id = orderId ∧ pg.Shows o tickets

/-- What of a page never changes. -/
def CheckoutPage.Continues (page page' : CheckoutPage) : Prop :=
  page'.orderId = page.orderId ∧ (page.order.isSome = true → page'.order.isSome = true)

section Page

variable {pg : Postgres} {page : CheckoutPage} {reply : OrderReply}

theorem CheckoutPage.opened_truthful (pg : Postgres) (orderId : ℕ) :
    (CheckoutPage.opened orderId).Truthful pg where
  shown _ _ none := by cases none
  going done := by cases done
  gone notice := by cases notice
  notCancelled notice := by cases notice

theorem CheckoutPage.Truthful.showState {notice : Notice} (page_ok : page.Truthful pg)
    (gone : notice = .expired true → pg.HasStatus page.orderId .expired)
    (notCancelled : notice ≠ .cancelled) : (page.showState notice).Truthful pg where
  shown := page_ok.shown
  going := page_ok.going
  gone same := gone (Option.some.inj same)
  notCancelled same := notCancelled (Option.some.inj same)

theorem CheckoutPage.Truthful.showDone (page_ok : page.Truthful pg)
    (hasOrder : page.order.isSome = true) (confirmed : pg.HasStatus page.orderId .confirmed) :
    page.showDone.Truthful pg where
  shown := page_ok.shown
  going _ := ⟨hasOrder, confirmed⟩
  gone := page_ok.gone
  notCancelled := page_ok.notCancelled

theorem CheckoutPage.Truthful.settle (page_ok : page.Truthful pg) : page.settle.Truthful pg := by
  unfold CheckoutPage.settle
  split
  · exact ⟨page_ok.shown, page_ok.going, page_ok.gone, page_ok.notCancelled⟩
  · exact page_ok

theorem CheckoutPage.Truthful.loading (page_ok : page.Truthful pg) : page.loading.Truthful pg where
  shown := page_ok.shown
  going := page_ok.going
  gone notice := by cases notice
  notCancelled notice := by cases notice

theorem CheckoutPage.Truthful.startCountdown (page_ok : page.Truthful pg) (order : Order)
    (timeLeft : Bool) : (page.startCountdown order timeLeft).Truthful pg := by
  unfold CheckoutPage.startCountdown
  split
  · exact page_ok
  · cases timeLeft with
    | true => exact ⟨page_ok.shown, page_ok.going, page_ok.gone, page_ok.notCancelled⟩
    | false =>
      have expired : (page.showState (.expired false)).Truthful pg :=
        page_ok.showState (fun told => by cases told) (fun same => by cases same)
      exact ⟨expired.shown, expired.going, expired.gone, expired.notCancelled⟩

/-- The page shows another reading of its order. -/
theorem CheckoutPage.Truthful.setOrder (page_ok : page.Truthful pg) {o : Order}
    {tickets : List Ticket} (own : o.id = page.orderId) (shows : pg.Shows o tickets) :
    ({ page with order := some (o, tickets) } : CheckoutPage).Truthful pg where
  shown _ _ same := by
    cases same
    exact ⟨own, shows⟩
  going done := ⟨rfl, (page_ok.going done).2⟩
  gone := page_ok.gone
  notCancelled := page_ok.notCancelled

/-- **What `load` shows is so.** -/
theorem CheckoutPage.Truthful.loaded (page_ok : page.Truthful pg) (cycle : pg.LifeCycle)
    (timeLeft : Bool) (told : reply.Truthful pg page.orderId) :
    (page.loaded timeLeft reply).Truthful pg := by
  cases reply with
  | refused statusCode =>
    unfold CheckoutPage.loaded
    refine page_ok.showState ?_ ?_
    all_goals
      split
      all_goals
        intro same
        cases same
  | found order tickets =>
    obtain ⟨own, shows⟩ := told order tickets rfl
    have shown := page_ok.setOrder own shows
    have stored : ∀ {status}, order.status = status → status ≠ .pending →
        order ∈ pg.orders ∧ pg.HasStatus page.orderId status := fun same final =>
      have inTable := shows.stored (same ▸ final)
      ⟨inTable, order, inTable, own, same⟩
    unfold CheckoutPage.loaded
    dsimp only
    split
    case h_1 status => exact shown.showDone rfl (stored status (by decide)).2
    case h_2 status =>
      have statuses := cycle.statuses (stored status (by decide)).1
      simp [status] at statuses
    case h_3 status =>
      exact shown.showState (fun _ => (stored status (by decide)).2) (fun same => by cases same)
    case h_4 status =>
      have statuses := cycle.statuses (stored status (by decide)).1
      simp [status] at statuses
    case h_5 =>
      have counting := shown.startCountdown order timeLeft
      exact ⟨counting.shown, counting.going, counting.gone, counting.notCancelled⟩

theorem CheckoutPage.Truthful.refreshed (page_ok : page.Truthful pg)
    (hasOrder : page.order.isSome = true) (confirmed : pg.HasStatus page.orderId .confirmed)
    (told : reply.Truthful pg page.orderId) : (page.refreshed reply).Truthful pg := by
  cases reply with
  | refused => exact page_ok.showDone hasOrder confirmed
  | found order tickets =>
    obtain ⟨own, shows⟩ := told order tickets rfl
    exact (page_ok.setOrder own shows).showDone rfl confirmed

theorem CheckoutPage.settle_continues (page : CheckoutPage) : page.Continues page.settle := by
  unfold settle
  split <;> exact ⟨rfl, id⟩

theorem CheckoutPage.loaded_continues (page : CheckoutPage) (timeLeft : Bool)
    (reply : OrderReply) : page.Continues (page.loaded timeLeft reply) := by
  cases reply with
  | refused => exact ⟨rfl, id⟩
  | found order tickets =>
    unfold loaded
    dsimp only
    split
    case h_1 | h_2 | h_3 | h_4 => exact ⟨rfl, fun _ => rfl⟩
    case h_5 =>
      unfold startCountdown
      split
      · exact ⟨rfl, fun _ => rfl⟩
      · cases timeLeft <;> exact ⟨rfl, fun _ => rfl⟩

theorem CheckoutPage.refreshed_continues (page : CheckoutPage) (reply : OrderReply) :
    page.Continues (page.refreshed reply) := by
  cases reply with
  | refused => exact ⟨rfl, id⟩
  | found => exact ⟨rfl, fun _ => rfl⟩

end Page

/-! ## The invariant -/

/-- Page `j` is for this order; when `shown`, it has loaded it. -/
def Till.Knows (till : Till) (j orderId : ℕ) (shown : Bool) : Prop :=
  ∃ page, till.pages[j]? = some page ∧ page.orderId = orderId ∧
    (shown = true → page.order.isSome = true)

structure OrderRead.Truthful (till : Till) (r : OrderRead) : Prop where
  asked : till.Knows r.page r.orderId r.afterPayment
  told : ∀ reply, r.reply = some reply → reply.Truthful till.booking.dbs.pg r.orderId
  paid : r.afterPayment = true → till.booking.dbs.pg.HasStatus r.orderId .confirmed

structure PaymentRequest.Truthful (till : Till) (r : PaymentRequest) : Prop where
  asked : till.Knows r.page r.orderId true
  /-- The page pays what the order costs. -/
  owed : ∃ o ∈ till.booking.dbs.pg.orders, o.id = r.orderId ∧ o.totalAmount = r.body.amount
  served : ∀ i, r.call = some i → ∃ c, till.booking.calls[i]? = some (.pay c) ∧
    c.orderId = r.orderId ∧ c.Serves till.booking.dbs.pg

/-- What the pages show, and what is on its way to them, is so. -/
structure Till.Truthful (till : Till) : Prop where
  pages : ∀ page ∈ till.pages, page.Truthful till.booking.dbs.pg
  reads : ∀ r ∈ till.reads, r.Truthful till
  payments : ∀ r ∈ till.payments, r.Truthful till

theorem Postgres.getOrderById_truthful (pg : Postgres) (orderId : ℕ) :
    (pg.getOrderById orderId).Truthful pg orderId := by
  intro o tickets same
  unfold getOrderById at same
  split at same
  case h_1 order found =>
    cases same
    have own : o.id = orderId := by simpa using List.find?_some found
    exact ⟨own, o, List.mem_of_find?_eq_some found, .rfl, rfl⟩
  case h_2 => cases same

theorem PaymentBody.paymentIn?_eq_some {body : PaymentBody} {paymentIn : PaymentCreate}
    (valid : body.paymentIn? = some paymentIn) : paymentIn.amount = body.amount := by
  unfold paymentIn? at valid
  split at valid
  case isTrue =>
    cases valid
    rfl
  case isFalse => cases valid

theorem PaymentRequest.outcome_eq_some {booking : State} {r : PaymentRequest}
    {outcome : Except HttpException Payment} (ended : r.outcome booking = some outcome) :
    ∃ i c, r.call = some i ∧ booking.calls[i]? = some (.pay c) ∧ c.pc = .done outcome := by
  obtain ⟨i, called, matched⟩ := Option.bind_eq_some_iff.mp ended
  split at matched
  case h_1 orderId paymentIn outcome' at_i =>
    cases matched
    exact ⟨i, _, called, at_i, rfl⟩
  case h_2 => cases matched

section Invariant

variable {cfg : Config} {start till till' : Till} {action : TillAction}
  {ok : Till → TillAction → Prop}

/-- The service moves by its own steps. -/
theorem TillStep.booking_moves (moved : TillStep cfg till action till') :
    till'.booking = till.booking ∨
      ∃ a, TicketBooking.step cfg till.booking a = some till'.booking := by
  cases moved with
  | booking moved => exact .inr ⟨_, moved⟩
  | delivered => exact .inr ⟨.spawn (.processPayment _ _), rfl⟩
  | opened | retried | timedOut | paying | served | unserved | arrived | lost | paid | gone |
      reloaded | cancelled | settled => exact .inl rfl

theorem till_booking_of_reachable (reached : Reachable (Till.step cfg) ok start till) :
    Reachable (TicketBooking.step cfg) (fun _ _ => True) start.booking till.booking :=
  reached.project fun _ _ _ moved => (Till.step_cases moved).booking_moves

theorem Till.Knows.set {i j orderId : ℕ} {shown : Bool}
    {page page' : CheckoutPage} (at_i : till.pages[i]? = some page)
    (continues : page.Continues page') (same : till'.pages = till.pages.set i page')
    (knows : till.Knows j orderId shown) : till'.Knows j orderId shown := by
  obtain ⟨page₀, at_j, own, hasOrder⟩ := knows
  by_cases moved : i = j
  · subst moved
    cases at_i.symm.trans at_j
    exact ⟨page', same ▸ getElem?_set_self _ at_i, continues.1.trans own,
      fun asked => continues.2 (hasOrder asked)⟩
  · exact ⟨page₀, by rw [same, List.getElem?_set_ne moved, at_j], own, hasOrder⟩

/-- What is known in every later state. -/
structure Till.Later (till till' : Till) : Prop where
  knows : ∀ {j orderId shown}, till.Knows j orderId shown → till'.Knows j orderId shown
  shows : ∀ {o tickets}, till.booking.dbs.pg.Shows o tickets → till'.booking.dbs.pg.Shows o tickets
  status : ∀ {orderId status}, status ≠ .pending → till.booking.dbs.pg.HasStatus orderId status →
    till'.booking.dbs.pg.HasStatus orderId status
  order : ∀ {o}, o ∈ till.booking.dbs.pg.orders → ∃ o' ∈ till'.booking.dbs.pg.orders, o.Later o'
  serves : ∀ {i : ℕ} {c : PayCall}, till.booking.calls[i]? = some (.pay c) →
    c.Serves till.booking.dbs.pg → ∃ c', till'.booking.calls[i]? = some (.pay c') ∧
      c'.orderId = c.orderId ∧ c'.Serves till'.booking.dbs.pg

theorem TillStep.knows_later (moved : TillStep cfg till action till') {j orderId : ℕ}
    {shown : Bool} (knows : till.Knows j orderId shown) : till'.Knows j orderId shown := by
  cases moved with
  | booking | served | unserved | delivered | paid => exact knows
  | opened orderId' =>
    obtain ⟨page, at_j, own, hasOrder⟩ := knows
    have inside := (List.getElem?_eq_some_iff.mp at_j).1
    refine ⟨page, ?_, own, hasOrder⟩
    exact (List.getElem?_append_left inside).trans at_j
  | retried at_i | timedOut at_i | paying _ _ at_i =>
    refine knows.set at_i ?_ rfl
    exact ⟨rfl, id⟩
  | gone _ at_i | reloaded _ at_i | cancelled _ at_i =>
    refine knows.set at_i ?_ rfl
    exact ⟨rfl, id⟩
  | @arrived n r page reply timeLeft at_n at_i =>
    refine knows.set at_i ?_ rfl
    split
    · exact page.refreshed_continues reply
    · exact page.loaded_continues timeLeft reply
  | @lost n r page at_n at_i =>
    refine knows.set at_i ?_ rfl
    split
    · exact page.settle_continues
    · exact ⟨rfl, id⟩
  | @settled n r page _ at_n at_i => exact knows.set at_i page.settle_continues rfl

/-- **What is known stays known.** -/
theorem TillStep.later (fresh : start.booking.Fresh)
    (reached : Reachable (Till.step cfg) ok start till) (moved : TillStep cfg till action till') :
    till.Later till' := by
  have reached := till_booking_of_reachable reached
  rcases moved.booking_moves with same | ⟨a, stepped⟩
  · refine ⟨moved.knows_later, ?_, ?_, ?_, ?_⟩
    · exact fun shows => same ▸ shows
    · exact fun _ has => same ▸ has
    · exact fun stored => ⟨_, same ▸ stored, .rfl⟩
    · exact fun at_i serves => ⟨_, same ▸ at_i, rfl, same ▸ serves⟩
  · have ids := (lifeCycle_of_reachable fresh reached).ids
    have committed := commit_of_step reached fresh.1 fresh.idsDrawn stepped
    refine ⟨moved.knows_later, ?_, ?_, ?_, ?_⟩
    · exact fun shows => shows.later committed ids
    · exact fun final has => has.later committed ids final
    · exact fun stored => committed.order_later ids stored
    · intro i c at_i serves
      obtain ⟨c', at_i', sameOrder, -, serves'⟩ := pay_serves fresh reached stepped at_i serves
      exact ⟨c', at_i', sameOrder, serves'⟩

theorem CheckoutPage.Truthful.later {page : CheckoutPage} (later : till.Later till')
    (page_ok : page.Truthful till.booking.dbs.pg) : page.Truthful till'.booking.dbs.pg where
  shown o tickets has := ⟨(page_ok.shown o tickets has).1,
    later.shows (page_ok.shown o tickets has).2⟩
  going done := ⟨(page_ok.going done).1, later.status (by decide) (page_ok.going done).2⟩
  gone notice := later.status (by decide) (page_ok.gone notice)
  notCancelled := page_ok.notCancelled

theorem OrderRead.Truthful.later {r : OrderRead} (later : till.Later till')
    (read_ok : r.Truthful till) : r.Truthful till' where
  asked := later.knows read_ok.asked
  told reply replied o tickets same :=
    have own := read_ok.told reply replied o tickets same
    ⟨own.1, later.shows own.2⟩
  paid asked := later.status (by decide) (read_ok.paid asked)

theorem PaymentRequest.Truthful.later {r : PaymentRequest} (later : till.Later till')
    (payment_ok : r.Truthful till) : r.Truthful till' where
  asked := later.knows payment_ok.asked
  owed := by
    obtain ⟨o, stored, own, total⟩ := payment_ok.owed
    obtain ⟨o', stored', continues⟩ := later.order stored
    exact ⟨o', stored', continues.id.trans own, continues.totalAmount.trans total⟩
  served i called := by
    obtain ⟨c, at_i, own, serves⟩ := payment_ok.served i called
    obtain ⟨c', at_i', same, serves'⟩ := later.serves at_i serves
    exact ⟨c', at_i', same.trans own, serves'⟩

theorem Detail.mentions_of_infix {text : String} {detail : Detail}
    (inside : text.toList <:+: detail.text.toList.map Char.toLower) :
    detail.mentions text = true := by
  refine decide_eq_true ?_
  rwa [String.toList_ofList]

theorem mentions_alreadyPaid (orderNumber : String) :
    (Detail.alreadyPaid orderNumber).mentions "already paid" = true := by
  have ending : " is already paid and confirmed".toList.map Char.toLower =
      " is ".toList ++ "already paid".toList ++ " and confirmed".toList := by decide +kernel
  have text : (Detail.alreadyPaid orderNumber).text =
      "Order " ++ orderNumber ++ " is already paid and confirmed" := rfl
  refine Detail.mentions_of_infix ?_
  rw [text, String.toList_append, List.map_append, ending]
  generalize List.map Char.toLower ("Order " ++ orderNumber).toList = start
  exact (List.infix_append _ _ _).trans (List.suffix_append start _).isInfix

/-- **A step leaves the pages truthful.** -/
theorem TillStep.pages_truthful (fresh : start.booking.Fresh)
    (reached : Reachable (Till.step cfg) ok start till) (truthful : till.Truthful)
    (moved : TillStep cfg till action till') :
    ∀ page ∈ till'.pages, page.Truthful till'.booking.dbs.pg := by
  have cycle := lifeCycle_of_reachable fresh (till_booking_of_reachable reached)
  have later := moved.later fresh reached
  have old : ∀ {j : ℕ} {page}, till.pages[j]? = some page →
      page.Truthful till.booking.dbs.pg := fun at_j =>
    truthful.pages _ (List.mem_of_getElem? at_j)
  have set : ∀ {j : ℕ} {page}, page.Truthful till.booking.dbs.pg →
      ∀ page' ∈ till.pages.set j page, page'.Truthful till.booking.dbs.pg := by
    intro j page page_ok page' mem
    rcases List.mem_or_eq_of_mem_set mem with before | rfl
    · exact truthful.pages page' before
    · exact page_ok
  cases moved with
  | booking | served | unserved | delivered | paid =>
    exact fun page mem => (truthful.pages page mem).later later
  | opened orderId =>
    intro page mem
    rcases List.mem_append.mp mem with before | new
    · exact truthful.pages page before
    · cases List.mem_singleton.mp new
      exact CheckoutPage.opened_truthful _ orderId
  | retried at_j => exact set (old at_j).loading
  | timedOut at_j =>
    exact set ((old at_j).showState (fun told => by cases told) (fun same => by cases same))
  | paying _ _ at_j =>
    have page_ok := old at_j
    exact set ⟨page_ok.shown, page_ok.going, page_ok.gone, page_ok.notCancelled⟩
  | @arrived n r page reply timeLeft at_n at_page replied =>
    have read_ok := truthful.reads r (List.mem_of_getElem? at_n)
    obtain ⟨page', at_page', own, hasOrder⟩ := read_ok.asked
    cases at_page.symm.trans at_page'
    have told := own.symm ▸ read_ok.told reply replied
    refine set ?_
    split
    case isTrue asked =>
      exact (old at_page).refreshed (hasOrder asked) (own.symm ▸ read_ok.paid asked) told
    case isFalse => exact (old at_page).loaded cycle timeLeft told
  | lost at_n at_page =>
    refine set ?_
    split
    · exact (old at_page).settle
    · exact (old at_page).showState (fun told => by cases told) (fun same => by cases same)
  | @gone n r page answer at_n at_page ended code =>
    obtain ⟨i, c, called, at_i, done⟩ := PaymentRequest.outcome_eq_some ended
    have payment_ok := truthful.payments r (List.mem_of_getElem? at_n)
    obtain ⟨page', at_page', own, -⟩ := payment_ok.asked
    cases at_page.symm.trans at_page'
    obtain ⟨c', at_i', sameOrder, serves⟩ := payment_ok.served i called
    cases at_i.symm.trans at_i'
    have expired := serves.told.gone answer done code
    rw [sameOrder, ← own] at expired
    exact set ((old at_page).showState (fun _ => expired) (fun same => by cases same))
  | reloaded at_n at_page => exact set (old at_page).loading
  | @cancelled n r page answer at_n at_page ended code unpaid mentioned =>
    obtain ⟨i, c, called, at_i, done⟩ := PaymentRequest.outcome_eq_some ended
    have payment_ok := truthful.payments r (List.mem_of_getElem? at_n)
    obtain ⟨c', at_i', -, serves⟩ := payment_ok.served i called
    cases at_i.symm.trans at_i'
    rcases serves.told.conflict answer done code with detail | ⟨orderNumber, detail⟩
    · rw [detail] at mentioned
      exact absurd mentioned (by decide +kernel)
    · rw [detail, mentions_alreadyPaid] at unpaid
      cases unpaid
  | settled at_n at_page => exact set (old at_page).settle

theorem TillStep.reads_truthful (fresh : start.booking.Fresh)
    (reached : Reachable (Till.step cfg) ok start till) (truthful : till.Truthful)
    (moved : TillStep cfg till action till') : ∀ r ∈ till'.reads, r.Truthful till' := by
  have later := moved.later fresh reached
  have old : ∀ r ∈ till.reads, r.Truthful till' := fun r mem => (truthful.reads r mem).later later
  have set : ∀ {n : ℕ} {r}, r.Truthful till' → ∀ r' ∈ till.reads.set n r, r'.Truthful till' := by
    intro n r read_ok r' mem
    rcases List.mem_or_eq_of_mem_set mem with before | rfl
    · exact old r' before
    · exact read_ok
  have sent : ∀ {j orderId afterPayment}, till'.Knows j orderId afterPayment →
      (afterPayment = true → till'.booking.dbs.pg.HasStatus orderId .confirmed) →
      ∀ r ∈ till.reads ++ [⟨j, orderId, afterPayment, none, true⟩], r.Truthful till' := by
    intro j orderId afterPayment asked paid r mem
    rcases List.mem_append.mp mem with before | new
    · exact old r before
    · cases List.mem_singleton.mp new
      exact ⟨asked, fun _ replied => (by cases replied), paid⟩
  cases moved with
  | booking | timedOut | paying | delivered | gone | cancelled | settled => exact old
  | opened orderId =>
    refine sent ⟨_, List.getElem?_concat_length, rfl, ?_⟩ ?_
    · intro loaded
      cases loaded
    · intro loaded
      cases loaded
  | retried at_j | reloaded _ at_j =>
    refine sent (later.knows ⟨_, at_j, rfl, ?_⟩) ?_
    · intro loaded
      cases loaded
    · intro loaded
      cases loaded
  | @served n r at_n =>
    have read_ok := old r (List.mem_of_getElem? at_n)
    refine set ⟨read_ok.asked, ?_, read_ok.paid⟩
    intro reply replied
    cases replied
    exact till.booking.dbs.pg.getOrderById_truthful r.orderId
  | @unserved n r statusCode at_n =>
    have read_ok := old r (List.mem_of_getElem? at_n)
    refine set ⟨read_ok.asked, ?_, read_ok.paid⟩
    intro reply replied o tickets same
    cases replied
    cases same
  | arrived _ at_n | lost at_n =>
    have read_ok := old _ (List.mem_of_getElem? at_n)
    exact set ⟨read_ok.asked, read_ok.told, read_ok.paid⟩
  | @paid n r page order tickets payment at_n at_page shown ended =>
    obtain ⟨i, c, called, at_i, done⟩ := PaymentRequest.outcome_eq_some ended
    have payment_ok := truthful.payments r (List.mem_of_getElem? at_n)
    obtain ⟨page', at_page', own, -⟩ := payment_ok.asked
    cases at_page.symm.trans at_page'
    obtain ⟨c', at_i', sameOrder, serves⟩ := payment_ok.served i called
    cases at_i.symm.trans at_i'
    have page_ok := truthful.pages page (List.mem_of_getElem? at_page)
    have sameId := (page_ok.shown order tickets shown).1
    have confirmed := serves.told.paid payment done
    rw [sameOrder, ← own, ← sameId] at confirmed
    exact sent (later.knows ⟨page, at_page, sameId.symm, fun _ => by rw [shown]; rfl⟩)
      (fun _ => confirmed)

theorem TillStep.payments_truthful (fresh : start.booking.Fresh)
    (reached : Reachable (Till.step cfg) ok start till) (truthful : till.Truthful)
    (moved : TillStep cfg till action till') : ∀ r ∈ till'.payments, r.Truthful till' := by
  have later := moved.later fresh reached
  have old : ∀ r ∈ till.payments, r.Truthful till' := fun r mem =>
    (truthful.payments r mem).later later
  have set : ∀ {n : ℕ} {r}, r.Truthful till' →
      ∀ r' ∈ till.payments.set n r, r'.Truthful till' := by
    intro n r payment_ok r' mem
    rcases List.mem_or_eq_of_mem_set mem with before | rfl
    · exact old r' before
    · exact payment_ok
  cases moved with
  | booking | opened | retried | timedOut | served | unserved | arrived | lost => exact old
  | @paying j page order tickets provider providerTxId at_j shown =>
    obtain ⟨sameId, o, stored, continues, -⟩ :=
      (truthful.pages page (List.mem_of_getElem? at_j)).shown order tickets shown
    intro r mem
    rcases List.mem_append.mp mem with before | new
    · exact old r before
    · cases List.mem_singleton.mp new
      refine ⟨?_, ⟨o, stored, continues.id, continues.totalAmount⟩, ?_⟩
      · exact later.knows ⟨page, at_j, sameId.symm, fun _ => by rw [shown]; rfl⟩
      · intro i called
        cases called
  | @delivered n r paymentIn at_n valid onItsWay =>
    have payment_ok := old r (List.mem_of_getElem? at_n)
    refine set ⟨payment_ok.asked, payment_ok.owed, ?_⟩
    intro i called
    cases called
    refine ⟨_, List.getElem?_concat_length, rfl, .start ?_⟩
    obtain ⟨o, stored, own, total⟩ := payment_ok.owed
    exact ⟨o, stored, own, total.trans (PaymentBody.paymentIn?_eq_some valid).symm⟩
  | paid at_n | gone at_n | reloaded at_n | cancelled at_n | settled at_n =>
    have payment_ok := old _ (List.mem_of_getElem? at_n)
    exact set ⟨payment_ok.asked, payment_ok.owed, payment_ok.served⟩

theorem till_truthful_of_reachable (fresh : start.Fresh)
    (reached : Reachable (Till.step cfg) ok start till) : till.Truthful := by
  refine reached.invariant₂ ?_ ?_
  · obtain ⟨-, noPages, noReads, noPayments⟩ := fresh
    constructor
    · simp [noPages]
    · simp [noReads]
    · simp [noPayments]
  · intro till action till' before truthful _ moved
    have stepped := Till.step_cases moved
    exact ⟨stepped.pages_truthful fresh.1 before truthful,
      stepped.reads_truthful fresh.1 before truthful,
      stepped.payments_truthful fresh.1 before truthful⟩

theorem Till.Later.rfl : till.Later till :=
  ⟨id, id, fun _ => id, fun stored => ⟨_, stored, .rfl⟩,
    fun at_i serves => ⟨_, at_i, Eq.refl _, serves⟩⟩

theorem Till.Later.trans {till'' : Till} (first : till.Later till') (second : till'.Later till'') :
    till.Later till'' where
  knows knows := second.knows (first.knows knows)
  shows shows := second.shows (first.shows shows)
  status final has := second.status final (first.status final has)
  order stored := by
    obtain ⟨o', stored', later⟩ := first.order stored
    obtain ⟨o'', stored'', later'⟩ := second.order stored'
    exact ⟨o'', stored'', later.trans later'⟩
  serves at_i serves := by
    obtain ⟨c', at_i', same, serves'⟩ := first.serves at_i serves
    obtain ⟨c'', at_i'', same', serves''⟩ := second.serves at_i' serves'
    exact ⟨c'', at_i'', same'.trans same, serves''⟩

/-- `TillStep.later` over runs. -/
theorem later_of_reachable (fresh : start.Fresh)
    (reached : Reachable (Till.step cfg) (fun _ _ => True) start till)
    (afterwards : Reachable (Till.step cfg) (fun _ _ => True) till till') : till.Later till' := by
  refine afterwards.invariant₂ (P := till.Later) .rfl ?_
  intro mid action next between later _ moved
  exact later.trans ((Till.step_cases moved).later fresh.1 (reached.trans between))

theorem Postgres.LifeCycle.confirmed {pg : Postgres} (cycle : pg.LifeCycle) {o : Order}
    (stored : o ∈ pg.orders) (status : o.status = .confirmed) : pg.HasShape o .confirmed := by
  obtain ⟨phase, shape, -⟩ := (cycle.shape stored).1
  have same := status.symm.trans shape.status
  cases phase with
  | confirmed => exact shape
  | pending | expired => cases same

theorem Postgres.LifeCycle.expired {pg : Postgres} (cycle : pg.LifeCycle) {o : Order}
    (stored : o ∈ pg.orders) (status : o.status = .expired) : pg.HasShape o .expired := by
  obtain ⟨phase, shape, -⟩ := (cycle.shape stored).1
  have same := status.symm.trans shape.status
  cases phase with
  | expired => exact shape
  | pending | confirmed => cases same

/-- The tickets of a confirmed order are what their stubs say. -/
theorem Postgres.HasShape.map_stub {pg : Postgres} {o : Order} (shape : pg.HasShape o .confirmed) :
    (pg.ticketsOf o.id).map Ticket.stub = pg.ticketsOf o.id := by
  have same : ∀ t ∈ pg.ticketsOf o.id, t.stub = id t := by
    intro t mem
    rw [Ticket.stub, ← shape.2.1 t mem]
    rfl
  rw [List.map_congr_left same, List.map_id]

/-- **The checkout tells the truth.**  Under any interleaving of pages, payments, the reaper and
other clients, with any faults and lost answers, in every reachable state:

* "You're going!" is shown for an order that is and stays confirmed, with exactly one completed
  payment of the total shown, and the tickets shown are its tickets, all of them valid;
* an order that the service has told the page is expired stays so, and is never paid;
* no page says that its order was cancelled;
* no payment that reaches the service is for an unknown order or another amount. -/
theorem checkout_truthful (fresh : start.Fresh)
    (reached : Reachable (Till.step cfg) (fun _ _ => True) start till) :
    (∀ page ∈ till.pages,
      (page.done = true → ∃ shown tickets o, page.order = some (shown, tickets) ∧
        o.id = page.orderId ∧ o.orderNumber = shown.orderNumber ∧
        o.totalAmount = shown.totalAmount ∧
        ∀ till', Reachable (Till.step cfg) (fun _ _ => True) till till' →
          o ∈ till'.booking.dbs.pg.orders ∧ till'.booking.dbs.pg.HasShape o .confirmed ∧
          till'.booking.dbs.pg.ticketsOf o.id = tickets.map Ticket.stub) ∧
      (page.notice = some (.expired true) → ∃ o, o.id = page.orderId ∧
        ∀ till', Reachable (Till.step cfg) (fun _ _ => True) till till' →
          o ∈ till'.booking.dbs.pg.orders ∧ till'.booking.dbs.pg.HasShape o .expired) ∧
      page.notice ≠ some .cancelled) ∧
    ∀ r ∈ till.payments, ∀ answer, r.outcome till.booking = some (.error answer) →
      answer.statusCode ≠ 400 ∧ answer.statusCode ≠ 404 := by
  have truthful := till_truthful_of_reachable fresh reached
  have cycle := lifeCycle_of_reachable fresh.1 (till_booking_of_reachable reached)
  have stays : ∀ o ∈ till.booking.dbs.pg.orders, o.status ≠ .pending →
      ∀ till', Reachable (Till.step cfg) (fun _ _ => True) till till' →
        o ∈ till'.booking.dbs.pg.orders ∧ till'.booking.dbs.pg.LifeCycle := by
    intro o stored final till' afterwards
    obtain ⟨o', stored', later⟩ := (later_of_reachable fresh reached afterwards).order stored
    exact ⟨later.final final ▸ stored', lifeCycle_of_reachable fresh.1
      (till_booking_of_reachable (reached.trans afterwards))⟩
  refine ⟨fun page mem => ⟨fun done => ?_, fun told => ?_, ?_⟩, fun r mem answer ended => ?_⟩
  · obtain ⟨hasOrder, o, stored, own, status⟩ := (truthful.pages page mem).going done
    obtain ⟨⟨shown, tickets⟩, loaded⟩ := Option.isSome_iff_exists.mp hasOrder
    obtain ⟨sameId, shows⟩ := (truthful.pages page mem).shown shown tickets loaded
    obtain ⟨o', stored', later, -⟩ := id shows
    cases eq_of_key_eq cycle.ids.1 stored stored' (own.trans (later.id.trans sameId).symm)
    refine ⟨shown, tickets, o, loaded, own, later.orderNumber, later.totalAmount, ?_⟩
    intro till' afterwards
    obtain ⟨stored', cycle'⟩ := stays o stored (by rw [status]; decide) till' afterwards
    have shape := cycle'.confirmed stored' status
    obtain ⟨-, -, -, stubs⟩ := (later_of_reachable fresh reached afterwards).shows shows
    refine ⟨stored', shape, ?_⟩
    rw [stubs, ← later.id, shape.map_stub]
  · obtain ⟨o, stored, own, status⟩ := (truthful.pages page mem).gone told
    refine ⟨o, own, fun till' afterwards => ?_⟩
    obtain ⟨stored', cycle'⟩ := stays o stored (by rw [status]; decide) till' afterwards
    exact ⟨stored', cycle'.expired stored' status⟩
  · exact (truthful.pages page mem).notCancelled
  · obtain ⟨i, c, called, at_i, done⟩ := PaymentRequest.outcome_eq_some ended
    obtain ⟨c', at_i', -, serves⟩ := (truthful.payments r mem).served i called
    cases at_i.symm.trans at_i'
    exact serves.accepted answer done

theorem Sample.till_fresh : Sample.till.Fresh := ⟨Sample.fresh Sample.floor, rfl, rfl, rfl⟩

theorem checkout_truthful_sample : ∃ till, run (Till.step Sample.cfg) Sample.till
      Sample.paidAtCheckout = some till ∧
    ∃ page ∈ till.pages, page.done = true ∧ ∃ o ∈ till.booking.dbs.pg.orders,
      till.booking.dbs.pg.HasShape o .confirmed := by
  obtain ⟨till, checked⟩ := Option.isSome_iff_exists.mp (show ((checkedRun
    (Till.step Sample.cfg) (fun _ _ => True) Sample.till Sample.paidAtCheckout).filter fun till =>
      till.pages.any fun page => page.done).isSome = true by decide +kernel)
  obtain ⟨ran, going⟩ := Option.filter_eq_some_iff.mp checked
  obtain ⟨page, mem, done⟩ := List.any_eq_true.mp going
  obtain ⟨pages, -⟩ := checkout_truthful Sample.till_fresh (reachable_of_checkedRun ran)
  obtain ⟨shown, tickets, o, -, -, -, -, stays⟩ := (pages page mem).1 done
  obtain ⟨stored, shape, -⟩ := stays till .init
  exact ⟨till, run_of_checkedRun ran, page, mem, done, o, stored, shape⟩

end Invariant

end TicketBooking
