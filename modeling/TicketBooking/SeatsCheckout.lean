import TicketBooking.OrderOrigin
import TicketBooking.SeatsPage

/-!
# Ordering from the seat page

Any number of seat pages over the booking system.  A page sends `POST /orders` under its key; the
request reaches the service later, once at most (a POST is not retried by the proxy), and the page
learns of the answer later still, or never.  Between the two the fan goes on clicking, and other
clients use the service as they like.

* `Shop.Allowed` is what the page relies on: nobody else uses a key it has drawn, and a reload or a
  log-in that leaves the key leaves what is asked under it, unless that has failed for good.
* `Shop.Wired` connects the requests, the calls that serve them and the keys; `Shop.Steady` says
  that the requests of one key ask for one thing.
* `page_orders_honest`: a page is taken to an order for exactly the seats it asked for, and there is
  one order for a key.
* `press_finds_order`: a press after a lost answer is answered with the order that was booked.
-/

namespace TicketBooking

open ListUpdate StepSystem

/-! ## The system -/

/-- A `POST /orders` of a page. -/
structure OrderRequest where
  page : ℕ
  idemKey : String
  body : OrderBody
  /-- The call it has started. -/
  call : Option ℕ
  /-- `await fetch` -/
  waiting : Bool
deriving DecidableEq

structure Shop where
  booking : State
  pages : List SeatsPage
  sent : List OrderRequest
  /-- What `crypto.randomUUID` has returned. -/
  keys : List String
deriving DecidableEq

def Call.key : Call → Option String
  | .create c => c.idempotencyKey
  | _ => none

/-- A random key is one that nobody has used. -/
def Shop.Unused (shop : Shop) (key : String) : Prop :=
  key ≠ "" ∧ key ∉ shop.keys ∧ ∀ call ∈ shop.booking.calls, call.key ≠ some key

instance (shop : Shop) (key : String) : Decidable (shop.Unused key) :=
  inferInstanceAs (Decidable (_ ∧ _ ∧ ∀ call ∈ shop.booking.calls, call.key ≠ some key))

/-- How the call of a request has ended. -/
def OrderRequest.outcome (booking : State) (r : OrderRequest) : Option CreateOutcome :=
  r.call.bind fun i =>
    match booking.calls[i]? with
    | some (.create ⟨_, _, _, .done outcome⟩) => some outcome
    | _ => none

inductive ShopAction
  /-- A step of the service, or a request of another client. -/
  | booking (action : Action)
  | openPage (eventId : String) (wantedZone : Option String)
    (savedPicks : List (String × String)) (savedTaken : List String) (userId : Option ℕ)
  | onPage (j : ℕ) (event : PageEvent)
  | checkout (j : ℕ) (newKey : String)
  /-- A request reaches the service. -/
  | deliver (n : ℕ)
  /-- Its answer reaches the page. -/
  | answer (n : ℕ)
  /-- The fetch ends without an answer of `create_order`: the connection breaks, the proxy gives
  up, or the body is refused. -/
  | fail (n : ℕ)
deriving DecidableEq

section System

variable (cfg : Config) (sold : String → ℤ → ℤ → Bool)

/-- `checkout` of page `j` up to its `await`. -/
def Shop.press (shop : Shop) (j : ℕ) (newKey : String) (page : SeatsPage) (body : OrderBody) :
    Shop :=
  let key := page.idemKey.getD newKey
  { shop with
    pages := shop.pages.set j (page.checkout newKey)
    sent := shop.sent ++ [⟨j, key, body, none, true⟩]
    keys := key :: shop.keys }

/-- The page goes on, and its request is over. -/
def Shop.settled (shop : Shop) (n : ℕ) (r : OrderRequest) (page : SeatsPage) : Shop :=
  { shop with
    pages := shop.pages.set r.page page
    sent := shop.sent.set n { r with waiting := false } }

def Shop.step (shop : Shop) : ShopAction → Option Shop
  | .booking action =>
    (TicketBooking.step cfg shop.booking action).map fun booking => { shop with booking }
  | .openPage eventId wantedZone savedPicks savedTaken userId =>
    some { shop with pages :=
      shop.pages ++ [.opened eventId wantedZone savedPicks savedTaken userId] }
  | .onPage j event => (shop.pages[j]?.bind fun page => page.apply sold event).map fun page =>
    { shop with pages := shop.pages.set j page }
  | .checkout j newKey => shop.pages[j]?.bind fun page => page.asks.bind fun body =>
    if page.payable = true ∧ (page.idemKey = none → shop.Unused newKey) then
      some (shop.press j newKey page body)
    else none
  | .deliver n => shop.sent[n]?.bind fun r => r.body.orderIn?.bind fun orderIn =>
    if r.call = none then
      (TicketBooking.step cfg shop.booking (.spawn (.createOrder orderIn (some r.idemKey)))).map
        fun booking => { shop with
          booking
          sent := shop.sent.set n { r with call := some shop.booking.calls.length } }
    else none
  | .answer n => shop.sent[n]?.bind fun r => shop.pages[r.page]?.bind fun page =>
    (r.outcome shop.booking).bind fun outcome =>
      if r.waiting then some (shop.settled n r (page.answered outcome)) else none
  | .fail n => shop.sent[n]?.bind fun r => shop.pages[r.page]?.bind fun page =>
    if r.waiting then some (shop.settled n r page.settle) else none

end System

/-! ## What the page relies on -/

/-- The call is a create call that has failed for good. -/
def Call.Dead (pg : Postgres) : Call → Prop
  | .create c => c.Dead pg
  | _ => False

instance (pg : Postgres) : (call : Call) → Decidable (call.Dead pg)
  | .create c => inferInstanceAs (Decidable (c.Dead pg))
  | .pay _ | .sweep _ => inferInstanceAs (Decidable False)

/-- Nothing asked by the request can come true any more. -/
def OrderRequest.Dead (booking : State) (r : OrderRequest) : Prop :=
  ∃ i ∈ r.call, ∃ call ∈ booking.calls[i]?, call.Dead booking.dbs.pg

instance (booking : State) (r : OrderRequest) : Decidable (r.Dead booking) :=
  inferInstanceAs (Decidable (∃ i ∈ r.call, ∃ call ∈ booking.calls[i]?, call.Dead booking.dbs.pg))

/-- After a change of the page, its key still stands for what was asked under it. -/
def Shop.Keeps (shop : Shop) (page page' : SeatsPage) : Prop :=
  ∀ key ∈ page'.idemKey, page'.asks = page.asks ∨ page'.asks = none ∨
    ∀ r ∈ shop.sent, r.idemKey = key → r.Dead shop.booking ∨ page'.asks = some r.body

instance (shop : Shop) (page page' : SeatsPage) : Decidable (shop.Keeps page page') :=
  inferInstanceAs (Decidable (∀ key ∈ page'.idemKey, _ ∨ _ ∨
    ∀ r ∈ shop.sent, r.idemKey = key → r.Dead shop.booking ∨ page'.asks = some r.body))

/-- The key of a request for an order. -/
def Action.orderKey : Action → Option String
  | .spawn (.createOrder _ key) => key
  | _ => none

def Shop.Allowed (sold : String → ℤ → ℤ → Bool) (shop : Shop) : ShopAction → Prop
  | .booking action => ∀ key ∈ action.orderKey, key ∉ shop.keys
  | .onPage j event => event.external = true →
    ∀ page ∈ shop.pages[j]?, ∀ page' ∈ page.apply sold event, shop.Keeps page page'
  | _ => True

instance Shop.decidableAllowed (sold : String → ℤ → ℤ → Bool) (shop : Shop) :
    (action : ShopAction) → Decidable (shop.Allowed sold action)
  | .booking action => inferInstanceAs (Decidable (∀ key ∈ action.orderKey, key ∉ shop.keys))
  | .onPage j event => inferInstanceAs (Decidable (event.external = true →
    ∀ page ∈ shop.pages[j]?, ∀ page' ∈ page.apply sold event, shop.Keeps page page'))
  | .openPage .. | .checkout .. | .deliver _ | .answer _ | .fail _ =>
    inferInstanceAs (Decidable True)

/-- No page is open and the service is idle. -/
def Shop.Fresh (shop : Shop) : Prop :=
  shop.booking.Fresh ∧ shop.pages = [] ∧ shop.sent = [] ∧ shop.keys = []

/-! ## What a step can do -/

section Steps

variable {cfg : Config} {sold : String → ℤ → ℤ → Bool} {shop shop' : Shop} {action : ShopAction}

/-- Everything an action can do to the shop. -/
inductive ShopStep (cfg : Config) (sold : String → ℤ → ℤ → Bool) (shop : Shop) :
    ShopAction → Shop → Prop
  | booking {action : Action} {booking : State}
    (moved : step cfg shop.booking action = some booking) :
    ShopStep cfg sold shop (.booking action) { shop with booking }
  | opened (eventId : String) (wantedZone : Option String) (savedPicks : List (String × String))
    (savedTaken : List String) (userId : Option ℕ) :
    ShopStep cfg sold shop (.openPage eventId wantedZone savedPicks savedTaken userId)
      { shop with pages := shop.pages ++ [.opened eventId wantedZone savedPicks savedTaken userId] }
  | onPage {j : ℕ} {event : PageEvent} {page page' : SeatsPage} (at_j : shop.pages[j]? = some page)
    (applied : page.apply sold event = some page') :
    ShopStep cfg sold shop (.onPage j event) { shop with pages := shop.pages.set j page' }
  | pressed {j : ℕ} {newKey : String} {page : SeatsPage} {body : OrderBody}
    (at_j : shop.pages[j]? = some page) (asks : page.asks = some body)
    (unused : page.idemKey = none → shop.Unused newKey) :
    ShopStep cfg sold shop (.checkout j newKey) (shop.press j newKey page body)
  | delivered {n : ℕ} {r : OrderRequest} {orderIn : OrderCreate} (at_n : shop.sent[n]? = some r)
    (valid : r.body.orderIn? = some orderIn) (onItsWay : r.call = none) :
    ShopStep cfg sold shop (.deliver n)
      { shop with
        booking := { shop.booking with
          calls := shop.booking.calls ++ [.create (.start orderIn (some r.idemKey))] }
        sent := shop.sent.set n { r with call := some shop.booking.calls.length } }
  | answered {n : ℕ} {r : OrderRequest} {page : SeatsPage} {outcome : CreateOutcome}
    (at_n : shop.sent[n]? = some r) (at_page : shop.pages[r.page]? = some page)
    (ended : r.outcome shop.booking = some outcome) :
    ShopStep cfg sold shop (.answer n) (shop.settled n r (page.answered outcome))
  | failed {n : ℕ} {r : OrderRequest} {page : SeatsPage} (at_n : shop.sent[n]? = some r)
    (at_page : shop.pages[r.page]? = some page) :
    ShopStep cfg sold shop (.fail n) (shop.settled n r page.settle)

/-- **Every action is one of these.** -/
theorem Shop.step_cases (moved : shop.step cfg sold action = some shop') :
    ShopStep cfg sold shop action shop' := by
  cases action with
  | booking action =>
    obtain ⟨booking, stepped, rfl⟩ := Option.map_eq_some_iff.mp moved
    exact .booking stepped
  | openPage =>
    cases moved
    exact .opened ..
  | onPage j event =>
    obtain ⟨page', bound, rfl⟩ := Option.map_eq_some_iff.mp moved
    obtain ⟨page, at_j, applied⟩ := Option.bind_eq_some_iff.mp bound
    exact .onPage at_j applied
  | checkout j newKey =>
    obtain ⟨page, at_j, bound⟩ := Option.bind_eq_some_iff.mp moved
    obtain ⟨body, asks, guarded⟩ := Option.bind_eq_some_iff.mp bound
    split at guarded
    case isTrue enabled =>
      cases guarded
      exact .pressed at_j asks enabled.2
    case isFalse => cases guarded
  | deliver n =>
    obtain ⟨r, at_n, bound⟩ := Option.bind_eq_some_iff.mp moved
    obtain ⟨orderIn, valid, guarded⟩ := Option.bind_eq_some_iff.mp bound
    split at guarded
    case isTrue onItsWay =>
      cases guarded
      exact .delivered at_n valid onItsWay
    case isFalse => cases guarded
  | answer n =>
    obtain ⟨r, at_n, bound⟩ := Option.bind_eq_some_iff.mp moved
    obtain ⟨page, at_page, bound⟩ := Option.bind_eq_some_iff.mp bound
    obtain ⟨outcome, ended, guarded⟩ := Option.bind_eq_some_iff.mp bound
    split at guarded
    case isTrue =>
      cases guarded
      exact .answered at_n at_page ended
    case isFalse => cases guarded
  | fail n =>
    obtain ⟨r, at_n, bound⟩ := Option.bind_eq_some_iff.mp moved
    obtain ⟨page, at_page, guarded⟩ := Option.bind_eq_some_iff.mp bound
    split at guarded
    case isTrue =>
      cases guarded
      exact .failed at_n at_page
    case isFalse => cases guarded

/-- The service moves by its own steps. -/
theorem ShopStep.booking_moves (moved : ShopStep cfg sold shop action shop') :
    shop'.booking = shop.booking ∨ ∃ a, step cfg shop.booking a = some shop'.booking := by
  cases moved with
  | booking moved => exact .inr ⟨_, moved⟩
  | delivered => exact .inr ⟨.spawn (.createOrder _ _), rfl⟩
  | opened | onPage | pressed | answered | failed => exact .inl rfl

theorem booking_of_reachable {ok : Shop → ShopAction → Prop} {start : Shop}
    (reached : Reachable (Shop.step cfg sold) ok start shop) :
    Reachable (step cfg) (fun _ _ => True) start.booking shop.booking :=
  reached.project fun _ _ _ moved => (Shop.step_cases moved).booking_moves

/-- What of a request never changes. -/
structure OrderRequest.Continues (r r' : OrderRequest) : Prop where
  page : r'.page = r.page
  idemKey : r'.idemKey = r.idemKey
  body : r'.body = r.body
  call : ∀ i, r.call = some i → r'.call = some i

theorem OrderRequest.Continues.rfl {r : OrderRequest} : r.Continues r :=
  ⟨Eq.refl _, Eq.refl _, Eq.refl _, fun _ => id⟩

/-- A request that has been sent stays. -/
theorem ShopStep.request_later (moved : ShopStep cfg sold shop action shop') {n : ℕ}
    {r : OrderRequest} (at_n : shop.sent[n]? = some r) :
    ∃ r', shop'.sent[n]? = some r' ∧ r.Continues r' := by
  have set : ∀ (m : ℕ) r₀ r₀', shop.sent[m]? = some r₀ → r₀.Continues r₀' →
      ∃ r', (shop.sent.set m r₀')[n]? = some r' ∧ r.Continues r' := by
    intro m r₀ r₀' at_m continues
    by_cases same : m = n
    · subst same
      cases at_m.symm.trans at_n
      exact ⟨r₀', getElem?_set_self _ at_n, continues⟩
    · exact ⟨r, by rw [List.getElem?_set_ne same]; exact at_n, .rfl⟩
  cases moved with
  | booking | opened | onPage => exact ⟨r, at_n, .rfl⟩
  | pressed =>
    have inside := (List.getElem?_eq_some_iff.mp at_n).1
    exact ⟨r, by rw [Shop.press, List.getElem?_append_left inside]; exact at_n, .rfl⟩
  | delivered at_m valid onItsWay =>
    refine set _ _ _ at_m ⟨rfl, rfl, rfl, fun i started => ?_⟩
    cases onItsWay.symm.trans started
  | answered at_m | failed at_m => exact set _ _ _ at_m ⟨rfl, rfl, rfl, fun _ => id⟩

/-- Where a request comes from: it was there, or a page has just sent it. -/
theorem ShopStep.request_before (moved : ShopStep cfg sold shop action shop') {n : ℕ}
    {r' : OrderRequest} (at_n : shop'.sent[n]? = some r') :
    (∃ r, shop.sent[n]? = some r ∧ r.Continues r' ∧
      (r'.call = r.call ∨ ∃ orderIn, r.body.orderIn? = some orderIn ∧
        r'.call = some shop.booking.calls.length ∧
        shop'.booking.calls[shop.booking.calls.length]? =
          some (.create (.start orderIn (some r.idemKey))))) ∨
      ∃ j newKey page body, shop.pages[j]? = some page ∧ page.asks = some body ∧
        (page.idemKey = none → shop.Unused newKey) ∧ n = shop.sent.length ∧
        r' = ⟨j, page.idemKey.getD newKey, body, none, true⟩ ∧
        shop' = shop.press j newKey page body := by
  cases moved with
  | booking | opened | onPage => exact .inl ⟨r', at_n, .rfl, .inl rfl⟩
  | @pressed j newKey page body at_j asks unused =>
    rcases getElem?_concat_cases at_n with old | ⟨rfl, rfl⟩
    · exact .inl ⟨r', old, .rfl, .inl rfl⟩
    · exact .inr ⟨j, newKey, page, body, at_j, asks, unused, rfl, rfl, rfl⟩
  | @delivered m r orderIn at_m valid onItsWay =>
    rcases getElem?_set_cases at_n with ⟨rfl, rfl⟩ | ⟨-, old⟩
    · refine .inl ⟨r, at_m, ⟨rfl, rfl, rfl, fun i started => ?_⟩, .inr ⟨orderIn, valid, rfl, ?_⟩⟩
      · cases onItsWay.symm.trans started
      · exact List.getElem?_concat_length
    · exact .inl ⟨r', old, .rfl, .inl rfl⟩
  | @answered m r page outcome at_m | @failed m r page at_m =>
    rcases getElem?_set_cases at_n with ⟨rfl, rfl⟩ | ⟨-, old⟩
    · exact .inl ⟨r, at_m, ⟨rfl, rfl, rfl, fun _ => id⟩, .inl rfl⟩
    · exact .inl ⟨r', old, .rfl, .inl rfl⟩

/-- How page `j` comes to be what it is after a step. -/
inductive PageStep (sold : String → ℤ → ℤ → Bool) (shop : Shop) (action : ShopAction)
    (shop' : Shop) (j : ℕ) : SeatsPage → Prop
  | opened {page' : SeatsPage} (noKey : page'.idemKey = none) (noOrder : page'.order = none) :
    PageStep sold shop action shop' j page'
  | same {page : SeatsPage} (at_j : shop.pages[j]? = some page) :
    PageStep sold shop action shop' j page
  | onPage {page page' : SeatsPage} {event : PageEvent} (at_j : shop.pages[j]? = some page)
    (what : action = .onPage j event) (applied : page.apply sold event = some page') :
    PageStep sold shop action shop' j page'
  | pressed {page : SeatsPage} {newKey : String} {body : OrderBody}
    (at_j : shop.pages[j]? = some page) (asks : page.asks = some body)
    (unused : page.idemKey = none → shop.Unused newKey)
    (after : shop' = shop.press j newKey page body) :
    PageStep sold shop action shop' j (page.checkout newKey)
  | answered {page : SeatsPage} {n : ℕ} {r : OrderRequest} {outcome : CreateOutcome}
    (at_j : shop.pages[j]? = some page) (at_n : shop.sent[n]? = some r) (own : r.page = j)
    (ended : r.outcome shop.booking = some outcome) :
    PageStep sold shop action shop' j (page.answered outcome)
  | failed {page : SeatsPage} (at_j : shop.pages[j]? = some page) :
    PageStep sold shop action shop' j page.settle

theorem ShopStep.page_cases (moved : ShopStep cfg sold shop action shop') {j : ℕ}
    {page' : SeatsPage} (at_j : shop'.pages[j]? = some page') :
    PageStep sold shop action shop' j page' := by
  cases moved with
  | booking | delivered => exact .same at_j
  | opened =>
    rcases getElem?_concat_cases at_j with old | ⟨-, rfl⟩
    · exact .same old
    · exact .opened rfl rfl
  | onPage at_i applied =>
    rcases getElem?_set_cases at_j with ⟨rfl, rfl⟩ | ⟨-, old⟩
    · exact .onPage at_i rfl applied
    · exact .same old
  | pressed at_i asks unused =>
    rcases getElem?_set_cases at_j with ⟨rfl, rfl⟩ | ⟨-, old⟩
    · exact .pressed at_i asks unused rfl
    · exact .same old
  | answered at_n at_page ended =>
    rcases getElem?_set_cases at_j with ⟨rfl, rfl⟩ | ⟨-, old⟩
    · exact .answered at_page at_n rfl ended
    · exact .same old
  | failed at_n at_page =>
    rcases getElem?_set_cases at_j with ⟨rfl, rfl⟩ | ⟨-, old⟩
    · exact .failed at_page
    · exact .same old

/-- A key of a page is the key it had, or one it has just drawn. -/
theorem PageStep.idemKey {j : ℕ} {page' : SeatsPage} {key : String}
    (stepped : PageStep sold shop action shop' j page') (keyed : page'.idemKey = some key) :
    (∃ page, shop.pages[j]? = some page ∧ page.idemKey = some key) ∨
      ∃ page body, shop.pages[j]? = some page ∧ page.idemKey = none ∧ shop.Unused key ∧
        shop' = shop.press j key page body := by
  cases stepped with
  | opened noKey => cases noKey.symm.trans keyed
  | same at_j => exact .inl ⟨_, at_j, keyed⟩
  | onPage at_j what applied =>
    rcases (SeatsPage.apply_click applied).1.key with dropped | kept
    · cases dropped.symm.trans keyed
    · exact .inl ⟨_, at_j, kept ▸ keyed⟩
  | @pressed page newKey body at_j asks unused after =>
    have same : some (page.idemKey.getD newKey) = some key := keyed
    cases old : page.idemKey with
    | none =>
      rw [old] at same
      cases same
      exact .inr ⟨page, body, at_j, old, unused old, after⟩
    | some key' =>
      rw [old] at same
      cases same
      exact .inl ⟨page, at_j, old⟩
  | @answered page n r outcome at_j =>
    cases outcome with
    | created | replayed => exact .inl ⟨page, at_j, keyed⟩
    | raised answer =>
      rcases (page.refused_keeps answer).1.key with dropped | kept
      · cases dropped.symm.trans keyed
      · exact .inl ⟨page, at_j, kept ▸ keyed⟩
  | failed at_j => exact .inl ⟨_, at_j, keyed⟩

end Steps

/-! ## Requests, calls and keys -/

/-- How the requests of the pages, the calls that serve them and the keys belong together. -/
structure Shop.Wired (shop : Shop) : Prop where
  /-- A request that has reached the service is served by a call of its key and body. -/
  served : ∀ (n : ℕ) r i, shop.sent[n]? = some r → r.call = some i → ∃ c,
    shop.booking.calls[i]? = some (.create c) ∧ c.idempotencyKey = some r.idemKey ∧
      r.body.orderIn? = some c.orderIn
  /-- A call with the key of a page serves a request. -/
  caller : ∀ (i : ℕ) c key, shop.booking.calls[i]? = some (.create c) →
    c.idempotencyKey = some key → key ∈ shop.keys →
      ∃ (n : ℕ) (r : OrderRequest), shop.sent[n]? = some r ∧ r.call = some i
  drawn : ∀ (n : ℕ) r, shop.sent[n]? = some r → r.idemKey ∈ shop.keys
  nonempty : ∀ key ∈ shop.keys, key ≠ ""
  pageKey : ∀ (j : ℕ) page key, shop.pages[j]? = some page → page.idemKey = some key →
    key ∈ shop.keys
  ownKey : ∀ (j j' : ℕ) page page' key, shop.pages[j]? = some page → shop.pages[j']? = some page' →
    page.idemKey = some key → page'.idemKey = some key → j = j'

section Wired

variable {cfg : Config} {sold : String → ℤ → ℤ → Bool} {start shop shop' : Shop}
  {action : ShopAction} {ok : Shop → ShopAction → Prop}

/-- What happens to a create call in a step of the shop. -/
theorem ShopStep.call_later (fresh : start.booking.Fresh)
    (reached : Reachable (Shop.step cfg sold) ok start shop)
    (moved : ShopStep cfg sold shop action shop') {i : ℕ} {c : CreateCall}
    (at_i : shop.booking.calls[i]? = some (.create c)) :
    ∃ c', shop'.booking.calls[i]? = some (.create c') ∧ c'.orderIn = c.orderIn ∧
      c'.idempotencyKey = c.idempotencyKey ∧ (∀ outcome, c.pc = .done outcome → c' = c) := by
  rcases moved.booking_moves with same | ⟨a, stepped⟩
  · exact ⟨c, same ▸ at_i, rfl, rfl, fun _ _ => rfl⟩
  · have attempted := attempted_of_reachable fresh (booking_of_reachable reached) i _ at_i
    obtain ⟨c', at_i', sameRequest, sameKey, -, same | ⟨rfl, running⟩ | ⟨fault, draw, create⟩⟩ :=
      (step_cases stepped).create_call at_i attempted
    · exact ⟨c', at_i', sameRequest, sameKey, fun _ _ => same⟩
    · refine ⟨_, at_i', sameRequest, sameKey, fun outcome ended => ?_⟩
      rw [Call.ended_create.mpr ⟨outcome, ended⟩] at running
      cases running
    · exact ⟨c', at_i', sameRequest, sameKey, fun outcome ended =>
        absurd ended (create.running.2 outcome)⟩

theorem ShopStep.keys_mono (moved : ShopStep cfg sold shop action shop') {key : String}
    (drawn : key ∈ shop.keys) : key ∈ shop'.keys := by
  cases moved with
  | pressed => exact List.mem_cons_of_mem _ drawn
  | booking | opened | onPage | delivered | answered | failed => exact drawn

/-- A key that is new is one that nobody has used. -/
theorem ShopStep.keys_before (wired : shop.Wired) (moved : ShopStep cfg sold shop action shop')
    {key : String} (drawn : key ∈ shop'.keys) : key ∈ shop.keys ∨ shop.Unused key := by
  cases moved with
  | @pressed j newKey page body at_j asks unused =>
    rcases List.mem_cons.mp drawn with same | before
    · cases had : page.idemKey with
      | none =>
        rw [had] at same
        exact .inr (same ▸ unused had)
      | some key' =>
        rw [had] at same
        exact .inl (same ▸ wired.pageKey j page key' at_j had)
    · exact .inl before
  | booking | opened | onPage | delivered | answered | failed => exact .inl drawn

/-- The call of a key serves a request, when the action that started it was allowed. -/
theorem ShopStep.caller (fresh : start.booking.Fresh)
    (reached : Reachable (Shop.step cfg sold) ok start shop) (wired : shop.Wired)
    (allowed : shop.Allowed sold action) (moved : ShopStep cfg sold shop action shop') {i : ℕ}
    {c : CreateCall} {key : String} (at_i : shop'.booking.calls[i]? = some (.create c))
    (keyed : c.idempotencyKey = some key) (drawn : key ∈ shop'.keys) :
    ∃ (n : ℕ) (r : OrderRequest), shop'.sent[n]? = some r ∧ r.call = some i := by
  -- a call that was there before serves a request that was there before
  have old : ∀ c₀, shop.booking.calls[i]? = some (.create c₀) → c₀.idempotencyKey = some key →
      key ∈ shop.keys →
        ∃ (n : ℕ) (r : OrderRequest), shop'.sent[n]? = some r ∧ r.call = some i := by
    intro c₀ at_i keyed drawn
    obtain ⟨n, r, at_n, started⟩ := wired.caller i c₀ key at_i keyed drawn
    obtain ⟨r', at_n', continues⟩ := moved.request_later at_n
    exact ⟨n, r', at_n', continues.call i started⟩
  have drawnBefore := moved.keys_before wired drawn
  cases moved with
  | booking stepped =>
    have attempted := attempted_of_reachable fresh (booking_of_reachable reached)
    rcases (step_cases stepped).create_before attempted at_i with
      ⟨c₀, before, sameKey⟩ | ⟨orderIn, key', rfl, rfl, rfl⟩
    · exact old c₀ before (sameKey ▸ keyed) drawn
    · exact absurd drawn (allowed key keyed)
  | delivered at_m =>
    rcases getElem?_concat_cases at_i with before | ⟨rfl, -⟩
    · exact old c before keyed drawn
    · exact ⟨_, _, getElem?_set_self _ at_m, rfl⟩
  | pressed at_j asks unused =>
    rcases drawnBefore with before | unused
    · exact old c at_i keyed before
    · exact absurd keyed (unused.2.2 _ (List.mem_of_getElem? at_i))
  | opened | onPage | answered | failed => exact old c at_i keyed drawn

theorem ShopStep.ownKey (wired : shop.Wired) (moved : ShopStep cfg sold shop action shop')
    {j j' : ℕ} {page page' : SeatsPage} {key : String} (at_j : shop'.pages[j]? = some page)
    (at_j' : shop'.pages[j']? = some page') (keyed : page.idemKey = some key)
    (keyed' : page'.idemKey = some key) : j = j' := by
  rcases (moved.page_cases at_j).idemKey keyed with ⟨old, at_old, had⟩ |
    ⟨old, body, at_old, noKey, unused, after⟩
  · rcases (moved.page_cases at_j').idemKey keyed' with ⟨old', at_old', had'⟩ |
      ⟨_, _, _, _, unused, -⟩
    · exact wired.ownKey j j' old old' key at_old at_old' had had'
    · exact absurd (wired.pageKey j old key at_old had) unused.2.1
  · rcases (moved.page_cases at_j').idemKey keyed' with ⟨old', at_old', had'⟩ |
      ⟨old', body', at_old', noKey', -, after'⟩
    · exact absurd (wired.pageKey j' old' key at_old' had') unused.2.1
    · have requests := congrArg Shop.sent (after.symm.trans after')
      have last := List.append_cancel_left requests
      exact congrArg OrderRequest.page (List.head_eq_of_cons_eq last)

theorem ShopStep.wired (fresh : start.booking.Fresh)
    (reached : Reachable (Shop.step cfg sold) ok start shop) (wired : shop.Wired)
    (allowed : shop.Allowed sold action) (moved : ShopStep cfg sold shop action shop') :
    shop'.Wired where
  served n r' i at_n started := by
    rcases moved.request_before at_n with
      ⟨r, at_n', continues, same | ⟨orderIn, valid, call, at_end⟩⟩ |
      ⟨_, _, _, _, _, _, _, _, new, -⟩
    · obtain ⟨c, at_i, keyed, valid⟩ := wired.served n r i at_n' (same ▸ started)
      obtain ⟨c', at_i', sameRequest, sameKey, -⟩ := moved.call_later fresh reached at_i
      refine ⟨c', at_i', ?_, ?_⟩
      · rw [sameKey, keyed, continues.idemKey]
      · rw [continues.body, sameRequest, valid]
    · cases call.symm.trans started
      exact ⟨_, at_end, by rw [continues.idemKey]; rfl, by rw [continues.body]; exact valid⟩
    · rw [new] at started
      cases started
  caller i c key at_i keyed drawn := moved.caller fresh reached wired allowed at_i keyed drawn
  drawn n r' at_n := by
    rcases moved.request_before at_n with
      ⟨r, at_n', continues, -⟩ | ⟨_, _, _, _, _, _, _, _, rfl, rfl⟩
    · rw [continues.idemKey]
      exact moved.keys_mono (wired.drawn n r at_n')
    · exact List.mem_cons_self
  nonempty key drawn := by
    rcases moved.keys_before wired drawn with before | unused
    · exact wired.nonempty key before
    · exact unused.1
  pageKey j page' key at_j keyed := by
    rcases (moved.page_cases at_j).idemKey keyed with ⟨page, old, had⟩ |
      ⟨page, body, old, noKey, unused, rfl⟩
    · exact moved.keys_mono (wired.pageKey j page key old had)
    · rw [Shop.press, noKey]
      exact List.mem_cons_self
  ownKey j j' page page' key at_j at_j' := moved.ownKey wired at_j at_j'

theorem wired_of_reachable (fresh : start.Fresh)
    (reached : Reachable (Shop.step cfg sold) (Shop.Allowed sold) start shop) : shop.Wired := by
  refine reached.invariant₂ (P := Shop.Wired) ?_ fun s a s' before wired allowed moved =>
    (Shop.step_cases moved).wired fresh.1 before wired allowed
  obtain ⟨⟨idle, -⟩, noPages, noRequests, noKeys⟩ := fresh
  refine ⟨?_, ?_, ?_, ?_, ?_, ?_⟩ <;> simp [idle, noPages, noRequests, noKeys]

end Wired

/-! ## One key, one selection -/

/-- The live requests of one key ask for one thing, and so does the page that has the key. -/
structure Shop.Steady (shop : Shop) : Prop where
  current : ∀ (j : ℕ) page (n : ℕ) r, shop.pages[j]? = some page → shop.sent[n]? = some r →
    page.idemKey = some r.idemKey →
      r.Dead shop.booking ∨ page.asks = none ∨ page.asks = some r.body
  agree : ∀ (n n' : ℕ) r r', shop.sent[n]? = some r → shop.sent[n']? = some r' →
    r.idemKey = r'.idemKey → r.body = r'.body ∨ r.Dead shop.booking ∨ r'.Dead shop.booking

section Steady

variable {cfg : Config} {sold : String → ℤ → ℤ → Bool} {start shop shop' : Shop}
  {action : ShopAction} {ok : Shop → ShopAction → Prop}

/-- What has failed for good stays so. -/
theorem ShopStep.dead_later (fresh : start.booking.Fresh)
    (reached : Reachable (Shop.step cfg sold) ok start shop)
    (moved : ShopStep cfg sold shop action shop') {r r' : OrderRequest} (continues : r.Continues r')
    (dead : r.Dead shop.booking) : r'.Dead shop'.booking := by
  obtain ⟨i, started, call, at_i, failed⟩ := dead
  have started' := continues.call i started
  rcases moved.booking_moves with same | ⟨a, stepped⟩
  · exact ⟨i, started', call, same ▸ at_i, same ▸ failed⟩
  · cases call with
    | create c =>
      obtain ⟨c', at_i', failed'⟩ :=
        dead_of_step fresh (booking_of_reachable reached) stepped at_i failed
      exact ⟨i, started', .create c', at_i', failed'⟩
    | pay | sweep => exact failed.elim

/-- A press asks for what the live requests of its key ask for. -/
theorem Shop.Steady.pressed (steady : shop.Steady) (wired : shop.Wired) {j n : ℕ} {newKey : String}
    {page : SeatsPage} {body : OrderBody} {r : OrderRequest} (at_j : shop.pages[j]? = some page)
    (asks : page.asks = some body) (unused : page.idemKey = none → shop.Unused newKey)
    (at_n : shop.sent[n]? = some r) (sameKey : r.idemKey = page.idemKey.getD newKey) :
    r.Dead shop.booking ∨ r.body = body := by
  cases had : page.idemKey with
  | none =>
    have drawn := wired.drawn n r at_n
    rw [sameKey, had] at drawn
    exact absurd drawn (unused had).2.1
  | some key =>
    rw [had] at sameKey
    have keyed : page.idemKey = some r.idemKey := by rw [had, sameKey]; rfl
    rcases steady.current j page n r at_j at_n keyed with dead | nothing | same
    · exact .inl dead
    · cases nothing.symm.trans asks
    · exact .inr (Option.some.inj (same.symm.trans asks))

/-- What a page asks for under its key after a step, compared with a request from before. -/
theorem PageStep.asks (steady : shop.Steady) (wired : shop.Wired)
    (allowed : shop.Allowed sold action) {j n : ℕ} {page' : SeatsPage} {r : OrderRequest}
    (stepped : PageStep sold shop action shop' j page') (at_n : shop.sent[n]? = some r)
    (keyed : page'.idemKey = some r.idemKey) :
    r.Dead shop.booking ∨ page'.asks = none ∨ page'.asks = some r.body := by
  cases stepped with
  | opened noKey => cases noKey.symm.trans keyed
  | same at_j => exact steady.current j page' n r at_j at_n keyed
  | @onPage page _ event at_j what applied =>
    obtain ⟨follows, click⟩ := SeatsPage.apply_click applied
    have had : page.idemKey = some r.idemKey := by
      rcases follows.key with dropped | kept
      · cases dropped.symm.trans keyed
      · rw [← kept, keyed]
    have before := steady.current j page n r at_j at_n had
    cases outside : event.external with
    | false =>
      rcases click outside with dropped | same
      · cases dropped.symm.trans keyed
      · rw [same]
        exact before
    | true =>
      subst what
      rcases allowed outside page at_j page' applied r.idemKey keyed with same | nothing | kept
      · rw [same]
        exact before
      · exact .inr (.inl nothing)
      · exact (kept r (List.mem_of_getElem? at_n) rfl).imp id .inr
  | @pressed page newKey body at_j asks unused after =>
    have sameKey : r.idemKey = page.idemKey.getD newKey := (Option.some.inj keyed).symm
    rcases steady.pressed wired at_j asks unused at_n sameKey with dead | same
    · exact .inl dead
    · exact .inr (.inr (same ▸ asks))
  | @answered page m r₀ outcome at_j =>
    cases outcome with
    | created | replayed => exact steady.current j page n r at_j at_n keyed
    | raised answer =>
      obtain ⟨follows, kept⟩ := page.refused_keeps answer
      rcases follows.key with dropped | same
      · cases dropped.symm.trans keyed
      · rcases kept with dropped | asksSame | nothing
        · cases dropped.symm.trans keyed
        · rw [SeatsPage.answered, asksSame]
          exact steady.current j page n r at_j at_n (same ▸ keyed)
        · exact .inr (.inl nothing)
  | @failed page at_j => exact steady.current j page n r at_j at_n keyed

theorem ShopStep.steady (fresh : start.booking.Fresh)
    (reached : Reachable (Shop.step cfg sold) ok start shop) (wired : shop.Wired)
    (steady : shop.Steady) (allowed : shop.Allowed sold action)
    (moved : ShopStep cfg sold shop action shop') : shop'.Steady where
  current j page' n r' at_j at_n keyed := by
    rcases moved.request_before at_n with ⟨r, at_n', continues, -⟩ |
      ⟨j₀, newKey, page, body, at_j₀, asks, unused, -, rfl, after⟩
    · rw [continues.idemKey] at keyed
      rw [continues.body]
      exact ((moved.page_cases at_j).asks steady wired allowed at_n' keyed).imp
        (moved.dead_later fresh reached continues) id
    · -- the page with the key of the new request is the one that has sent it
      have pressed : shop'.pages[j₀]? = some (page.checkout newKey) := by
        rw [after]
        exact getElem?_set_self _ at_j₀
      obtain rfl : j = j₀ := moved.ownKey wired at_j pressed keyed rfl
      cases at_j.symm.trans pressed
      exact .inr (.inr asks)
  agree n n' r r' at_n at_n' sameKey := by
    rcases moved.request_before at_n with ⟨old, at_old, continues, -⟩ |
      ⟨j, newKey, page, body, at_j, asks, unused, rfl, rfl, after⟩
    · rcases moved.request_before at_n' with ⟨old', at_old', continues', -⟩ |
        ⟨j, newKey, page, body, at_j, asks, unused, rfl, rfl, after⟩
      · rw [continues.idemKey, continues'.idemKey] at sameKey
        rw [continues.body, continues'.body]
        exact (steady.agree n n' old old' at_old at_old' sameKey).imp id
          (Or.imp (moved.dead_later fresh reached continues)
            (moved.dead_later fresh reached continues'))
      · rw [continues.idemKey] at sameKey
        rw [continues.body]
        rcases steady.pressed wired at_j asks unused at_old sameKey with dead | same
        · exact .inr (.inl (moved.dead_later fresh reached continues dead))
        · exact .inl same
    · rcases moved.request_before at_n' with ⟨old', at_old', continues', -⟩ |
        ⟨_, _, _, _, _, _, _, rfl, -, -⟩
      · rw [continues'.idemKey] at sameKey
        rw [continues'.body]
        rcases steady.pressed wired at_j asks unused at_old' sameKey.symm with dead | same
        · exact .inr (.inr (moved.dead_later fresh reached continues' dead))
        · exact .inl same.symm
      · cases at_n.symm.trans at_n'
        exact .inl rfl

theorem steady_of_reachable (fresh : start.Fresh)
    (reached : Reachable (Shop.step cfg sold) (Shop.Allowed sold) start shop) : shop.Steady := by
  refine reached.invariant₂ (P := Shop.Steady) ?_ fun s a s' before steady allowed moved =>
    (Shop.step_cases moved).steady fresh.1 before (wired_of_reachable fresh before) steady allowed
  obtain ⟨-, noPages, noRequests, -⟩ := fresh
  exact ⟨by simp [noPages], by simp [noRequests]⟩

end Steady

/-! ## What the fan gets -/

/-- The order a request has been answered with. -/
def OrderRequest.orderId (booking : State) (r : OrderRequest) : Option ℕ :=
  match r.outcome booking with
  | some (.created o _) | some (.replayed o _) => some o.id
  | _ => none

/-- The order is for the user and the seats of the request. -/
def OrderRequest.Gets (lower : String → String) (pg : Postgres) (r : OrderRequest) (o : Order) :
    Prop :=
  ∃ orderIn, r.body.orderIn? = some orderIn ∧ orderIn.SameOrder lower o (pg.ticketsOf o.id)

section Fan

variable {cfg : Config} {sold : String → ℤ → ℤ → Bool} {start shop shop' : Shop}
  {action : ShopAction} {ok : Shop → ShopAction → Prop} {r r' : OrderRequest}

theorem OrderRequest.outcome_eq_some {booking : State} {outcome : CreateOutcome} :
    r.outcome booking = some outcome ↔ ∃ i c, r.call = some i ∧
      booking.calls[i]? = some (.create c) ∧ c.pc = .done outcome := by
  unfold OrderRequest.outcome
  rw [Option.bind_eq_some_iff]
  constructor
  · rintro ⟨i, started, ended⟩
    split at ended
    case h_1 orderIn key attempt outcome' at_i =>
      cases ended
      exact ⟨i, _, started, at_i, rfl⟩
    case h_2 => cases ended
  · rintro ⟨i, ⟨orderIn, key, attempt, pc⟩, started, at_i, rfl⟩
    refine ⟨i, started, ?_⟩
    rw [at_i]

theorem OrderRequest.orderId_eq_some {booking : State} {orderId : ℕ}
    (answered : r.orderId booking = some orderId) : ∃ i c o tickets, r.call = some i ∧
      booking.calls[i]? = some (.create c) ∧ o.id = orderId ∧
      (c.pc = .done (.created o tickets) ∨ c.pc = .done (.replayed o tickets)) := by
  unfold OrderRequest.orderId at answered
  split at answered
  case h_1 o tickets ended | h_2 o tickets ended =>
    cases answered
    obtain ⟨i, c, started, at_i, at_pc⟩ := outcome_eq_some.mp ended
    exact ⟨i, c, o, tickets, started, at_i, rfl, by simp [at_pc]⟩
  case h_3 => cases answered

/-- An answer stays what it is. -/
theorem ShopStep.outcome_later (fresh : start.booking.Fresh)
    (reached : Reachable (Shop.step cfg sold) ok start shop)
    (moved : ShopStep cfg sold shop action shop') (continues : r.Continues r')
    {outcome : CreateOutcome} (ended : r.outcome shop.booking = some outcome) :
    r'.outcome shop'.booking = some outcome := by
  obtain ⟨i, c, started, at_i, at_pc⟩ := OrderRequest.outcome_eq_some.mp ended
  obtain ⟨c', at_i', -, -, stays⟩ := moved.call_later fresh reached at_i
  refine OrderRequest.outcome_eq_some.mpr ⟨i, c', continues.call i started, at_i', ?_⟩
  rw [stays outcome at_pc, at_pc]

/-- A page goes to the checkout with an order that one of its requests was answered with. -/
theorem redirect_of_reachable (fresh : start.Fresh)
    (reached : Reachable (Shop.step cfg sold) ok start shop) :
    ∀ (j : ℕ) page orderId, shop.pages[j]? = some page → page.order = some orderId →
      ∃ r ∈ shop.sent, r.page = j ∧ r.orderId shop.booking = some orderId := by
  refine reached.invariant₂ (P := fun shop => ∀ (j : ℕ) page orderId, shop.pages[j]? = some page →
    page.order = some orderId → ∃ r ∈ shop.sent, r.page = j ∧
      r.orderId shop.booking = some orderId) ?_ ?_
  · simp [fresh.2.1]
  intro s a s' before redirected _ moved
  have moved := Shop.step_cases moved
  -- a request that was answered stays so
  have later : ∀ (n : ℕ) r orderId, s.sent[n]? = some r → r.orderId s.booking = some orderId →
      ∃ r' ∈ s'.sent, r'.page = r.page ∧ r'.orderId s'.booking = some orderId := by
    intro n r orderId at_n answered
    obtain ⟨r', at_n', continues⟩ := moved.request_later at_n
    obtain ⟨i, c, o, tickets, started, at_i, same, at_pc⟩ :=
      OrderRequest.orderId_eq_some answered
    refine ⟨r', List.mem_of_getElem? at_n', continues.page, ?_⟩
    rcases at_pc with at_pc | at_pc
    all_goals
      have ended := OrderRequest.outcome_eq_some.mpr ⟨i, c, started, at_i, at_pc⟩
      rw [OrderRequest.orderId, moved.outcome_later fresh.1 before continues ended, ← same]
  have old : ∀ (j : ℕ) page orderId, s.pages[j]? = some page → page.order = some orderId →
      ∃ r' ∈ s'.sent, r'.page = j ∧ r'.orderId s'.booking = some orderId := by
    intro j page orderId at_j gone
    obtain ⟨r, mem, own, answered⟩ := redirected j page orderId at_j gone
    obtain ⟨n, at_n⟩ := List.mem_iff_getElem?.mp mem
    obtain ⟨r', mem', own', answered'⟩ := later n r orderId at_n answered
    exact ⟨r', mem', own'.trans own, answered'⟩
  intro j page' orderId at_j gone
  cases moved.page_cases at_j with
  | opened _ noOrder => cases noOrder.symm.trans gone
  | same at_old => exact old j _ orderId at_old gone
  | onPage at_old what applied =>
    exact old j _ orderId at_old ((SeatsPage.apply_click applied).1.order ▸ gone)
  | pressed at_old => exact old j _ orderId at_old gone
  | failed at_old => exact old j _ orderId at_old gone
  | @answered page n r outcome at_old at_n own ended =>
    cases outcome with
    | created o tickets | replayed o tickets =>
      cases gone
      obtain ⟨r', mem', own', answered'⟩ :=
        later n r o.id at_n (by rw [OrderRequest.orderId, ended])
      exact ⟨r', mem', own'.trans own, answered'⟩
    | raised answer =>
      exact old j page orderId at_old ((page.refused_keeps answer).1.order ▸ gone)

/-- No request asks for more than six seats, nor for a seat twice. -/
theorem few_of_reachable (fresh : start.Fresh)
    (reached : Reachable (Shop.step cfg sold) ok start shop) :
    ∀ r ∈ shop.sent, r.body.picks.length ≤ maxTickets ∧ r.body.picks.Nodup := by
  refine reached.invariant (P := fun shop => ∀ r ∈ shop.sent,
    r.body.picks.length ≤ maxTickets ∧ r.body.picks.Nodup) (by simp [fresh.2.2.1]) ?_
  intro s a s' few _ moved r' mem
  obtain ⟨n, at_n⟩ := List.mem_iff_getElem?.mp mem
  rcases (Shop.step_cases moved).request_before at_n with ⟨r, at_n', continues, -⟩ |
    ⟨j, newKey, page, body, at_j, asks, -, -, rfl, -⟩
  · rw [continues.body]
    exact few r (List.mem_of_getElem? at_n')
  · obtain ⟨userId, -, asked⟩ := Option.bind_eq_some_iff.mp asks
    split at asked
    · cases asked
    · cases asked
      exact ⟨page.selected.length_picks, page.selected.nodup_picks⟩

/-- An order under the key of a page was booked by a request of a page, and what is behind it is
alive. -/
theorem asked_of_reachable (fresh : start.Fresh)
    (reached : Reachable (Shop.step cfg sold) (Shop.Allowed sold) start shop) {o : Order}
    {key : String} (stored : o ∈ shop.booking.dbs.pg.orders) (keyed : o.idempotencyKey = some key)
    (drawn : key ∈ shop.keys) :
    ∃ (n : ℕ) (r : OrderRequest), shop.sent[n]? = some r ∧ r.idemKey = key ∧
      r.Gets cfg.lower shop.booking.dbs.pg o ∧ ¬ r.Dead shop.booking := by
  have wired := wired_of_reachable fresh reached
  obtain ⟨i, c, at_i, booked⟩ := booked_of_reachable fresh.1 (booking_of_reachable reached) o stored
  have carried : c.idempotencyKey = some key := booked.key ▸ keyed
  obtain ⟨n, r, at_n, started⟩ := wired.caller i c key at_i carried drawn
  obtain ⟨c', at_i', carried', valid⟩ := wired.served n r i at_n started
  cases at_i.symm.trans at_i'
  refine ⟨n, r, at_n, Option.some.inj (carried'.symm.trans carried), ⟨_, valid, booked.same⟩, ?_⟩
  rintro ⟨i', started', call, at_i'', dead⟩
  cases started.symm.trans started'
  cases at_i.symm.trans at_i''
  exact dead.2 o.id booked.attempt o stored rfl

/-- What the pages promise. -/
structure Shop.Honest (lower : String → String) (shop : Shop) : Prop where
  /-- An order under the key of a page is for what a page asked under the key. -/
  asked : ∀ o ∈ shop.booking.dbs.pg.orders, ∀ key ∈ shop.keys, o.idempotencyKey = some key →
    ∃ r ∈ shop.sent, r.idemKey = key ∧ r.Gets lower shop.booking.dbs.pg o
  /-- A request that is answered with an order has got what it asked for. -/
  answered : ∀ r ∈ shop.sent, ∀ orderId, r.orderId shop.booking = some orderId →
    ∃ o ∈ shop.booking.dbs.pg.orders, o.id = orderId ∧ o.idempotencyKey = some r.idemKey ∧
      r.Gets lower shop.booking.dbs.pg o
  /-- However often the button is pressed, there is one order for a key. -/
  once : ∀ r ∈ shop.sent, ∀ r' ∈ shop.sent, r.idemKey = r'.idemKey → ∀ orderId orderId',
    r.orderId shop.booking = some orderId → r'.orderId shop.booking = some orderId' →
      orderId = orderId'
  /-- The fan is taken to an order that the page itself has asked for. -/
  taken : ∀ (j : ℕ) page orderId, shop.pages[j]? = some page → page.order = some orderId →
    ∃ r ∈ shop.sent, r.page = j ∧ r.orderId shop.booking = some orderId
  few : ∀ r ∈ shop.sent, r.body.picks.length ≤ maxTickets ∧ r.body.picks.Nodup

/-- **The fan gets the seats that were picked, once.**  Whatever the fan clicks while requests are
under way, however often the button is pressed, and whichever requests and answers are lost or late,
an answer with an order is an answer with the one order of its key, for the user and the seats of
the request. -/
theorem page_orders_honest (fresh : start.Fresh)
    (reached : Reachable (Shop.step cfg sold) (Shop.Allowed sold) start shop) :
    shop.Honest cfg.lower := by
  have wired := wired_of_reachable fresh reached
  have steady := steady_of_reachable fresh reached
  have service := booking_of_reachable reached
  have rows : ∀ r ∈ shop.sent, ∀ orderId, r.orderId shop.booking = some orderId →
      ∃ o ∈ shop.booking.dbs.pg.orders, o.id = orderId ∧ o.idempotencyKey = some r.idemKey := by
    intro r mem orderId answered
    obtain ⟨n, at_n⟩ := List.mem_iff_getElem?.mp mem
    obtain ⟨i, c, o, tickets, started, at_i, rfl, at_pc⟩ := OrderRequest.orderId_eq_some answered
    obtain ⟨c', at_i', carried, -⟩ := wired.served n r i at_n started
    cases at_i.symm.trans at_i'
    obtain ⟨row, stored, sameId, keyed⟩ :=
      answersRow_of_reachable fresh.1 service at_i o tickets at_pc
    exact ⟨row, stored, sameId, keyed.trans carried⟩
  refine ⟨?_, ?_, ?_, redirect_of_reachable fresh reached, few_of_reachable fresh reached⟩
  · intro o stored key drawn keyed
    obtain ⟨n, r, at_n, sameKey, gets, -⟩ := asked_of_reachable fresh reached stored keyed drawn
    exact ⟨r, List.mem_of_getElem? at_n, sameKey, gets⟩
  · intro r mem orderId answered
    obtain ⟨n, at_n⟩ := List.mem_iff_getElem?.mp mem
    obtain ⟨o, stored, sameId, keyed⟩ := rows r mem orderId answered
    obtain ⟨n', r', at_n', sameKey, ⟨orderIn, valid, same⟩, alive⟩ :=
      asked_of_reachable fresh reached stored keyed (wired.drawn n r at_n)
    refine ⟨o, stored, sameId, keyed, orderIn, ?_, same⟩
    rcases steady.agree n n' r r' at_n at_n' sameKey.symm with agree | dead | dead
    · rw [agree, valid]
    · -- a request that has been answered with an order is not dead
      obtain ⟨i, c, _, _, started, at_i, -, at_pc⟩ := OrderRequest.orderId_eq_some answered
      obtain ⟨i', started', call, at_i', dead⟩ := dead
      cases started.symm.trans started'
      cases at_i.symm.trans at_i'
      have failed : c.pc.failed = true := dead.1
      rcases at_pc with at_pc | at_pc
      all_goals
        rw [at_pc] at failed
        cases failed
    · exact absurd dead alive
  · intro r mem r' mem' sameKey orderId orderId' answered answered'
    obtain ⟨o, stored, rfl, keyed⟩ := rows r mem orderId answered
    obtain ⟨o', stored', rfl, keyed'⟩ := rows r' mem' orderId' answered'
    refine keysUnique_of_reachable fresh.1 service o stored o' stored' (by simp [keyed]) ?_
    rw [keyed, keyed', sameKey]

/-- The look-up of a key whose order is the one that is asked for. -/
theorem CreateCall.step_replays {dbs : Databases} {orderIn : OrderCreate} {key : String} {o : Order}
    {fault : Fault} {draw : Draw} (truthy : key ≠ "") (found : dbs.pg.findByKey key = some o)
    (matched : fingerprintAnswer cfg.lower o (dbs.pg.ticketsOf o.id) orderIn = none)
    (up : fault.PgUp) : (CreateCall.start orderIn (some key)).step cfg.lower dbs fault draw =
      some (dbs, (CreateCall.start orderIn (some key)).goto
        (.done (.replayed o (dbs.pg.ticketsOf o.id)))) := by
  have carried : truthyKey (some key) = some key := by
    rw [truthyKey, Option.filter_some, if_pos (by simpa using truthy)]
  unfold CreateCall.step
  dsimp only [CreateCall.start]
  rw [carried]
  dsimp only
  rw [found]
  dsimp only
  rw [matched]
  cases fault with
  | none | mongoRaised => rfl
  | pgRaised => exact up.elim

/-- A press that reaches the service while the order of its key is in the table. -/
theorem Shop.run_press {j : ℕ} {newKey key : String} {page : SeatsPage} {body : OrderBody}
    {orderIn : OrderCreate} {o : Order} {fault : Fault} (draw : Draw)
    (at_j : shop.pages[j]? = some page) (enabled : page.payable = true)
    (asks : page.asks = some body) (keyed : page.idemKey = some key) (truthy : key ≠ "")
    (valid : body.orderIn? = some orderIn) (found : shop.booking.dbs.pg.findByKey key = some o)
    (matched : fingerprintAnswer cfg.lower o (shop.booking.dbs.pg.ticketsOf o.id) orderIn = none)
    (up : fault.PgUp) : ∃ shop' page', run (Shop.step cfg sold) shop [.checkout j newKey,
        .deliver shop.sent.length, .booking (.step shop.booking.calls.length fault draw),
        .answer shop.sent.length] = some shop' ∧
      shop'.booking.dbs = shop.booking.dbs ∧ shop'.pages[j]? = some page' ∧
      page'.order = some o.id := by
  let call := CreateCall.start orderIn (some key)
  let ended := call.goto (.done (.replayed o (shop.booking.dbs.pg.ticketsOf o.id)))
  let request : OrderRequest := ⟨j, key, body, some shop.booking.calls.length, true⟩
  -- the shop once the request has reached the service
  let serving (c : CreateCall) : Shop :=
    ⟨⟨shop.booking.dbs, shop.booking.calls ++ [.create c]⟩,
      shop.pages.set j (page.checkout newKey), shop.sent ++ [request], key :: shop.keys⟩
  let taken := (page.checkout newKey).answered
    (.replayed o (shop.booking.dbs.pg.ticketsOf o.id))
  have pressed : Shop.step cfg sold shop (.checkout j newKey) =
      some (shop.press j newKey page body) := by
    simp [Shop.step, at_j, asks, enabled, keyed]
  have delivered : Shop.step cfg sold (shop.press j newKey page body) (.deliver shop.sent.length) =
      some (serving call) := by
    simp [Shop.step, Shop.press, keyed, valid, TicketBooking.step, Request.start, request, call,
      serving]
  have served : Shop.step cfg sold (serving call)
      (.booking (.step shop.booking.calls.length fault draw)) = some (serving ended) := by
    simp only [Shop.step, step_concat, Call.step, call, serving,
      CreateCall.step_replays truthy found matched up, Option.map_some]
    rfl
  have at_page : (shop.pages.set j (page.checkout newKey))[j]? = some (page.checkout newKey) :=
    getElem?_set_self _ at_j
  have answered : Shop.step cfg sold (serving ended) (.answer shop.sent.length) =
      some ((serving ended).settled shop.sent.length request taken) := by
    have outcome : request.outcome (serving ended).booking =
        some (.replayed o (shop.booking.dbs.pg.ticketsOf o.id)) :=
      OrderRequest.outcome_eq_some.mpr ⟨_, ended, rfl, List.getElem?_concat_length, rfl⟩
    have at_end : (serving ended).sent[shop.sent.length]? = some request :=
      List.getElem?_concat_length
    have own : (serving ended).pages[request.page]? = some (page.checkout newKey) := at_page
    simp only [Shop.step, at_end, own, outcome, Option.bind_some]
    rfl
  refine ⟨(serving ended).settled shop.sent.length request taken, taken, ?_, rfl,
    getElem?_set_self _ at_page, rfl⟩
  rw [run_cons, pressed, Option.bind_some, run_cons, delivered, Option.bind_some, run_cons, served,
    Option.bind_some, run_cons, answered, Option.bind_some, run_nil]

/-- **A press after a lost answer.**  When the order that was asked for is in the table, the next
press takes the fan to this order, and nothing is booked again. -/
theorem press_finds_order (fresh : start.Fresh)
    (reached : Reachable (Shop.step cfg sold) (Shop.Allowed sold) start shop) {j : ℕ}
    {page : SeatsPage} {body : OrderBody} {key : String} {o : Order}
    (at_j : shop.pages[j]? = some page) (enabled : page.payable = true)
    (asks : page.asks = some body) (keyed : page.idemKey = some key)
    (stored : o ∈ shop.booking.dbs.pg.orders) (booked : o.idempotencyKey = some key)
    (newKey : String) (fault : Fault) (up : fault.PgUp) (draw : Draw) :
    (∃ orderIn, body.orderIn? = some orderIn ∧
      orderIn.SameOrder cfg.lower o (shop.booking.dbs.pg.ticketsOf o.id)) ∧
    ∃ shop' page', run (Shop.step cfg sold) shop [.checkout j newKey, .deliver shop.sent.length,
        .booking (.step shop.booking.calls.length fault draw), .answer shop.sent.length] =
          some shop' ∧
      shop'.booking.dbs = shop.booking.dbs ∧ shop'.pages[j]? = some page' ∧
      page'.order = some o.id := by
  have steady := steady_of_reachable fresh reached
  have service := booking_of_reachable reached
  have wired := wired_of_reachable fresh reached
  have drawn := wired.pageKey j page key at_j keyed
  have truthy := wired.nonempty key drawn
  obtain ⟨n, r, at_n, rfl, ⟨orderIn, valid, same⟩, alive⟩ :=
    asked_of_reachable fresh reached stored booked drawn
  have sameBody : r.body = body := by
    rcases steady.current j page n r at_j at_n keyed with dead | nothing | agree
    · exact absurd dead alive
    · cases nothing.symm.trans asks
    · exact Option.some.inj (agree.symm.trans asks)
  rw [sameBody] at valid
  have ids := (rowsLocked_of_reachable service fresh.1.1 fresh.1.idsDrawn).ids
  have found := (keysUnique_of_reachable fresh.1 service).findByKey ids stored booked
  have canonical : ∀ t ∈ shop.booking.dbs.pg.ticketsOf o.id,
      t.Canonical cfg.lower start.booking.dbs.mongo :=
    fun t mem => (seated_of_reachable fresh.1 service).canonical t (List.mem_of_mem_filter mem)
  have matched := fingerprintAnswer_eq_none_iff.mpr (same.payload canonical)
  exact ⟨⟨orderIn, valid, same⟩,
    shop.run_press draw at_j enabled asks keyed truthy valid found matched up⟩

end Fan

namespace Sample

/-- No seat is sold by the counts alone. -/
def unsold : String → ℤ → ℤ → Bool := fun _ _ _ => false

def shop : Shop := ⟨start floor, [], [], []⟩

/-- Two seats are picked and ordered, and the answer is lost. -/
def lostAnswer : List ShopAction :=
  [.openPage oid.hex none [] [] (some 1), .onPage 0 (.init true [floor.toZone]),
    .onPage 0 (.toggleSeat "A-1"), .onPage 0 (.toggleSeat "A-2"), .checkout 0 "k", .deliver 0] ++
  (advance 0 4 1).map .booking ++ [.fail 0]

/-- The order that was booked. -/
def lostOrder : Order :=
  ⟨1, "ORD-1", 1, 20, .pending, "promptpay", some 600000000, some "k", 0⟩

theorem shop_fresh : shop.Fresh := ⟨fresh floor, rfl, rfl, rfl⟩

end Sample

/-- A second press, and its answer. -/
theorem page_orders_honest_sample : ∃ shop, run (Shop.step Sample.cfg Sample.unsold) Sample.shop
      (Sample.lostAnswer ++ [.checkout 0 "l", .deliver 1, .booking (.step 1 .none (Sample.draw 2)),
        .answer 1]) = some shop ∧
    shop.Honest Sample.cfg.lower ∧ shop.sent.map (OrderRequest.orderId shop.booking) =
      [some 1, some 1] ∧ shop.pages.map SeatsPage.order = [some 1] := by
  obtain ⟨shop, checked⟩ := Option.isSome_iff_exists.mp (show ((checkedRun
    (Shop.step Sample.cfg Sample.unsold) (Shop.Allowed Sample.unsold) Sample.shop
    (Sample.lostAnswer ++ [.checkout 0 "l", .deliver 1, .booking (.step 1 .none (Sample.draw 2)),
      .answer 1])).filter fun shop =>
        shop.sent.map (OrderRequest.orderId shop.booking) = [some 1, some 1] ∧
        shop.pages.map SeatsPage.order = [some 1]).isSome = true by decide +kernel)
  obtain ⟨ran, facts⟩ := Option.filter_eq_some_iff.mp checked
  obtain ⟨answers, taken⟩ := of_decide_eq_true facts
  exact ⟨shop, run_of_checkedRun ran,
    page_orders_honest Sample.shop_fresh (reachable_of_checkedRun ran), answers, taken⟩

/-- The page after the lost answer. -/
theorem press_finds_order_sample : ∃ shop o shop' page',
    run (Shop.step Sample.cfg Sample.unsold) Sample.shop Sample.lostAnswer = some shop ∧
    shop.booking.dbs.pg.orders = [o] ∧
    run (Shop.step Sample.cfg Sample.unsold) shop [.checkout 0 "l", .deliver shop.sent.length,
      .booking (.step shop.booking.calls.length .none (Sample.draw 2)), .answer shop.sent.length] =
        some shop' ∧
    shop'.booking.dbs = shop.booking.dbs ∧ shop'.pages[0]? = some page' ∧
    page'.order = some o.id := by
  obtain ⟨shop, checked⟩ := Option.isSome_iff_exists.mp (show ((checkedRun
    (Shop.step Sample.cfg Sample.unsold) (Shop.Allowed Sample.unsold) Sample.shop
    Sample.lostAnswer).filter fun shop =>
      shop.booking.dbs.pg.orders = [Sample.lostOrder] ∧ ∃ page ∈ shop.pages[0]?,
        page.payable = true ∧ page.idemKey = some "k" ∧
        page.asks = some ⟨1, Sample.oid.hex, [("Floor", "A-1"), ("Floor", "A-2")]⟩).isSome =
          true by decide +kernel)
  obtain ⟨ran, facts⟩ := Option.filter_eq_some_iff.mp checked
  obtain ⟨orders, page, at_zero, enabled, keyed, asks⟩ := of_decide_eq_true facts
  have stored : Sample.lostOrder ∈ shop.booking.dbs.pg.orders := by
    rw [orders]
    exact List.mem_singleton_self _
  obtain ⟨-, shop', page', again, unchanged, at_zero', taken⟩ :=
    press_finds_order Sample.shop_fresh (reachable_of_checkedRun ran) at_zero enabled asks keyed
      stored rfl "l" .none trivial (Sample.draw 2)
  exact ⟨shop, Sample.lostOrder, shop', page', run_of_checkedRun ran, orders, again, unchanged,
    at_zero', taken⟩

end TicketBooking
