import TicketBooking.CreateCall
import TicketBooking.Lib.Dictionary
import TicketBooking.SeatMap
import Mathlib.Data.List.Sort

/-!
# The seat page

`frontend/app/seats/seats.js`: the picks of one tab, the key under which they are ordered, and what
the page does with the answer to its `POST /orders`.  Drawing is left out; what a fan can click is
what `renderGrid` shows and `isTaken` does not disable.

* `Selection` is the Map `state.selected`: at most six seats, each under its own key.
* `SeatsPage.apply` is everything that happens on the page between two requests.
* `OrderBody.orderIn?` is the body as the service validates it.
-/

namespace TicketBooking

open Dictionary

/-! ## Picks -/

/-- `MAX_TICKETS` -/
def maxTickets : ℕ := 6

/-- `PAYMENT_METHOD` -/
def defaultPaymentMethod : String := "promptpay"

/-- A value of `state.selected`, with the name of its zone. -/
structure Pick where
  zone : String
  seat : String
  price : ℚ
deriving DecidableEq

def seatKey (zone seat : String) : String := zone ++ "|" ++ seat

/-- `state.selected` -/
structure Selection where
  entries : List (String × Pick)
  keyed : ∀ e ∈ entries, e.1 = seatKey e.2.zone e.2.seat
  distinct : (entries.map Prod.fst).Nodup
  few : entries.length ≤ maxTickets
deriving DecidableEq

/-- `new Map()` -/
def Selection.empty : Selection := ⟨[], by simp, by simp, by simp⟩

/-- `selected.set(seatKey(zone, seat), ...)` while there is room. -/
def Selection.set (selected : Selection) (pick : Pick)
    (room : selected.entries.length < maxTickets) : Selection where
  entries := assign selected.entries (seatKey pick.zone pick.seat, pick)
  keyed e mem := by
    rcases mem_assign mem with rfl | old
    · rfl
    · exact selected.keyed e old
  distinct := nodup_assign selected.distinct _
  few := (length_assign_le _ _).trans room

/-- `selected.delete(key)` -/
def Selection.delete (selected : Selection) (key : String) : Selection where
  entries := selected.entries.filter fun e => e.1 ≠ key
  keyed e mem := selected.keyed e (List.mem_of_mem_filter mem)
  distinct := selected.distinct.sublist (List.filter_sublist.map _)
  few := (List.length_filter_le _ _).trans selected.few

/-- The seats as they are saved and sent: zone and seat. -/
def Selection.picks (selected : Selection) : List (String × String) :=
  selected.entries.map fun e => (e.2.zone, e.2.seat)

theorem Selection.length_picks (selected : Selection) : selected.picks.length ≤ maxTickets := by
  rw [picks, List.length_map]
  exact selected.few

/-- No seat is picked twice. -/
theorem Selection.nodup_picks (selected : Selection) : selected.picks.Nodup := by
  have keys : selected.entries.map Prod.fst = selected.picks.map fun p => seatKey p.1 p.2 := by
    rw [picks, List.map_map]
    exact List.map_congr_left selected.keyed
  have distinct := selected.distinct
  rw [keys] at distinct
  exact distinct.of_map

/-! ## The request -/

/-- The body of `POST /orders`, less the price, which the server never reads. -/
structure OrderBody where
  userId : ℕ
  eventId : String
  picks : List (String × String)
deriving DecidableEq

/-- An item as `TicketItemCreate` validates it. -/
def itemOf (eventId : String) (pick : String × String) : Option TicketItemCreate :=
  if short : (1 ≤ pick.1.length ∧ pick.1.length ≤ 50) ∧ pick.2.length ≤ 50 then
    some ⟨eventId, pick.1, some pick.2, short.1, short.2⟩
  else none

/-- The body as `OrderCreate` validates it; otherwise the answer is 400. -/
def OrderBody.orderIn? (body : OrderBody) : Option OrderCreate :=
  (body.picks.mapM (itemOf body.eventId)).bind fun items =>
    if valid : 0 < body.userId ∧ items ≠ [] then
      some ⟨body.userId, defaultPaymentMethod, items, valid.1, valid.2⟩
    else none

/-! ## The page -/

/-- An entry of `state.zones`. -/
structure PageZone extends Zone where
  left : ℤ
deriving DecidableEq

/-- `state`, the button, and what the browser keeps for the tab. -/
structure SeatsPage where
  /-- `state.event.id` -/
  eventId : String
  /-- `params.get("zone")` -/
  wantedZone : Option String
  zones : List PageZone
  zone : Option PageZone
  rowPage : ℕ
  selected : Selection
  taken : List String
  idemKey : Option String
  /-- `#checkout-btn` is enabled. -/
  payable : Bool
  /-- sessionStorage, `STORE_KEY`: the picks. -/
  savedPicks : List (String × String)
  /-- sessionStorage, the seats that were refused. -/
  savedTaken : List String
  /-- `currentUserId()` -/
  userId : Option ℕ
  /-- The order the page has gone to the checkout with. -/
  order : Option ℕ
deriving DecidableEq

/-- A page that has just been opened in a tab. -/
def SeatsPage.opened (eventId : String) (wantedZone : Option String)
    (savedPicks : List (String × String)) (savedTaken : List String) (userId : Option ℕ) :
    SeatsPage where
  eventId := eventId
  wantedZone := wantedZone
  zones := []
  zone := none
  rowPage := 0
  selected := .empty
  taken := savedTaken.dedup
  idemKey := none
  payable := false
  savedPicks := savedPicks
  savedTaken := savedTaken
  userId := userId.filter (0 < ·)
  order := none

section Page

variable (sold : String → ℤ → ℤ → Bool)

/-- `sold` compares the hash of the seat with the share of the zone that is booked, as floating
point numbers. -/
def SeatsPage.isTaken (page : SeatsPage) (zone : Zone) (seat : String) : Bool :=
  seatKey zone.name seat ∈ page.taken ||
    sold (page.eventId ++ "|" ++ zone.name ++ "|" ++ seat) zone.bookedCount zone.capacity

/-- What the page asks for when the button is pressed. -/
def SeatsPage.asks (page : SeatsPage) : Option OrderBody :=
  page.userId.bind fun userId =>
    if page.selected.entries = [] then none
    else some ⟨userId, page.eventId, page.selected.picks⟩

/-- `renderSummary` -/
def SeatsPage.renderSummary (page : SeatsPage) : SeatsPage :=
  { page with payable := page.selected.entries ≠ [] }

def SeatsPage.selectionChanged (page : SeatsPage) : SeatsPage :=
  { page with idemKey := none, savedPicks := page.selected.picks }.renderSummary

/-- One round of the loop that restores the picks of the tab. -/
def SeatsPage.restore (page : SeatsPage) (selected : Selection) (saved : String × String) :
    Selection :=
  match page.zones.find? fun z => z.name = saved.1 with
  | none => selected
  | some z =>
    if room : page.isTaken sold z.toZone saved.2 = false ∧ selected.entries.length < maxTickets then
      selected.set ⟨z.name, saved.2, z.price⟩ room.2
    else selected

def SeatsPage.selectZone (page : SeatsPage) (zone : PageZone) : SeatsPage :=
  { page with zone := some zone, rowPage := 0 }

/-- `init`, when the event has been loaded with these zones. -/
def SeatsPage.init (page : SeatsPage) (onSale : Bool) (zones : List Zone) : SeatsPage :=
  let sorted := zones.insertionSort fun a b => b.price ≤ a.price
  let page := { page with zones := sorted.map fun z =>
    ⟨z, if onSale then max 0 (z.capacity - z.bookedCount) else 0⟩ }
  let page := { page with selected := page.savedPicks.foldl (page.restore sold) .empty }
  let wanted := (page.zones.find? fun z => some z.name = page.wantedZone ∧ 0 < z.left).or
    (page.zones.find? fun z => 0 < z.left)
  match wanted with
  | some z => (page.selectZone z).renderSummary
  | none => page.renderSummary

def SeatsPage.toggleSeat (page : SeatsPage) (zone : PageZone) (seat : String) : SeatsPage :=
  if seatKey zone.name seat ∈ page.selected.entries.map Prod.fst then
    { page with selected := page.selected.delete (seatKey zone.name seat) }.selectionChanged
  else if room : page.selected.entries.length < maxTickets then
    { page with selected :=
      page.selected.set ⟨zone.name, seat, zone.price⟩ room }.selectionChanged
  else page

/-- The grid shows the seat, and its button is enabled. -/
def SeatsPage.offers (page : SeatsPage) (zone : PageZone) (seat : String) : Bool :=
  ((renderGrid zone.capacity.toNat page.rowPage).any fun row => row.seats.contains seat) &&
    !page.isTaken sold zone.toZone seat

inductive PageEvent
  /-- The event arrives, at the start or after a reload of the counts. -/
  | init (onSale : Bool) (zones : List Zone)
  | selectZone (zone : PageZone)
  | rowsPrev
  | rowsNext
  | toggleSeat (seat : String)
  | clearAll
  | removeSeat (key : String)
  /-- Somebody logs in or out, in this tab or in another one. -/
  | session (userId : Option ℕ)
deriving DecidableEq

/-- What happens on the page; `none` when the control is not there. -/
def SeatsPage.apply (page : SeatsPage) : PageEvent → Option SeatsPage
  | .init onSale zones => some (page.init sold onSale zones)
  | .selectZone zone =>
    if zone ∈ page.zones ∧ 0 < zone.left then some (page.selectZone zone) else none
  | .rowsPrev => if page.rowPage = 0 then none else some { page with rowPage := page.rowPage - 1 }
  | .rowsNext => page.zone.bind fun zone =>
    if page.rowPage + 1 < rowPages zone.capacity.toNat then
      some { page with rowPage := page.rowPage + 1 }
    else none
  | .toggleSeat seat => page.zone.bind fun zone =>
    if page.offers sold zone seat then some (page.toggleSeat zone seat) else none
  | .clearAll => if page.selected.entries = [] then none else
    some { page with selected := .empty }.selectionChanged
  | .removeSeat key => if key ∈ page.selected.entries.map Prod.fst then
      some { page with selected := page.selected.delete key }.selectionChanged
    else none
  | .session userId => some { page with userId := userId.filter (0 < ·) }

end Page

/-- What comes to the page from elsewhere. -/
def PageEvent.external : PageEvent → Bool
  | .init .. | .session .. => true
  | _ => false

/-! ## The checkout -/

/-- `checkout` up to the request; `newKey` is `newIdempotencyKey()`. -/
def SeatsPage.checkout (page : SeatsPage) (newKey : String) : SeatsPage :=
  { page with idemKey := some (page.idemKey.getD newKey), payable := false }

/-- `finally` -/
def SeatsPage.settle (page : SeatsPage) : SeatsPage :=
  { page with payable := page.selected.entries ≠ [] }

/-- `res.ok` -/
def SeatsPage.accepted (page : SeatsPage) (orderId : ℕ) : SeatsPage :=
  { page with savedPicks := [], order := some orderId }.settle

/-- The text of `detail`, less the two amounts of a mismatch. -/
def Detail.text : Detail → String
  | .idempotencyMismatch =>
    "Idempotency key reused with different request payload (user or item count mismatch)."
  | .idempotencyItems => "Idempotency key reused with different ticket items or zones."
  | .invalidEventId raw => "Invalid event ID: " ++ raw
  | .eventNotFound raw => "Event with ID '" ++ raw ++ "' not found"
  | .zoneMissing seatZone title =>
    "Zone '" ++ seatZone ++ "' does not exist in event '" ++ title ++ "'"
  | .soldOut zoneName title => "Zone '" ++ zoneName ++ "' for event '" ++ title ++ "' is sold out"
  | .userMissing userId => "User with ID " ++ toString userId ++ " does not exist"
  | .doubleBooking => "Double-booking prevented: One or more selected seats have already been " ++
    "reserved for this event."
  | .dataIntegrity =>
    "Order could not be created because of a data integrity error. Nothing was saved."
  | .transactionFailed => "Dual-database transaction failed. Nothing was saved and the reserved " ++
    "seats were released."
  | .conflict =>
    "The request collided with a concurrent update. Nothing was changed, please retry."
  | .unavailable =>
    "The database is busy right now. Nothing was changed, please retry shortly."
  | .orderNotFound orderId => "Order with ID " ++ toString orderId ++ " not found"
  | .alreadyPaid orderNumber => "Order " ++ orderNumber ++ " is already paid and confirmed"
  | .orderExpired orderNumber => "Order " ++ orderNumber ++ " has expired and its seats were " ++
    "released. Please place a new order."
  | .orderCancelled orderNumber =>
    "Order " ++ orderNumber ++ " is cancelled and cannot receive payments"
  | .holdExpired => "Seat hold has expired (10-minute limit exceeded). The seats have been " ++
    "released back to the event catalog."
  | .amountMismatch _ _ => "Payment amount does not match order total"
  | .internalServerError => "Internal Server Error"

/-- `/text/i.test(detail)`, for a text in small letters. -/
def Detail.mentions (text : String) (detail : Detail) : Bool :=
  contains text (String.ofList (detail.text.toList.map Char.toLower))

/-- `handleOrderError`, less the messages; a sold out zone also reloads the counts (`init`). -/
def SeatsPage.refused (page : SeatsPage) (answer : HttpException) : SeatsPage :=
  if answer.statusCode = 409 ∧ (answer.detail.mentions "double-booking" = true ∨
      answer.detail.mentions "already been reserved" = true) then
    let taken := page.taken ++ (page.selected.entries.map Prod.fst).filter (· ∉ page.taken)
    ({ page with taken := taken, savedTaken := taken, selected := .empty }.selectionChanged).settle
  else if answer.statusCode = 409 ∧ answer.detail.mentions "sold out" = true then page.settle
  else if answer.statusCode = 404 ∧ answer.detail.mentions "user" = true then
    { page with userId := none }.settle
  else page.settle

def SeatsPage.answered (page : SeatsPage) : CreateOutcome → SeatsPage
  | .created o _ | .replayed o _ => page.accepted o.id
  | .raised answer => page.refused answer

/-! ## One key, one selection -/

section OneKey

variable {sold : String → ℤ → ℤ → Bool} {page page' : SeatsPage} {event : PageEvent}

/-- What stays when the page changes without dropping its key. -/
structure SeatsPage.Follows (page page' : SeatsPage) : Prop where
  key : page'.idemKey = none ∨ page'.idemKey = page.idemKey
  order : page'.order = page.order

theorem SeatsPage.init_follows (page : SeatsPage) (onSale : Bool) (zones : List Zone) :
    page.Follows (page.init sold onSale zones) := by
  unfold init
  dsimp only
  split
  · exact ⟨.inr rfl, rfl⟩
  · exact ⟨.inr rfl, rfl⟩

theorem SeatsPage.toggleSeat_click (page : SeatsPage) (zone : PageZone) (seat : String) :
    page.Follows (page.toggleSeat zone seat) ∧ ((page.toggleSeat zone seat).idemKey = none ∨
      (page.toggleSeat zone seat).asks = page.asks) := by
  unfold toggleSeat
  split
  · exact ⟨⟨.inl rfl, rfl⟩, .inl rfl⟩
  · split
    · exact ⟨⟨.inl rfl, rfl⟩, .inl rfl⟩
    · exact ⟨⟨.inr rfl, rfl⟩, .inr rfl⟩

/-- **A click that keeps the key keeps what is asked under it.** -/
theorem SeatsPage.apply_click (applied : page.apply sold event = some page') :
    page.Follows page' ∧
      (event.external = false → page'.idemKey = none ∨ page'.asks = page.asks) := by
  unfold apply at applied
  split at applied
  case h_1 =>
    cases applied
    exact ⟨page.init_follows _ _, fun clicked => by cases clicked⟩
  case h_2 | h_3 =>
    split at applied
    · cases applied <;> exact ⟨⟨.inr rfl, rfl⟩, fun _ => .inr rfl⟩
    · cases applied <;> exact ⟨⟨.inr rfl, rfl⟩, fun _ => .inr rfl⟩
  case h_4 =>
    obtain ⟨zone, -, guarded⟩ := Option.bind_eq_some_iff.mp applied
    split at guarded
    · cases guarded
      exact ⟨⟨.inr rfl, rfl⟩, fun _ => .inr rfl⟩
    · cases guarded
  case h_5 seat =>
    obtain ⟨zone, -, guarded⟩ := Option.bind_eq_some_iff.mp applied
    split at guarded
    · cases guarded
      obtain ⟨follows, kept⟩ := page.toggleSeat_click zone seat
      exact ⟨follows, fun _ => kept⟩
    · cases guarded
  case h_6 | h_7 =>
    split at applied
    · cases applied <;> exact ⟨⟨.inl rfl, rfl⟩, fun _ => .inl rfl⟩
    · cases applied <;> exact ⟨⟨.inl rfl, rfl⟩, fun _ => .inl rfl⟩
  case h_8 =>
    cases applied
    exact ⟨⟨.inr rfl, rfl⟩, fun clicked => by cases clicked⟩

/-- An answer leaves the key and what is asked, or ends one of them. -/
theorem SeatsPage.refused_keeps (page : SeatsPage) (answer : HttpException) :
    page.Follows (page.refused answer) ∧ ((page.refused answer).idemKey = none ∨
      (page.refused answer).asks = page.asks ∨ (page.refused answer).asks = none) := by
  unfold refused
  split
  · exact ⟨⟨.inl rfl, rfl⟩, .inl rfl⟩
  · split
    · exact ⟨⟨.inr rfl, rfl⟩, .inr (.inl rfl)⟩
    · split
      · exact ⟨⟨.inr rfl, rfl⟩, .inr (.inr rfl)⟩
      · exact ⟨⟨.inr rfl, rfl⟩, .inr (.inl rfl)⟩

end OneKey

end TicketBooking
