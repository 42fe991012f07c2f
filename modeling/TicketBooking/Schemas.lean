import TicketBooking.Text
import Mathlib.Data.Rat.Defs

/-!
# Request bodies

The pydantic models of `app/schemas` whose validated values reach the booking code.  A value of one
of these types carries the checks its model makes, so an unvalidated body cannot be built.  Prices
and amounts are the decimals their JSON numbers spell, kept as rationals.
-/

namespace TicketBooking

/-! ## Orders -/

/-- One ticket of an order request (`schemas/order.py`).  The optional client price is not here:
the server never reads it. -/
structure TicketItemCreate where
  eventId : String
  seatZone : String
  seatNumber : Option String
  seatZone_length : 1 ≤ seatZone.length ∧ seatZone.length ≤ 50 := by decide
  seatNumber_length : (seatNumber.getD "").length ≤ 50 := by decide
deriving DecidableEq

/-- Body of `POST /orders`. -/
structure OrderCreate where
  userId : ℕ
  paymentMethod : String
  items : List TicketItemCreate
  userId_pos : 0 < userId := by decide
  items_nonempty : items ≠ [] := by decide
deriving DecidableEq

/-! ## Payments -/

/-- The fields of a payment body before validation (`schemas/payment.py`). -/
structure PaymentBody where
  amount : ℚ
  provider : String
  providerTxId : Option String
deriving DecidableEq

/-- What `PaymentCreate` accepts: a positive amount, a known provider, a short reference. -/
def PaymentBody.Accepted (body : PaymentBody) : Prop :=
  0 < body.amount ∧
  body.provider ∈ ["promptpay", "credit_card", "stripe", "bank_transfer"] ∧
  (body.providerTxId.getD "").length ≤ 128

instance (body : PaymentBody) : Decidable body.Accepted := inferInstanceAs (Decidable (_ ∧ _ ∧ _))

/-- A validated payment body. -/
structure PaymentCreate extends PaymentBody where
  accepted : toPaymentBody.Accepted
deriving DecidableEq

/-! ## Events -/

/-- One zone of an event body (`schemas/event.py`). -/
structure ZoneSchema where
  name : String
  price : ℚ
  capacity : ℤ
  bookedCount : ℤ := 0
  name_length : 1 ≤ name.length ∧ name.length ≤ 50 := by decide
  price_nonneg : 0 ≤ price := by decide
  capacity_pos : 0 < capacity := by decide
  bookedCount_nonneg : 0 ≤ bookedCount := by decide
  bookedCount_within_capacity : bookedCount ≤ capacity := by decide
deriving DecidableEq

/-- Body of `POST /events`, less the descriptive fields no booking code reads. -/
structure EventCreate where
  title : String
  zones : List ZoneSchema
  title_length : 3 ≤ title.length ∧ title.length ≤ 200 := by decide
  zones_nonempty : zones ≠ [] := by decide
deriving DecidableEq

end TicketBooking
