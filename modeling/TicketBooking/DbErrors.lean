import TicketBooking.Text
import Mathlib.Data.Rat.Defs

/-!
# Database exceptions and HTTP errors

`app/core/db_errors.py`: which database exception becomes which HTTP answer.  A `DbExc` keeps what
the handlers look at: the class, the SQLSTATE, the constraint name and whether the text of the
exception speaks of the idempotency key.  `Fault` is what goes wrong in one database call.
-/

namespace TicketBooking

/-! ## HTTP errors -/

/-- The `detail` of an `HTTPException`: one constructor per message, with the values it quotes. -/
inductive Detail
  /-- Idempotency key reused with different request payload (user or item count mismatch). -/
  | idempotencyMismatch
  /-- Idempotency key reused with different ticket items or zones. -/
  | idempotencyItems
  /-- Invalid event ID: {event_id} -/
  | invalidEventId (raw : String)
  /-- Event with ID '{event_id}' not found -/
  | eventNotFound (raw : String)
  /-- Zone '{seat_zone}' does not exist in event '{title}' -/
  | zoneMissing (seatZone title : String)
  /-- Zone '{zone_name}' for event '{title}' is sold out -/
  | soldOut (zoneName title : String)
  /-- User with ID {user_id} does not exist -/
  | userMissing (userId : Nat)
  /-- Double-booking prevented: One or more selected seats have already been reserved for this
  event. -/
  | doubleBooking
  /-- Order could not be created because of a data integrity error. Nothing was saved. -/
  | dataIntegrity
  /-- Dual-database transaction failed. Nothing was saved and the reserved seats were released. -/
  | transactionFailed
  /-- CONFLICT_MESSAGE: The request collided with a concurrent update. Nothing was changed, please
  retry. -/
  | conflict
  /-- UNAVAILABLE_MESSAGE: The database is busy right now. Nothing was changed, please retry
  shortly. -/
  | unavailable
  /-- Order with ID {order_id} not found -/
  | orderNotFound (orderId : Nat)
  /-- Order {order_number} is already paid and confirmed -/
  | alreadyPaid (orderNumber : String)
  /-- Order {order_number} has expired and its seats were released. Please place a new order. -/
  | orderExpired (orderNumber : String)
  /-- Order {order_number} is cancelled and cannot receive payments -/
  | orderCancelled (orderNumber : String)
  /-- Seat hold has expired (10-minute limit exceeded). The seats have been released back to the
  event catalog. -/
  | holdExpired
  /-- Payment amount ({amount}) does not match order total ({total_amount}) -/
  | amountMismatch (amount totalAmount : ℚ)
  /-- Internal Server Error (the framework's answer to an unhandled exception) -/
  | internalServerError
deriving DecidableEq

structure HttpException where
  statusCode : Nat
  detail : Detail
  retryAfter : Option Nat := none
deriving DecidableEq

/-! ## Exceptions of the drivers -/

inductive ExcKind
  | integrity | operational | data | poolTimeout | mongoConnection | other
deriving DecidableEq

structure DbExc where
  kind : ExcKind
  pgcode : Option String
  /-- `_violated_constraint(exc)`: the constraint name, or the whole text when there is none. -/
  constraint : String
  /-- `"idempotency_key" in str(exc).lower()` -/
  mentionsKey : Bool
deriving DecidableEq

def retryablePgcodes : List String := ["40P01", "40001", "55P03"]

def unavailablePgcodes : List String := ["57014", "53300", "57P03"]

def retryAfterSeconds : Nat := 2

def isRetryableConflict (exc : DbExc) : Bool := exc.pgcode.any (· ∈ retryablePgcodes)

def isServiceUnavailable (exc : DbExc) : Bool :=
  if exc.kind = .poolTimeout ∨ exc.kind = .mongoConnection then true
  -- PostgreSQL itself is unreachable: the driver raises OperationalError without a SQLSTATE
  else if exc.kind = .operational ∧ exc.pgcode = none then true
  else exc.pgcode.any (· ∈ unavailablePgcodes)

def conflictException : HttpException := ⟨409, .conflict, none⟩

def unavailableException : HttpException := ⟨503, .unavailable, some retryAfterSeconds⟩

/-- `classify_db_error`: `none` is a real bug. -/
def classifyDbError (exc : DbExc) : Option HttpException :=
  if isRetryableConflict exc then some conflictException
  else if isServiceUnavailable exc then some unavailableException
  else none

/-- What the client gets when a service lets the exception through (`app/main.py`). -/
def escapedAnswer (exc : DbExc) : HttpException :=
  (classifyDbError exc).getD ⟨500, .internalServerError, none⟩

/-- Every database exception that reaches the handlers is answered 409, 503 or 500. -/
theorem escapedAnswer_statusCode (exc : DbExc) :
    (escapedAnswer exc).statusCode ∈ [409, 503, 500] := by
  unfold escapedAnswer classifyDbError
  split
  · simp [conflictException]
  · split
    · simp [unavailableException]
    · simp

/-! ## Faults -/

/-- What the environment does to the database call of one step. -/
inductive Fault
  | none
  /-- The MongoDB driver raises, whether or not the server applied the update. -/
  | mongoRaised (exc : DbExc) (applied : Bool)
  /-- The PostgreSQL transaction raises; `committed` says that the server applied the COMMIT and
  only its reply was lost.  Otherwise the transaction is aborted and saves nothing. -/
  | pgRaised (exc : DbExc) (committed : Bool)
deriving DecidableEq

/-- The MongoDB call of the step succeeds. -/
def Fault.MongoUp : Fault → Prop
  | .mongoRaised _ _ => False
  | _ => True

/-- The PostgreSQL call of the step succeeds. -/
def Fault.PgUp : Fault → Prop
  | .pgRaised _ _ => False
  | _ => True

/-- The client learns the fate of its COMMIT. -/
def Fault.ReplyReceived : Fault → Prop
  | .pgRaised _ committed => committed = false
  | _ => True

instance : (fault : Fault) → Decidable fault.MongoUp
  | .mongoRaised _ _ => inferInstanceAs (Decidable False)
  | .none | .pgRaised _ _ => inferInstanceAs (Decidable True)

instance : (fault : Fault) → Decidable fault.PgUp
  | .pgRaised _ _ => inferInstanceAs (Decidable False)
  | .none | .mongoRaised _ _ => inferInstanceAs (Decidable True)

instance : (fault : Fault) → Decidable fault.ReplyReceived
  | .pgRaised _ committed => inferInstanceAs (Decidable (committed = false))
  | .none | .mongoRaised _ _ => inferInstanceAs (Decidable True)

end TicketBooking
