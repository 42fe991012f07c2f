import TicketBooking.Lib.Fallible
import TicketBooking.Lib.ListUpdate
import TicketBooking.Schemas
import Mathlib.Data.Rat.Defs

/-!
# The MongoDB catalog

The `events` collection: one document per event, with its zones embedded.  A `Catalog` carries the
uniqueness of `_id`.

* `Catalog.incBooked` is `update_one` with the filters and the `$inc` of the booking code: the
  document is chosen by `_id`, the zone by name and by a condition on its counter, and the
  positional `$` updates the first zone that satisfies the array condition.
* `Catalog.zone?` reads the first zone of a name; `zone?_incBooked_*` say what an update does to it.
* `Catalog.listing` is everything but the counters.  No operation of the booking code changes it.
-/

namespace TicketBooking

open ListUpdate

/-- An embedded zone document. -/
structure Zone where
  name : String
  price : ℚ
  capacity : ℤ
  bookedCount : ℤ
deriving DecidableEq

/-- A document of `events`, less the fields no booking code reads. -/
structure EventDoc where
  id : ObjectId
  title : String
  zones : List Zone
deriving DecidableEq

@[ext] structure Catalog where
  docs : List EventDoc
  ids_nodup : (docs.map EventDoc.id).Nodup
deriving DecidableEq

/-- `model_dump()` of a zone. -/
def ZoneSchema.toZone (z : ZoneSchema) : Zone := ⟨z.name, z.price, z.capacity, z.bookedCount⟩

/-- The document `create_event` inserts under a fresh `_id`. -/
def createEvent (eventIn : EventCreate) (id : ObjectId) : EventDoc :=
  ⟨id, eventIn.title, eventIn.zones.map ZoneSchema.toZone⟩

/-! ## Reading -/

/-- `find_one({"_id": oid})` -/
def Catalog.find? (c : Catalog) (oid : ObjectId) : Option EventDoc :=
  c.docs.find? fun d => d.id = oid

/-- The first zone of this name. -/
def EventDoc.zone? (d : EventDoc) (name : String) : Option Zone :=
  d.zones.find? fun z => z.name = name

def Catalog.zone? (c : Catalog) (oid : ObjectId) (name : String) : Option Zone :=
  (c.find? oid).bind fun d => d.zone? name

theorem Catalog.find?_id {c : Catalog} {oid : ObjectId} {d : EventDoc}
    (found : c.find? oid = some d) : d.id = oid := by
  simpa using List.find?_some found

theorem Catalog.mem_of_find? {c : Catalog} {oid : ObjectId} {d : EventDoc}
    (found : c.find? oid = some d) : d ∈ c.docs := List.mem_of_find?_eq_some found

theorem Catalog.find?_of_mem {c : Catalog} {d : EventDoc} (mem : d ∈ c.docs) :
    c.find? d.id = some d := find?_key_of_mem c.ids_nodup mem

theorem EventDoc.zone?_name {d : EventDoc} {name : String} {z : Zone}
    (found : d.zone? name = some z) : z.name = name := by
  simpa using List.find?_some found

theorem Catalog.zone?_name {c : Catalog} {oid : ObjectId} {name : String} {z : Zone}
    (found : c.zone? oid name = some z) : z.name = name := by
  obtain ⟨d, -, inDoc⟩ := Option.bind_eq_some_iff.mp found
  exact d.zone?_name inDoc

/-! ## Updating -/

/-- The array condition: a zone of this name whose counter satisfies `guard`. -/
def Zone.matches (name : String) (guard : ℤ → Bool) (z : Zone) : Bool :=
  z.name = name && guard z.bookedCount

/-- `{"$inc": {"zones.$.booked_count": delta}}` on the zone the filter matched. -/
def Zone.inc (delta : ℤ) (z : Zone) : Zone := { z with bookedCount := z.bookedCount + delta }

@[simp] theorem Zone.inc_name (delta : ℤ) (z : Zone) : (z.inc delta).name = z.name := rfl
@[simp] theorem Zone.inc_price (delta : ℤ) (z : Zone) : (z.inc delta).price = z.price := rfl
@[simp] theorem Zone.inc_capacity (delta : ℤ) (z : Zone) :
    (z.inc delta).capacity = z.capacity := rfl
@[simp] theorem Zone.inc_bookedCount (delta : ℤ) (z : Zone) :
    (z.inc delta).bookedCount = z.bookedCount + delta := rfl

def EventDoc.incBooked (d : EventDoc) (name : String) (guard : ℤ → Bool) (delta : ℤ) : EventDoc :=
  { d with zones := updateFirst (Zone.matches name guard) (Zone.inc delta) d.zones }

@[simp] theorem EventDoc.incBooked_id (d : EventDoc) (name : String) (guard : ℤ → Bool)
    (delta : ℤ) : (d.incBooked name guard delta).id = d.id := rfl

/-- The collection after the update. -/
def Catalog.incBooked (c : Catalog) (oid : ObjectId) (name : String) (guard : ℤ → Bool)
    (delta : ℤ) : Catalog where
  docs := c.docs.map fun d => if d.id = oid then d.incBooked name guard delta else d
  ids_nodup := by
    have ids : (c.docs.map fun d => if d.id = oid then d.incBooked name guard delta else d).map
        EventDoc.id = c.docs.map EventDoc.id := by
      rw [List.map_map]
      refine List.map_congr_left fun d _ => ?_
      simp only [Function.comp_apply]
      split <;> rfl
    rw [ids]
    exact c.ids_nodup

/-- `modified_count` of the update: a document matched and the increment changes it. -/
def Catalog.modifiedCount (c : Catalog) (oid : ObjectId) (name : String) (guard : ℤ → Bool)
    (delta : ℤ) : ℕ :=
  if c.docs.any (fun d => d.id = oid && d.zones.any (Zone.matches name guard)) && delta ≠ 0
  then 1 else 0

theorem Catalog.find?_incBooked (c : Catalog) (oid oid' : ObjectId) (name : String)
    (guard : ℤ → Bool) (delta : ℤ) :
    (c.incBooked oid name guard delta).find? oid' =
      (c.find? oid').map fun d => if d.id = oid then d.incBooked name guard delta else d := by
  have sameId : ((fun d : EventDoc => decide (d.id = oid')) ∘
      fun d => if d.id = oid then d.incBooked name guard delta else d) =
        fun d => decide (d.id = oid') := by
    funext d
    simp only [Function.comp_apply]
    split <;> rfl
  rw [find?, incBooked, List.find?_map, sameId, find?]

/-- An update of another zone is not seen. -/
theorem Catalog.zone?_incBooked_other (c : Catalog) {oid oid' : ObjectId} {name name' : String}
    (guard : ℤ → Bool) (delta : ℤ) (other : (oid', name') ≠ (oid, name)) :
    (c.incBooked oid name guard delta).zone? oid' name' = c.zone? oid' name' := by
  rw [zone?, find?_incBooked, zone?]
  cases found : c.find? oid' with
  | none => rfl
  | some d =>
    simp only [Option.map_some, Option.bind_some]
    split
    · rename_i sameDoc
      have differentName : name' ≠ name := by
        rintro rfl
        exact other (by rw [← sameDoc, c.find?_id found])
      refine find?_updateFirst_miss d.zones (fun z matched => ?_) fun z => rfl
      simp only [Zone.matches, Bool.and_eq_true, decide_eq_true_eq] at matched
      simpa [matched.1] using differentName.symm
    · rfl

/-- The first zone of the name is updated when its counter satisfies the condition. -/
theorem Catalog.zone?_incBooked_hit {c : Catalog} {oid : ObjectId} {name : String} {z : Zone}
    {guard : ℤ → Bool} (delta : ℤ) (found : c.zone? oid name = some z)
    (passes : guard z.bookedCount = true) :
    (c.incBooked oid name guard delta).zone? oid name = some (z.inc delta) := by
  obtain ⟨d, inCatalog, inDoc⟩ := Option.bind_eq_some_iff.mp found
  rw [zone?, find?_incBooked, inCatalog]
  simp only [Option.map_some, Option.bind_some, c.find?_id inCatalog, ↓reduceIte]
  refine find?_updateFirst_hit inDoc ?_ (fun b matched => ?_) fun b => rfl
  · simp [Zone.matches, d.zone?_name inDoc, passes]
  · simp only [Zone.matches, Bool.and_eq_true] at matched
    exact matched.1

/-- One event has the id, so the filter matches when a zone of that event does. -/
theorem Catalog.anyDoc_of_find? {c : Catalog} {oid : ObjectId} {d : EventDoc} (name : String)
    (guard : ℤ → Bool) (found : c.find? oid = some d) :
    c.docs.any (fun d => d.id = oid && d.zones.any (Zone.matches name guard)) =
      d.zones.any (Zone.matches name guard) := by
  rw [Bool.eq_iff_iff, List.any_eq_true]
  constructor
  · rintro ⟨d', mem, both⟩
    simp only [Bool.and_eq_true, decide_eq_true_eq] at both
    have same : d' = d := eq_of_key_eq c.ids_nodup mem (c.mem_of_find? found)
      (both.1.trans (c.find?_id found).symm)
    exact same ▸ both.2
  · intro matched
    exact ⟨d, c.mem_of_find? found, by simp [c.find?_id found, matched]⟩

/-- The update changes something exactly when the event has a zone that satisfies the condition. -/
theorem Catalog.modifiedCount_of_find? {c : Catalog} {oid : ObjectId} {d : EventDoc} (name : String)
    (guard : ℤ → Bool) {delta : ℤ} (changes : delta ≠ 0) (found : c.find? oid = some d) :
    c.modifiedCount oid name guard delta = (d.zones.any (Zone.matches name guard)).toNat := by
  rw [modifiedCount, anyDoc_of_find? name guard found]
  cases d.zones.any (Zone.matches name guard) <;> simp [changes]

theorem Catalog.modifiedCount_hit {c : Catalog} {oid : ObjectId} {name : String} {z : Zone}
    {guard : ℤ → Bool} {delta : ℤ} (found : c.zone? oid name = some z)
    (passes : guard z.bookedCount = true) (changes : delta ≠ 0) :
    c.modifiedCount oid name guard delta = 1 := by
  obtain ⟨d, inCatalog, inDoc⟩ := Option.bind_eq_some_iff.mp found
  have matched : d.zones.any (Zone.matches name guard) = true :=
    List.any_eq_true.mpr ⟨z, List.mem_of_find?_eq_some inDoc, by
      simp [Zone.matches, d.zone?_name inDoc, passes]⟩
  rw [modifiedCount_of_find? name guard changes inCatalog, matched]
  rfl

/-- An update that changes nothing. -/
theorem Catalog.incBooked_of_not_any {c : Catalog} {oid : ObjectId} {name : String}
    {guard : ℤ → Bool} (delta : ℤ)
    (quiet : ∀ d, c.find? oid = some d → d.zones.any (Zone.matches name guard) = false) :
    c.incBooked oid name guard delta = c := by
  ext1
  conv_rhs => rw [← List.map_id c.docs]
  refine List.map_congr_left fun d mem => ?_
  split
  · rename_i sameId
    have none := List.any_eq_false.mp (quiet d (sameId ▸ c.find?_of_mem mem))
    rw [EventDoc.incBooked, updateFirst_of_forall_not fun z inDoc => by simpa using none z inDoc]
    rfl
  · rfl

theorem Catalog.incBooked_unmodified {c : Catalog} {oid : ObjectId} {name : String}
    {guard : ℤ → Bool} {delta : ℤ} (changes : delta ≠ 0)
    (unmodified : c.modifiedCount oid name guard delta = 0) :
    c.incBooked oid name guard delta = c := by
  refine incBooked_of_not_any delta fun d found => ?_
  rw [modifiedCount_of_find? name guard changes found] at unmodified
  exact Bool.toNat_eq_zero.mp unmodified

/-! ### Documents with distinct zone names -/

/-- The zone names of the event are pairwise distinct. -/
def Catalog.DistinctZones (c : Catalog) (oid : ObjectId) : Prop :=
  ∀ d ∈ c.docs, d.id = oid → (d.zones.map Zone.name).Nodup

/-- With distinct zone names nothing else matches when the named zone fails the condition. -/
theorem EventDoc.matches_refused {d : EventDoc} {name : String} {z : Zone} {guard : ℤ → Bool}
    (distinct : (d.zones.map Zone.name).Nodup) (found : d.zone? name = some z)
    (refused : guard z.bookedCount = false) : ∀ b ∈ d.zones, Zone.matches name guard b = false := by
  intro b mem
  by_cases named : b.name = name
  · have same : b = z := eq_of_key_eq distinct mem (List.mem_of_find?_eq_some found)
      (named.trans (d.zone?_name found).symm)
    simp [Zone.matches, same, refused]
  · simp [Zone.matches, named]

theorem Catalog.incBooked_refused {c : Catalog} {oid : ObjectId} {name : String} {z : Zone}
    {guard : ℤ → Bool} (delta : ℤ) (distinct : c.DistinctZones oid)
    (found : c.zone? oid name = some z) (refused : guard z.bookedCount = false) :
    c.incBooked oid name guard delta = c ∧ c.modifiedCount oid name guard delta = 0 := by
  obtain ⟨d, inCatalog, inDoc⟩ := Option.bind_eq_some_iff.mp found
  have names := distinct d (c.mem_of_find? inCatalog) (c.find?_id inCatalog)
  have quiet : d.zones.any (Zone.matches name guard) = false := by
    rw [List.any_eq_false]
    intro b mem
    rw [d.matches_refused names inDoc refused b mem]
    exact Bool.false_ne_true
  constructor
  · refine incBooked_of_not_any delta fun d' found' => ?_
    cases inCatalog.symm.trans found'
    exact quiet
  · rw [modifiedCount, anyDoc_of_find? name guard inCatalog, quiet]
    rfl

/-- What an update does to the first zone of its name, the zone names being distinct. -/
theorem Catalog.zone?_incBooked_self {c : Catalog} {oid : ObjectId} {name : String} {z : Zone}
    (guard : ℤ → Bool) (delta : ℤ) (distinct : c.DistinctZones oid)
    (found : c.zone? oid name = some z) :
    (c.incBooked oid name guard delta).zone? oid name =
      some (if guard z.bookedCount then z.inc delta else z) := by
  cases passes : guard z.bookedCount with
  | true => exact zone?_incBooked_hit delta found passes
  | false => rw [(incBooked_refused delta distinct found passes).1]; exact found

theorem Catalog.modifiedCount_eq {c : Catalog} {oid : ObjectId} {name : String} {z : Zone}
    (guard : ℤ → Bool) {delta : ℤ} (changes : delta ≠ 0) (distinct : c.DistinctZones oid)
    (found : c.zone? oid name = some z) :
    c.modifiedCount oid name guard delta = if guard z.bookedCount then 1 else 0 := by
  cases passes : guard z.bookedCount with
  | true => exact modifiedCount_hit found passes changes
  | false => exact (incBooked_refused delta distinct found passes).2

/-! ## What no update changes -/

def Zone.listing (z : Zone) : String × ℚ × ℤ := (z.name, z.price, z.capacity)

def EventDoc.listing (d : EventDoc) : ObjectId × String × List (String × ℚ × ℤ) :=
  (d.id, d.title, d.zones.map Zone.listing)

/-- The catalog without its counters. -/
def Catalog.listing (c : Catalog) : List (ObjectId × String × List (String × ℚ × ℤ)) :=
  c.docs.map EventDoc.listing

@[simp] theorem Catalog.listing_incBooked (c : Catalog) (oid : ObjectId) (name : String)
    (guard : ℤ → Bool) (delta : ℤ) : (c.incBooked oid name guard delta).listing = c.listing := by
  rw [listing, incBooked, List.map_map, listing]
  refine List.map_congr_left fun d _ => ?_
  simp only [Function.comp_apply]
  split
  · simp only [EventDoc.listing, EventDoc.incBooked, map_updateFirst (g := Zone.listing)
      (f := Zone.inc delta) fun z => rfl]
  · rfl

/-- Documents with one listing have one and the same zone under a look-up by name. -/
theorem EventDoc.find?_zone_listing {d d' : EventDoc} (sameDoc : d.listing = d'.listing)
    (p : String → Bool) : (d.zones.find? fun z => p z.name).map Zone.listing =
      (d'.zones.find? fun z => p z.name).map Zone.listing := by
  have viaListing : ∀ d : EventDoc, (d.zones.find? fun z => p z.name).map Zone.listing =
      (d.zones.map Zone.listing).find? fun l => p l.1 := by
    intro d
    rw [List.find?_map]
    rfl
  have zones : d.zones.map Zone.listing = d'.zones.map Zone.listing := by
    simp only [listing, Prod.mk.injEq] at sameDoc
    exact sameDoc.2.2
  rw [viaListing d, viaListing d', zones]

section Listing

variable {c c' : Catalog} (same : c.listing = c'.listing)

include same

theorem Catalog.find?_listing (oid : ObjectId) :
    (c.find? oid).map EventDoc.listing = (c'.find? oid).map EventDoc.listing := by
  have viaListing : ∀ c : Catalog, (c.find? oid).map EventDoc.listing =
      c.listing.find? fun l => l.1 = oid := by
    intro c
    rw [listing, List.find?_map, find?]
    rfl
  rw [viaListing c, viaListing c', same]

theorem Catalog.zone?_listing (oid : ObjectId) (name : String) :
    (c.zone? oid name).map Zone.listing = (c'.zone? oid name).map Zone.listing := by
  rw [zone?, zone?]
  rcases Fallible.map_eq_map_cases (Catalog.find?_listing same oid) with
    ⟨absent, absent'⟩ | ⟨d, d', found, found', sameDoc⟩
  · rw [absent, absent']
  · rw [found, found']
    exact EventDoc.find?_zone_listing sameDoc fun n => n = name

theorem Catalog.zone?_of_listing {oid : ObjectId} {name : String} {z : Zone}
    (found : c.zone? oid name = some z) :
    ∃ z', c'.zone? oid name = some z' ∧ z'.name = z.name ∧ z'.price = z.price ∧
      z'.capacity = z.capacity := by
  have listings := Catalog.zone?_listing same oid name
  rw [found, Option.map_some] at listings
  obtain ⟨z', found', sameZone⟩ := Option.map_eq_some_iff.mp listings.symm
  simp only [Zone.listing, Prod.mk.injEq] at sameZone
  exact ⟨z', found', sameZone⟩

theorem Catalog.DistinctZones.of_listing {oid : ObjectId} (distinct : c.DistinctZones oid) :
    c'.DistinctZones oid := by
  intro d' mem sameId
  have listed : d'.listing ∈ c.listing := by
    rw [same]; exact List.mem_map_of_mem mem
  obtain ⟨d, memD, sameDoc⟩ := List.mem_map.mp listed
  simp only [EventDoc.listing, Prod.mk.injEq] at sameDoc
  have names := distinct d memD (sameDoc.1.trans sameId)
  have viaListing : ∀ d : EventDoc, d.zones.map Zone.name =
      (d.zones.map Zone.listing).map Prod.fst := by
    intro d
    rw [List.map_map]
    rfl
  rw [viaListing, ← sameDoc.2.2, ← viaListing]
  exact names

end Listing

end TicketBooking
