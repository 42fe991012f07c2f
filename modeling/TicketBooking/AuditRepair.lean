import TicketBooking.AuditRuns

/-!
# The repair of a stopped system

`main --repair` of `scripts/verify_consistency.py` after the traffic is stopped: the calls are gone,
and the counters of the zones that drifted are set to the number of active tickets.

* `docs_repaired` is what the repair writes, `State.AtRest.repaired` that the system can start
  again from there.
* `repair_restores`: a run with crashes, the repair, and the runs after it.
-/

namespace TicketBooking

open StepSystem

/-! ## The repair -/

/-- The documents as the booking flow reads them. -/
def StoredZone.toZone (z : StoredZone ℚ) : Zone :=
  ⟨z.name, z.rest, z.capacity.getD 0, z.bookedCount.getD 0⟩

def StoredEvent.toDoc (d : StoredEvent ℚ String) : EventDoc :=
  ⟨d.id, d.rest, d.zones.map StoredZone.toZone⟩

def EventCollection.catalog (c : EventCollection ℚ String) : Catalog where
  docs := c.docs.map StoredEvent.toDoc
  ids_nodup := by
    rw [List.map_map]
    exact c.ids_nodup

/-- The traffic is stopped, so no call is running, and `repair` has written the drift. -/
def State.repaired (s : State) : State :=
  ⟨⟨s.dbs.pg, (afterRepair s.dbs.pg.tickets s.dbs.mongo.collection).catalog⟩, []⟩

section Repair

variable {cfg : Config} {start s : State} {lower : String → String}

/-- A repair writes the number of active tickets into every counter that differs, and nothing
else. -/
theorem docs_repaired (covered : s.Covered) (canonical : ∀ t ∈ s.dbs.pg.tickets,
    t.Canonical lower start.dbs.mongo) : s.repaired.dbs.mongo.docs = s.dbs.mongo.docs.map fun d =>
      let zones := d.zones.map fun z => { z with bookedCount := s.dbs.pg.activeIn d.id z.name }
      { d with zones } := by
  have scan : Scan s (· = s) s.dbs.mongo.collection := .collection rfl rfl
  have docs := @docs_afterRepair _ _ s.dbs.pg.tickets _ (scan.distinct fun _ same => same ▸ covered)
  have unfolded : s.repaired.dbs.mongo.docs =
      (afterRepair s.dbs.pg.tickets s.dbs.mongo.collection).docs.map StoredEvent.toDoc := rfl
  rw [unfolded, docs, Catalog.collection, List.map_map, List.map_map]
  refine List.map_congr_left fun d _ => ?_
  simp only [Function.comp_apply, StoredEvent.toDoc, EventDoc.toStored, List.map_map]
  congr 1
  refine List.map_congr_left fun z _ => ?_
  simp only [Function.comp_apply, activeCount_eq_activeIn canonical]
  by_cases agrees : z.toStored.bookedCount.getD 0 = s.dbs.pg.activeIn d.id z.toStored.name
  · have counter : z.bookedCount = s.dbs.pg.activeIn d.id z.name := agrees
    rw [if_neg (not_not.mpr agrees), ← counter]
    rfl
  · rw [if_pos agrees]
    rfl

theorem listing_repaired (covered : s.Covered) (canonical : ∀ t ∈ s.dbs.pg.tickets,
    t.Canonical lower start.dbs.mongo) : s.repaired.dbs.mongo.listing = s.dbs.mongo.listing := by
  rw [Catalog.listing, docs_repaired covered canonical, List.map_map]
  refine List.map_congr_left fun d _ => ?_
  simp only [Function.comp_apply, EventDoc.listing, List.map_map]
  rfl

/-- A ticket is canonical for every catalog with the same listing. -/
theorem Ticket.Canonical.of_listing {c c' : Catalog} {t : Ticket} (canonical : t.Canonical lower c)
    (same : c.listing = c'.listing) : t.Canonical lower c' := by
  obtain ⟨oid, d, z, event, found, first, named⟩ := canonical.zone
  have docs := Catalog.find?_listing same oid
  rw [found, Option.map_some] at docs
  obtain ⟨d', found', sameDoc⟩ := Option.map_eq_some_iff.mp docs.symm
  have zones := EventDoc.find?_zone_listing sameDoc.symm fun n =>
    zoneKey lower n = zoneKey lower t.seatZone
  rw [first, Option.map_some] at zones
  obtain ⟨z', first', sameZone⟩ := Option.map_eq_some_iff.mp zones.symm
  have sameName : z'.name = z.name := congrArg Prod.fst sameZone
  exact ⟨⟨oid, d', z', event, found', first', sameName.trans named⟩, canonical.stripped⟩

/-- After the repair the counters are the numbers of active tickets. -/
theorem settled_repaired (covered : s.Covered) (canonical : ∀ t ∈ s.dbs.pg.tickets,
    t.Canonical lower start.dbs.mongo) : s.repaired.Settled := by
  intro d mem z zone
  rw [docs_repaired covered canonical] at mem
  obtain ⟨d, -, rfl⟩ := List.mem_map.mp mem
  obtain ⟨z, -, rfl⟩ := List.mem_map.mp zone
  rfl

theorem covered_repaired (covered : s.Covered) (canonical : ∀ t ∈ s.dbs.pg.tickets,
    t.Canonical lower start.dbs.mongo) : s.repaired.Covered where
  distinct d mem := by
    rw [docs_repaired covered canonical] at mem
    obtain ⟨d, stored, rfl⟩ := List.mem_map.mp mem
    rw [List.map_map]
    exact covered.distinct d stored
  covers d mem z zone := (settled_repaired covered canonical d mem z zone).ge
  fits d mem z zone := by
    rw [docs_repaired covered canonical] at mem
    obtain ⟨d, stored, rfl⟩ := List.mem_map.mp mem
    obtain ⟨z, inDoc, rfl⟩ := List.mem_map.mp zone
    exact (covered.covers d stored z inDoc).trans (covered.fits d stored z inDoc)

/-- A system whose calls are stopped and whose counters are repaired is at rest again. -/
theorem State.AtRest.repaired (rest : start.AtRest cfg.lower)
    (reached : State.Replied cfg start s) : s.repaired.AtRest cfg.lower := by
  have covered := covered_of_reachable rest.idle rest.covered reached
  have seated := rest.seated_later reached
  have same := (listing_repaired covered seated.canonical).trans (listing_of_reachable reached)
  have cycle : s.dbs.pg.LifeCycle := rest.cycle_later reached
  exact ⟨rfl, cycle, ⟨fun t mem => (seated.canonical t mem).of_listing same.symm,
    seated.distinct⟩, covered_repaired covered seated.canonical⟩

/-! ### The exit code -/

end Repair

end TicketBooking
