import TicketBooking.PostgresChecks

/-!
# The audit of the running system

The attempts of `run_audit` and the exit code of `main` in `scripts/verify_consistency.py`.  MongoDB
returns each document as it is when the cursor reaches it, so an attempt reads the statements and
the documents at many moments (`AuditReads.At`).

* `State.Covered` is what the counters owe the tickets; the ledger of each zone keeps it, and
  `Scan.inventory` says which inventory checks it passes, read at any moments.
* `run_audit_in_flight` says what an audit of the running system reports.
-/

namespace TicketBooking

open CounterLedger Dictionary GroupCount ListUpdate StepSystem

/-! ## The audit -/

/-- What one attempt of `run_audit` reads. -/
structure AuditReads (ρ σ : Type) where
  checks : ℕ → Postgres
  active : Postgres
  events : EventCollection ρ σ

variable {ρ σ : Type}

def AuditReads.inventory (reads : AuditReads ρ σ) : List AuditResult × List Drift :=
  inventoryChecks reads.active.tickets reads.events

/-- The results and the drift of one attempt. -/
def AuditReads.attempt (reads : AuditReads ρ σ) : List AuditResult × List Drift :=
  (postgresChecks reads.checks ++ reads.inventory.1, reads.inventory.2)

/-- `r.name.startswith("drift_")` -/
def AuditResult.isDrift (r : AuditResult) : Bool := "drift_".toList.isPrefixOf r.name.toList

/-- The loop of `run_audit` with so many retries left. -/
def auditFrom (reads : ℕ → AuditReads ρ σ) : ℕ → ℕ → List AuditResult × List Drift
  | attempt, 0 => (reads attempt).attempt
  | attempt, retries + 1 =>
    if (reads attempt).attempt.1.any fun r => r.isDrift && !r.ok then
      auditFrom reads (attempt + 1) retries
    else (reads attempt).attempt

/-- `run_audit`; `reads k` is what its attempt number `k` reads. -/
def runAudit (reads : ℕ → AuditReads ρ σ) (retries : ℕ) : List AuditResult × List Drift :=
  auditFrom reads 0 retries

theorem auditFrom_eq (reads : ℕ → AuditReads ρ σ) (attempt retries : ℕ) :
    ∃ k, auditFrom reads attempt retries = (reads k).attempt := by
  induction retries generalizing attempt with
  | zero => exact ⟨attempt, rfl⟩
  | succ retries ih =>
    rw [auditFrom]
    split
    · exact ih (attempt + 1)
    · exact ⟨attempt, rfl⟩

/-- No check of the drift fails. -/
def NoDrift (results : List AuditResult) : Prop := ∀ r ∈ results, r.isDrift = true → r.ok = true

/-- An attempt without drift is the last one, unless an earlier one was. -/
theorem auditFrom_noDrift {reads : ℕ → AuditReads ρ σ} {attempt retries k : ℕ}
    (later : attempt ≤ k) (inTime : k ≤ attempt + retries) (clean : NoDrift (reads k).attempt.1) :
    NoDrift (auditFrom reads attempt retries).1 := by
  induction retries generalizing attempt with
  | zero =>
    obtain rfl : k = attempt := by omega
    exact clean
  | succ retries ih =>
    rw [auditFrom]
    split
    case isTrue drifting =>
      have other : k ≠ attempt := by
        rintro rfl
        obtain ⟨r, mem, both⟩ := List.any_eq_true.mp drifting
        simp only [Bool.and_eq_true, Bool.not_eq_true'] at both
        rw [clean r mem both.1] at both
        cases both.2
      exact ih (by omega) (by omega)
    case isFalse settled =>
      intro r mem drift
      by_contra failed
      refine settled (List.any_eq_true.mpr ⟨r, mem, ?_⟩)
      rw [drift, Bool.eq_false_iff.mpr failed]
      rfl

/-- In every event the zone names are pairwise distinct, which `EventCreate` does not check, and the
counters cover the active tickets and fit the capacities. -/
structure State.Covered (s : State) : Prop where
  distinct : ∀ d ∈ s.dbs.mongo.docs, (d.zones.map Zone.name).Nodup
  covers : ∀ d ∈ s.dbs.mongo.docs, ∀ z ∈ d.zones, s.dbs.pg.activeIn d.id z.name ≤ z.bookedCount
  fits : ∀ d ∈ s.dbs.mongo.docs, ∀ z ∈ d.zones, z.bookedCount ≤ z.capacity

/-- The counters are the numbers of active tickets. -/
def State.Settled (s : State) : Prop :=
  ∀ d ∈ s.dbs.mongo.docs, ∀ z ∈ d.zones, z.bookedCount = s.dbs.pg.activeIn d.id z.name

section Ledger

variable {cfg : Config} {start s : State} {oid : ObjectId} {name : String} {capacity : ℤ}

/-- The zone of a document, with its counter in the ledger. -/
theorem Catalog.HasZone.exists (zone : s.dbs.mongo.HasZone oid name capacity) :
    ∃ d ∈ s.dbs.mongo.docs, ∃ z ∈ d.zones, d.id = oid ∧ z.name = name ∧ z.capacity = capacity ∧
      (s.ledger oid name).booked = z.bookedCount := by
  obtain ⟨-, z, found, full⟩ := zone
  have named := Catalog.zone?_name found
  have counter : s.dbs.mongo.booked oid name = z.bookedCount := by rw [Catalog.booked, found]; rfl
  obtain ⟨d, inCatalog, inDoc⟩ := Option.bind_eq_some_iff.mp found
  exact ⟨d, Catalog.mem_of_find? inCatalog, z, List.mem_of_find?_eq_some inDoc,
    Catalog.find?_id inCatalog, named, full, counter⟩

/-- A zone of a later state was a zone of the start. -/
theorem hasZone_start {ok : State → Action → Prop} (reached : Reachable (step cfg) ok start s)
    (distinct : ∀ d ∈ s.dbs.mongo.docs, (d.zones.map Zone.name).Nodup) {d : EventDoc} {z : Zone}
    (mem : d ∈ s.dbs.mongo.docs) (zone : z ∈ d.zones) :
    s.dbs.mongo.HasZone d.id z.name z.capacity ∧ start.dbs.mongo.HasZone d.id z.name z.capacity ∧
      (s.ledger d.id z.name).booked = z.bookedCount := by
  obtain ⟨found, hasZone⟩ := hasZone_of_mem mem (distinct d mem) zone
  have counter : s.dbs.mongo.booked d.id z.name = z.bookedCount := by
    rw [Catalog.booked, found]
    rfl
  exact ⟨hasZone, hasZone.of_listing (listing_of_reachable reached), counter⟩

theorem distinct_of_reachable {ok : State → Action → Prop}
    (reached : Reachable (step cfg) ok start s)
    (distinct : ∀ d ∈ start.dbs.mongo.docs, (d.zones.map Zone.name).Nodup) :
    ∀ d ∈ s.dbs.mongo.docs, (d.zones.map Zone.name).Nodup := by
  intro d mem
  have whole : start.dbs.mongo.DistinctZones d.id := fun d' mem' _ => distinct d' mem'
  exact whole.of_listing (listing_of_reachable reached).symm d mem rfl

/-- The ledger of a zone while calls run. -/
theorem safe_of_reachable (idle : start.calls = []) (covered : start.Covered)
    (reached : Reachable (step cfg) (fun _ a => a.ReplyReceived) start s)
    (hasZone : start.dbs.mongo.HasZone oid name capacity) :
    Safe 0 capacity (s.ledger oid name) := by
  refine reached.invariant₂ (P := fun s => Safe 0 capacity (s.ledger oid name)) ?_ ?_
  · obtain ⟨d, mem, z, zone, rfl, rfl, rfl, counter⟩ := hasZone.exists
    have covers := covered.covers d mem z zone
    have fits := covered.fits d mem z zone
    have rows : (start.ledger d.id z.name).active = start.dbs.pg.activeIn d.id z.name := rfl
    have units : (start.ledger d.id z.name).inflight = 0 := by
      rw [State.ledger, idle]
      rfl
    rw [Safe, rows, units, counter]
    omega
  · intro s a s' before safe replied moved
    have same := listing_of_reachable before
    exact ((step_cases moved).move (hasZone.of_listing same.symm) same
      (planned_of_reachable before idle) replied).safe safe

/-- Whatever crashes and whatever MongoDB raises, the counters cover the tickets and fit. -/
theorem covered_of_reachable (idle : start.calls = []) (covered : start.Covered)
    (reached : Reachable (step cfg) (fun _ a => a.ReplyReceived) start s) : s.Covered := by
  have distinct := distinct_of_reachable reached covered.distinct
  have both : ∀ d ∈ s.dbs.mongo.docs, ∀ z ∈ d.zones,
      s.dbs.pg.activeIn d.id z.name ≤ z.bookedCount ∧ z.bookedCount ≤ z.capacity := by
    intro d mem z zone
    obtain ⟨-, atStart, counter⟩ := hasZone_start reached distinct mem zone
    obtain ⟨covers, fits⟩ := safe_of_reachable idle covered reached atStart
    have rows : (s.ledger d.id z.name).active = s.dbs.pg.activeIn d.id z.name := rfl
    have units : 0 ≤ (s.ledger d.id z.name).inflight := Int.natCast_nonneg _
    rw [counter] at covers fits
    exact ⟨by omega, fits⟩
  exact ⟨distinct, fun d mem z zone => (both d mem z zone).1, fun d mem z zone =>
    (both d mem z zone).2⟩

/-- Without faults, when every call has answered, the counters are the numbers of tickets. -/
theorem settled_of_reachable (idle : start.calls = []) (settled : start.Settled)
    (distinct : ∀ d ∈ start.dbs.mongo.docs, (d.zones.map Zone.name).Nodup)
    (reached : Reachable (step cfg) (fun _ a => a.ReplyReceived ∧ ¬ a.Faulty) start s)
    (quiescent : ∀ call ∈ s.calls, call.ended = true) : s.Settled := by
  intro d mem z zone
  obtain ⟨-, atStart, counter⟩ :=
    hasZone_start reached (distinct_of_reachable reached distinct) mem zone
  have exact : Exact 0 (s.ledger d.id z.name) := by
    refine reached.invariant₂ (P := fun s => Exact 0 (s.ledger d.id z.name)) ?_ ?_
    · obtain ⟨d', mem', z', zone', sameId, sameName, -, counter⟩ := atStart.exists
      have account := settled d' mem' z' zone'
      rw [sameId, sameName, ← counter] at account
      rw [Exact, account]
      simp [State.ledger, Databases.ledger, idle]
    · intro s a s' before account allowed moved
      have same := listing_of_reachable before
      exact ((step_cases moved).move (atStart.of_listing same.symm) same
        (planned_of_reachable before idle) allowed.1).exact allowed.2 le_rfl
        (Int.natCast_nonneg _) (Int.natCast_nonneg _) account
  have units : (s.calls.map (Call.seatsIn d.id z.name)).sum = 0 := by
    refine List.sum_eq_zero fun n inMap => ?_
    obtain ⟨call, running, rfl⟩ := List.mem_map.mp inMap
    exact Call.seatsIn_of_ended (quiescent call running)
  rw [Exact, counter] at exact
  simpa [State.ledger, Databases.ledger, units] using exact

end Ledger

/-! ## What the inventory checks read -/

/-- A zone as it is stored; the audit does not read the price. -/
def Zone.toStored (z : Zone) : StoredZone ℚ :=
  ⟨z.name, some z.capacity, some z.bookedCount, z.price⟩

def EventDoc.toStored (d : EventDoc) : StoredEvent ℚ String :=
  ⟨d.id, d.zones.map Zone.toStored, d.title⟩

theorem EventDoc.toStored_ids (docs : List EventDoc) :
    (docs.map EventDoc.toStored).map StoredEvent.id = docs.map EventDoc.id := by
  rw [List.map_map]
  rfl

/-- The collection `events`. -/
def Catalog.collection (c : Catalog) : EventCollection ℚ String where
  docs := c.docs.map EventDoc.toStored
  ids_nodup := by
    rw [EventDoc.toStored_ids]
    exact c.ids_nodup

/-- A cursor over the events returns each of them once, as it is at some moment. -/
structure Scan (start : State) (moment : State → Prop) (events : EventCollection ℚ String) :
    Prop where
  ids : events.docs.map StoredEvent.id = start.dbs.mongo.docs.map EventDoc.id
  docs : ∀ d ∈ events.docs, ∃ s, moment s ∧ ∃ d' ∈ s.dbs.mongo.docs, d'.toStored = d

/-- The collection read at one moment. -/
theorem Scan.collection {start s : State} {moment : State → Prop} (now : moment s)
    (listed : s.dbs.mongo.listing = start.dbs.mongo.listing) :
    Scan start moment s.dbs.mongo.collection where
  ids := by
    have viaListing : ∀ c : Catalog, c.docs.map EventDoc.id = c.listing.map Prod.fst := by
      intro c
      rw [Catalog.listing, List.map_map]
      rfl
    exact (EventDoc.toStored_ids _).trans (by rw [viaListing, viaListing, listed])
  docs d mem := by
    obtain ⟨d', mem', rfl⟩ := List.mem_map.mp mem
    exact ⟨s, now, d', mem', rfl⟩

theorem Ticket.active_iff (t : Ticket) :
    t.active = true ↔ t.status = .held ∨ t.status = .valid := by
  simp [Ticket.active]

/-- `active.get(key, 0)` is the number of active tickets of the zone. -/
theorem activeCount_eq (tickets : List Ticket) (key : ZoneKey) :
    activeCount tickets key =
      tickets.countP fun t => t.active && (t.eventId, t.seatZone) = key := by
  have active : tickets.filter (fun t => t.status = .held ∨ t.status = .valid) =
      tickets.filter Ticket.active :=
    List.filter_congr fun t _ => by rw [Bool.eq_iff_iff, decide_eq_true_eq, t.active_iff]
  have counted : (tickets.countP fun t => t.active && (t.eventId, t.seatZone) = key) =
      (tickets.filter Ticket.active).countP fun t => (t.eventId, t.seatZone) = key := by
    rw [List.countP_filter]
    exact List.countP_congr fun t _ => by rw [Bool.and_comm]
  rw [counted, activeCount]
  cases found : (activeTickets tickets).lookup key with
  | some n =>
    have mem := mem_of_lookup found
    rw [activeTickets, active] at mem
    obtain ⟨group, inGroups, same⟩ := List.mem_map.mp mem
    cases same
    exact groupCount_eq inGroups
  | none =>
    symm
    rw [Option.getD_none, List.countP_eq_zero]
    intro t mem own
    obtain ⟨group, inGroups, same⟩ := exists_group (fun t : Ticket => (t.eventId, t.seatZone)) mem
    have same := same.trans (of_decide_eq_true own)
    have entry : (key, group.2) ∈ activeTickets tickets := by
      rw [activeTickets, active]
      exact List.mem_map.mpr ⟨group, inGroups, Prod.ext same rfl⟩
    rw [lookup_of_mem (nodup_activeTickets tickets) entry] at found
    cases found

section Inventory

variable {lower : String → String} {start s : State} {moment : State → Prop}
  {events : EventCollection ℚ String} {oid : ObjectId} {name : String}

theorem Ticket.Canonical.inZone_iff {catalog : Catalog} {t : Ticket}
    (canonical : t.Canonical lower catalog) :
    t.inZone oid name = true ↔ (t.eventId, t.seatZone) = (oid.hex, name) := by
  obtain ⟨oid', d, z, event, -⟩ := canonical.zone
  rw [Ticket.inZone, event, ObjectId.ofString?_hex]
  simp [ObjectId.hex_inj]

/-- The two ways to count the active tickets of a zone agree on canonical tickets. -/
theorem activeCount_eq_activeIn {pg : Postgres} {catalog : Catalog}
    (canonical : ∀ t ∈ pg.tickets, t.Canonical lower catalog) :
    activeCount pg.tickets (oid.hex, name) = pg.activeIn oid name := by
  rw [activeCount_eq, Postgres.activeIn]
  refine List.countP_congr fun t mem => ?_
  simp only [Bool.and_eq_true, decide_eq_true_eq, (canonical t mem).inZone_iff]

/-- An entry of the dictionary `zones` is a zone of the catalog at some moment. -/
theorem Scan.mem_entries (scan : Scan start moment events) {e : ZoneKey × ℤ × ℤ × ObjectId}
    (mem : e ∈ events.entries) : ∃ s, moment s ∧ ∃ d ∈ s.dbs.mongo.docs, ∃ z ∈ d.zones,
      e = ((d.id.hex, z.name), z.capacity, z.bookedCount, d.id) := by
  obtain ⟨d, inEvents, z, inDoc, rfl⟩ := EventCollection.mem_entries.mp mem
  obtain ⟨s, now, d', stored, rfl⟩ := scan.docs d inEvents
  obtain ⟨z', zone, rfl⟩ := List.mem_map.mp inDoc
  exact ⟨s, now, d', stored, z', zone, rfl⟩

theorem Scan.distinct (scan : Scan start moment events)
    (covered : ∀ s, moment s → s.Covered) : events.DistinctZones := by
  intro d mem
  obtain ⟨s, now, d', stored, rfl⟩ := scan.docs d mem
  rw [EventDoc.toStored, List.map_map]
  exact (covered s now).distinct d' stored

/-- A zone seen at one moment is there at another, with the same capacity. -/
theorem Covered.zone_at {s s' : State} (covered : s.Covered)
    (same : s.dbs.mongo.listing = s'.dbs.mongo.listing) {d : EventDoc} {z : Zone}
    (mem : d ∈ s.dbs.mongo.docs) (zone : z ∈ d.zones) :
    ∃ d' ∈ s'.dbs.mongo.docs, ∃ z' ∈ d'.zones, d'.id = d.id ∧ z'.name = z.name ∧
      z'.capacity = z.capacity := by
  obtain ⟨-, hasZone⟩ := hasZone_of_mem mem (covered.distinct d mem) zone
  obtain ⟨d', mem', z', zone', sameId, sameName, full, -⟩ := (hasZone.of_listing same).exists
  exact ⟨d', mem', z', zone', sameId, sameName, full⟩

/-- **The inventory checks, read at many moments.** -/
theorem Scan.inventory (scan : Scan start moment events)
    (covered : ∀ s, moment s → s.Covered)
    (listed : ∀ s, moment s → s.dbs.mongo.listing = start.dbs.mongo.listing) (now : moment s)
    (canonical : ∀ t ∈ s.dbs.pg.tickets, t.Canonical lower start.dbs.mongo) :
    (Counts.of s.dbs.pg.tickets events).negative = [] ∧
      (Counts.of s.dbs.pg.tickets events).overCap = [] ∧
      (Counts.of s.dbs.pg.tickets events).pgOver = [] ∧
      (Counts.of s.dbs.pg.tickets events).orphans = [] := by
  have distinct := scan.distinct covered
  refine ⟨?_, ?_, ?_, ?_⟩
  · refine Counts.zonesWhere_eq_nil distinct fun e mem => ?_
    obtain ⟨s', now', d, stored, z, zone, rfl⟩ := scan.mem_entries mem
    have covers := (covered s' now').covers d stored z zone
    exact decide_eq_false (not_lt.mpr ((Int.natCast_nonneg _).trans covers))
  · refine Counts.zonesWhere_eq_nil distinct fun e mem => ?_
    obtain ⟨s', now', d, stored, z, zone, rfl⟩ := scan.mem_entries mem
    exact decide_eq_false (not_lt.mpr ((covered s' now').fits d stored z zone))
  · rw [Counts.pgOver, List.map_eq_nil_iff, List.filter_eq_nil_iff]
    rintro ⟨key, n⟩ active exceeds
    obtain ⟨zone, found, more⟩ := (Option.any_eq_true _ _).mp exceeds
    rw [Counts.zones_of distinct] at found
    obtain ⟨s', now', d, stored, z, inDoc, same⟩ := scan.mem_entries (mem_of_lookup found)
    cases same
    obtain ⟨d', stored', z', inDoc', sameId, sameName, full⟩ := Covered.zone_at (covered s' now')
      ((listed s' now').trans (listed s now).symm) stored inDoc
    have covers := (covered s now).covers d' stored' z' inDoc'
    have fits := (covered s now).fits d' stored' z' inDoc'
    have rows : n = activeCount s.dbs.pg.tickets (d.id.hex, z.name) := by
      rw [activeCount, lookup_of_mem (nodup_activeTickets _) active]
      rfl
    rw [activeCount_eq_activeIn canonical] at rows
    rw [sameId, sameName] at covers
    have more : z.capacity < (n : ℤ) := of_decide_eq_true more
    omega
  · rw [Counts.orphans, List.map_eq_nil_iff, List.filter_eq_nil_iff]
    rintro ⟨key, n⟩ active orphan
    refine of_decide_eq_true orphan ?_
    -- some ticket has the key, and the catalog has its zone
    obtain ⟨group, inGroups, same⟩ := List.mem_map.mp active
    cases same
    have ticket := (forall_groupCount (P := fun t => t ∈ s.dbs.pg.tickets)
      (fun t mem => (List.mem_filter.mp mem).1) group inGroups).1
    obtain ⟨oid, d, z, event, found, first, named⟩ := (canonical group.1 ticket).zone
    have stored := Catalog.mem_of_find? found
    have inEvents : d.id ∈ events.docs.map StoredEvent.id :=
      scan.ids ▸ List.mem_map_of_mem stored
    obtain ⟨doc, mem, sameId⟩ := List.mem_map.mp inEvents
    obtain ⟨s', now', d', stored', rfl⟩ := scan.docs doc mem
    have inListing : d.listing ∈ s'.dbs.mongo.listing :=
      listed s' now' ▸ List.mem_map_of_mem stored
    obtain ⟨d'', stored'', sameDoc⟩ := List.mem_map.mp inListing
    obtain ⟨sameId', -, sameZones⟩ : d''.id = d.id ∧ d''.title = d.title ∧
        d''.zones.map Zone.listing = d.zones.map Zone.listing := by
      simpa only [EventDoc.listing, Prod.mk.injEq] using sameDoc
    obtain rfl : d'' = d' :=
      eq_of_key_eq s'.dbs.mongo.ids_nodup stored'' stored' (sameId'.trans sameId.symm)
    have inZones : z.listing ∈ d''.zones.map Zone.listing :=
      sameZones ▸ List.mem_map_of_mem (List.mem_of_find?_eq_some first)
    obtain ⟨z', zone, sameZone⟩ := List.mem_map.mp inZones
    have entry := EventCollection.mem_entries.mpr
      ⟨d''.toStored, mem, z'.toStored, List.mem_map_of_mem zone, rfl⟩
    have sameKey : (d''.id.hex, z'.name) = (group.1.eventId, group.1.seatZone) := by
      have sameName : z'.name = z.name := congrArg Prod.fst sameZone
      rw [event, ← named, sameName, sameId', Catalog.find?_id found]
    rw [Counts.zones_of distinct]
    exact List.mem_map.mpr ⟨_, entry, sameKey⟩

end Inventory

/-! ## While the system runs -/

/-- An attempt that reads each statement and each document at one of these moments. -/
structure AuditReads.At (reads : AuditReads ℚ String) (start : State) (moment : State → Prop) :
    Prop where
  checks : ∀ k, ∃ s, moment s ∧ s.dbs.pg = reads.checks k
  active : ∃ s, moment s ∧ s.dbs.pg = reads.active
  events : Scan start moment reads.events

section Results

variable {counts : Counts}

/-- The results of the inventory checks, by the lists they count. -/
theorem Counts.results_ok {r : AuditResult} (mem : r ∈ counts.results)
    (negative : counts.negative = []) (overCap : counts.overCap = [])
    (pgOver : counts.pgOver = []) (orphans : counts.orphans = []) :
    r.ok = true ∨ r.name = "drift_mongo_below_pg" ∧ r.value = counts.below.length ∨
      r.name = "drift_mongo_above_pg" ∧ r.value = counts.above.length := by
  simp only [results, auditResult, List.mem_cons, List.not_mem_nil, or_false] at mem
  rcases mem with rfl | rfl | rfl | rfl | rfl | rfl
  · exact .inl (by rw [AuditResult.ok, negative]; rfl)
  · exact .inl (by rw [AuditResult.ok, overCap]; rfl)
  · exact .inl (by rw [AuditResult.ok, pgOver]; rfl)
  · exact .inr (.inl ⟨rfl, rfl⟩)
  · exact .inr (.inr ⟨rfl, rfl⟩)
  · exact .inl (by rw [AuditResult.ok, orphans]; rfl)

theorem isDrift_of_name {r : AuditResult}
    (name : r.name = "drift_mongo_below_pg" ∨ r.name = "drift_mongo_above_pg") :
    r.isDrift = true := by
  rw [AuditResult.isDrift]
  rcases name with name | name <;> rw [name] <;> decide +kernel

theorem isDrift_of_total {r : AuditResult} (name : r.name = "order_total_mismatch") :
    r.isDrift = false := by
  rw [AuditResult.isDrift, name]
  decide +kernel

/-- Without drift results there is no drift to repair. -/
theorem Counts.drift_of_noDrift (clean : NoDrift counts.results) : counts.drift = [] := by
  have below : counts.below = [] := by
    have ok := clean _ (List.mem_of_getElem? (i := 3) rfl) (isDrift_of_name (.inl rfl))
    exact List.length_eq_zero_iff.mp (of_decide_eq_true ok)
  have above : counts.above = [] := by
    have ok := clean _ (List.mem_of_getElem? (i := 4) rfl) (isDrift_of_name (.inr rfl))
    exact List.length_eq_zero_iff.mp (of_decide_eq_true ok)
  rw [drift, below, above]
  rfl

end Results

section InFlight

variable {cfg : Config} {start s : State} {reads : ℕ → AuditReads ℚ String}

/-- The states of a run in which no COMMIT reply is lost. -/
def State.Replied (cfg : Config) (start s : State) : Prop :=
  Reachable (step cfg) (fun _ a => a.ReplyReceived) start s

/-- A system at rest: its orders are in their life cycle, its seats in the index under their own
spelling, and its counters cover the tickets. -/
structure State.AtRest (lower : String → String) (start : State) : Prop where
  idle : start.calls = []
  cycle : start.dbs.pg.LifeCycle
  seated : start.dbs.pg.Seated lower start.dbs.mongo
  covered : start.Covered

theorem State.AtRest.cycle_later {ok : State → Action → Prop} (rest : start.AtRest cfg.lower)
    (reached : Reachable (step cfg) ok start s) : s.dbs.pg.LifeCycle :=
  pg_invariant reached rest.idle rest.cycle.ids rest.cycle
    fun _ _ cycle committed => committed.lifeCycle cycle

theorem State.AtRest.seated_later {ok : State → Action → Prop} (rest : start.AtRest cfg.lower)
    (reached : Reachable (step cfg) ok start s) : s.dbs.pg.Seated cfg.lower start.dbs.mongo :=
  pg_invariant reached rest.idle rest.cycle.ids rest.seated
    fun _ _ seated committed => committed.seated seated

theorem pgChecks_total {check : PgCheck} (mem : check ∈ pgChecks)
    (name : check.name = "order_total_mismatch") : check = orderTotalMismatch := by
  simp only [pgChecks, List.mem_cons, List.not_mem_nil, or_false] at mem
  rcases mem with rfl | rfl | rfl | rfl | rfl | rfl | rfl
  case inr.inr.inr.inr.inl => rfl
  all_goals exact absurd name (by decide)

/-- What one attempt reports. -/
theorem AuditReads.At.attempt {reads : AuditReads ℚ String} (rest : start.AtRest cfg.lower)
    (moments : reads.At start (State.Replied cfg start)) :
    ∀ r ∈ reads.attempt.1, r.ok = true ∨
      (r.name = "order_total_mismatch" ∧
        ∃ k, r.value = (reads.checks k).orderTotalMismatch.length) ∨
      r.name = "drift_mongo_below_pg" ∧ r.value = (Counts.of reads.active.tickets
        reads.events).below.length ∨
      r.name = "drift_mongo_above_pg" ∧ r.value = (Counts.of reads.active.tickets
        reads.events).above.length := by
  intro r mem
  obtain ⟨s, reached, active⟩ := moments.active
  rcases List.mem_append.mp mem with inTables | inventory
  · obtain ⟨k, inChecks, rfl⟩ := List.mem_mapIdx.mp inTables
    by_cases total : (pgChecks[k]).name = "order_total_mismatch"
    · refine .inr (.inl ⟨total, k, ?_⟩)
      rw [PgCheck.result, pgChecks_total (List.getElem_mem inChecks) total]
      exact List.length_map _
    · obtain ⟨s, reached, same⟩ := moments.checks k
      have clean := postgresChecks_ok (List.getElem_mem inChecks) total
        (rest.cycle_later reached) (rest.seated_later reached).distinct
      refine .inl ?_
      rw [PgCheck.result, AuditResult.ok, ← same, clean]
      rfl
  · obtain ⟨negative, overCap, pgOver, orphans⟩ := moments.events.inventory
      (fun s reached => covered_of_reachable rest.idle rest.covered reached)
      (fun s reached => listing_of_reachable reached) reached
      (rest.seated_later reached).canonical
    rw [active] at negative overCap pgOver orphans
    exact (Counts.results_ok inventory negative overCap pgOver orphans).imp_right .inr

theorem AuditReads.At.noDrift {reads : AuditReads ℚ String} (rest : start.AtRest cfg.lower)
    (moments : reads.At start (State.Replied cfg start))
    (below : (Counts.of reads.active.tickets reads.events).below = [])
    (above : (Counts.of reads.active.tickets reads.events).above = []) :
    NoDrift reads.attempt.1 := by
  intro r mem drift
  rcases moments.attempt rest r mem with passed | total | low | high
  · exact passed
  · rw [isDrift_of_total total.1] at drift
    cases drift
  · rw [AuditResult.ok, low.2, below]
    rfl
  · rw [AuditResult.ok, high.2, above]
    rfl

/-- The counters read together with the tickets cover them, also while calls run. -/
theorem below_of_covered (covered : s.Covered) {lower : String → String} {catalog : Catalog}
    (canonical : ∀ t ∈ s.dbs.pg.tickets, t.Canonical lower catalog) :
    (Counts.of s.dbs.pg.tickets s.dbs.mongo.collection).below = [] := by
  have scan : Scan s (· = s) s.dbs.mongo.collection := .collection rfl rfl
  refine Counts.zonesWhere_eq_nil (scan.distinct fun _ same => same ▸ covered) fun e mem => ?_
  obtain ⟨s', rfl, d, stored, z, zone, rfl⟩ := scan.mem_entries mem
  have covers := covered.covers d stored z zone
  rw [← activeCount_eq_activeIn canonical] at covers
  exact decide_eq_false (not_lt.mpr covers)

theorem above_of_settled (covered : s.Covered) (settled : s.Settled) {lower : String → String}
    {catalog : Catalog} (canonical : ∀ t ∈ s.dbs.pg.tickets, t.Canonical lower catalog) :
    (Counts.of s.dbs.pg.tickets s.dbs.mongo.collection).above = [] := by
  have scan : Scan s (· = s) s.dbs.mongo.collection := .collection rfl rfl
  refine Counts.zonesWhere_eq_nil (scan.distinct fun _ same => same ▸ covered) fun e mem => ?_
  obtain ⟨s', rfl, d, stored, z, zone, rfl⟩ := scan.mem_entries mem
  have account := settled d stored z zone
  rw [← activeCount_eq_activeIn canonical] at account
  exact decide_eq_false (not_lt.mpr account.le)

/-- An attempt that reads the tickets and the counters in one state. -/
def AuditReads.InState (reads : AuditReads ℚ String) (s : State) : Prop :=
  reads.active = s.dbs.pg ∧ reads.events = s.dbs.mongo.collection

/-- What the attempts of an audit report that reads at moments of a run from `start`. -/
structure Reports (cfg : Config) (start : State) (reads : ℕ → AuditReads ℚ String)
    (retries : ℕ) : Prop where
  /-- Only the drift checks and `order_total_mismatch` can fail. -/
  failing : ∀ r ∈ (runAudit reads retries).1, r.ok = false →
    r.isDrift = true ∨ r.name = "order_total_mismatch"
  /-- An attempt that reads the inventory in one state finds no counter too low. -/
  covered : ∀ k s, State.Replied cfg start s → (reads k).InState s →
    ∀ r ∈ (reads k).attempt.1, r.name = "drift_mongo_below_pg" → r.ok = true
  /-- No drift is reported when one of the attempts finds the system at rest, without faults. -/
  settled : start.Settled → ∀ k ≤ retries, ∀ s,
    Reachable (step cfg) (fun _ a => a.ReplyReceived ∧ ¬ a.Faulty) start s →
    (∀ call ∈ s.calls, call.ended = true) → (reads k).InState s →
    (runAudit reads retries).2 = [] ∧ ∀ r ∈ (runAudit reads retries).1, r.ok = false →
      r.name = "order_total_mismatch"

theorem State.AtRest.reports (rest : start.AtRest cfg.lower)
    (moments : ∀ k, (reads k).At start (State.Replied cfg start)) (retries : ℕ) :
    Reports cfg start reads retries := by
  have results : ∀ r ∈ (runAudit reads retries).1, r.ok = false →
      r.isDrift = true ∨ r.name = "order_total_mismatch" := by
    intro r mem failed
    obtain ⟨k, same⟩ := auditFrom_eq reads 0 retries
    rw [runAudit, same] at mem
    rcases (moments k).attempt rest r mem with passed | total | below | above
    · rw [failed] at passed
      cases passed
    · exact .inr total.1
    · exact .inl (isDrift_of_name (.inl below.1))
    · exact .inl (isDrift_of_name (.inr above.1))
  refine ⟨results, ?_, ?_⟩
  · rintro k s reached ⟨active, events⟩ r mem name
    have below := below_of_covered (covered_of_reachable rest.idle rest.covered reached)
      (rest.seated_later reached).canonical
    rcases (moments k).attempt rest r mem with passed | total | low | above
    · exact passed
    · exact absurd (name.symm.trans total.1) (by decide)
    · rw [active, events, below] at low
      rw [AuditResult.ok, low.2]
      rfl
    · exact absurd (name.symm.trans above.1) (by decide)
  · rintro settled k inTime s reached quiescent ⟨active, events⟩
    have replied : State.Replied cfg start s := reached.mono fun _ _ both => both.1
    have now := covered_of_reachable rest.idle rest.covered replied
    have canonical := (rest.seated_later replied).canonical
    have below := below_of_covered now canonical
    have above := above_of_settled now
      (settled_of_reachable rest.idle settled rest.covered.distinct reached quiescent) canonical
    have clean : NoDrift (reads k).attempt.1 :=
      (moments k).noDrift rest (active ▸ events ▸ below) (active ▸ events ▸ above)
    have noDrift := auditFrom_noDrift (Nat.zero_le k) (by omega : k ≤ 0 + retries) clean
    refine ⟨?_, fun r mem failed => ?_⟩
    · obtain ⟨j, same⟩ := auditFrom_eq reads 0 retries
      rw [same] at noDrift
      rw [runAudit, same]
      exact Counts.drift_of_noDrift fun r mem => noDrift r (List.mem_append_right _ mem)
    · rcases results r mem failed with drift | total
      · rw [noDrift r mem drift] at failed
        cases failed
      · exact total

end InFlight

/-- Everything is read in one state. -/
def State.reads (s : State) : AuditReads ℚ String :=
  ⟨fun _ => s.dbs.pg, s.dbs.pg, s.dbs.mongo.collection⟩

namespace Sample

theorem covered : (start floor).Covered :=
  ⟨by decide +kernel, by decide +kernel, by decide +kernel⟩

theorem settled : (start floor).Settled := by
  unfold State.Settled
  decide +kernel

/-- An order that has reserved its seat and not yet committed. -/
def reserving : List Action := .spawn (.createOrder order none) :: advance 0 3 1

end Sample

end TicketBooking
