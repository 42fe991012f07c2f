import TicketBooking.Database
import TicketBooking.Lib.Dictionary
import TicketBooking.Lib.GroupCount
import TicketBooking.Lib.ListUpdate

/-!
# The inventory audit and its repair

`inventory_checks` compares the counters of the catalog with the active tickets of PostgreSQL, and
`repair` writes the PostgreSQL count over each drifted counter.  The audit reads the documents as
they are stored: a counter may be missing or negative, and every field it does not read is kept in
`rest`.

* `Inventory` holds the key lists of `inventory_checks`, `inventoryChecks` its results and drift.
* `docs_repair`: a repair writes the drifted counters and nothing else.
* `Reconciled` says what a second audit finds; `inventoryChecks_repair` that it finds it.
-/

namespace TicketBooking

open Dictionary GroupCount ListUpdate

variable {ρ σ : Type}

/-! ## The program -/

/-- A zone as it is stored. -/
structure StoredZone (ρ : Type) where
  name : String
  capacity : Option ℤ
  bookedCount : Option ℤ
  rest : ρ
deriving DecidableEq

structure StoredEvent (ρ σ : Type) where
  id : ObjectId
  zones : List (StoredZone ρ)
  rest : σ
deriving DecidableEq

/-- The collection `events`. -/
@[ext] structure EventCollection (ρ σ : Type) where
  docs : List (StoredEvent ρ σ)
  ids_nodup : (docs.map StoredEvent.id).Nodup
deriving DecidableEq

/-- The event id as a string, and the name of the zone. -/
abbrev ZoneKey := String × String

/-- The rows of `ACTIVE_TICKETS_SQL`, as a dictionary. -/
def activeTickets (tickets : List Ticket) : List (ZoneKey × ℕ) :=
  let key := fun t : Ticket => (t.eventId, t.seatZone)
  (groupCount key (tickets.filter fun t => t.status = .held ∨ t.status = .valid)).map
    fun group => (key group.1, group.2)

/-- The pairs of the double loop over the documents and their zones. -/
def EventCollection.entries (c : EventCollection ρ σ) : List (ZoneKey × ℤ × ℤ × ObjectId) :=
  c.docs.flatMap fun doc => doc.zones.map fun zone =>
    ((doc.id.hex, zone.name), zone.capacity.getD 0, zone.bookedCount.getD 0, doc.id)

structure AuditResult where
  name : String
  what : String
  value : ℕ
  samples : List String
deriving DecidableEq

/-- The dictionaries `inventory_checks` compares. -/
structure Counts where
  active : List (ZoneKey × ℕ)
  zones : List (ZoneKey × ℤ × ℤ × ObjectId)

def Counts.of (tickets : List Ticket) (c : EventCollection ρ σ) : Counts :=
  ⟨activeTickets tickets, ofEntries c.entries⟩

/-- `active.get(key, 0)` -/
def Counts.get (counts : Counts) (key : ZoneKey) : ℕ := (counts.active.lookup key).getD 0

/-- The keys of the zones whose capacity and counter satisfy a test. -/
def Counts.zonesWhere (counts : Counts) (test : ZoneKey → ℤ → ℤ → Bool) : List ZoneKey :=
  (counts.zones.filter fun e => test e.1 e.2.1 e.2.2.1).map Prod.fst

def Counts.negative (counts : Counts) : List ZoneKey :=
  counts.zonesWhere fun _ _ booked => booked < 0

def Counts.overCap (counts : Counts) : List ZoneKey :=
  counts.zonesWhere fun _ cap booked => booked > cap

def Counts.pgOver (counts : Counts) : List ZoneKey :=
  (counts.active.filter fun e =>
    (counts.zones.lookup e.1).any fun zone => (e.2 : ℤ) > zone.1).map Prod.fst

def Counts.below (counts : Counts) : List ZoneKey :=
  counts.zonesWhere fun key _ booked => booked < counts.get key

def Counts.above (counts : Counts) : List ZoneKey :=
  counts.zonesWhere fun key _ booked => booked > counts.get key

def Counts.orphans (counts : Counts) : List ZoneKey :=
  (counts.active.filter fun e => e.1 ∉ counts.zones.map Prod.fst).map Prod.fst

/-- `line(key)` -/
def Counts.line (counts : Counts) (key : ZoneKey) : String :=
  match counts.zones.lookup key with
  | none => ""
  | some (cap, booked, _) =>
    key.1 ++ " / " ++ key.2 ++ ": mongo=" ++ toString booked ++ " postgres=" ++
      toString (counts.get key) ++ " capacity=" ++ toString cap

def Counts.orphanLine (counts : Counts) (key : ZoneKey) : String :=
  key.1 ++ " / " ++ key.2 ++ ": postgres=" ++ toString (counts.get key)

def sampleLimit : ℕ := 5

/-- `result(name, what, keys, fmt)` -/
def auditResult (fmt : ZoneKey → String) (name what : String) (keys : List ZoneKey) : AuditResult :=
  ⟨name, what, keys.length, (keys.take sampleLimit).map fmt⟩

def Counts.results (counts : Counts) : List AuditResult :=
  let result := auditResult counts.line
  [result "negative_booked_count" "booked_count below zero" counts.negative,
    result "mongo_over_capacity" "booked_count above the zone capacity" counts.overCap,
    result "pg_over_capacity" "more active tickets than capacity (oversell)" counts.pgOver,
    result "drift_mongo_below_pg" "Mongo counts fewer seats than tickets exist (oversell risk)"
      counts.below,
    result "drift_mongo_above_pg" "Mongo counts seats that have no ticket (lost sales)"
      counts.above,
    auditResult counts.orphanLine "tickets_for_unknown_zone"
      "active tickets whose event/zone is not in Mongo" counts.orphans]

/-- An entry of the drift list: the event, the zone name and the PostgreSQL count. -/
abbrev Drift := ObjectId × String × ℕ

def Counts.drift (counts : Counts) : List Drift :=
  (counts.below ++ counts.above).eraseDups.filterMap fun key =>
    (counts.zones.lookup key).map fun zone => (zone.2.2, key.2, counts.get key)

/-- `inventory_checks` -/
def inventoryChecks (tickets : List Ticket) (c : EventCollection ρ σ) :
    List AuditResult × List Drift :=
  ((Counts.of tickets c).results, (Counts.of tickets c).drift)

/-- `{"$set": {"zones.$.booked_count": expected}}` -/
def StoredZone.setBooked (expected : ℤ) (z : StoredZone ρ) : StoredZone ρ :=
  { z with bookedCount := some expected }

def StoredEvent.setBooked (d : StoredEvent ρ σ) (zone : String) (expected : ℤ) :
    StoredEvent ρ σ :=
  { d with zones := updateFirst (fun z => z.name = zone) (StoredZone.setBooked expected) d.zones }

/-- `update_one({"_id": oid, "zones.name": zone}, ...)` on one document. -/
def StoredEvent.repairZone (d : StoredEvent ρ σ) (entry : Drift) : StoredEvent ρ σ :=
  if d.id = entry.1 then d.setBooked entry.2.1 entry.2.2 else d

theorem StoredEvent.repairZone_id (d : StoredEvent ρ σ) (entry : Drift) :
    (d.repairZone entry).id = d.id := by
  rw [repairZone]
  split <;> rfl

def EventCollection.repairZone (c : EventCollection ρ σ) (entry : Drift) : EventCollection ρ σ where
  docs := c.docs.map fun d => d.repairZone entry
  ids_nodup := by
    have ids : (c.docs.map fun d => d.repairZone entry).map StoredEvent.id =
        c.docs.map StoredEvent.id := by
      rw [List.map_map]
      exact List.map_congr_left fun d _ => d.repairZone_id entry
    rw [ids]
    exact c.ids_nodup

/-- `repair`: the collection after it, and the number it returns. -/
def repair (c : EventCollection ρ σ) (drift : List Drift) : EventCollection ρ σ × ℕ :=
  (drift.foldl EventCollection.repairZone c, drift.length)

/-! ## What a repair writes -/

/-- The zone names of every event are pairwise distinct. -/
def EventCollection.DistinctZones (c : EventCollection ρ σ) : Prop :=
  ∀ d ∈ c.docs, (d.zones.map StoredZone.name).Nodup

/-- The event and the zone of a drift entry. -/
def Drift.zone (entry : Drift) : ObjectId × String := (entry.1, entry.2.1)

/-- The document with the drifted counters at their expected value. -/
def StoredEvent.repaired (expected : ZoneKey → ℕ) (drifted : List (ObjectId × String))
    (d : StoredEvent ρ σ) : StoredEvent ρ σ :=
  let zones := d.zones.map fun z =>
    if (d.id, z.name) ∈ drifted then z.setBooked (expected (d.id.hex, z.name)) else z
  { d with zones }

theorem StoredEvent.repaired_names (expected : ZoneKey → ℕ) (drifted : List (ObjectId × String))
    (d : StoredEvent ρ σ) :
    (d.repaired expected drifted).zones.map StoredZone.name = d.zones.map StoredZone.name := by
  rw [repaired, List.map_map]
  apply List.map_congr_left
  intro z _
  rw [Function.comp_apply]
  split <;> rfl

/-- One update, after others. -/
theorem StoredEvent.repairZone_repaired {expected : ZoneKey → ℕ}
    {drifted : List (ObjectId × String)} {d : StoredEvent ρ σ} {entry : Drift}
    (distinct : (d.zones.map StoredZone.name).Nodup)
    (value : entry.2.2 = expected (entry.1.hex, entry.2.1)) :
    (d.repaired expected drifted).repairZone entry =
      d.repaired expected (drifted ++ [Drift.zone entry]) := by
  rw [← d.repaired_names expected drifted] at distinct
  rw [repairZone]
  by_cases own : d.id = entry.1
  · rw [if_pos (by exact own), setBooked, updateFirst_of_nodup (k := entry.2.1) _ distinct
      fun z named => of_decide_eq_true named]
    simp only [repaired, List.map_map, decide_eq_true_eq]
    congr 1
    apply List.map_congr_left
    intro z _
    have added : (d.id, z.name) ∈ drifted ++ [Drift.zone entry] ↔
        (d.id, z.name) ∈ drifted ∨ z.name = entry.2.1 := by
      rw [List.mem_append, List.mem_singleton, Drift.zone, Prod.mk.injEq, and_iff_right own]
    rw [Function.comp_apply]
    by_cases old : (d.id, z.name) ∈ drifted
    · rw [if_pos old, if_pos (added.mpr (Or.inl old))]
      by_cases again : z.name = entry.2.1
      · rw [if_pos (by exact again), value, again, own]
        rfl
      · rw [if_neg (by exact again)]
    · rw [if_neg old]
      by_cases named : z.name = entry.2.1
      · rw [if_pos named, if_pos (added.mpr (Or.inr named)), value, named, own]
      · rw [if_neg named, if_neg]
        exact fun new => (added.mp new).elim old named
  · rw [if_neg (by exact own), repaired, repaired]
    congr 1
    apply List.map_congr_left
    intro z _
    have other : (d.id, z.name) ≠ Drift.zone entry := fun same => own (Prod.mk.inj same).1
    simp only [List.mem_append, List.mem_singleton, other, or_false]

/-- A repair sets the counters of the drift list, and nothing else. -/
theorem docs_repair {c : EventCollection ρ σ} {expected : ZoneKey → ℕ} {drift : List Drift}
    (distinct : c.DistinctZones)
    (values : ∀ entry ∈ drift, entry.2.2 = expected (entry.1.hex, entry.2.1)) :
    (repair c drift).1.docs =
      c.docs.map (StoredEvent.repaired expected (drift.map Drift.zone)) := by
  have general : ∀ (drift : List Drift) (drifted : List (ObjectId × String))
      (now : EventCollection ρ σ), now.docs = c.docs.map (StoredEvent.repaired expected drifted) →
      (∀ entry ∈ drift, entry.2.2 = expected (entry.1.hex, entry.2.1)) →
      (drift.foldl EventCollection.repairZone now).docs =
        c.docs.map (StoredEvent.repaired expected (drifted ++ drift.map Drift.zone)) := by
    intro drift
    induction drift with
    | nil =>
      intro drifted now done _
      rw [List.foldl_nil, List.map_nil, List.append_nil, done]
    | cons entry drift ih =>
      intro drifted now done values
      have next : (now.repairZone entry).docs =
          c.docs.map (StoredEvent.repaired expected (drifted ++ [Drift.zone entry])) := by
        have docs : (now.repairZone entry).docs = now.docs.map fun d => d.repairZone entry := rfl
        rw [docs, done, List.map_map]
        apply List.map_congr_left
        intro d mem
        exact StoredEvent.repairZone_repaired (distinct d mem) (values entry List.mem_cons_self)
      have rest := ih _ _ next fun e mem => values e (List.mem_cons_of_mem entry mem)
      rwa [List.append_assoc, List.singleton_append] at rest
  apply general drift [] c _ values
  conv_lhs => rw [← List.map_id c.docs]
  apply List.map_congr_left
  intro d _
  have same : (d.zones.map fun z => if (d.id, z.name) ∈ ([] : List (ObjectId × String)) then
      z.setBooked (expected (d.id.hex, z.name)) else z) = d.zones := by
    simp only [List.not_mem_nil, ↓reduceIte, List.map_id']
  rw [StoredEvent.repaired, same]
  rfl

/-! ## What an audit reads -/

theorem EventCollection.mem_entries {c : EventCollection ρ σ} {e : ZoneKey × ℤ × ℤ × ObjectId} :
    e ∈ c.entries ↔ ∃ d ∈ c.docs, ∃ z ∈ d.zones,
      ((d.id.hex, z.name), z.capacity.getD 0, z.bookedCount.getD 0, d.id) = e := by
  simp only [entries, List.mem_flatMap, List.mem_map]

/-- One entry per zone. -/
theorem EventCollection.entries_keys {c : EventCollection ρ σ} (distinct : c.DistinctZones) :
    (c.entries.map Prod.fst).Nodup := by
  have ids : c.docs.Pairwise fun d d' => d.id ≠ d'.id := List.pairwise_map.mp c.ids_nodup
  rw [entries, List.map_flatMap, List.nodup_flatMap]
  refine ⟨fun d mem => ?_, ids.imp ?_⟩
  · apply List.Nodup.of_map Prod.snd
    rw [List.map_map, List.map_map]
    exact distinct d mem
  · intro d d' other key memD memD'
    simp only [List.map_map, List.mem_map, Function.comp_apply] at memD memD'
    obtain ⟨z, -, rfl⟩ := memD
    obtain ⟨z', -, same⟩ := memD'
    exact other (ObjectId.hex_inj.mp (Prod.mk.inj same).1.symm)

theorem nodup_activeTickets (tickets : List Ticket) :
    ((activeTickets tickets).map Prod.fst).Nodup := by
  rw [activeTickets, List.map_map]
  exact nodup_groupCount_keys (fun t : Ticket => (t.eventId, t.seatZone)) _

section Counts

variable {tickets : List Ticket} {c : EventCollection ρ σ}

theorem Counts.zones_of (distinct : c.DistinctZones) : (Counts.of tickets c).zones = c.entries :=
  ofEntries_of_nodup (EventCollection.entries_keys distinct)

theorem Counts.mem_zonesWhere (distinct : c.DistinctZones) {test : ZoneKey → ℤ → ℤ → Bool}
    {key : ZoneKey} : key ∈ (Counts.of tickets c).zonesWhere test ↔
      ∃ e ∈ c.entries, test e.1 e.2.1 e.2.2.1 = true ∧ e.1 = key := by
  rw [zonesWhere, zones_of distinct, List.mem_map]
  simp only [List.mem_filter, and_assoc]

/-- The drift list holds the zones whose counter is not the number of active tickets. -/
theorem Counts.mem_drift (distinct : c.DistinctZones) {entry : Drift} :
    entry ∈ (Counts.of tickets c).drift ↔ ∃ e ∈ c.entries,
      e.2.2.1 ≠ (Counts.of tickets c).get e.1 ∧
        (e.2.2.2, e.1.2, (Counts.of tickets c).get e.1) = entry := by
  have keys := EventCollection.entries_keys distinct
  simp only [drift, List.mem_filterMap, List.mem_eraseDups, List.mem_append, below, above,
    mem_zonesWhere distinct, zones_of distinct, Option.map_eq_some_iff, decide_eq_true_eq]
  constructor
  · rintro ⟨key, drifted, zone, found, rfl⟩
    have value : ∀ e ∈ c.entries, e.1 = key → e = (key, zone) := by
      rintro e mem rfl
      cases (lookup_of_mem keys mem).symm.trans found
      rfl
    refine ⟨(key, zone), mem_of_lookup found, ?_, rfl⟩
    rcases drifted with ⟨e, mem, less, own⟩ | ⟨e, mem, more, own⟩
    · rw [value e mem own] at less
      exact ne_of_lt less
    · rw [value e mem own] at more
      exact ne_of_gt more
  · rintro ⟨e, mem, differs, rfl⟩
    refine ⟨e.1, ?_, e.2, lookup_of_mem keys mem, rfl⟩
    rcases lt_or_gt_of_ne differs with less | more
    · exact Or.inl ⟨e, mem, less, rfl⟩
    · exact Or.inr ⟨e, mem, more, rfl⟩

theorem Counts.drift_value (distinct : c.DistinctZones) :
    ∀ entry ∈ (Counts.of tickets c).drift,
      entry.2.2 = (Counts.of tickets c).get (entry.1.hex, entry.2.1) := by
  intro entry mem
  obtain ⟨e, inZones, -, rfl⟩ := (mem_drift distinct).mp mem
  obtain ⟨d, -, z, -, rfl⟩ := EventCollection.mem_entries.mp inZones
  rfl

theorem Counts.zone_mem_drift (distinct : c.DistinctZones) {d : StoredEvent ρ σ}
    {z : StoredZone ρ} (memD : d ∈ c.docs) (memZ : z ∈ d.zones) :
    (d.id, z.name) ∈ (Counts.of tickets c).drift.map Drift.zone ↔
      z.bookedCount.getD 0 ≠ (Counts.of tickets c).get (d.id.hex, z.name) := by
  have inZones := EventCollection.mem_entries.mpr ⟨d, memD, z, memZ, rfl⟩
  rw [List.mem_map]
  constructor
  · rintro ⟨entry, mem, zone⟩
    obtain ⟨e, inZones', differs, rfl⟩ := (mem_drift distinct).mp mem
    have same : e.1 = (d.id.hex, z.name) := by
      obtain ⟨d', -, z', -, rfl⟩ := EventCollection.mem_entries.mp inZones'
      obtain ⟨ids, names⟩ := Prod.mk.inj zone
      exact Prod.ext (congrArg ObjectId.hex ids) names
    have entries := List.inj_on_of_nodup_map (EventCollection.entries_keys distinct) inZones'
      inZones same
    rwa [entries] at differs
  · intro differs
    exact ⟨_, (mem_drift distinct).mpr ⟨_, inZones, differs, rfl⟩, rfl⟩

/-! ## After a repair -/

/-- The number of active tickets of a zone. -/
def activeCount (tickets : List Ticket) (key : ZoneKey) : ℕ :=
  ((activeTickets tickets).lookup key).getD 0

/-- The collection after the drift list of an audit is repaired. -/
def afterRepair (tickets : List Ticket) (c : EventCollection ρ σ) : EventCollection ρ σ :=
  (repair c (inventoryChecks tickets c).2).1

/-- Every counter that is not the number of active tickets becomes that number. -/
theorem docs_afterRepair (distinct : c.DistinctZones) :
    (afterRepair tickets c).docs = c.docs.map fun d =>
      let zones := d.zones.map fun z =>
        let count : ℤ := activeCount tickets (d.id.hex, z.name)
        if z.bookedCount.getD 0 ≠ count then { z with bookedCount := some count } else z
      { d with zones } := by
  rw [afterRepair, inventoryChecks, docs_repair distinct (Counts.drift_value distinct)]
  apply List.map_congr_left
  intro d memD
  rw [StoredEvent.repaired]
  congr 1
  apply List.map_congr_left
  intro z memZ
  exact if_congr (Counts.zone_mem_drift distinct memD memZ) rfl rfl

theorem distinctZones_afterRepair (distinct : c.DistinctZones) :
    (afterRepair tickets c).DistinctZones := by
  intro d' mem
  rw [afterRepair, inventoryChecks, docs_repair distinct (Counts.drift_value distinct),
    List.mem_map] at mem
  obtain ⟨d, mem, rfl⟩ := mem
  rw [StoredEvent.repaired_names]
  exact distinct d mem

/-- A zone after the repair has its old capacity and the number of its active tickets. -/
theorem mem_entries_afterRepair (distinct : c.DistinctZones) {e : ZoneKey × ℤ × ℤ × ObjectId}
    (mem : e ∈ (afterRepair tickets c).entries) :
    e.2.2.1 = (Counts.of tickets c).get e.1 ∧ ∃ before ∈ c.entries, before.2.1 = e.2.1 := by
  obtain ⟨d', memD, z', memZ, rfl⟩ := EventCollection.mem_entries.mp mem
  rw [docs_afterRepair distinct, List.mem_map] at memD
  obtain ⟨d, memD, rfl⟩ := memD
  obtain ⟨z, inDoc, rfl⟩ := List.mem_map.mp memZ
  have inZones := EventCollection.mem_entries.mpr ⟨d, memD, z, inDoc, rfl⟩
  by_cases drifted : z.bookedCount.getD 0 ≠ (activeCount tickets (d.id.hex, z.name) : ℤ)
  · simp only [if_pos drifted]
    exact ⟨rfl, _, inZones, rfl⟩
  · simp only [if_neg drifted]
    exact ⟨not_not.mp drifted, _, inZones, rfl⟩

end Counts

/-- What an audit of a collection without drift reports. -/
structure Reconciled (tickets : List Ticket) (c : EventCollection ρ σ) : Prop where
  negative : (Counts.of tickets c).negative = []
  below : (Counts.of tickets c).below = []
  above : (Counts.of tickets c).above = []
  overCap : (Counts.of tickets c).overCap.Perm (Counts.of tickets c).pgOver
  values : (inventoryChecks tickets c).1.map (fun r => (r.name, r.value)) =
    [("negative_booked_count", 0),
      ("mongo_over_capacity", (Counts.of tickets c).pgOver.length),
      ("pg_over_capacity", (Counts.of tickets c).pgOver.length),
      ("drift_mongo_below_pg", 0), ("drift_mongo_above_pg", 0),
      ("tickets_for_unknown_zone", (Counts.of tickets c).orphans.length)]
  drift : (inventoryChecks tickets c).2 = []
  stable : repair c (inventoryChecks tickets c).2 = (c, 0)

section Reconciled

variable {tickets : List Ticket} {c : EventCollection ρ σ}

/-- No zone passes a test that its entry in the dictionary fails. -/
theorem Counts.zonesWhere_eq_nil (distinct : c.DistinctZones) {test : ZoneKey → ℤ → ℤ → Bool}
    (fails : ∀ e ∈ c.entries, test e.1 e.2.1 e.2.2.1 = false) :
    (Counts.of tickets c).zonesWhere test = [] := by
  apply List.eq_nil_iff_forall_not_mem.mpr
  intro key mem
  obtain ⟨e, inZones, passes, -⟩ := (mem_zonesWhere distinct).mp mem
  rw [fails e inZones] at passes
  cases passes

/-- When the counters are the ticket counts, a zone is over its capacity in MongoDB when it is so in
PostgreSQL; a capacity is not negative, so such a zone has active tickets. -/
theorem Counts.mem_overCap_iff (distinct : c.DistinctZones)
    (agree : ∀ e ∈ c.entries, e.2.2.1 = (Counts.of tickets c).get e.1)
    (capacities : ∀ e ∈ c.entries, 0 ≤ e.2.1) {key : ZoneKey} :
    key ∈ (Counts.of tickets c).overCap ↔ key ∈ (Counts.of tickets c).pgOver := by
  have keys := EventCollection.entries_keys distinct
  have rows : ((Counts.of tickets c).active.map Prod.fst).Nodup := nodup_activeTickets tickets
  rw [overCap, mem_zonesWhere distinct, pgOver, List.mem_map, zones_of distinct]
  simp only [List.mem_filter, Option.any_eq_true, decide_eq_true_eq]
  constructor
  · rintro ⟨e, mem, more, rfl⟩
    rw [agree e mem] at more
    have capacity := capacities e mem
    cases found : (Counts.of tickets c).active.lookup e.1 with
    | none =>
      rw [get, found] at more
      exact absurd more (not_lt.mpr capacity)
    | some n =>
      rw [get, found] at more
      exact ⟨(e.1, n), ⟨mem_of_lookup found, e.2, lookup_of_mem keys mem, more⟩, rfl⟩
  · rintro ⟨⟨k, n⟩, ⟨mem, zone, found, more⟩, rfl⟩
    have inZones := mem_of_lookup found
    refine ⟨(k, zone), inZones, ?_, rfl⟩
    have booked := agree (k, zone) inZones
    rw [get, lookup_of_mem rows mem] at booked
    rw [booked]
    exact more

/-- Counters that are the ticket counts pass every check of an audit but the capacity. -/
theorem reconciled_of_agree (distinct : c.DistinctZones)
    (agree : ∀ e ∈ c.entries, e.2.2.1 = (Counts.of tickets c).get e.1)
    (capacities : ∀ e ∈ c.entries, 0 ≤ e.2.1) : Reconciled tickets c := by
  have rows : ((Counts.of tickets c).active.map Prod.fst).Nodup := nodup_activeTickets tickets
  have zones : ((Counts.of tickets c).zones.map Prod.fst).Nodup := by
    rw [Counts.zones_of distinct]
    exact EventCollection.entries_keys distinct
  have below : (Counts.of tickets c).below = [] := by
    apply Counts.zonesWhere_eq_nil distinct
    intro e mem
    exact decide_eq_false (not_lt.mpr (agree e mem).ge)
  have above : (Counts.of tickets c).above = [] := by
    apply Counts.zonesWhere_eq_nil distinct
    intro e mem
    exact decide_eq_false (not_lt.mpr (agree e mem).le)
  have drift : (inventoryChecks tickets c).2 = [] := by
    rw [inventoryChecks, Counts.drift, below, above]
    rfl
  have negative : (Counts.of tickets c).negative = [] := by
    apply Counts.zonesWhere_eq_nil distinct
    intro e mem
    rw [agree e mem]
    exact decide_eq_false (not_lt.mpr (Int.natCast_nonneg _))
  have overCap : (Counts.of tickets c).overCap.Perm (Counts.of tickets c).pgOver := by
    apply (List.perm_ext_iff_of_nodup _ _).mpr
    · exact fun key => Counts.mem_overCap_iff distinct agree capacities
    · exact zones.sublist (List.filter_sublist.map Prod.fst)
    · exact rows.sublist (List.filter_sublist.map Prod.fst)
  refine ⟨negative, below, above, overCap, ?_, drift, by rw [drift]; rfl⟩
  simp only [inventoryChecks, Counts.results, auditResult, List.map_cons, List.map_nil, negative,
    below, above, overCap.length_eq, List.length_nil]

end Reconciled

/-- After the drift of an audit is repaired, the next audit finds the counters agree, and only the
counters of the drifted zones have changed. -/
theorem inventoryChecks_repair (tickets : List Ticket) (c : EventCollection ρ σ)
    (distinct : ∀ d ∈ c.docs, (d.zones.map StoredZone.name).Nodup)
    (capacities : ∀ d ∈ c.docs, ∀ z ∈ d.zones, 0 ≤ z.capacity.getD 0) :
    Reconciled tickets (afterRepair tickets c) ∧
    (afterRepair tickets c).docs = c.docs.map fun d =>
      let zones := d.zones.map fun z =>
        let count : ℤ := activeCount tickets (d.id.hex, z.name)
        if z.bookedCount.getD 0 ≠ count then { z with bookedCount := some count } else z
      { d with zones } := by
  refine ⟨?_, docs_afterRepair distinct⟩
  apply reconciled_of_agree (distinctZones_afterRepair distinct)
  · exact fun e mem => (mem_entries_afterRepair distinct mem).1
  · intro e mem
    obtain ⟨-, before, inZones, capacity⟩ := mem_entries_afterRepair distinct mem
    obtain ⟨d, memD, z, memZ, rfl⟩ := EventCollection.mem_entries.mp inZones
    exact capacity ▸ capacities d memD z memZ

namespace AuditSample

def ticket (zone : String) (status : TicketStatus) : Ticket where
  orderId := 1
  eventId := "66a2d0ffee66a2d0ffee66a2"
  seatZone := zone
  seatNumber := none
  price := 100
  status := status

def tickets : List Ticket :=
  [ticket "A" .held, ticket "B" .valid, ticket "B" .held, ticket "C" .cancelled, ticket "D" .held]

/-- A missing counter, a negative one of an oversold zone, and one that counts lost seats. -/
def events : EventCollection String Unit where
  docs := [{
    id := ⟨"66a2d0ffee66a2d0ffee66a2", by decide⟩
    zones := [⟨"A", some 2, none, "front"⟩, ⟨"B", some 1, some (-1), "back"⟩,
      ⟨"C", none, some 4, "side"⟩]
    rest := () }]
  ids_nodup := List.nodup_singleton _

end AuditSample

theorem inventoryChecks_repair_sample :
    Reconciled AuditSample.tickets (afterRepair AuditSample.tickets AuditSample.events) ∧
    (afterRepair AuditSample.tickets AuditSample.events).docs.map StoredEvent.zones =
      [[⟨"A", some 2, some 1, "front"⟩, ⟨"B", some 1, some 2, "back"⟩,
        ⟨"C", none, some 0, "side"⟩]] :=
  ⟨(inventoryChecks_repair AuditSample.tickets AuditSample.events (by decide) (by decide)).1,
    by decide⟩

end TicketBooking
