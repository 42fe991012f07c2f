import TicketBooking.SeatRelease
import Mathlib.Logic.Relation

/-!
# What a release does to the counters

`_release_counted_seats` lowers a counter in one guarded update, or one seat at a time when the
counter is too low.  Either way a counter ends at `max(0, booked_count - n)`, so the groups of a
release add up, in any order and however they are cut (`Catalog.release_release`).

* `Catalog.release` takes seats from every counter at once.
* `release_group`: a release by itself, without faults, does that for one group after the other.
-/

namespace TicketBooking

open GroupCount ListUpdate

/-! ## Taking seats from every counter -/

/-- The documents with each zone under `f`. -/
def Catalog.mapZones (f : ObjectId → Zone → Zone) (c : Catalog) : Catalog where
  docs := c.docs.map fun d => { d with zones := d.zones.map (f d.id) }
  ids_nodup := by
    rw [List.map_map]
    exact c.ids_nodup

/-- `max(0, booked_count - n)` -/
def Zone.release (n : ℕ) (z : Zone) : Zone := { z with bookedCount := max 0 (z.bookedCount - n) }

/-- A number of seats for each zone of each event. -/
abbrev SeatCounts := ObjectId → String → ℕ

def Catalog.release (n : SeatCounts) (c : Catalog) : Catalog :=
  c.mapZones fun oid z => z.release (n oid z.name)

/-- The seats of one zone only. -/
def SeatCounts.single (oid : ObjectId) (name : String) (n : ℕ) : SeatCounts :=
  fun oid' name' => if oid' = oid ∧ name' = name then n else 0

theorem SeatCounts.single_zero (oid oid' : ObjectId) (name name' : String) :
    single oid name 0 oid' name' = 0 := by
  rw [single, ite_self]

/-- Zone names are distinct in every event and no counter is negative. -/
structure Catalog.Counting (c : Catalog) : Prop where
  distinct : ∀ d ∈ c.docs, (d.zones.map Zone.name).Nodup
  counters : ∀ d ∈ c.docs, ∀ z ∈ d.zones, 0 ≤ z.bookedCount

theorem Zone.release_release (m n : ℕ) (z : Zone) :
    (z.release m).release n = z.release (m + n) := by
  have counter : max 0 (max 0 (z.bookedCount - m) - n) = max 0 (z.bookedCount - (m + n : ℕ)) := by
    push_cast
    omega
  simp only [release, counter]

theorem Zone.release_zero {z : Zone} (counter : 0 ≤ z.bookedCount) : z.release 0 = z := by
  have same : max 0 (z.bookedCount - (0 : ℕ)) = z.bookedCount := by
    push_cast
    omega
  simp only [release, same]

namespace Catalog

variable {c : Catalog} {f g : ObjectId → Zone → Zone}

theorem mapZones_congr (same : ∀ d ∈ c.docs, ∀ z ∈ d.zones, f d.id z = g d.id z) :
    c.mapZones f = c.mapZones g := by
  ext1
  apply List.map_congr_left
  intro d mem
  rw [List.map_congr_left (same d mem)]

theorem mapZones_self (same : ∀ d ∈ c.docs, ∀ z ∈ d.zones, f d.id z = z) : c.mapZones f = c := by
  rw [mapZones_congr (g := fun _ z => z) same]
  ext1
  simp only [mapZones, List.map_id']

theorem mapZones_mapZones (f g : ObjectId → Zone → Zone) (c : Catalog) :
    (c.mapZones f).mapZones g = c.mapZones fun oid z => g oid (f oid z) := by
  ext1
  simp only [mapZones, List.map_map]
  apply List.map_congr_left
  intro d _
  simp only [Function.comp_apply, List.map_map]
  rfl

/-- Releases add up. -/
theorem release_release (m n : SeatCounts) (c : Catalog) :
    (c.release m).release n = c.release fun oid name => m oid name + n oid name := by
  rw [release, release, mapZones_mapZones]
  apply mapZones_congr
  intro d _ z _
  exact Zone.release_release _ _ z

theorem release_zero (counting : c.Counting) {n : SeatCounts} (none : ∀ oid name, n oid name = 0) :
    c.release n = c := by
  apply mapZones_self
  intro d memD z memZ
  rw [none]
  exact Zone.release_zero (counting.counters d memD z memZ)

theorem Counting.release (counting : c.Counting) (n : SeatCounts) : (c.release n).Counting where
  distinct := by
    intro d' memD'
    obtain ⟨d, mem, rfl⟩ := List.mem_map.mp memD'
    have names : (d.zones.map fun z => z.release (n d.id z.name)).map Zone.name =
        d.zones.map Zone.name := by
      rw [List.map_map]
      rfl
    rw [names]
    exact counting.distinct d mem
  counters := by
    intro d' memD' z' memZ'
    obtain ⟨d, -, rfl⟩ := List.mem_map.mp memD'
    obtain ⟨z, -, rfl⟩ := List.mem_map.mp memZ'
    exact le_max_left _ _

/-! ## One update -/

/-- With distinct names the positional update acts on each matching zone. -/
theorem incBooked_eq_mapZones (counting : c.Counting) (oid : ObjectId) (name : String)
    (guard : ℤ → Bool) (delta : ℤ) :
    c.incBooked oid name guard delta = c.mapZones fun id z =>
      if id = oid ∧ Zone.matches name guard z = true then z.inc delta else z := by
  ext1
  apply List.map_congr_left
  intro d mem
  by_cases own : d.id = oid
  · have narrow : ∀ z : Zone, Zone.matches name guard z = true → z.name = name := by
      intro z matched
      rw [Zone.matches, Bool.and_eq_true, decide_eq_true_eq] at matched
      exact matched.1
    rw [if_pos own, EventDoc.incBooked, updateFirst_of_nodup _ (counting.distinct d mem) narrow]
    simp only [own, true_and]
  · simp only [own, false_and, ↓reduceIte, List.map_id']

/-- An update of one zone that takes `n` seats, where refusing it is the same as having no seat to
take. -/
theorem incBooked_eq_release (counting : c.Counting) {oid : ObjectId} {name : String}
    {guard : ℤ → Bool} {n : ℕ}
    (hit : ∀ booked, guard booked = true → n ≤ booked)
    (miss : ∀ d ∈ c.docs, ∀ z ∈ d.zones, d.id = oid → z.name = name →
      guard z.bookedCount = false → z.release n = z) :
    c.incBooked oid name guard (-n) = c.release (.single oid name n) := by
  rw [incBooked_eq_mapZones counting]
  apply mapZones_congr
  intro d memD z memZ
  have counter := counting.counters d memD z memZ
  by_cases named : d.id = oid ∧ z.name = name
  · rw [SeatCounts.single, if_pos named]
    cases passes : guard z.bookedCount with
    | true =>
      have matched : Zone.matches name guard z = true := by
        rw [Zone.matches, passes, Bool.and_true]
        exact decide_eq_true named.2
      have enough := hit z.bookedCount passes
      have same : z.bookedCount + -(n : ℤ) = max 0 (z.bookedCount - n) := by omega
      rw [if_pos ⟨named.1, matched⟩, Zone.inc, Zone.release, same]
    | false =>
      have refused : Zone.matches name guard z = false := by
        rw [Zone.matches, passes, Bool.and_false]
      rw [refused, miss d memD z memZ named.1 named.2 passes]
      exact if_neg fun both => Bool.false_ne_true both.2
  · have other : ¬(d.id = oid ∧ Zone.matches name guard z = true) := by
      rintro ⟨own, matched⟩
      rw [Zone.matches, Bool.and_eq_true, decide_eq_true_eq] at matched
      exact named ⟨own, matched.1⟩
    rw [SeatCounts.single, if_neg named, if_neg other, Zone.release_zero counter]

/-- The fallback update takes one seat, when there is one. -/
theorem incBooked_one (counting : c.Counting) (oid : ObjectId) (name : String) :
    c.incBooked oid name (fun booked => 0 < booked) (-1) = c.release (.single oid name 1) := by
  apply incBooked_eq_release (n := 1) counting
  · intro booked positive
    have positive := of_decide_eq_true positive
    omega
  · intro d memD z memZ _ _ empty
    have counter := counting.counters d memD z memZ
    have empty := of_decide_eq_false empty
    have same : max 0 (z.bookedCount - (1 : ℕ)) = z.bookedCount := by
      push_cast
      omega
    simp only [Zone.release, same]

/-- The grouped update takes all seats at once when it modifies the document. -/
theorem incBooked_grouped (counting : c.Counting) {oid : ObjectId} {name : String} {n : ℕ}
    (modified : c.modifiedCount oid name (fun booked => n ≤ booked) (-n) ≠ 0) :
    c.incBooked oid name (fun booked => n ≤ booked) (-n) = c.release (.single oid name n) := by
  apply incBooked_eq_release counting
  · exact fun booked enough => of_decide_eq_true enough
  · -- the zone of this name is the one that was modified
    intro d memD z memZ own named low
    rw [modifiedCount] at modified
    split at modified
    · rename_i found
      rw [Bool.and_eq_true, List.any_eq_true] at found
      obtain ⟨⟨d', memD', matched⟩, -⟩ := found
      rw [Bool.and_eq_true, decide_eq_true_eq, List.any_eq_true] at matched
      obtain ⟨own', z', memZ', passes⟩ := matched
      have sameDoc : d' = d := eq_of_key_eq c.ids_nodup memD' memD (own'.trans own.symm)
      subst sameDoc
      rw [Zone.matches, Bool.and_eq_true, decide_eq_true_eq] at passes
      have sameZone : z' = z := eq_of_key_eq (counting.distinct d' memD) memZ' memZ
        (passes.1.trans named.symm)
      rw [sameZone, low] at passes
      exact absurd passes.2 Bool.false_ne_true
    · exact absurd rfl modified

/-- The grouped update that modifies nothing leaves the catalog as it was. -/
theorem incBooked_ungrouped (counting : c.Counting) {oid : ObjectId} {name : String} {n : ℕ}
    (unmodified : c.modifiedCount oid name (fun booked => n ≤ booked) (-n) = 0) :
    c.incBooked oid name (fun booked => n ≤ booked) (-n) = c := by
  rcases Nat.eq_zero_or_pos n with rfl | positive
  · rw [incBooked_eq_release counting]
    · exact release_zero counting fun _ _ => SeatCounts.single_zero ..
    · exact fun booked enough => of_decide_eq_true enough
    · exact fun d memD z memZ _ _ _ => Zone.release_zero (counting.counters d memD z memZ)
  · apply incBooked_unmodified _ unmodified
    omega

end Catalog

/-! ## A release by itself -/

/-- The next MongoDB call of a release, when none fails. -/
inductive ReleaseTick : Catalog × SeatRelease → Catalog × SeatRelease → Prop
  | call (c : Catalog) (oneByOne : Bool) (g : SeatGroup) (rest : List SeatGroup) :
    ReleaseTick (c, ⟨oneByOne, g :: rest⟩) (releaseStep c .none oneByOne g rest)

/-- The seats of a group. -/
def SeatGroup.counts (g : SeatGroup) : SeatCounts := fun oid name =>
  if ObjectId.ofString? g.eventId = some oid ∧ g.seatZone = name then g.quantity else 0

/-- The seats of the groups together. -/
def groupCounts (groups : List SeatGroup) : SeatCounts := fun oid name =>
  (groups.map fun g => g.counts oid name).sum

theorem SeatGroup.counts_eq_single {g : SeatGroup} {oid : ObjectId}
    (parsed : ObjectId.ofString? g.eventId = some oid) :
    g.counts = .single oid g.seatZone g.quantity := by
  funext oid' name'
  apply if_congr _ rfl rfl
  rw [parsed, Option.some.injEq]
  exact and_congr eq_comm eq_comm

/-- The fallback: one seat at a time, as often as the group has seats. -/
theorem releases_one_by_one {oid : ObjectId} (rest : List SeatGroup) (quantity : ℕ)
    {c : Catalog} (counting : c.Counting) {eventId seatZone : String}
    (parsed : ObjectId.ofString? eventId = some oid) :
    Relation.ReflTransGen ReleaseTick (c, ⟨true, ⟨eventId, seatZone, quantity⟩ :: rest⟩)
      (c.release (.single oid seatZone quantity), .start rest) := by
  induction quantity generalizing c with
  | zero =>
    have none : c.release (.single oid seatZone 0) = c :=
      Catalog.release_zero counting fun _ _ => SeatCounts.single_zero ..
    have tick := ReleaseTick.call c true ⟨eventId, seatZone, 0⟩ rest
    simp only [releaseStep, parsed, ↓reduceIte] at tick
    rw [none]
    exact .single tick
  | succ quantity ih =>
    have tick := ReleaseTick.call c true ⟨eventId, seatZone, quantity + 1⟩ rest
    simp only [releaseStep, parsed, ↓reduceIte, Catalog.updateOne,
      Catalog.incBooked_one counting] at tick
    have later := ih (counting.release (.single oid seatZone 1))
    rw [Catalog.release_release] at later
    have counts : (fun oid' name' => SeatCounts.single oid seatZone 1 oid' name' +
        SeatCounts.single oid seatZone quantity oid' name') =
        SeatCounts.single oid seatZone (quantity + 1) := by
      funext oid' name'
      simp only [SeatCounts.single]
      split <;> omega
    rw [counts] at later
    exact .head tick later

/-- One group by itself: at once, or one seat at a time, or not at all when the id is no id. -/
theorem release_group {c : Catalog} (counting : c.Counting) (g : SeatGroup)
    (rest : List SeatGroup) :
    Relation.ReflTransGen ReleaseTick (c, .start (g :: rest))
      (c.release g.counts, .start rest) := by
  have tick := ReleaseTick.call c false g rest
  cases parsed : ObjectId.ofString? g.eventId with
  | none =>
    have none : c.release g.counts = c := by
      apply Catalog.release_zero counting
      intro oid name
      rw [SeatGroup.counts, parsed]
      exact if_neg fun both => Option.some_ne_none oid both.1.symm
    simp only [releaseStep, parsed] at tick
    rw [none]
    exact .single tick
  | some oid =>
    rw [SeatGroup.counts_eq_single parsed]
    simp only [releaseStep, parsed, Bool.false_eq_true, ↓reduceIte, Catalog.updateOne] at tick
    cases modified : c.modifiedCount oid g.seatZone (fun booked => g.quantity ≤ booked)
        (-g.quantity) with
    | zero =>
      rw [modified, Catalog.incBooked_ungrouped counting modified] at tick
      exact .head tick (releases_one_by_one rest g.quantity counting parsed)
    | succ n =>
      have changed : c.modifiedCount oid g.seatZone (fun booked => g.quantity ≤ booked)
          (-g.quantity) ≠ 0 := by
        rw [modified]
        exact Nat.succ_ne_zero n
      rw [modified, Catalog.incBooked_grouped counting changed] at tick
      exact .single tick

/-- A release by itself takes the seats of all its groups. -/
theorem release_groups {c : Catalog} (counting : c.Counting) (groups : List SeatGroup) :
    Relation.ReflTransGen ReleaseTick (c, .start groups)
      (c.release (groupCounts groups), .start []) := by
  induction groups generalizing c with
  | nil =>
    have none : c.release (groupCounts []) = c := Catalog.release_zero counting fun _ _ => rfl
    rw [none]
  | cons g groups ih =>
    have later := ih (counting.release g.counts)
    rw [Catalog.release_release] at later
    exact (release_group counting g groups).trans later

/-! ## The groups of some orders -/

/-- The held tickets of the orders, by event and zone. -/
def Postgres.heldCounts (pg : Postgres) (orderIds : List ℕ) : SeatCounts := fun oid name =>
  pg.tickets.countP fun t => (t.orderId ∈ orderIds ∧ t.status = .held) ∧
    ObjectId.ofString? t.eventId = some oid ∧ t.seatZone = name

theorem groupCounts_heldGroups (pg : Postgres) (orderIds : List ℕ) :
    groupCounts (pg.heldGroups orderIds) = pg.heldCounts orderIds := by
  funext oid name
  have counted := sum_groupCount Ticket.zoneOf
    (fun zone => decide (ObjectId.ofString? zone.1 = some oid ∧ zone.2 = name))
    (pg.tickets.filter fun t => t.orderId ∈ orderIds ∧ t.status = .held)
  rw [List.countP_filter] at counted
  have sums : groupCounts (pg.heldGroups orderIds) oid name =
      ((groupCount Ticket.zoneOf (pg.tickets.filter fun t =>
        t.orderId ∈ orderIds ∧ t.status = .held)).map (countFor Ticket.zoneOf fun zone =>
          decide (ObjectId.ofString? zone.1 = some oid ∧ zone.2 = name))).sum := by
    rw [groupCounts, Postgres.heldGroups, List.map_map]
    congr 1
    apply List.map_congr_left
    intro group _
    exact if_congr decide_eq_true_iff.symm rfl rfl
  rw [sums, counted, Postgres.heldCounts]
  apply List.countP_congr
  intro t _
  rw [Bool.and_eq_true, decide_eq_true_iff, decide_eq_true_iff, decide_eq_true_iff]
  exact and_comm

end TicketBooking
