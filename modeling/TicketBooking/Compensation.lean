import TicketBooking.CommitOutcome
import TicketBooking.Lib.FirstFit
import TicketBooking.Replays
import TicketBooking.Retries

/-!
# Compensation

What a create call that fails leaves in MongoDB, when its release updates succeed.  A reservation
goes to the first zone of the name that has room; its release goes to the first zone of the name.
So the counters are as they were before the call exactly when every reservation went to the first
zone of its name (and the reply of every applied reservation arrived).

Each update touches one event and one zone name.  `Catalog.countersOf` are the counters of the zones
of one name, in order; the zones of a plan are distinct, so each name sees one reservation and one
release.
-/

namespace TicketBooking

open FirstFit GroupCount ListUpdate StepSystem

/-! ## The counters of one name -/

/-- The counters of the zones of this name, in the order of the document. -/
def Catalog.countersOf (c : Catalog) (oid : ObjectId) (name : String) : List ℤ :=
  ((c.find? oid).map fun d => (d.zones.filter fun z => z.name = name).map Zone.bookedCount).getD []

section CountersOf

variable {c c' : Catalog} {oid oid' : ObjectId} {name name' : String}

theorem Catalog.countersOf_incBooked_self (c : Catalog) (oid : ObjectId) (name : String)
    (guard : ℤ → Bool) (delta : ℤ) : (c.incBooked oid name guard delta).countersOf oid name =
      updateFirst guard (· + delta) (c.countersOf oid name) := by
  rw [countersOf, find?_incBooked, countersOf]
  cases found : c.find? oid with
  | none => rfl
  | some d =>
    simp only [Option.map_some, c.find?_id found, if_true, Option.getD_some, EventDoc.incBooked]
    exact map_filter_updateFirst (q := fun z => z.name = name) (f := Zone.inc delta)
      (v := Zone.bookedCount) (g := (· + delta)) (fun z => rfl) (fun z => rfl)
        (fun z => rfl) d.zones

theorem Catalog.countersOf_incBooked_other (c : Catalog) (guard : ℤ → Bool) (delta : ℤ)
    (other : (oid', name') ≠ (oid, name)) :
    (c.incBooked oid name guard delta).countersOf oid' name' = c.countersOf oid' name' := by
  rw [countersOf, find?_incBooked, countersOf]
  cases found : c.find? oid' with
  | none => rfl
  | some d =>
    simp only [Option.map_some, Option.getD_some]
    split
    · rename_i sameDoc
      have differentName : name' ≠ name := fun same =>
        other (by rw [same, ← sameDoc, c.find?_id found])
      have unseen : ∀ zones : List Zone,
          (updateFirst (Zone.matches name guard) (Zone.inc delta) zones).filter
            (fun z => z.name = name') = zones.filter fun z => z.name = name' := by
        intro zones
        induction zones with
        | nil => rfl
        | cons z zones ih =>
          rw [updateFirst]
          cases matched : z.matches name guard with
          | true =>
            simp only [Zone.matches, Bool.and_eq_true, decide_eq_true_eq] at matched
            have miss : z.name ≠ name' := fun same => differentName (same.symm.trans matched.1)
            simp [miss]
          | false => simp [List.filter_cons, ih]
      rw [EventDoc.incBooked, unseen]
    · rfl

theorem Catalog.head?_countersOf (c : Catalog) (oid : ObjectId) (name : String) :
    (c.countersOf oid name).head? = (c.zone? oid name).map Zone.bookedCount := by
  rw [countersOf, zone?]
  cases c.find? oid with
  | none => rfl
  | some d => simp [List.head?_map, List.head?_filter, EventDoc.zone?]

theorem Catalog.modifiedCount_ne_zero_iff {guard : ℤ → Bool} {delta : ℤ} (changes : delta ≠ 0) :
    c.modifiedCount oid name guard delta ≠ 0 ↔ (c.countersOf oid name).any guard = true := by
  rw [countersOf]
  cases found : c.find? oid with
  | none =>
    have noDoc : ∀ d ∈ c.docs, d.id ≠ oid := by
      intro d mem same
      have missed := List.find?_eq_none.mp found d mem
      simp [same] at missed
    simpa [modifiedCount] using fun d mem same => absurd same (noDoc d mem)
  | some d =>
    rw [c.modifiedCount_of_find? name guard changes found, Option.map_some, Option.getD_some,
      List.any_map, List.any_filter]
    cases matched : d.zones.any (Zone.matches name guard) with
    | true => simpa [Zone.matches] using matched
    | false => simpa [Zone.matches] using matched

/-- Zones of one listing whose counters agree under every name. -/
theorem zones_eq_of_counters {zones zones' : List Zone}
    (listed : zones.map Zone.listing = zones'.map Zone.listing)
    (counters : ∀ name, (zones.filter fun z => z.name = name).map Zone.bookedCount =
      (zones'.filter fun z => z.name = name).map Zone.bookedCount) : zones = zones' := by
  induction zones generalizing zones' with
  | nil => exact (List.map_eq_nil_iff.mp listed.symm).symm
  | cons z zones ih =>
    cases zones' with
    | nil => cases listed
    | cons z' zones' =>
      obtain ⟨sameListing, rest⟩ := List.cons.inj listed
      simp only [Zone.listing, Prod.mk.injEq] at sameListing
      obtain ⟨sameName, samePrice, sameCapacity⟩ := sameListing
      have own := counters z.name
      rw [List.filter_cons_of_pos (by simp), List.filter_cons_of_pos (by simp [sameName])] at own
      obtain ⟨sameBooked, -⟩ := List.cons.inj own
      have same : z = z' := by
        cases z
        cases z'
        simp_all
      subst same
      refine congrArg (z :: ·) (ih rest fun name => ?_)
      have here := counters name
      by_cases named : z.name = name
      · rw [List.filter_cons_of_pos (by simpa using named),
          List.filter_cons_of_pos (by simpa using named)] at here
        exact (List.cons.inj here).2
      · rwa [List.filter_cons_of_neg (by simpa using named),
          List.filter_cons_of_neg (by simpa using named)] at here

/-- A catalog is its listing and its counters. -/
theorem Catalog.eq_of_countersOf (same : c.listing = c'.listing)
    (counters : ∀ oid name, c.countersOf oid name = c'.countersOf oid name) : c = c' := by
  ext1
  refine List.ext_getElem (by simpa [listing] using congrArg List.length same) fun k lt lt' => ?_
  have docs : (c.docs[k]).listing = (c'.docs[k]).listing := by
    have at_k := congrArg (·[k]?) same
    simpa [listing, lt, lt'] using at_k
  have found : c.find? (c.docs[k]).id = some c.docs[k] := c.find?_of_mem (List.getElem_mem lt)
  have ids : (c'.docs[k]).id = (c.docs[k]).id := (congrArg Prod.fst docs).symm
  have found' : c'.find? (c.docs[k]).id = some c'.docs[k] := by
    rw [← ids]
    exact c'.find?_of_mem (List.getElem_mem lt')
  have zones : (c.docs[k]).zones = (c'.docs[k]).zones := by
    refine zones_eq_of_counters (congrArg (fun l => l.2.2) docs) fun name => ?_
    have both := counters (c.docs[k]).id name
    rwa [countersOf, countersOf, found, found', Option.map_some, Option.getD_some, Option.map_some,
      Option.getD_some] at both
  have titles : (c.docs[k]).title = (c'.docs[k]).title := congrArg (fun l => l.2.1) docs
  cases doc : c.docs[k]
  cases doc' : c'.docs[k]
  simp_all

end CountersOf

/-! ## Updates of distinct zones -/

/-- One conditional update of a counter. -/
structure CounterUpdate where
  zone : ObjectId × String
  guard : ℤ → Bool
  delta : ℤ

def Catalog.update (c : Catalog) (u : CounterUpdate) : Catalog :=
  c.incBooked u.zone.1 u.zone.2 u.guard u.delta

def Catalog.updateAll (c : Catalog) (us : List CounterUpdate) : Catalog := us.foldl Catalog.update c

def ZoneRequest.zone (r : ZoneRequest) : ObjectId × String := (r.eventOid, r.zoneName)

/-- The update that reserves. -/
def ZoneRequest.taking (r : ZoneRequest) : CounterUpdate := ⟨r.zone, r.hasRoom, r.quantity⟩

/-- The update that gives the reservation back. -/
def ZoneRequest.givingBack (r : ZoneRequest) : CounterUpdate := ⟨r.zone, fun _ => true, -r.quantity⟩

section UpdateAll

variable {c : Catalog} {us : List CounterUpdate}

@[simp] theorem Catalog.updateAll_nil (c : Catalog) : c.updateAll [] = c := rfl

theorem Catalog.updateAll_concat (c : Catalog) (us : List CounterUpdate) (u : CounterUpdate) :
    c.updateAll (us ++ [u]) = (c.updateAll us).update u := by
  simp [updateAll]

theorem Catalog.listing_updateAll (c : Catalog) (us : List CounterUpdate) :
    (c.updateAll us).listing = c.listing := by
  induction us generalizing c with
  | nil => rfl
  | cons u us ih => exact (ih (c.update u)).trans (c.listing_incBooked _ _ _ _)

theorem Catalog.countersOf_updateAll_other {oid : ObjectId} {name : String}
    (other : ∀ u ∈ us, (oid, name) ≠ u.zone) :
    (c.updateAll us).countersOf oid name = c.countersOf oid name := by
  induction us generalizing c with
  | nil => rfl
  | cons u us ih =>
    calc ((c.update u).updateAll us).countersOf oid name
        = (c.update u).countersOf oid name := ih fun u' mem => other u' (List.mem_cons_of_mem u mem)
      _ = c.countersOf oid name := countersOf_incBooked_other c _ _ (other u List.mem_cons_self)

theorem Catalog.countersOf_updateAll_mem (distinct : (us.map CounterUpdate.zone).Nodup)
    {u : CounterUpdate} (mem : u ∈ us) :
    (c.updateAll us).countersOf u.zone.1 u.zone.2 =
      updateFirst u.guard (· + u.delta) (c.countersOf u.zone.1 u.zone.2) := by
  induction us generalizing c with
  | nil => cases mem
  | cons u' us ih =>
    rw [List.map_cons, List.nodup_cons] at distinct
    rcases List.mem_cons.mp mem with rfl | later
    · have others : ∀ u' ∈ us, (u.zone.1, u.zone.2) ≠ u'.zone := fun u' mem' same =>
        distinct.1 (List.mem_map.mpr ⟨u', mem', same.symm⟩)
      exact (countersOf_updateAll_other others).trans (countersOf_incBooked_self c _ _ _ _)
    · have other : (u.zone.1, u.zone.2) ≠ (u'.zone.1, u'.zone.2) := fun same =>
        distinct.1 (List.mem_map.mpr ⟨u, later, same⟩)
      exact (ih (c := c.update u') distinct.2 later).trans
        (congrArg _ (countersOf_incBooked_other c _ _ other))

end UpdateAll

/-- The update of the request changes a counter. -/
def Catalog.Modifies (c : Catalog) (r : ZoneRequest) : Prop :=
  c.modifiedCount r.eventOid r.zoneName r.hasRoom r.quantity ≠ 0

/-- The first zone of the name has room for the request. -/
def Catalog.FirstHasRoom (c : Catalog) (r : ZoneRequest) : Prop :=
  (c.zone? r.eventOid r.zoneName).any (fun z => r.hasRoom z.bookedCount) = true

instance (c : Catalog) (r : ZoneRequest) : Decidable (c.Modifies r) :=
  inferInstanceAs (Decidable (_ ≠ _))

instance (c : Catalog) (r : ZoneRequest) : Decidable (c.FirstHasRoom r) :=
  inferInstanceAs (Decidable (_ = true))

section Restored

variable {c c' : Catalog} {r : ZoneRequest}

theorem Catalog.modifies_iff (positive : 0 < r.quantity) :
    c.Modifies r ↔ (c.countersOf r.eventOid r.zoneName).any r.hasRoom = true :=
  modifiedCount_ne_zero_iff (by omega)

theorem Catalog.firstHasRoom_iff :
    c.FirstHasRoom r ↔ (c.countersOf r.eventOid r.zoneName).head?.any r.hasRoom = true := by
  rw [FirstHasRoom, head?_countersOf, Option.any_map]

/-- Requests for other zones do not matter to either. -/
theorem Catalog.countersOf_taken {taken : List ZoneRequest}
    (other : r.zone ∉ taken.map ZoneRequest.zone) :
    (c.updateAll (taken.map ZoneRequest.taking)).countersOf r.eventOid r.zoneName =
      c.countersOf r.eventOid r.zoneName := by
  refine countersOf_updateAll_other fun u mem same => ?_
  obtain ⟨r', inTaken, rfl⟩ := List.mem_map.mp mem
  exact other (List.mem_map.mpr ⟨r', inTaken, same.symm⟩)

/-- Nor do the releases of others. -/
theorem Catalog.countersOf_untouched {back : List ZoneRequest} {zone : ObjectId × String}
    (other : ∀ r ∈ back, r.zone ≠ zone) :
    (c.updateAll (back.map ZoneRequest.givingBack)).countersOf zone.1 zone.2 =
      c.countersOf zone.1 zone.2 := by
  refine countersOf_updateAll_other fun u mem same => ?_
  obtain ⟨r, inBack, rfl⟩ := List.mem_map.mp mem
  exact other r inBack same.symm

theorem Catalog.countersOf_reserved {taken : List ZoneRequest}
    (distinct : (taken.map ZoneRequest.zone).Nodup) (mem : r ∈ taken) :
    (c.updateAll (taken.map ZoneRequest.taking)).countersOf r.eventOid r.zoneName =
      updateFirst r.hasRoom (· + (r.quantity : ℤ)) (c.countersOf r.eventOid r.zoneName) := by
  have zones : ((taken.map ZoneRequest.taking).map CounterUpdate.zone).Nodup := by
    rw [List.map_map]
    exact distinct
  exact countersOf_updateAll_mem (u := r.taking) zones (List.mem_map_of_mem mem)

theorem Catalog.countersOf_released {back : List ZoneRequest}
    (distinct : (back.map ZoneRequest.zone).Nodup) (mem : r ∈ back) :
    (c.updateAll (back.map ZoneRequest.givingBack)).countersOf r.eventOid r.zoneName =
      updateFirst (fun _ => true) (· + -(r.quantity : ℤ))
        (c.countersOf r.eventOid r.zoneName) := by
  have zones : ((back.map ZoneRequest.givingBack).map CounterUpdate.zone).Nodup := by
    rw [List.map_map]
    exact distinct
  exact countersOf_updateAll_mem (u := r.givingBack) zones (List.mem_map_of_mem mem)

/-- **When the releases restore the counters.**  The server applied the reservations of `taken` and
`lost`, and those of `taken` are given back. -/
theorem Catalog.restored_iff {taken lost : List ZoneRequest}
    (distinct : ((taken ++ lost).map ZoneRequest.zone).Nodup)
    (positive : ∀ r ∈ taken ++ lost, 0 < r.quantity)
    (modifies : ∀ r ∈ taken ++ lost, c.Modifies r) :
    (c.updateAll ((taken ++ lost).map ZoneRequest.taking)).updateAll
        (taken.map ZoneRequest.givingBack) = c ↔
      lost = [] ∧ ∀ r ∈ taken, c.FirstHasRoom r := by
  have apart := List.nodup_append.mp (List.map_append ▸ distinct)
  have matched : ∀ r ∈ taken ++ lost, (c.countersOf r.eventOid r.zoneName).any r.hasRoom = true :=
    fun r mem => (modifies_iff (positive r mem)).mp (modifies r mem)
  have released : ∀ r ∈ taken,
      ((c.updateAll ((taken ++ lost).map ZoneRequest.taking)).updateAll
        (taken.map ZoneRequest.givingBack)).countersOf r.eventOid r.zoneName =
        updateFirst (fun _ => true) (· + -(r.quantity : ℤ))
          (updateFirst r.hasRoom (· + (r.quantity : ℤ)) (c.countersOf r.eventOid r.zoneName)) := by
    intro r mem
    rw [countersOf_released apart.1 mem,
      countersOf_reserved distinct (List.mem_append_left lost mem)]
  constructor
  · intro restored
    constructor
    · rw [List.eq_nil_iff_forall_not_mem]
      intro r mem
      have inAll := List.mem_append_right taken mem
      have unreleased : ∀ r' ∈ taken, r'.zone ≠ r.zone := fun r' inTaken =>
        apart.2.2 _ (List.mem_map_of_mem inTaken) _ (List.mem_map_of_mem mem)
      have kept := countersOf_untouched (c := c.updateAll ((taken ++ lost).map ZoneRequest.taking))
        unreleased
      rw [restored] at kept
      have counted := kept.trans (countersOf_reserved distinct inAll)
      exact updateFirst_ne (positive r inAll) (matched r inAll) counted.symm
    · intro r mem
      have inAll := List.mem_append_left lost mem
      have back := released r mem
      rw [restored] at back
      exact firstHasRoom_iff.mpr ((takeBack_iff (positive r inAll) (matched r inAll)).mp back.symm)
  · intro ⟨noneLost, room⟩
    subst noneLost
    apply eq_of_countersOf ((listing_updateAll _ _).trans (listing_updateAll _ _))
    intro oid name
    by_cases touched : ∃ r ∈ taken, r.zone = (oid, name)
    · obtain ⟨r, mem, same⟩ := touched
      obtain ⟨rfl, rfl⟩ := Prod.mk.inj same
      have inAll := List.mem_append_left [] mem
      rw [released r mem]
      exact (takeBack_iff (positive r inAll) (matched r inAll)).mpr
        (firstHasRoom_iff.mp (room r mem))
    · have untouched : ∀ r ∈ taken, r.zone ≠ (oid, name) := fun r mem same => touched ⟨r, mem, same⟩
      refine (countersOf_untouched untouched).trans ?_
      refine countersOf_updateAll_other fun u mem same => ?_
      obtain ⟨r, inTaken, rfl⟩ := List.mem_map.mp mem
      exact untouched r (by simpa using inTaken) same.symm

end Restored

/-! ## One call -/

/-- The server applies the MongoDB update of the step. -/
def Fault.Applied : Fault → Prop
  | .mongoRaised _ applied => applied = true
  | _ => True

/-- The tables agree; a sequence never takes a value back. -/
def Postgres.SameTables (pg pg' : Postgres) : Prop :=
  { pg with orderIdsDrawn := pg'.orderIdsDrawn } = pg'

/-- The reservation that the step of the call applies, if any, is answered and goes to the first
zone of its name. -/
def CreateCall.TakesFirst (c : CreateCall) (mongo : Catalog) (fault : Fault) : Prop :=
  ∀ plan held r rest, c.pc = .reserve plan held (r :: rest) → fault.Applied → mongo.Modifies r →
    fault.MongoUp ∧ mongo.FirstHasRoom r

/-- Where a call is that found `catalog`: which reservations of its plan the server applied, and
which of them were given back.  `restores` is what decides the counters at its end. -/
inductive CompensationAt (catalog : Catalog) (restores : Prop) (mongo : Catalog) : CreatePc → Prop
  | lookup (unchanged : mongo = catalog) (met : restores) :
    CompensationAt catalog restores mongo .lookup
  | readCatalog (unchanged : mongo = catalog) (met : restores) :
    CompensationAt catalog restores mongo .readCatalog
  | reserving {plan : OrderPlan} {taken rest : List ZoneRequest}
    (zones : plan.zoneRequests = taken ++ rest) (modifies : ∀ r ∈ taken, catalog.Modifies r)
    (applied : mongo = catalog.updateAll (taken.map ZoneRequest.taking))
    (decides : restores ↔ ∀ r ∈ taken, catalog.FirstHasRoom r) :
    CompensationAt catalog restores mongo
      (.reserve plan (taken.map ZoneRequest.reservation) rest)
  | releasing {taken lost back rest : List ZoneRequest} {failure : CreateFailure}
    (distinct : ((taken ++ lost).map ZoneRequest.zone).Nodup)
    (positive : ∀ r ∈ taken ++ lost, 0 < r.quantity)
    (modifies : ∀ r ∈ taken ++ lost, catalog.Modifies r) (split : taken = back ++ rest)
    (applied : mongo = (catalog.updateAll ((taken ++ lost).map ZoneRequest.taking)).updateAll
      (back.map ZoneRequest.givingBack))
    (decides : restores ↔ lost = [] ∧ ∀ r ∈ taken, catalog.FirstHasRoom r) :
    CompensationAt catalog restores mongo (.release (rest.map ZoneRequest.reservation) failure)
  | done {outcome : CreateOutcome}
    (decides : ∀ answer, outcome = .raised answer → (mongo = catalog ↔ restores)) :
    CompensationAt catalog restores mongo (.done outcome)

section Call

variable {lower : String → String} {catalog : Catalog} {restores restores' : Prop}
  {dbs dbs' : Databases} {fault : Fault} {draw : Draw} {c c' : CreateCall} {plan : OrderPlan}
  {taken rest : List ZoneRequest} {r : ZoneRequest}

theorem OrderPlan.zoneRequests_distinct (plan : OrderPlan) :
    (plan.zoneRequests.map ZoneRequest.zone).Nodup := by
  rw [zoneRequests, List.map_map]
  exact nodup_groupCount_keys ValidatedItem.zoneOf plan.items

theorem OrderPlan.zoneRequests_positive (plan : OrderPlan) :
    ∀ r ∈ plan.zoneRequests, 0 < r.quantity :=
  fun _ mem => (plan.mem_zoneRequests (P := fun _ => True) (fun _ _ => trivial) mem).1

/-- What a call sees of the zone it reserves in next is what it found at its start. -/
theorem countersOf_next (zones : plan.zoneRequests = taken ++ r :: rest) :
    (catalog.updateAll (taken.map ZoneRequest.taking)).countersOf r.eventOid r.zoneName =
      catalog.countersOf r.eventOid r.zoneName := by
  have distinct := plan.zoneRequests_distinct
  rw [zones, List.map_append, List.map_cons, List.nodup_append] at distinct
  refine Catalog.countersOf_taken fun before => ?_
  exact distinct.2.2 _ before _ List.mem_cons_self rfl

theorem sees_next {mongo : Catalog} (zones : plan.zoneRequests = taken ++ r :: rest)
    (applied : mongo = catalog.updateAll (taken.map ZoneRequest.taking)) :
    (mongo.Modifies r ↔ catalog.Modifies r) ∧ (mongo.FirstHasRoom r ↔ catalog.FirstHasRoom r) := by
  have positive : 0 < r.quantity := plan.zoneRequests_positive r (by simp [zones])
  rw [Catalog.modifies_iff positive, Catalog.modifies_iff positive, Catalog.firstHasRoom_iff,
    Catalog.firstHasRoom_iff, applied, countersOf_next zones]
  exact ⟨Iff.rfl, Iff.rfl⟩

/-- One more reservation is applied. -/
theorem applied_concat {mongo : Catalog}
    (applied : mongo = catalog.updateAll (taken.map ZoneRequest.taking)) :
    mongo.incBooked r.eventOid r.zoneName r.hasRoom r.quantity =
      catalog.updateAll ((taken ++ [r]).map ZoneRequest.taking) := by
  rw [List.map_append, List.map_singleton, Catalog.updateAll_concat, ← applied]
  rfl

/-- The call gives up with these reservations applied. -/
theorem CompensationAt.give_up {mongo : Catalog} (taken lost rest : List ZoneRequest)
    (zones : plan.zoneRequests = taken ++ lost ++ rest)
    (modifies : ∀ r ∈ taken ++ lost, catalog.Modifies r)
    (applied : mongo = catalog.updateAll ((taken ++ lost).map ZoneRequest.taking))
    (decides : restores ↔ lost = [] ∧ ∀ r ∈ taken, catalog.FirstHasRoom r)
    (failure : CreateFailure) :
    CompensationAt catalog restores mongo
      (.release (taken.map ZoneRequest.reservation) failure) := by
  have distinct := plan.zoneRequests_distinct
  rw [zones, List.map_append] at distinct
  have positive : ∀ r ∈ taken ++ lost, 0 < r.quantity := fun r mem =>
    plan.zoneRequests_positive r (zones ▸ List.mem_append_left rest mem)
  have nothingBack : taken = [] ++ taken := rfl
  exact .releasing distinct.of_append_left positive modifies nothingBack applied decides

/-- It gives up knowing all of them. -/
theorem CompensationAt.abandon {mongo : Catalog} {held : List Reservation}
    (position : CompensationAt catalog restores mongo (.reserve plan held rest))
    (failure : CreateFailure) :
    CompensationAt catalog restores mongo (.release held failure) := by
  cases position with
  | @reserving _ taken _ zones modifies applied decides =>
    exact .give_up taken [] rest (by simpa using zones) (by simpa using modifies)
      (by simpa using applied) (by simpa using decides) failure

/-- The next reservation is applied and answered. -/
theorem CompensationAt.reserve {mongo : Catalog} {held : List Reservation}
    (position : CompensationAt catalog restores mongo (.reserve plan held (r :: rest)))
    (modified : mongo.Modifies r) :
    CompensationAt catalog (restores ∧ mongo.FirstHasRoom r)
      (mongo.incBooked r.eventOid r.zoneName r.hasRoom r.quantity)
      (.reserve plan (held ++ [r.reservation]) rest) := by
  cases position with
  | @reserving _ taken _ zones modifies applied decides =>
    obtain ⟨modifiesNext, roomNext⟩ := sees_next zones applied
    have zones' : plan.zoneRequests = (taken ++ [r]) ++ rest := by simp [zones]
    have modifies' : ∀ r' ∈ taken ++ [r], catalog.Modifies r' :=
      List.forall_mem_append.mpr ⟨modifies, by simpa using modifiesNext.mp modified⟩
    have decides' : restores ∧ mongo.FirstHasRoom r ↔
        ∀ r' ∈ taken ++ [r], catalog.FirstHasRoom r' := by
      rw [decides, roomNext, List.forall_mem_append, List.forall_mem_singleton]
    have goes := CompensationAt.reserving zones' modifies' (applied_concat applied) decides'
    rw [List.map_append] at goes
    exact goes

/-- The next reservation is applied, but the call does not learn it and gives up. -/
theorem CompensationAt.lose {mongo : Catalog} {held : List Reservation}
    (position : CompensationAt catalog restores mongo (.reserve plan held (r :: rest)))
    (modified : mongo.Modifies r) (unanswered : ¬ restores') (failure : CreateFailure) :
    CompensationAt catalog restores'
      (mongo.incBooked r.eventOid r.zoneName r.hasRoom r.quantity) (.release held failure) := by
  cases position with
  | @reserving _ taken _ zones modifies applied decides =>
    have zones' : plan.zoneRequests = taken ++ [r] ++ rest := by simp [zones]
    have modifies' : ∀ r' ∈ taken ++ [r], catalog.Modifies r' :=
      List.forall_mem_append.mpr ⟨modifies, by simpa using (sees_next zones applied).1.mp modified⟩
    exact .give_up taken [r] rest zones' modifies' (applied_concat applied) (by simp [unanswered])
      failure

/-- A reservation that modifies nothing leaves the catalog as it is. -/
theorem CompensationAt.unmodified {mongo : Catalog} {held : List Reservation}
    (position : CompensationAt catalog restores mongo (.reserve plan held (r :: rest)))
    (unmodified : ¬ mongo.Modifies r) :
    mongo.incBooked r.eventOid r.zoneName r.hasRoom r.quantity = mongo := by
  cases position with
  | @reserving _ taken _ zones modifies applied decides =>
    have positive : 0 < r.quantity := plan.zoneRequests_positive r (by simp [zones])
    apply Catalog.incBooked_unmodified
    · omega
    · exact not_not.mp unmodified

/-- One reservation is given back. -/
theorem CompensationAt.give_back {mongo : Catalog} {back : Reservation} {held : List Reservation}
    {failure : CreateFailure}
    (position : CompensationAt catalog restores mongo (.release (back :: held) failure)) :
    CompensationAt catalog restores
      (mongo.incBooked back.eventOid back.zoneName (fun _ => true) (-back.quantity))
      (.release held failure) := by
  generalize at_pc : CreatePc.release (back :: held) failure = pc at position
  cases position with
  | @releasing taken lost before rest _ distinct positive modifies split applied decides =>
    cases rest with
    | nil => cases at_pc
    | cons r rest =>
      cases at_pc
      have split' : taken = (before ++ [r]) ++ rest := by simp [split]
      have released : mongo.incBooked r.eventOid r.zoneName (fun _ => true) (-r.quantity) =
          (catalog.updateAll ((taken ++ lost).map ZoneRequest.taking)).updateAll
            ((before ++ [r]).map ZoneRequest.givingBack) := by
        have oneMore : (before ++ [r]).map ZoneRequest.givingBack =
          before.map ZoneRequest.givingBack ++ [r.givingBack] := by simp
        rw [oneMore, Catalog.updateAll_concat, ← applied]
        rfl
      exact .releasing distinct positive modifies split' released decides
  | lookup | readCatalog | reserving | done => cases at_pc

/-- At its end the call has restored the catalog or not, as decided by its reservations. -/
theorem CompensationAt.settled {mongo : Catalog} {failure : CreateFailure}
    (position : CompensationAt catalog restores mongo (.release [] failure)) :
    mongo = catalog ↔ restores := by
  generalize at_pc : CreatePc.release [] failure = pc at position
  cases position with
  | @releasing taken lost back rest _ distinct positive modifies split applied decides =>
    cases rest with
    | cons r rest => cases at_pc
    | nil =>
      rw [List.append_nil] at split
      subst split
      rw [applied, decides]
      exact Catalog.restored_iff distinct positive modifies
  | lookup | readCatalog | reserving | done => cases at_pc

theorem CreateCall.Ends.settles {outcome : CreateOutcome}
    (position : CompensationAt catalog restores dbs.mongo c.pc)
    (ended : c.Ends lower dbs fault outcome) : dbs.mongo = catalog ↔ restores := by
  rcases ended.ending with at_pc | at_pc | ⟨failure, at_pc⟩
  · rw [at_pc] at position
    cases position with
    | lookup unchanged met => exact iff_of_true unchanged met
  · rw [at_pc] at position
    cases position with
    | readCatalog unchanged met => exact iff_of_true unchanged met
  · rw [at_pc] at position
    exact position.settled

/-- At a reservation, `TakesFirst` is about this one. -/
theorem CreateCall.takesFirst_reserve {mongo : Catalog} {held : List Reservation}
    (at_pc : c.pc = .reserve plan held (r :: rest)) :
    c.TakesFirst mongo fault ↔
      (fault.Applied → mongo.Modifies r → fault.MongoUp ∧ mongo.FirstHasRoom r) := by
  constructor
  · intro takes
    exact takes _ _ _ _ at_pc
  · intro takes _ _ _ _ at_pc'
    cases at_pc.symm.trans at_pc'
    exact takes

/-- The driver's exception ends the reservation loop. -/
theorem CreateCall.step_raised {exc : DbExc} {applied : Bool} {held : List Reservation}
    (at_pc : c.pc = .reserve plan held (r :: rest)) (raised : fault = .mongoRaised exc applied)
    (moved : c.step lower dbs fault draw = some (dbs', c')) :
    ∃ failure, c'.pc = .release held failure := by
  simp only [step, at_pc, raised, Catalog.updateOne] at moved
  cases moved
  exact ⟨_, rfl⟩

/-- **One step**, whose release gets through. -/
theorem CreateStep.compensates (position : CompensationAt catalog restores dbs.mongo c.pc)
    (getsThrough : ∀ held failure, c.pc = .release held failure → held ≠ [] → fault.MongoUp)
    (stepped : c.step lower dbs fault draw = some (dbs', c')) :
    CompensationAt catalog (restores ∧ c.TakesFirst dbs.mongo fault) dbs'.mongo c'.pc := by
  have elsewhere : (∀ plan held r rest, c.pc ≠ .reserve plan held (r :: rest)) →
      (restores ∧ c.TakesFirst dbs.mongo fault) = restores := by
    intro other
    exact propext ⟨And.left, fun met => ⟨met, fun _ _ _ _ at_pc => absurd at_pc (other _ _ _ _)⟩⟩
  cases CreateCall.step_cases stepped with
  | ends ended =>
    rw [elsewhere fun _ _ _ _ => ended.not_reserving]
    exact .done fun _ _ => ended.settles position
  | keyFree at_pc =>
    rw [elsewhere (by simp [at_pc])]
    rw [at_pc] at position
    cases position with
    | lookup unchanged met => exact .readCatalog unchanged met
  | @planned plan at_pc =>
    rw [elsewhere (by simp [at_pc])]
    rw [at_pc] at position
    cases position with
    | readCatalog unchanged met =>
      have nothingTaken : plan.zoneRequests = [] ++ plan.zoneRequests := rfl
      exact .reserving nothingTaken (by simp) unchanged (by simp [met])
  | @reserved plan held r rest at_pc modified =>
    have up : fault.MongoUp := by
      cases fault with
      | mongoRaised exc applied =>
        obtain ⟨failure, at_pc'⟩ := CreateCall.step_raised at_pc rfl stepped
        cases at_pc'
      | none | pgRaised => trivial
    have takes : c.TakesFirst dbs.mongo fault ↔ dbs.mongo.FirstHasRoom r := by
      rw [CreateCall.takesFirst_reserve at_pc]
      constructor
      · intro takes
        have applied : fault.Applied := by cases fault <;> trivial
        exact (takes applied modified).2
      · intro room _ _
        exact ⟨up, room⟩
    rw [takes]
    rw [at_pc] at position
    exact position.reserve modified
  | @soldOut plan held r rest at_pc none =>
    have unmodified : ¬ dbs.mongo.Modifies r := not_not.mpr none
    have vacuous : c.TakesFirst dbs.mongo fault :=
      (CreateCall.takesFirst_reserve at_pc).mpr fun _ modified => absurd modified unmodified
    rw [and_iff_left vacuous |> propext]
    rw [at_pc] at position
    rw [position.unmodified unmodified]
    exact position.abandon _
  | @reserveRaised plan held r rest exc applied at_pc raised =>
    have takesFirst : c.TakesFirst dbs.mongo fault ↔ (fault.Applied → dbs.mongo.Modifies r →
        fault.MongoUp ∧ dbs.mongo.FirstHasRoom r) := CreateCall.takesFirst_reserve at_pc
    rw [at_pc] at position
    rw [raised] at takesFirst ⊢
    by_cases leaks : applied = true ∧ dbs.mongo.Modifies r
    · obtain ⟨reached, modified⟩ := leaks
      rw [if_pos reached]
      refine position.lose modified (fun both => ?_) _
      exact (takesFirst.mp both.2 reached modified).1
    · have vacuous : c.TakesFirst dbs.mongo (.mongoRaised exc applied) :=
        takesFirst.mpr fun reached modified => absurd ⟨reached, modified⟩ leaks
      have unchanged : (if applied then
          dbs.mongo.incBooked r.eventOid r.zoneName r.hasRoom r.quantity else dbs.mongo) =
            dbs.mongo := by
        split
        · rename_i reached
          exact position.unmodified fun modified => leaks ⟨reached, modified⟩
        · rfl
      rw [and_iff_left vacuous |> propext, unchanged]
      exact position.abandon _
  | committed at_pc => exact .done fun _ raised => by cases raised
  | aborted at_pc | replyLost at_pc =>
    rw [elsewhere (by simp [at_pc])]
    rw [at_pc] at position
    exact position.abandon _
  | @gaveBack r rest failure applied at_pc cause =>
    rw [elsewhere (by simp [at_pc])]
    have reached : applied = true := by
      rcases cause with reached | ⟨exc, raised⟩
      · exact reached
      · have up := getsThrough _ _ at_pc (by simp)
        rw [raised] at up
        exact up.elim
    rw [if_pos reached]
    rw [at_pc] at position
    exact position.give_back

/-- A step whose COMMIT, if any, is answered keeps the tables unless it creates the order. -/
theorem CreateStep.keepsTables (moved : CreateStep lower dbs fault draw c dbs' c')
    (replied : ∀ plan held pg', c.pc = .reserve plan held [] →
      createTx (dbs.pg.drawOrderId draw.orderId) c.orderIn c.idempotencyKey plan draw = .ok pg' →
      fault.ReplyReceived)
    (notCreated : ∀ order tickets, c'.pc ≠ .done (.created order tickets)) :
    { dbs.pg with orderIdsDrawn := dbs'.pg.orderIdsDrawn } = dbs'.pg := by
  cases moved with
  | ends | keyFree | planned | reserved | soldOut | reserveRaised | gaveBack => rfl
  | committed => exact absurd rfl (notCreated _ _)
  | aborted => rfl
  | replyLost at_pc _ lost statements =>
    have received := replied _ _ _ at_pc statements
    rw [lost] at received
    cases received

end Call

/-! ## A call that runs alone -/

/-- The create call `i` is about to give a reservation back. -/
def State.givingBack (s : State) (i : ℕ) : Bool :=
  match s.calls[i]? with
  | some (.create c) =>
    match c.pc with
    | .release (_ :: _) _ => true
    | _ => false
  | _ => false

/-- The release updates succeed. -/
def ReleaseGetsThrough (s : State) : Action → Prop
  | .step i fault _ => s.givingBack i = true → fault.MongoUp
  | _ => True

instance (s : State) : (a : Action) → Decidable (ReleaseGetsThrough s a)
  | .step i fault _ => inferInstanceAs (Decidable (s.givingBack i = true → fault.MongoUp))
  | .spawn _ | .crash _ => inferInstanceAs (Decidable True)

/-- A reservation that the server applies is answered and goes to the first zone of its name. -/
def TakesFirst (s : State) : Action → Prop
  | .step i fault _ => ∀ r ∈ s.reserving i, fault.Applied → s.dbs.mongo.Modifies r →
      fault.MongoUp ∧ s.dbs.mongo.FirstHasRoom r
  | _ => True

instance : (fault : Fault) → Decidable fault.Applied
  | .mongoRaised _ applied => inferInstanceAs (Decidable (applied = true))
  | .none | .pgRaised _ _ => inferInstanceAs (Decidable True)

instance (s : State) : (a : Action) → Decidable (TakesFirst s a)
  | .step i fault _ => inferInstanceAs (Decidable (∀ r ∈ s.reserving i, fault.Applied →
      s.dbs.mongo.Modifies r → fault.MongoUp ∧ s.dbs.mongo.FirstHasRoom r))
  | .spawn _ | .crash _ => inferInstanceAs (Decidable True)

section Alone

variable {cfg : Config} {s t : State} {i : ℕ} {c c' : CreateCall} {fault : Fault} {draw : Draw}

theorem takesFirst_iff (at_i : s.calls[i]? = some (.create c)) :
    TakesFirst s (.step i fault draw) ↔ c.TakesFirst s.dbs.mongo fault := by
  constructor
  · intro takes plan held r rest at_pc
    exact takes r (State.reserving_of_pc at_i at_pc)
  · intro takes r reserving
    simp only [State.reserving, at_i, Option.mem_def] at reserving
    split at reserving
    · cases reserving
      exact takes _ _ _ _ ‹_›
    · cases reserving

/-- Where the call of the run is, and what it has done to the tables. -/
def State.Compensating (s : State) (i : ℕ) (u : State) (restores : Prop) : Prop :=
  ∃ c, u.calls[i]? = some (.create c) ∧ CompensationAt s.dbs.mongo restores u.dbs.mongo c.pc ∧
    ((∀ order tickets, c.pc ≠ .done (.created order tickets)) →
      s.dbs.pg.SameTables u.dbs.pg)

theorem State.Compensating.step {u u' : State} {restores : Prop} {p : Fault × Draw}
    (compensating : s.Compensating i u restores)
    (allowed : CommitReplyReceived u (.step i p.1 p.2) ∧ ReleaseGetsThrough u (.step i p.1 p.2))
    (moved : TicketBooking.step cfg u (.step i p.1 p.2) = some u') :
    s.Compensating i u' (restores ∧ TakesFirst u (.step i p.1 p.2)) := by
  obtain ⟨c, at_i, position, tables⟩ := compensating
  obtain ⟨received, getsThrough⟩ := allowed
  obtain ⟨⟨dbs', call'⟩, bound, rfl⟩ := Option.map_eq_some_iff.mp moved
  rw [at_i, Option.bind_some] at bound
  obtain ⟨⟨dbs'', c'⟩, stepped, same⟩ := Option.map_eq_some_iff.mp bound
  cases same
  refine ⟨c', getElem?_set_self _ at_i, ?_, fun notCreated => ?_⟩
  · rw [propext (takesFirst_iff at_i)]
    refine CreateStep.compensates position (fun held failure at_pc nonempty => ?_) stepped
    refine getsThrough ?_
    obtain ⟨r, rest, rfl⟩ := List.exists_cons_of_ne_nil nonempty
    simp [State.givingBack, at_i, at_pc]
  · have kept := (CreateCall.step_cases stepped).keepsTables
      (fun plan held pg' at_pc statements => received (c, plan)
        (State.committing_eq_some.mpr ⟨at_i, held, at_pc⟩) (by rw [statements]; rfl)) notCreated
    have running := (CreateCall.step_cases stepped).running.2
    have before := tables fun order ts => running _
    unfold Postgres.SameTables at before ⊢
    rw [← kept, ← before]

/-- **When compensation is exact.**  A create call that runs alone, whose release updates succeed
and whose PostgreSQL errors saved nothing, and that is answered with an error, wherever it failed:
the tables are as they were, and the catalog is exactly when every reservation that the server
applied was answered and went to the first zone of its name. -/
theorem compensation_exact_iff (at_i : s.calls[i]? = some (.create c)) (at_pc : c.pc = .lookup)
    {steps : List (Fault × Draw)} (executed : run (step cfg) s (alone i steps) = some t)
    (meet : StepsMeet (step cfg) s (alone i steps) fun s a =>
      CommitReplyReceived s a ∧ ReleaseGetsThrough s a)
    (at_i' : t.calls[i]? = some (.create c')) {answer : HttpException}
    (failed : c'.pc = .done (.raised answer)) :
    s.dbs.pg.SameTables t.dbs.pg ∧
      (t.dbs.mongo = s.dbs.mongo ↔ StepsMeet (step cfg) s (alone i steps) TakesFirst) := by
  have compensating : s.Compensating i t (StepsMeet (step cfg) s (alone i steps) TakesFirst) := by
    refine run_accumulates (I := s.Compensating i) ⟨c, at_i, ?_, fun _ => rfl⟩ ?_ meet executed
    · rw [at_pc]
      exact .lookup rfl trivial
    · intro u a u' restores mem before allowed moved
      obtain ⟨p, -, rfl⟩ := List.mem_map.mp mem
      exact before.step allowed moved
  obtain ⟨c'', at_i'', position, tables⟩ := compensating
  cases at_i'.symm.trans at_i''
  have notCreated : ∀ order tickets, c'.pc ≠ .done (.created order tickets) := by
    intro order tickets created
    cases failed.symm.trans created
  refine ⟨tables notCreated, ?_⟩
  rw [failed] at position
  cases position with
  | done decides => exact decides answer rfl

end Alone

/-- An order whose transaction is aborted. -/
def abortedOrder : List (Fault × Draw) :=
  List.replicate 3 (.none, Sample.draw 1) ++ (.pgRaised brokenConnection false, Sample.draw 1) ::
    List.replicate 2 (.none, Sample.draw 1)

theorem aborted_order_compensated :
    ∃ s t, step Sample.cfg (Sample.start Sample.floor) (.spawn (.createOrder Sample.order none)) =
        some s ∧ run (step Sample.cfg) s (alone 0 abortedOrder) = some t ∧
      s.dbs.pg.SameTables t.dbs.pg ∧ t.dbs.mongo = s.dbs.mongo := by
  obtain ⟨t, checked⟩ := Option.isSome_iff_exists.mp (show ((checkedRun (step Sample.cfg)
    (fun s a => (CommitReplyReceived s a ∧ ReleaseGetsThrough s a) ∧ TakesFirst s a)
    ⟨(Sample.start Sample.floor).dbs, [.create (.start Sample.order none)]⟩
    (alone 0 abortedOrder)).filter fun t => t.calls[0]? = some (.create ⟨Sample.order, none, some 1,
      .done (.raised unavailableException)⟩)).isSome = true by decide +kernel)
  obtain ⟨ran, facts⟩ := Option.filter_eq_some_iff.mp checked
  have meets := stepsMeet_of_checkedRun ran
  obtain ⟨tables, exact⟩ := compensation_exact_iff (c := .start Sample.order none) rfl rfl
    (run_of_checkedRun ran) (fun before a isPrefix u ran' => (meets before a isPrefix u ran').1)
    (of_decide_eq_true facts) rfl
  exact ⟨_, t, rfl, run_of_checkedRun ran, tables,
    exact.mpr fun before a isPrefix u ran' => (meets before a isPrefix u ran').2⟩

/-- **The seat goes back to the wrong zone.**  The first of two zones of one name is full, the
reservation went to the second, and the release takes a seat from the first. -/
theorem twin_zone_miscounted :
    ((run (step Sample.cfg) (Sample.twinStart Sample.soldOutZone Sample.floor)
        (.spawn (.createOrder Sample.order none) :: alone 0 abortedOrder)).map fun t =>
      (t.calls, t.dbs.mongo.docs.map fun d => d.zones.map Zone.bookedCount)) =
      some ([.create ⟨Sample.order, none, some 1, .done (.raised unavailableException)⟩],
        [[0, 1]]) ∧
    ((Sample.twinStart Sample.soldOutZone Sample.floor).dbs.mongo.docs.map fun d =>
      d.zones.map Zone.bookedCount) = [[1, 0]] := by
  constructor <;> decide +kernel

end TicketBooking
