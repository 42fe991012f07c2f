import TicketBooking.System

/-!
# What validation hands on

`planOrder` reads the catalog only through its listing, so a plan made early is the plan that would
be made at any later time.

* `validateItem_ok_iff` and `planOrder_ok` say what a validated item and a plan are.
* `OrderPlan.sum_zoneRequests`: the requested quantities are the numbers of tickets.
* `Reachable.listing` and `Reachable.planned` are the run lemmas: no step changes the listing, and a
  call in its reservation loop holds a plan of the catalog, split into the zones taken and the rest.
-/

namespace TicketBooking

open Fallible GroupCount ListUpdate StepSystem

/-! ## Validated items -/

theorem validateItem_ok_iff {lower : String → String} {catalog : Catalog} {item : TicketItemCreate}
    {v : ValidatedItem} : validateItem lower catalog item = .ok v ↔
      ObjectId.ofString? item.eventId = some v.eventOid ∧ ∃ d z,
        catalog.find? v.eventOid = some d ∧
        (d.zones.find? fun z => zoneKey lower z.name = zoneKey lower item.seatZone) = some z ∧
        v = ⟨v.eventOid, d.title, z.name, normaliseSeat item.seatNumber, z.price, z.capacity⟩ := by
  unfold validateItem
  constructor
  · intro validated
    split at validated
    case h_1 => cases validated
    case h_2 oid parsed =>
      split at validated
      case h_1 => cases validated
      case h_2 d found =>
        split at validated
        case h_1 => cases validated
        case h_2 z matched =>
          cases validated
          exact ⟨parsed, d, z, found, matched, rfl⟩
  · rintro ⟨parsed, d, z, found, matched, same⟩
    rw [parsed]
    simp only [found, matched]
    rw [same]

/-- The zone of a validated item: its name determines it, and it is the first of its spellings. -/
structure ValidatedItem.Listed (lower : String → String) (catalog : Catalog) (v : ValidatedItem) :
    Prop where
  zone : ∃ z, catalog.zone? v.eventOid v.seatZone = some z ∧ z.price = v.price ∧
    z.capacity = v.capacity
  firstSpelling : ∃ d z, catalog.find? v.eventOid = some d ∧
    (d.zones.find? fun z => zoneKey lower z.name = zoneKey lower v.seatZone) = some z ∧
    z.name = v.seatZone
  seat : ∀ n, v.seatNumber = some n → strip n = n ∧ n ≠ ""

theorem normaliseSeat_eq_some {raw : Option String} {n : String}
    (seat : normaliseSeat raw = some n) : strip n = n ∧ n ≠ "" := by
  unfold normaliseSeat at seat
  dsimp only at seat
  split at seat
  case isTrue => cases seat
  case isFalse nonempty =>
    cases seat
    exact ⟨strip_strip _, nonempty⟩

theorem validateItem_listed {lower : String → String} {catalog : Catalog} {item : TicketItemCreate}
    {v : ValidatedItem} (validated : validateItem lower catalog item = .ok v) :
    v.Listed lower catalog := by
  obtain ⟨-, d, z, found, matched, same⟩ := validateItem_ok_iff.mp validated
  have sameKey : zoneKey lower z.name = zoneKey lower item.seatZone := by
    simpa using List.find?_some matched
  have name : v.seatZone = z.name := by rw [same]
  refine ⟨⟨z, ?_, by rw [same], by rw [same]⟩, ⟨d, z, found, ?_, name.symm⟩, fun n seat => ?_⟩
  · rw [Catalog.zone?, found, name]
    refine find?_narrow matched (by simp) fun b named => ?_
    simp only [decide_eq_true_eq] at named ⊢
    rw [named, sameKey]
  · rw [name, sameKey]
    exact matched
  · have normalised : v.seatNumber = normaliseSeat item.seatNumber := by rw [same]
    exact normaliseSeat_eq_some (normalised.symm.trans seat)

/-! ## Plans -/

theorem planOrder_ok {lower : String → String} {catalog : Catalog} {orderIn : OrderCreate}
    {plan : OrderPlan} (planned : planOrder lower catalog orderIn = .ok plan) :
    ∃ validated,
      List.Forall₂ (fun i v => validateItem lower catalog i = .ok v) orderIn.items validated ∧
      plan.items = validated.insertionSort (fun a b => lockOrderKey a ≤ lockOrderKey b) ∧
      plan.totalAmount = (validated.map ValidatedItem.price).foldl decimalAdd 0 := by
  obtain ⟨validated, each, rfl⟩ := map_ok_iff.mp planned
  exact ⟨validated, mapM_ok_iff.mp each, rfl, rfl⟩

/-- What holds of each validated item of the request holds of each item of the plan. -/
theorem planOrder_forall {lower : String → String} {catalog : Catalog} {orderIn : OrderCreate}
    {plan : OrderPlan} {P : ValidatedItem → Prop}
    (planned : planOrder lower catalog orderIn = .ok plan)
    (each : ∀ i v, i ∈ orderIn.items → validateItem lower catalog i = .ok v → P v) :
    ∀ v ∈ plan.items, P v := by
  obtain ⟨validated, turns, items, -⟩ := planOrder_ok planned
  intro v mem
  rw [items, List.mem_insertionSort] at mem
  obtain ⟨k, at_k⟩ := List.mem_iff_getElem?.mp mem
  have bound : k < validated.length := (List.getElem?_eq_some_iff.mp at_k).1
  have sameLength := turns.length_eq
  have turn := turns.get (i := k) (by omega) bound
  have itself : validated.get ⟨k, bound⟩ = v := (List.getElem?_eq_some_iff.mp at_k).2
  rw [itself] at turn
  exact each _ v (List.get_mem _ _) turn

theorem planOrder_listed {lower : String → String} {catalog : Catalog} {orderIn : OrderCreate}
    {plan : OrderPlan} (planned : planOrder lower catalog orderIn = .ok plan) :
    ∀ v ∈ plan.items, v.Listed lower catalog :=
  planOrder_forall planned fun _ _ _ => validateItem_listed

theorem validateItem_listing {lower : String → String} {c c' : Catalog}
    (same : c.listing = c'.listing) (item : TicketItemCreate) :
    validateItem lower c item = validateItem lower c' item := by
  unfold validateItem
  cases ObjectId.ofString? item.eventId with
  | none => rfl
  | some oid =>
    dsimp only
    rcases Fallible.map_eq_map_cases (Catalog.find?_listing same oid) with
      ⟨absent, absent'⟩ | ⟨d, d', found, found', sameDoc⟩
    · rw [absent, absent']
    · rw [found, found']
      dsimp only
      have title : d.title = d'.title := by
        simp only [EventDoc.listing, Prod.mk.injEq] at sameDoc
        exact sameDoc.2.1
      rcases Fallible.map_eq_map_cases (EventDoc.find?_zone_listing sameDoc
          fun n => zoneKey lower n = zoneKey lower item.seatZone) with
        ⟨unnamed, unnamed'⟩ | ⟨z, z', matched, matched', sameZone⟩
      · rw [unnamed, unnamed', title]
      · rw [matched, matched']
        simp only [Zone.listing, Prod.mk.injEq] at sameZone
        simp only [title, sameZone]

/-- A plan depends on the catalog only through its listing. -/
theorem planOrder_listing {lower : String → String} {c c' : Catalog}
    (same : c.listing = c'.listing) (orderIn : OrderCreate) :
    planOrder lower c orderIn = planOrder lower c' orderIn := by
  have each : validateItem lower c = validateItem lower c' :=
    funext (validateItem_listing same)
  rw [planOrder, planOrder, each]

/-! ## Zone requests -/

/-- The seats `r` takes in one zone. -/
def Reservation.seatsIn (oid : ObjectId) (name : String) (r : Reservation) : ℕ :=
  if (r.eventOid, r.zoneName) = (oid, name) then r.quantity else 0

/-- The quantities requested of one zone are the items of the plan in it. -/
theorem OrderPlan.sum_zoneRequests (plan : OrderPlan) (oid : ObjectId) (name : String) :
    ((plan.zoneRequests.map ZoneRequest.reservation).map (Reservation.seatsIn oid name)).sum =
      plan.items.countP fun v => v.zoneOf = (oid, name) := by
  rw [← sum_groupCount ValidatedItem.zoneOf (fun zone => zone = (oid, name)) plan.items,
    zoneRequests, List.map_map, List.map_map]
  congr 2
  funext g
  simp only [Function.comp_apply, Reservation.seatsIn, ZoneRequest.reservation, countFor,
    ValidatedItem.zoneOf]
  exact if_congr decide_eq_true_iff.symm rfl rfl

theorem OrderPlan.mem_zoneRequests {plan : OrderPlan} {P : ValidatedItem → Prop}
    (all : ∀ v ∈ plan.items, P v) {r : ZoneRequest} (mem : r ∈ plan.zoneRequests) :
    0 < r.quantity ∧ ∃ v, P v ∧ v.eventOid = r.eventOid ∧ v.seatZone = r.zoneName ∧
      v.capacity = r.capacity := by
  obtain ⟨g, inGroups, rfl⟩ := List.mem_map.mp mem
  obtain ⟨holds, positive⟩ := forall_groupCount all g inGroups
  exact ⟨positive, g.1, holds, rfl, rfl, rfl⟩

/-! ## Over runs -/

section Runs

variable {cfg : Config}

theorem Catalog.listing_updateOne (c : Catalog) (fault : Fault) (oid : ObjectId) (name : String)
    (guard : ℤ → Bool) (delta : ℤ) :
    (c.updateOne fault oid name guard delta).1.listing = c.listing := by
  obtain ⟨applied, after, -⟩ := c.updateOne_fst fault oid name guard delta
  rw [after]
  cases applied <;> simp

theorem listing_releaseStep (c : Catalog) (fault : Fault) (oneByOne : Bool) (g : SeatGroup)
    (rest : List SeatGroup) : (releaseStep c fault oneByOne g rest).1.listing = c.listing := by
  unfold releaseStep
  split
  case h_1 => rfl
  case h_2 oid _ =>
    split
    case isTrue =>
      split
      case h_1 => rfl
      case h_2 =>
        have kept := c.listing_updateOne fault oid g.seatZone (fun booked => 0 < booked) (-1)
        split <;> simp_all
    case isFalse =>
      have kept := c.listing_updateOne fault oid g.seatZone (fun booked => g.quantity ≤ booked)
        (-g.quantity)
      split <;> simp_all

theorem CallStep.listing {dbs dbs' : Databases} {lockedElsewhere : List ℕ} {fault : Fault}
    {draw : Draw} {call call' : Call}
    (moved : CallStep cfg dbs lockedElsewhere fault draw call dbs' call') :
    dbs'.mongo.listing = dbs.mongo.listing := by
  cases moved with
  | create moved =>
    cases moved with
    | reserved | soldOut => exact Catalog.listing_incBooked ..
    | reserveRaised | gaveBack => dsimp only; split <;> simp
    | _ => rfl
  | pay moved =>
    cases moved with
    | releases => exact listing_releaseStep ..
    | _ => rfl
  | sweep moved =>
    cases moved with
    | releases => exact listing_releaseStep ..
    | _ => rfl

/-- No action changes the catalog but for its counters. -/
theorem SystemStep.listing {s s' : State} {a : Action} (moved : SystemStep cfg s a s') :
    s'.dbs.mongo.listing = s.dbs.mongo.listing := by
  cases moved with
  | spawn => rfl
  | call at_i moved => exact moved.listing
  | crash => rfl

variable {ok : State → Action → Prop} {start s : State}

theorem listing_of_reachable (reached : Reachable (step cfg) ok start s) :
    s.dbs.mongo.listing = start.dbs.mongo.listing :=
  reached.invariant (P := fun s => s.dbs.mongo.listing = start.dbs.mongo.listing) rfl
    fun _ _ _ same _ moved => (step_cases moved).listing.trans same

/-- A call in its reservation loop: its plan is the one of the catalog, and it has taken its zones
in order up to `rest`. -/
def CreateCall.Planned (lower : String → String) (catalog : Catalog) (c : CreateCall) : Prop :=
  ∀ plan held rest, c.pc = .reserve plan held rest →
    planOrder lower catalog c.orderIn = .ok plan ∧
    ∃ taken, taken ++ rest = plan.zoneRequests ∧ held = taken.map ZoneRequest.reservation

def Call.Planned (lower : String → String) (catalog : Catalog) : Call → Prop
  | .create c => c.Planned lower catalog
  | _ => True

theorem CreateStep.keepsPlanned {dbs dbs' : Databases} {fault : Fault} {draw : Draw}
    {c c' : CreateCall} {catalog : Catalog}
    (moved : CreateStep cfg.lower dbs fault draw c dbs' c')
    (same : dbs.mongo.listing = catalog.listing) (before : c.Planned cfg.lower catalog) :
    c'.Planned cfg.lower catalog := by
  intro plan held rest at_pc
  cases moved with
  | planned _ valid =>
    cases at_pc
    rw [planOrder_listing same] at valid
    exact ⟨valid, [], rfl, rfl⟩
  | @reserved plan' held' r rest' at_pc' _ =>
    cases at_pc
    obtain ⟨valid, taken, split, rfl⟩ := before _ _ _ at_pc'
    refine ⟨valid, taken ++ [r], ?_, by simp⟩
    rw [List.append_assoc]
    exact split
  | ends | keyFree | soldOut | reserveRaised | committed | aborted | replyLost | gaveBack =>
    cases at_pc

theorem planned_of_reachable (reached : Reachable (step cfg) ok start s) (idle : start.calls = []) :
    ∀ (i : ℕ) call, s.calls[i]? = some call → Call.Planned cfg.lower start.dbs.mongo call := by
  refine forall_calls_of_reachable (Q := fun _ call => call.Planned cfg.lower start.dbs.mongo)
    reached idle ?_ ?_ ?_
  · rintro _ (_ | _ | _)
    · intro plan held rest at_pc
      cases at_pc
    · trivial
    · trivial
  · rintro _ (c | c | c) _
    · intro plan held rest at_pc
      cases at_pc
    · trivial
    · trivial
  · intro s i fault draw call dbs' call' before _ at_i planned moved
    refine ⟨?_, fun j other _ at_j => planned j other at_j⟩
    cases moved with
    | create moved => exact moved.keepsPlanned (listing_of_reachable before) (planned _ _ at_i)
    | pay | sweep => trivial

end Runs

end TicketBooking
