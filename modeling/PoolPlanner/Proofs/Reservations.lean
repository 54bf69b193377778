import PoolPlanner.Planning.Reservations
import PoolPlanner.Proofs.Fallible
import PoolPlanner.Proofs.SlotMerge

/-!
# What a storage set reserves

Only devices that pass the selector and that are free or the storage set's own are ever planned, so
among devices of distinct names every planned reservation is for a device without another owner.
-/

namespace PoolPlanner

/-- Whether evaluating a selector comes out positive. -/
def Selector.admits {R : Type} [Resource R] (selector : Selector) (resource : R) : Bool :=
  match selector.selects resource with
  | .ok selected => selected
  | .error _ => false

/-- A selector whose requirements are well formed is evaluated on every device without fault. -/
theorem Selector.selects_of_validate {selector : Selector} (valid : selector.validate = .ok ())
    (device : BlockDevice) : selector.selects device = .ok (selector.admits device) := by
  have evaluated : selector.selects device = .ok (selector.holds (Resource.encode device)) := by
    rw [selects, matchesTarget, valid]
    rfl
  rw [admits, evaluated]

namespace BlockDevice

variable {selector : Selector} {minBytes : Nat} {owner name : String} {device : BlockDevice}
  {devices found : List BlockDevice}

/-- With a selector that can be evaluated on each device, the eligible ones are filtered out. -/
theorem eligible_eq_ok_iff :
    eligible selector minBytes owner devices = .ok found ↔
      (∀ device ∈ devices, selector.selects device = .ok (selector.admits device)) ∧
        (devices.filter fun device =>
          selector.admits device && device.isEligibleFor minBytes owner) = found := by
  induction devices generalizing found with
  | nil => simp [eligible]
  | cons first rest ih =>
      unfold eligible
      cases evaluated : selector.selects first with
      | error fault => simp [evaluated]
      | ok selected =>
          have admitted : selector.admits first = selected := by simp [Selector.admits, evaluated]
          by_cases kept : (selected && first.isEligibleFor minBytes owner) = true
          · simp only [kept, if_true, map_eq_ok_iff, ih, List.forall_mem_cons, evaluated, admitted,
              List.filter_cons_of_pos, true_and]
            grind
          · rw [List.filter_cons_of_neg (by rwa [admitted])]
            simpa [kept, List.forall_mem_cons, evaluated, admitted] using ih

theorem owner?_of_isEligibleFor (eligible : device.isEligibleFor minBytes owner = true) :
    ∀ holder ∈ device.owner?, holder = owner := by
  simp only [isEligibleFor, Bool.and_eq_true] at eligible
  intro holder held
  simpa [Option.mem_def.1 held] using eligible.1.2

theorem lastNamed?_eq_some_iff (distinct : (devices.map BlockDevice.name).Nodup) :
    lastNamed? devices name = some device ↔ device ∈ devices ∧ device.name = name := by
  have reversedDistinct : (devices.reverse.map BlockDevice.name).Nodup := by
    rwa [List.map_reverse, List.nodup_reverse]
  rw [lastNamed?, find?_key_eq_some_iff BlockDevice.name reversedDistinct, List.mem_reverse]

end BlockDevice

namespace ReservationRequest

variable {request : ReservationRequest} {devices : List BlockDevice} {plan : ReservationPlan}

def onNode (request : ReservationRequest) (devices : List BlockDevice) : List BlockDevice :=
  devices.filter fun device => device.host? = some request.node

def usableDevices (request : ReservationRequest) (devices : List BlockDevice) :
    List BlockDevice :=
  (request.onNode devices).filter fun device =>
    request.selector.admits device && device.isEligibleFor request.minBytes request.owner

theorem usable_eq_ok_iff {usable : List String} :
    request.usable devices = .ok usable ↔
      (∀ device ∈ request.onNode devices,
        request.selector.selects device = .ok (request.selector.admits device)) ∧
        inTextOrder ((request.usableDevices devices).map BlockDevice.name) = usable := by
  simp only [ReservationRequest.usable, map_eq_ok_iff, BlockDevice.eligible_eq_ok_iff]
  constructor
  · rintro ⟨found, ⟨evaluated, rfl⟩, rfl⟩
    exact ⟨evaluated, rfl⟩
  · rintro ⟨evaluated, rfl⟩
    exact ⟨_, ⟨evaluated, rfl⟩, rfl⟩

theorem mem_held {owner name : String} :
    name ∈ held devices owner ↔
      ∃ device ∈ devices, device.isOwnedBy owner = true ∧ device.name = name := by
  simp [held, and_assoc]

/-- Every planned reservation is for a device that may be used. -/
theorem exists_usable_of_mem_reserved (planned : request.plan devices = .ok plan) {name : String}
    (member : name ∈ plan.reserved) :
    ∃ device ∈ request.usableDevices devices, device.name = name := by
  obtain ⟨usable, usableEq, rfl⟩ := map_eq_ok_iff.1 planned
  obtain ⟨-, rfl⟩ := usable_eq_ok_iff.1 usableEq
  rw [mem_slotMerge] at member
  have inUsable :
      name ∈ inTextOrder ((request.usableDevices devices).map BlockDevice.name) := by
    rcases mem_of_mem_fillUpTo member with kept | other
    · simpa using (List.mem_filter.1 (List.mem_of_mem_take kept)).2
    · exact other
  simpa using inUsable

theorem exists_device_of_mem_reserved (distinct : (devices.map BlockDevice.name).Nodup)
    (planned : request.plan devices = .ok plan) {name : String} (member : name ∈ plan.reserved) :
    ∃ device, BlockDevice.lastNamed? devices name = some device ∧
      ∀ holder ∈ device.owner?, holder = request.owner := by
  obtain ⟨device, usable, named⟩ := exists_usable_of_mem_reserved planned member
  obtain ⟨onNode, admitted⟩ := List.mem_filter.1 usable
  refine ⟨device, (BlockDevice.lastNamed?_eq_some_iff distinct).2
    ⟨List.mem_of_mem_filter onNode, named⟩, ?_⟩
  exact BlockDevice.owner?_of_isEligibleFor (Bool.and_eq_true_iff.1 admitted).2

theorem owner?_of_mem_reserved (distinct : (devices.map BlockDevice.name).Nodup)
    (planned : request.plan devices = .ok plan) {name : String} (member : name ∈ plan.reserved)
    {device : BlockDevice} (found : BlockDevice.lastNamed? devices name = some device) :
    ∀ holder ∈ device.owner?, holder = request.owner := by
  obtain ⟨reserved, reservedFound, unowned⟩ :=
    exists_device_of_mem_reserved distinct planned member
  obtain rfl := Option.some.inj (found.symm.trans reservedFound)
  exact unowned

/-- What is held and not reserved any more is given back. -/
theorem mem_release_iff (planned : request.plan devices = .ok plan) {name : String} :
    name ∈ plan.release ↔ name ∈ held devices request.owner ∧ name ∉ plan.reserved := by
  obtain ⟨usable, -, rfl⟩ := map_eq_ok_iff.1 planned
  simp [List.mem_filter]

section Unheld

/-- The names of the first devices that a request may use, as many as it asks for. -/
def firstNames (request : ReservationRequest) (devices : List BlockDevice) : List String :=
  (inTextOrder ((request.usableDevices devices).map BlockDevice.name)).take request.desiredCount

theorem exists_map_eq_firstNames (request : ReservationRequest) (devices : List BlockDevice) :
    ∃ chosen : List BlockDevice, (∀ device ∈ chosen, device ∈ request.usableDevices devices) ∧
      chosen.map BlockDevice.name = request.firstNames devices := by
  have permuted : (inTextOrder ((request.usableDevices devices).map BlockDevice.name)).Perm
      ((request.usableDevices devices).map BlockDevice.name) := inOrder_perm _ _
  obtain ⟨inNameOrder, same, perm⟩ := exists_map_eq_of_perm_map BlockDevice.name permuted
  refine ⟨inNameOrder.take request.desiredCount, fun device member => ?_, ?_⟩
  · exact perm.mem_iff.1 (List.mem_of_mem_take member)
  · rw [firstNames, same, List.map_take]

theorem exists_usable_of_mem_firstNames {name : String}
    (member : name ∈ request.firstNames devices) :
    ∃ device ∈ request.usableDevices devices, device.name = name := by
  simpa using List.mem_of_mem_take member

/-- A storage set that holds nothing yet reserves the first devices that it may use. -/
theorem plan_of_unheld (request : ReservationRequest)
    (distinct : (devices.map BlockDevice.name).Nodup)
    (valid : request.selector.validate = .ok ()) (unheld : held devices request.owner = []) :
    ∃ plan, request.plan devices = .ok plan ∧ plan.reserved = request.firstNames devices ∧
      plan.release = [] := by
  have usable : request.usable devices =
      .ok (inTextOrder ((request.usableDevices devices).map BlockDevice.name)) :=
    usable_eq_ok_iff.2 ⟨fun device _ => Selector.selects_of_validate valid device, rfl⟩
  have usableDistinct :
      (inTextOrder ((request.usableDevices devices).map BlockDevice.name)).Nodup := by
    rw [nodup_inTextOrder]
    exact distinct.sublist ((List.filter_sublist.trans List.filter_sublist).map _)
  have firstDistinct : (request.firstNames devices).Nodup :=
    usableDistinct.sublist (List.take_sublist _ _)
  refine ⟨_, map_eq_ok_iff.2 ⟨_, usable, rfl⟩, ?_, ?_⟩
  · simp only [unheld, List.filter_nil, List.take_nil, fillUpTo_nil usableDistinct]
    exact slotMerge_nil firstDistinct
  · simp only [unheld, List.filter_nil]

end Unheld
end ReservationRequest
end PoolPlanner
