import PoolPlanner.Proofs.Reservations

/-!
# Exactly which devices are reserved

A plan depends on two lists of names: the devices that a storage set holds, and those that it may
use.  Of the usable ones, those that it holds come first, then the others, and it takes as many as
it wants.  Everything else that it holds is given back, and nobody else's device is touched.
-/

namespace PoolPlanner

/-- A list of the texts with a property, in order and without repeats. -/
structure Lists (texts : List String) (included : String → Prop) : Prop where
  ascending : texts.Pairwise fun first second => first < second
  mem_iff : ∀ text, text ∈ texts ↔ included text

namespace Lists

variable {texts : List String} {included : String → Prop}

theorem nodup (lists : Lists texts included) : texts.Nodup :=
  lists.ascending.imp String.ne_of_lt

theorem inTextOrder {names : List String} (distinct : names.Nodup)
    (same : ∀ name, name ∈ names ↔ included name) :
    Lists (PoolPlanner.inTextOrder names) included where
  ascending := inTextOrder_ascending distinct
  mem_iff name := (mem_inTextOrder names name).trans (same name)

end Lists

/-- What a storage set reserves of the usable devices: those that it holds, then the others. -/
def heldFirst (count : Nat) (held usable : List String) : List String :=
  (usable.filter fun name => name ∈ held).take count ++
    (usable.filter fun name => name ∉ held).take
      (count - (usable.filter fun name => name ∈ held).length)

namespace ReservationPlan

/-- The plan of a storage set that holds some devices and may use others. -/
def holding (count : Nat) (held usable : List String) : ReservationPlan :=
  let reserved := slotMerge held (heldFirst count held usable)
  { reserved
    acquire := reserved.filter fun name => name ∉ held
    release := held.filter fun name => name ∉ reserved
    shortfall := count - reserved.length }

/-- A plan reserves as many usable devices as are wanted, held ones before others, each by name. -/
structure IsExact (plan : ReservationPlan) (count : Nat) (held usable : List String) : Prop where
  distinct : plan.reserved.Nodup
  included : plan.reserved ⊆ usable
  length : plan.reserved.length = min count usable.length
  /-- Usable devices that are held stay, the first ones if they are too many. -/
  kept : (plan.reserved.filter fun name => name ∈ held) =
    (usable.filter fun name => name ∈ held).take count
  /-- The first ones of the others are added, as many as are missing. -/
  added : (plan.reserved.filter fun name => name ∉ held) =
    (usable.filter fun name => name ∉ held).take
      (count - (usable.filter fun name => name ∈ held).length)
  acquire : plan.acquire = plan.reserved.filter fun name => name ∉ held
  release : plan.release = held.filter fun name => name ∉ plan.reserved
  shortfall : plan.shortfall = count - plan.reserved.length

end ReservationPlan

section HeldFirst

variable {count : Nat} {held usable : List String}

theorem heldFirst_eq_fillUpTo (distinct : usable.Nodup) :
    heldFirst count held usable =
      fillUpTo count ((usable.filter fun name => name ∈ held).take count) usable := by
  rw [fillUpTo_filter distinct, heldFirst]
  simp only [decide_not]

theorem heldFirst_nodup (distinct : usable.Nodup) : (heldFirst count held usable).Nodup := by
  rw [heldFirst_eq_fillUpTo distinct]
  exact fillUpTo_nodup ((distinct.filter _).sublist (List.take_sublist _ _))

theorem heldFirst_subset : heldFirst count held usable ⊆ usable := by
  intro name member
  rcases List.mem_append.1 member with kept | added
  · exact List.mem_of_mem_filter (List.mem_of_mem_take kept)
  · exact List.mem_of_mem_filter (List.mem_of_mem_take added)

theorem length_heldFirst (distinct : usable.Nodup) :
    (heldFirst count held usable).length = min count usable.length := by
  have kept : ((usable.filter fun name => name ∈ held).take count).Nodup :=
    (distinct.filter _).sublist (List.take_sublist _ _)
  rw [heldFirst_eq_fillUpTo distinct]
  refine fillUpTo_length kept distinct ?_ (List.length_take_le _ _)
  exact fun name member => List.mem_of_mem_filter (List.mem_of_mem_take member)

theorem filter_mem_heldFirst :
    ((heldFirst count held usable).filter fun name => name ∈ held) =
      (usable.filter fun name => name ∈ held).take count := by
  rw [heldFirst, List.filter_append]
  have kept : (((usable.filter fun name => name ∈ held).take count).filter
      fun name => name ∈ held) = (usable.filter fun name => name ∈ held).take count :=
    List.filter_eq_self.2 fun name member =>
      (List.mem_filter.1 (List.mem_of_mem_take member)).2
  have noneAdded : ((usable.filter fun name => name ∉ held).take
      (count - (usable.filter fun name => name ∈ held).length)).filter
        (fun name => name ∈ held) = [] :=
    List.filter_eq_nil_iff.2 fun name member => by
      simpa using (List.mem_filter.1 (List.mem_of_mem_take member)).2
  rw [kept, noneAdded, List.append_nil]

theorem filter_notMem_heldFirst :
    ((heldFirst count held usable).filter fun name => name ∉ held) =
      (usable.filter fun name => name ∉ held).take
        (count - (usable.filter fun name => name ∈ held).length) := by
  rw [heldFirst, List.filter_append]
  have noneKept : (((usable.filter fun name => name ∈ held).take count).filter
      fun name => name ∉ held) = [] :=
    List.filter_eq_nil_iff.2 fun name member => by
      simpa using (List.mem_filter.1 (List.mem_of_mem_take member)).2
  rw [noneKept, List.nil_append]
  exact List.filter_eq_self.2 fun name member =>
    (List.mem_filter.1 (List.mem_of_mem_take member)).2

theorem ReservationPlan.holding_isExact
    (heldAscending : held.Pairwise fun first second => first < second)
    (usableAscending : usable.Pairwise fun first second => first < second) :
    (ReservationPlan.holding count held usable).IsExact count held usable := by
  have heldDistinct : held.Nodup := heldAscending.imp String.ne_of_lt
  have usableDistinct : usable.Nodup := usableAscending.imp String.ne_of_lt
  have chosenDistinct : (heldFirst count held usable).Nodup := heldFirst_nodup usableDistinct
  have ⟨kept, added⟩ := filter_slotMerge heldDistinct chosenDistinct
  -- The merge takes kept devices from the held ones, and the two lists name them in one order.
  have sameOrder : (held.filter fun name => name ∈ heldFirst count held usable) =
      (heldFirst count held usable).filter fun name => name ∈ held := by
    rw [filter_mem_heldFirst]
    refine eq_of_ascending (heldAscending.filter _)
      ((usableAscending.filter _).sublist (List.take_sublist _ _)) fun name => ?_
    rw [← filter_mem_heldFirst]
    simp [and_comm]
  exact {
    distinct := slotMerge_nodup held _
    included := fun name member => heldFirst_subset ((mem_slotMerge held _ name).1 member)
    length := (slotMerge_length held chosenDistinct).trans (length_heldFirst usableDistinct)
    kept := kept.trans (sameOrder.trans filter_mem_heldFirst)
    added := added.trans filter_notMem_heldFirst
    acquire := rfl
    release := rfl
    shortfall := rfl }

end HeldFirst

theorem BlockDevice.isEligibleFor_iff {device : BlockDevice} {minBytes : Nat} {owner : String} :
    device.isEligibleFor minBytes owner = true ↔
      device.isActive = true ∧ minBytes ≤ device.capacity ∧ device.claimState ≠ .released ∧
        (device.owner? = none ∨ device.owner? = some owner) ∧
        (device.claimState = .claimed → device.owner? = some owner) := by
  have free : (device.owner?.all fun holder => holder = owner) = true ↔
      device.owner? = none ∨ device.owner? = some owner := by
    cases device.owner? <;> simp
  simp only [isEligibleFor, Bool.and_eq_true, free, decide_eq_true_eq]
  cases state : device.claimState <;>
    simp only [isClaimableBy, state, isOwnedBy] <;> grind

namespace ReservationRequest

/-- A device that a request may use. -/
structure Usable (request : ReservationRequest) (device : BlockDevice) : Prop where
  onNode : device.host? = some request.node
  selected : request.selector.selects device = .ok true
  active : device.isActive = true
  large : request.minBytes ≤ device.capacity
  notReleased : device.claimState ≠ .released
  freeOrHeld : device.owner? = none ∨ device.owner? = some request.owner
  held_of_claimed : device.claimState = .claimed → device.owner? = some request.owner

variable {request : ReservationRequest} {devices : List BlockDevice} {plan : ReservationPlan}

/-- The names of the devices that a request may use, in order. -/
def usableNames (request : ReservationRequest) (devices : List BlockDevice) : List String :=
  inTextOrder ((request.usableDevices devices).map BlockDevice.name)

theorem mem_usableDevices {device : BlockDevice} :
    device ∈ request.usableDevices devices ↔ device ∈ devices ∧ request.Usable device := by
  have admits : request.selector.admits device = true ↔
      request.selector.selects device = .ok true := by
    unfold Selector.admits
    cases request.selector.selects device <;> simp
  simp only [usableDevices, onNode, List.mem_filter, Bool.and_eq_true, decide_eq_true_eq, admits,
    BlockDevice.isEligibleFor_iff, and_assoc]
  constructor
  · rintro ⟨member, onNode, selected, active, large, notReleased, freeOrHeld, claimed⟩
    exact ⟨member, onNode, selected, active, large, notReleased, freeOrHeld, claimed⟩
  · rintro ⟨member, usable⟩
    exact ⟨member, usable.onNode, usable.selected, usable.active, usable.large,
      usable.notReleased, usable.freeOrHeld, usable.held_of_claimed⟩

theorem held_lists (distinct : (devices.map BlockDevice.name).Nodup) (owner : String) :
    Lists (held devices owner) fun name =>
      ∃ device ∈ devices, device.owner? = some owner ∧ device.name = name := by
  refine Lists.inTextOrder (distinct.sublist (List.filter_sublist.map _)) fun name => ?_
  simp [BlockDevice.isOwnedBy, and_assoc]

theorem usableNames_lists (request : ReservationRequest)
    (distinct : (devices.map BlockDevice.name).Nodup) :
    Lists (request.usableNames devices) fun name =>
      ∃ device ∈ devices, request.Usable device ∧ device.name = name := by
  have usableDistinct : ((request.usableDevices devices).map BlockDevice.name).Nodup :=
    distinct.sublist ((List.filter_sublist.trans List.filter_sublist).map _)
  refine Lists.inTextOrder usableDistinct fun name => ?_
  simp only [List.mem_map, mem_usableDevices, and_assoc]

/-- Planning is a matter of which devices are held and which may be used. -/
theorem plan_eq_ok_iff (distinct : (devices.map BlockDevice.name).Nodup) :
    request.plan devices = .ok plan ↔
      (∀ device ∈ request.onNode devices,
        request.selector.selects device = .ok (request.selector.admits device)) ∧
        ReservationPlan.holding request.desiredCount (held devices request.owner)
          (request.usableNames devices) = plan := by
  have heldLists := held_lists distinct request.owner
  have usableLists := request.usableNames_lists distinct
  have common : ((held devices request.owner).filter fun name =>
        name ∈ request.usableNames devices) =
      (request.usableNames devices).filter fun name => name ∈ held devices request.owner := by
    refine eq_of_ascending (heldLists.ascending.filter _) (usableLists.ascending.filter _) ?_
    simp [and_comm]
  have chosen : fillUpTo request.desiredCount
        (((held devices request.owner).filter fun name =>
          name ∈ request.usableNames devices).take request.desiredCount)
        (request.usableNames devices) =
      heldFirst request.desiredCount (held devices request.owner)
        (request.usableNames devices) := by
    rw [common, heldFirst_eq_fillUpTo usableLists.nodup]
  simp only [ReservationRequest.plan, map_eq_ok_iff, usable_eq_ok_iff]
  constructor
  · rintro ⟨usable, ⟨evaluated, rfl⟩, rfl⟩
    refine ⟨evaluated, ?_⟩
    rw [ReservationPlan.holding, ← chosen, usableNames]
  · rintro ⟨evaluated, rfl⟩
    refine ⟨_, ⟨evaluated, rfl⟩, ?_⟩
    rw [ReservationPlan.holding, ← chosen, usableNames]

theorem plan_isExact (distinct : (devices.map BlockDevice.name).Nodup)
    (planned : request.plan devices = .ok plan) :
    plan.IsExact request.desiredCount (held devices request.owner)
      (request.usableNames devices) := by
  obtain ⟨-, rfl⟩ := (plan_eq_ok_iff distinct).1 planned
  exact ReservationPlan.holding_isExact (held_lists distinct request.owner).ascending
    (request.usableNames_lists distinct).ascending

/-- No device of another owner is reserved, and none is given back. -/
theorem owner?_of_mem_changed (distinct : (devices.map BlockDevice.name).Nodup)
    (planned : request.plan devices = .ok plan) {device : BlockDevice} (member : device ∈ devices)
    (changed : device.name ∈ plan.acquire ++ plan.release) :
    ∀ holder ∈ device.owner?, holder = request.owner := by
  have exact := plan_isExact distinct planned
  rcases List.mem_append.1 changed with acquired | released
  · rw [exact.acquire] at acquired
    have found := (BlockDevice.lastNamed?_eq_some_iff distinct).2 ⟨member, rfl⟩
    exact owner?_of_mem_reserved distinct planned (List.mem_of_mem_filter acquired) found
  · rw [exact.release] at released
    obtain ⟨held, heldMem, owned, named⟩ := ((held_lists distinct request.owner).mem_iff _).1
      (List.mem_of_mem_filter released)
    obtain rfl := List.inj_on_of_nodup_map distinct heldMem member named
    intro holder holds
    exact Option.some.inj (holds.symm.trans owned)

/-- Whatever devices there are, and whoever holds them: a plan reserves as many of the usable ones
as are wanted, those that are held already first and each kind by name, gives back what else is
held, and touches no device of another owner. -/
theorem reserves_exactly (distinct : (devices.map BlockDevice.name).Nodup)
    (planned : request.plan devices = .ok plan) :
    ∃ heldNames usableNames,
      Lists heldNames (fun name =>
        ∃ device ∈ devices, device.owner? = some request.owner ∧ device.name = name) ∧
      Lists usableNames (fun name =>
        ∃ device ∈ devices, request.Usable device ∧ device.name = name) ∧
      plan.IsExact request.desiredCount heldNames usableNames ∧
      ∀ device ∈ devices, device.name ∈ plan.acquire ++ plan.release →
        ∀ holder ∈ device.owner?, holder = request.owner :=
  ⟨held devices request.owner, request.usableNames devices, held_lists distinct request.owner,
    request.usableNames_lists distinct, plan_isExact distinct planned,
    fun _ member changed => owner?_of_mem_changed distinct planned member changed⟩

section Mixed

/-- An active disk of a node, perhaps with an owner. -/
def disk (name node : String) (owner : Option String) : BlockDevice where
  metadata :=
    { name := some name
      labels := some (Table.empty.insert hostnameLabel node)
      annotations := owner.map (Table.empty.insert MarkerKey.storageSet) }
  spec := { capacity := ⟨10⟩ }
  status := some { state := .active }

/-- Disks of two nodes that are free, held by `S` or held by `T`. -/
def mixedDisks : List BlockDevice :=
  [disk "disk-5" "node-a" none, disk "disk-4" "node-b" (some "S"),
    disk "disk-3" "node-a" (some "T"), disk "disk-2" "node-a" (some "S"),
    disk "disk-1" "node-a" none]

/-- The request of `S` for disks of node A. -/
def requestFor (count : Nat) : ReservationRequest where
  owner := "S"
  node := "node-a"
  selector := ⟨[]⟩
  minBytes := 10
  desiredCount := count

/-- Of the disks of its node, `S` keeps its own and adds the free ones; that of `T` it leaves. -/
theorem mixedDisks_reserved_exactly :
    ∃ plan, (requestFor 4).plan mixedDisks = .ok plan ∧
      plan = ⟨["disk-2", "disk-1", "disk-5"], ["disk-1", "disk-5"], ["disk-4"], 1⟩ ∧
      ∃ heldNames usableNames,
        Lists heldNames (fun name =>
          ∃ device ∈ mixedDisks, device.owner? = some "S" ∧ device.name = name) ∧
        Lists usableNames (fun name =>
          ∃ device ∈ mixedDisks, (requestFor 4).Usable device ∧ device.name = name) ∧
        plan.IsExact 4 heldNames usableNames ∧
        ∀ device ∈ mixedDisks, device.name ∈ plan.acquire ++ plan.release →
          ∀ holder ∈ device.owner?, holder = "S" := by
  have distinct : (mixedDisks.map BlockDevice.name).Nodup := by decide
  have planned : (requestFor 4).plan mixedDisks =
      .ok ⟨["disk-2", "disk-1", "disk-5"], ["disk-1", "disk-5"], ["disk-4"], 1⟩ := by rfl
  exact ⟨_, planned, rfl, reserves_exactly distinct planned⟩

end Mixed
end ReservationRequest
end PoolPlanner
