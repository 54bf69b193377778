import PoolPlanner.Proofs.ExactReservation
import PoolPlanner.Proofs.PoolAssembly
import PoolPlanner.Proofs.ResourceCodec

/-!
# Reservations settle

Once a plan is carried out, the same request plans the same reservations again: what is reserved
stays usable, and what is given back or left alone does not become usable.  The assembler of pools
then sees the same devices, by rules of its own for which ones a storage set has.
-/

namespace PoolPlanner

def ReservationPlan.appliedTo (plan : ReservationPlan) (owner : String) (device : BlockDevice) :
    BlockDevice :=
  if device.name ∈ plan.reserved then device.reserve owner
  else if device.name ∈ plan.release then device.release
  else device

/-- A selector that judges a device alike, whether an owner reserves it or nobody does. -/
def Selector.IgnoresReservation (selector : Selector) (owner : String) (device : BlockDevice) :
    Prop :=
  selector.selects (device.reserve owner) = selector.selects device ∧
    selector.selects device.release = selector.selects device

/-- A plan is settled that reserves just what is held, as far as it can be used. -/
theorem ReservationPlan.holding_self {count : Nat} {held usable : List String}
    (heldAscending : held.Pairwise fun first second => first < second)
    (usableAscending : usable.Pairwise fun first second => first < second)
    (included : held ⊆ usable) (bounded : held.length ≤ count)
    (complete : held.length < count → usable ⊆ held) :
    ReservationPlan.holding count held usable = ⟨held, [], [], count - held.length⟩ := by
  have kept : (usable.filter fun name => name ∈ held) = held := by
    refine eq_of_ascending (usableAscending.filter _) heldAscending fun name => ?_
    simpa using fun member => included member
  have noneAdded : (usable.filter fun name => name ∉ held).take (count - held.length) = [] := by
    rcases Nat.lt_or_ge held.length count with missing | full
    · have noOther : (usable.filter fun name => name ∉ held) = [] :=
        List.filter_eq_nil_iff.2 fun name member => by simpa using complete missing member
      rw [noOther, List.take_nil]
    · rw [Nat.sub_eq_zero_of_le full, List.take_zero]
  have chosen : heldFirst count held usable = held := by
    rw [heldFirst, kept, noneAdded, List.append_nil, List.take_of_length_le bounded]
  have distinct : held.Nodup := heldAscending.imp String.ne_of_lt
  simp [ReservationPlan.holding, chosen, slotMerge_self distinct]

namespace BlockDevice

/-- Devices that differ in nothing that a reservation depends on, but for the reservation. -/
structure Alike (device other : BlockDevice) : Prop where
  name : other.name = device.name
  host : other.host? = device.host?
  active : other.isActive = device.isActive
  claimState : other.claimState = device.claimState
  capacity : other.capacity = device.capacity

theorem alike_appliedTo (plan : ReservationPlan) (owner : String) (device : BlockDevice) :
    Alike device (plan.appliedTo owner device) := by
  unfold ReservationPlan.appliedTo
  split
  · exact ⟨rfl, host?_reserve, rfl, rfl, rfl⟩
  · split
    · exact ⟨rfl, host?_release, rfl, rfl, rfl⟩
    · exact ⟨rfl, rfl, rfl, rfl, rfl⟩

end BlockDevice

theorem Selector.IgnoresReservation.selects_appliedTo {selector : Selector} {owner : String}
    {device : BlockDevice} (ignores : selector.IgnoresReservation owner device)
    (plan : ReservationPlan) :
    selector.selects (plan.appliedTo owner device) = selector.selects device := by
  unfold ReservationPlan.appliedTo
  split
  · exact ignores.1
  · split
    · exact ignores.2
    · rfl

namespace PoolAssembly

variable {input : AssemblyInput} {storageSet : StorageSet} {missing : Nat}

def HasDevices (input : AssemblyInput) (storageSet : StorageSet) : Prop :=
  isReadyByDiskCount
    [(storageSet.desiredDiskCount, (reservedFor input.reserved storageSet).length)] = true

/-- As far as a storage set is concerned, pools are built exactly if nothing is missing. -/
structure WaitsFor (input : AssemblyInput) (storageSet : StorageSet) (missing : Nat) : Prop where
  hasDevices_iff : HasDevices input storageSet ↔ missing = 0
  gate_iff : input.plan.spec.nodes ≠ [] →
    input.plan.spec.nodes.length = input.storageSets.length →
    (gate input = none ↔
      missing = 0 ∧ ∀ other ∈ input.storageSets, other ≠ storageSet → HasDevices input other)

theorem hasDevices_iff : HasDevices input storageSet ↔
    storageSet.desiredDiskCount ≤ (reservedFor input.reserved storageSet).length := by
  simp [HasDevices, isReadyByDiskCount]

theorem waitsFor_of_hasDevices_iff (member : storageSet ∈ input.storageSets)
    (enough : HasDevices input storageSet ↔ missing = 0) : WaitsFor input storageSet missing where
  hasDevices_iff := enough
  gate_iff planned counted := by
    rw [gate_eq_none_iff]
    simp only [← hasDevices_iff, ← enough]
    constructor
    · rintro ⟨-, -, all⟩
      exact ⟨all storageSet member, fun other otherMem _ => all other otherMem⟩
    · rintro ⟨own, others⟩
      refine ⟨planned, counted, fun other otherMem => ?_⟩
      by_cases same : other = storageSet
      · exact same ▸ own
      · exact others other otherMem same

end PoolAssembly

namespace ReservationRequest

variable {request : ReservationRequest} {devices : List BlockDevice} {plan : ReservationPlan}
  {device other : BlockDevice}

theorem Usable.of_alike (usable : request.Usable device) (alike : device.Alike other)
    (sameVerdict : request.selector.selects other = request.selector.selects device)
    (freeOrHeld : other.owner? = none ∨ other.owner? = some request.owner)
    (held_of_claimed : device.claimState = .claimed → other.owner? = some request.owner) :
    request.Usable other where
  onNode := alike.host.trans usable.onNode
  selected := sameVerdict.trans usable.selected
  active := alike.active.trans usable.active
  large := alike.capacity ▸ usable.large
  notReleased := alike.claimState ▸ usable.notReleased
  freeOrHeld := freeOrHeld
  held_of_claimed := alike.claimState ▸ held_of_claimed

theorem usable_of_mem_reserved (distinct : (devices.map BlockDevice.name).Nodup)
    (planned : request.plan devices = .ok plan) (member : device ∈ devices)
    (reserved : device.name ∈ plan.reserved) : request.Usable device := by
  obtain ⟨same, sameMem, named⟩ := exists_usable_of_mem_reserved planned reserved
  obtain ⟨sameMem, usable⟩ := mem_usableDevices.1 sameMem
  obtain rfl := List.inj_on_of_nodup_map distinct sameMem member named
  exact usable

section Applied

/-- After a plan is carried out, an owner has exactly what it reserves. -/
theorem owner?_appliedTo_iff (named : request.owner ≠ "")
    (planned : request.plan devices = .ok plan) (member : device ∈ devices) :
    (plan.appliedTo request.owner device).owner? = some request.owner ↔
      device.name ∈ plan.reserved := by
  unfold ReservationPlan.appliedTo
  by_cases reserved : device.name ∈ plan.reserved
  · simp [reserved, BlockDevice.owner?_reserve, named]
  · by_cases released : device.name ∈ plan.release
    · simp [reserved, released]
    · have notHeld : device.owner? ≠ some request.owner := fun owned =>
        released ((mem_release_iff planned).2
          ⟨mem_held.2 ⟨device, member, decide_eq_true owned, rfl⟩, reserved⟩)
      simp [reserved, released, notHeld]

theorem usable_appliedTo_of_mem_reserved (distinct : (devices.map BlockDevice.name).Nodup)
    (named : request.owner ≠ "") (planned : request.plan devices = .ok plan)
    (member : device ∈ devices) (ignores : request.selector.IgnoresReservation request.owner device)
    (reserved : device.name ∈ plan.reserved) :
    request.Usable (plan.appliedTo request.owner device) := by
  have owned := (owner?_appliedTo_iff named planned member).2 reserved
  exact (usable_of_mem_reserved distinct planned member reserved).of_alike
    (device.alike_appliedTo plan request.owner) (ignores.selects_appliedTo plan) (.inr owned)
    fun _ => owned

/-- Nothing becomes usable by carrying out a plan: who may use a device that is given back could
use it before. -/
theorem usable_of_usable_appliedTo (distinct : (devices.map BlockDevice.name).Nodup)
    (named : request.owner ≠ "") (planned : request.plan devices = .ok plan)
    (member : device ∈ devices) (ignores : request.selector.IgnoresReservation request.owner device)
    (usable : request.Usable (plan.appliedTo request.owner device)) : request.Usable device := by
  by_cases reserved : device.name ∈ plan.reserved
  · exact usable_of_mem_reserved distinct planned member reserved
  have alike := device.alike_appliedTo plan request.owner
  have notOwned : (plan.appliedTo request.owner device).owner? ≠ some request.owner :=
    fun owned => reserved ((owner?_appliedTo_iff named planned member).1 owned)
  -- Only its owner can use a claimed device, so one that is given back is not claimed.
  have notClaimed : (plan.appliedTo request.owner device).claimState ≠ .claimed :=
    fun claimed => notOwned (usable.held_of_claimed claimed)
  have freeOrHeld : device.owner? = none ∨ device.owner? = some request.owner := by
    by_cases released : device.name ∈ plan.release
    · obtain ⟨held, heldMem, owned, sameName⟩ := mem_held.1 ((mem_release_iff planned).1 released).1
      obtain rfl := List.inj_on_of_nodup_map distinct heldMem member sameName
      exact .inr (of_decide_eq_true owned)
    · have untouched : plan.appliedTo request.owner device = device := by
        simp [ReservationPlan.appliedTo, reserved, released]
      exact untouched ▸ usable.freeOrHeld
  exact usable.of_alike
    ⟨alike.name.symm, alike.host.symm, alike.active.symm, alike.claimState.symm,
      alike.capacity.symm⟩ (ignores.selects_appliedTo plan).symm freeOrHeld
    fun claimed => absurd claimed notClaimed

def after (request : ReservationRequest) (plan : ReservationPlan) (devices : List BlockDevice) :
    List BlockDevice :=
  devices.map (plan.appliedTo request.owner)

theorem after_distinct (request : ReservationRequest) (plan : ReservationPlan)
    (distinct : (devices.map BlockDevice.name).Nodup) :
    ((request.after plan devices).map BlockDevice.name).Nodup := by
  have sameNames : (request.after plan devices).map BlockDevice.name =
      devices.map BlockDevice.name := by
    rw [after, List.map_map]
    exact List.map_congr_left fun device _ => (device.alike_appliedTo plan request.owner).name
  rwa [sameNames]

theorem exists_after_iff (named : request.owner ≠ "") (planned : request.plan devices = .ok plan)
    {meets : BlockDevice → Prop}
    (owned : ∀ device, meets device → device.owner? = some request.owner)
    (met : ∀ device ∈ devices, device.name ∈ plan.reserved →
      meets (plan.appliedTo request.owner device)) (name : String) :
    (∃ device ∈ request.after plan devices, meets device ∧ device.name = name) ↔
      name ∈ plan.reserved := by
  constructor
  · rintro ⟨_, later, meetsIt, rfl⟩
    obtain ⟨device, member, rfl⟩ := List.mem_map.1 later
    rw [(device.alike_appliedTo plan request.owner).name]
    exact (owner?_appliedTo_iff named planned member).1 (owned _ meetsIt)
  · intro reserved
    obtain ⟨device, usable, rfl⟩ := exists_usable_of_mem_reserved planned reserved
    have member := (mem_usableDevices.1 usable).1
    exact ⟨_, List.mem_map_of_mem member, met device member reserved,
      (device.alike_appliedTo plan request.owner).name⟩

theorem held_after (distinct : (devices.map BlockDevice.name).Nodup) (named : request.owner ≠ "")
    (planned : request.plan devices = .ok plan) :
    held (request.after plan devices) request.owner = inTextOrder plan.reserved := by
  have heldLists := held_lists (after_distinct request plan distinct) request.owner
  have reservedDistinct := (plan_isExact distinct planned).distinct
  refine eq_of_ascending heldLists.ascending (inTextOrder_ascending reservedDistinct) fun name => ?_
  rw [mem_inTextOrder, heldLists.mem_iff]
  exact exists_after_iff named planned (fun _ owned => owned)
    (fun _ member => (owner?_appliedTo_iff named planned member).2) name

/-- The selector is evaluated on the devices of the node as before, so planning succeeds again. -/
theorem selects_after (distinct : (devices.map BlockDevice.name).Nodup)
    (ignores : ∀ device ∈ devices, request.selector.IgnoresReservation request.owner device)
    (planned : request.plan devices = .ok plan) (device : BlockDevice)
    (member : device ∈ request.onNode (request.after plan devices)) :
    request.selector.selects device = .ok (request.selector.admits device) := by
  obtain ⟨later, onNode⟩ := List.mem_filter.1 member
  obtain ⟨earlier, earlierMem, rfl⟩ := List.mem_map.1 later
  have sameVerdict := (ignores earlier earlierMem).selects_appliedTo plan
  have sameHost := (earlier.alike_appliedTo plan request.owner).host
  have earlierOnNode : earlier ∈ request.onNode devices :=
    List.mem_filter.2 ⟨earlierMem, by rwa [sameHost] at onNode⟩
  have evaluated := ((plan_eq_ok_iff distinct).1 planned).1 earlier earlierOnNode
  rw [Selector.admits, sameVerdict, evaluated]

section Ignoring

variable (distinct : (devices.map BlockDevice.name).Nodup) (named : request.owner ≠ "")
  (ignores : ∀ device ∈ devices, request.selector.IgnoresReservation request.owner device)
  (planned : request.plan devices = .ok plan)

include distinct named ignores planned

theorem reserved_subset_usableNames_after :
    plan.reserved ⊆ request.usableNames (request.after plan devices) := by
  have afterDistinct := after_distinct request plan distinct
  intro name reserved
  obtain ⟨device, usable, rfl⟩ := exists_usable_of_mem_reserved planned reserved
  have member := (mem_usableDevices.1 usable).1
  refine ((request.usableNames_lists afterDistinct).mem_iff _).2
    ⟨_, List.mem_map_of_mem member, ?_, (device.alike_appliedTo plan request.owner).name⟩
  exact usable_appliedTo_of_mem_reserved distinct named planned member (ignores device member)
    reserved

theorem usableNames_after_subset :
    request.usableNames (request.after plan devices) ⊆ request.usableNames devices := by
  have afterDistinct := after_distinct request plan distinct
  intro name listed
  obtain ⟨_, later, usable, rfl⟩ :=
    ((request.usableNames_lists afterDistinct).mem_iff name).1 listed
  obtain ⟨device, member, rfl⟩ := List.mem_map.1 later
  refine ((request.usableNames_lists distinct).mem_iff _).2 ⟨device, member, ?_, ?_⟩
  · exact usable_of_usable_appliedTo distinct named planned member (ignores device member) usable
  · exact (device.alike_appliedTo plan request.owner).name.symm

theorem plan_after :
    request.plan (request.after plan devices) =
      .ok ⟨inTextOrder plan.reserved, [], [], plan.shortfall⟩ := by
  have afterDistinct := after_distinct request plan distinct
  have exact := plan_isExact distinct planned
  have usableAfter := usableNames_after_subset distinct named ignores planned
  refine (plan_eq_ok_iff afterDistinct).2 ⟨selects_after distinct ignores planned, ?_⟩
  rw [held_after distinct named planned, exact.shortfall, ← length_inTextOrder plan.reserved]
  apply ReservationPlan.holding_self
  · exact inTextOrder_ascending exact.distinct
  · exact (request.usableNames_lists afterDistinct).ascending
  · intro name reserved
    exact reserved_subset_usableNames_after distinct named ignores planned
      ((mem_inTextOrder _ _).1 reserved)
  · rw [length_inTextOrder, exact.length]
    exact Nat.min_le_left _ _
  · -- Too few are reserved, so all that could be used are.
    intro missing name member
    rw [length_inTextOrder, exact.length] at missing
    have all : (request.usableNames devices).length ≤ plan.reserved.length := by
      rw [exact.length]
      omega
    have same := (exact.distinct.subperm exact.included).perm_of_length_le all
    exact (mem_inTextOrder _ _).2 (same.mem_iff.2 (usableAfter member))

/-- The assembler finds the devices of a storage set by rules of its own, and finds the same. -/
theorem reservedNames_after :
    PoolAssembly.reservedNames (request.after plan devices) request.owner request.node =
      inTextOrder plan.reserved := by
  have ascending : (PoolAssembly.reservedNames (request.after plan devices) request.owner
      request.node).Pairwise fun first second => first < second :=
    inTextOrder_ascending
      ((after_distinct request plan distinct).sublist (List.filter_sublist.map _))
  have reservedDistinct := (plan_isExact distinct planned).distinct
  refine eq_of_ascending ascending (inTextOrder_ascending reservedDistinct) fun name => ?_
  rw [PoolAssembly.mem_reservedNames, mem_inTextOrder]
  refine exists_after_iff named planned (fun _ found => of_decide_eq_true found.2.1)
    (fun device member reserved => ?_) name
  have usable := usable_appliedTo_of_mem_reserved distinct named planned member
    (ignores device member) reserved
  have owned := (owner?_appliedTo_iff named planned member).2 reserved
  exact ⟨usable.active, decide_eq_true owned, usable.onNode⟩

theorem find?_reservedByStorageSet_after {storageSets : List StorageSet} {storageSet : StorageSet}
    (member : storageSet ∈ storageSets) (identified : storageSet.metadata.uid = some request.owner)
    (sameNode : ∀ other ∈ storageSets, other.metadata.uid = some request.owner →
      other.spec.node.name = request.node) :
    (PoolAssembly.reservedByStorageSet (request.after plan devices) storageSets).find?
        request.owner = some (inTextOrder plan.reserved) := by
  have known : (storageSets.reverse.find? fun storageSet =>
      storageSet.metadata.uid = some request.owner).isSome := by
    rw [List.find?_isSome]
    exact ⟨storageSet, List.mem_reverse.2 member, decide_eq_true identified⟩
  obtain ⟨last, found⟩ := Option.isSome_iff_exists.1 known
  have lastMem : last ∈ storageSets := List.mem_reverse.1 (List.mem_of_find?_eq_some found)
  have lastIdentified : last.metadata.uid = some request.owner := by
    simpa using List.find?_some found
  rw [PoolAssembly.find?_reservedByStorageSet, found, Option.map_some,
    sameNode last lastMem lastIdentified, reservedNames_after distinct named ignores planned]

end Ignoring

end Applied

/-- Carried out once, a plan leaves nothing to do: the same request plans the same reservations,
with none to add or to give back.  The assembler of pools finds just these for a storage set of that
uid and node, and stops at the storage set exactly if the plan was short of devices. -/
theorem reservations_settle (distinct : (devices.map BlockDevice.name).Nodup)
    (named : request.owner ≠ "")
    (ignores : ∀ device ∈ devices, request.selector.IgnoresReservation request.owner device)
    (planned : request.plan devices = .ok plan) :
    request.plan (request.after plan devices) =
        .ok ⟨inTextOrder plan.reserved, [], [], plan.shortfall⟩ ∧
      ∀ (input : AssemblyInput) (storageSet : StorageSet),
        input.reserved =
          PoolAssembly.reservedByStorageSet (request.after plan devices) input.storageSets →
        storageSet ∈ input.storageSets → storageSet.metadata.uid = some request.owner →
        (∀ other ∈ input.storageSets, other.metadata.uid = some request.owner →
          other.spec.node.name = request.node) →
        input.reserved.find? request.owner = some (inTextOrder plan.reserved) ∧
          (storageSet.desiredDiskCount = request.desiredCount →
            PoolAssembly.WaitsFor input storageSet plan.shortfall) := by
  refine ⟨plan_after distinct named ignores planned, ?_⟩
  intro input storageSet snapshot member identified sameNode
  have found : input.reserved.find? request.owner = some (inTextOrder plan.reserved) :=
    snapshot ▸ find?_reservedByStorageSet_after distinct named ignores planned member identified
      sameNode
  refine ⟨found, fun sameCount => ?_⟩
  apply PoolAssembly.waitsFor_of_hasDevices_iff member
  have reservedFor : PoolAssembly.reservedFor input.reserved storageSet =
      inTextOrder plan.reserved := by
    simp [PoolAssembly.reservedFor, identified, found]
  rw [PoolAssembly.hasDevices_iff, reservedFor, length_inTextOrder, sameCount,
    (plan_isExact distinct planned).shortfall, Nat.sub_eq_zero_iff_le]

section Mixed

def labelledRequest : ReservationRequest :=
  { requestFor 4 with selector := ⟨[{ labelExpressions := [⟨hostnameLabel, .exists, []⟩] }]⟩ }

/-- What `S` reserves of the mixed disks, one disk short. -/
def labelledPlan : ReservationPlan :=
  ⟨["disk-2", "disk-1", "disk-5"], ["disk-1", "disk-5"], ["disk-4"], 1⟩

def labelledInput : AssemblyInput :=
  let storageSets : List StorageSet :=
    [{ metadata := { name := some "set", uid := some "S" }
       spec := { node := ⟨"node-a", "A"⟩, disk := ⟨"10", 4⟩ } }]
  { plan := { metadata := { name := some "plan" }, spec := ⟨[⟨"node-a", "A"⟩]⟩ }
    config := none
    storageSets
    reserved := PoolAssembly.reservedByStorageSet
      (labelledRequest.after labelledPlan mixedDisks) storageSets
    observed := none }

/-- In the next round `S` still has its three disks, in the order of their names, and its pool still
waits for the fourth. -/
theorem mixedDisks_settle :
    labelledRequest.plan mixedDisks = .ok labelledPlan ∧
      labelledRequest.plan (labelledRequest.after labelledPlan mixedDisks) =
        .ok ⟨["disk-1", "disk-2", "disk-5"], [], [], 1⟩ ∧
      labelledInput.reserved.find? "S" = some ["disk-1", "disk-2", "disk-5"] ∧
      ∀ storageSet ∈ labelledInput.storageSets,
        PoolAssembly.WaitsFor labelledInput storageSet 1 := by
  have distinct : (mixedDisks.map BlockDevice.name).Nodup := by decide
  have ignores : ∀ device ∈ mixedDisks,
      labelledRequest.selector.IgnoresReservation labelledRequest.owner device := by
    intro device member
    simp only [mixedDisks, List.mem_cons, List.not_mem_nil, or_false] at member
    rcases member with rfl | rfl | rfl | rfl | rfl <;> exact ⟨rfl, rfl⟩
  have planned : labelledRequest.plan mixedDisks = .ok labelledPlan := by rfl
  obtain ⟨again, gated⟩ := reservations_settle distinct (by decide) ignores planned
  obtain ⟨found, waits⟩ := gated labelledInput _ rfl (List.mem_singleton.2 rfl) rfl
    (fun other member _ => List.mem_singleton.1 member ▸ rfl)
  refine ⟨planned, again, found, fun storageSet member => ?_⟩
  exact List.mem_singleton.1 member ▸ waits rfl

end Mixed
end ReservationRequest
end PoolPlanner
