import Mathlib.Data.List.Forall2
import PoolPlanner.Planning.PoolAssembly
import PoolPlanner.Proofs.Fallible
import PoolPlanner.Proofs.SlotMerge
import PoolPlanner.Proofs.Table

/-!
# What assembled pools hold

Raid groups cut a device list into full groups and lose none of it.  The device list of a node holds
reserved devices only, each once, and as many as its storage set asks for.
-/

namespace PoolPlanner

namespace RaidGroup

theorem length_of_mem_parts {α : Type} {size : Nat} {items part : List α}
    (member : part ∈ parts size items) : part.length = size := by
  obtain ⟨index, inRange, rfl⟩ := List.mem_map.1 member
  have enough : (index + 1) * size ≤ items.length :=
    Nat.le_trans (Nat.mul_le_mul_right size (List.mem_range.1 inRange)) (Nat.div_mul_le_self _ _)
  rw [List.length_take, List.length_drop]
  rw [Nat.succ_mul] at enough
  omega

/-- The first parts together are the items up to the end of the last of them. -/
theorem flatten_firstParts {α : Type} (size : Nat) (items : List α) (count : Nat) :
    ((List.range count).map fun index => (items.drop (index * size)).take size).flatten =
      items.take (count * size) := by
  induction count with
  | zero => simp
  | succ count ih =>
      rw [List.range_succ, List.map_append, List.flatten_append, ih, Nat.succ_mul, List.take_add]
      simp

theorem ne_nil_of_parts_ne_nil {α : Type} {size : Nat} {items : List α}
    (some : parts size items ≠ []) : items ≠ [] := by
  rintro rfl
  exact some (by simp [parts])

theorem flatten_parts {α : Type} {size : Nat} {items : List α}
    (even : items.length % size = 0) : (parts size items).flatten = items := by
  rw [parts, flatten_firstParts, Nat.div_mul_cancel (Nat.dvd_of_mod_eq_zero even),
    List.take_length]

@[simp]
theorem distribute_eq_ok_iff {node : String} {devices : List String} {layout : RaidLayout}
    {groups : List RaidGroup} :
    distribute node devices layout = .ok groups ↔
      devices.length % layout.groupSize = 0 ∧
        (parts layout.groupSize devices).map (RaidGroup.mk layout) = groups := by
  unfold distribute
  split
  next uneven => simp [uneven]
  next even => simp [not_not.1 even]

end RaidGroup

namespace PoolAssembly

section Reserved

variable {devices : List BlockDevice} {storageSets : List StorageSet} {storageSet : StorageSet}

theorem mem_reservedNames {uid node name : String} :
    name ∈ reservedNames devices uid node ↔
      ∃ device ∈ devices, (device.isActive = true ∧ device.isOwnedBy uid = true ∧
        device.host? = some node) ∧ device.name = name := by
  simp [reservedNames, and_assoc]

theorem reservedNames_nodup (distinct : (devices.map BlockDevice.name).Nodup)
    (uid node : String) : (reservedNames devices uid node).Nodup := by
  rw [reservedNames, nodup_inTextOrder]
  exact distinct.sublist (List.filter_sublist.map BlockDevice.name)

theorem reservedFor_of_uid_eq_none {reserved : Table (List String)}
    (anonymous : storageSet.metadata.uid = none) : reservedFor reserved storageSet = [] := by
  simp [reservedFor, anonymous]

/-- Under a uid stands what is reserved on the node of the last storage set that has it. -/
theorem find?_reservedByStorageSet (devices : List BlockDevice) (storageSets : List StorageSet)
    (uid : String) :
    (reservedByStorageSet devices storageSets).find? uid =
      (storageSets.reverse.find? fun storageSet => storageSet.metadata.uid = some uid).map
        fun storageSet => reservedNames devices uid storageSet.spec.node.name := by
  rw [reservedByStorageSet, Table.find?_ofList, ← List.filterMap_reverse]
  induction storageSets.reverse with
  | nil => rfl
  | cons storageSet rest ih =>
      cases identified : storageSet.metadata.uid with
      | none =>
          rw [List.filterMap_cons_none (by simp [identified]), ih,
            List.find?_cons_of_neg (by simp [identified])]
      | some other =>
          rw [List.filterMap_cons_some (by rw [identified]; rfl), lookup_entry_cons, ih]
          by_cases same : uid = other
          · rw [if_pos same, List.find?_cons_of_pos (by simp [identified, same]), same]
            rfl
          · rw [if_neg same, List.find?_cons_of_neg (by simp [identified, Ne.symm same])]

/-- With distinct uids, each storage set is told its own reservations. -/
theorem reservedFor_reservedByStorageSet
    (distinct : (storageSets.filterMap fun storageSet => storageSet.metadata.uid).Nodup)
    (member : storageSet ∈ storageSets) {uid : String}
    (identified : storageSet.metadata.uid = some uid) :
    reservedFor (reservedByStorageSet devices storageSets) storageSet =
      reservedNames devices uid storageSet.spec.node.name := by
  have keysDistinct : ((storageSets.filterMap fun storageSet =>
      storageSet.metadata.uid.map fun uid =>
        (uid, reservedNames devices uid storageSet.spec.node.name)).map Prod.fst).Nodup := by
    rw [List.map_filterMap]
    simpa [Function.comp_def] using distinct
  have found : (reservedByStorageSet devices storageSets).find? uid =
      some (reservedNames devices uid storageSet.spec.node.name) := by
    rw [reservedByStorageSet, Table.find?_ofList_of_nodup keysDistinct, List.mem_filterMap]
    exact ⟨storageSet, member, by rw [identified]; rfl⟩
  simp [reservedFor, identified, found]

end Reserved

section Devices

variable {observedOrder reserved : List String} {count : Nat}

theorem mem_of_mem_pickDevices {name : String}
    (member : name ∈ pickDevices observedOrder reserved count) : name ∈ reserved := by
  rcases mem_of_mem_fillUpTo member with kept | other
  · simpa using (List.mem_filter.1 (List.mem_of_mem_take kept)).2
  · exact (mem_inTextOrder reserved name).1 other

private theorem kept_nodup (orderDistinct : observedOrder.Nodup) :
    ((observedOrder.filter fun name => name ∈ reserved).take count).Nodup :=
  (orderDistinct.filter _).sublist (List.take_sublist _ _)

theorem pickDevices_nodup (orderDistinct : observedOrder.Nodup) :
    (pickDevices observedOrder reserved count).Nodup :=
  fillUpTo_nodup (kept_nodup orderDistinct)

/-- If enough devices are reserved, exactly as many are picked as are asked for. -/
theorem pickDevices_length (orderDistinct : observedOrder.Nodup)
    (reservedDistinct : reserved.Nodup) (enough : count ≤ reserved.length) :
    (pickDevices observedOrder reserved count).length = count := by
  have keptReserved :
      (observedOrder.filter fun name => name ∈ reserved).take count ⊆ inTextOrder reserved := by
    intro name kept
    simpa using (List.mem_filter.1 (List.mem_of_mem_take kept)).2
  rw [pickDevices, fillUpTo_length (kept_nodup orderDistinct)
    ((nodup_inTextOrder reserved).2 reservedDistinct) keptReserved (List.length_take_le _ _),
    length_inTextOrder]
  exact Nat.min_eq_left enough

/-- Devices that are in the pool and still reserved are picked, if the pool is not too large. -/
theorem mem_pickDevices_of_mem {name : String} (listed : name ∈ observedOrder)
    (stillReserved : name ∈ reserved) (bounded : observedOrder.length ≤ count) :
    name ∈ pickDevices observedOrder reserved count := by
  have keptAll : (observedOrder.filter fun name => name ∈ reserved).take count =
      observedOrder.filter fun name => name ∈ reserved :=
    List.take_of_length_le (Nat.le_trans (List.length_filter_le _ _) bounded)
  rw [pickDevices, keptAll, fillUpTo_eq]
  exact List.mem_append_left _ (List.mem_filter.2 ⟨listed, by simpa using stillReserved⟩)

/-- A pool that has its devices already is picked as it is. -/
theorem pickDevices_of_subset (stillReserved : observedOrder ⊆ reserved)
    (full : observedOrder.length = count) :
    pickDevices observedOrder reserved count = observedOrder := by
  have keptAll : (observedOrder.filter fun name => name ∈ reserved).take count =
      observedOrder := by
    rw [List.filter_eq_self.2 fun name listed => by simpa using stillReserved listed, ← full,
      List.take_length]
  rw [pickDevices, keptAll, fillUpTo_eq, full]
  simp

end Devices

section Pools

variable {input : AssemblyInput} {layout : RaidLayout} {node : PlannedNode}
  {storageSet : StorageSet}

@[simp]
theorem node?_poolFor (node : String) (groups : List RaidGroup) (layout : RaidLayout) :
    (poolFor node groups layout).node? = some node := by
  simp [poolFor, PoolSpec.node?]

@[simp]
theorem deviceNames_poolFor (node : String) (groups : List RaidGroup) (layout : RaidLayout) :
    (poolFor node groups layout).deviceNames = groups.flatMap RaidGroup.devices := by
  simp [poolFor, PoolSpec.deviceNames, List.flatMap_map, Function.comp_def]

/-- The order in which the observed pool of a node lists its devices. -/
def observedOrder (input : AssemblyInput) (node : PlannedNode) : List String :=
  match input.observed with
  | some observed => observed.deviceOrder node.name
  | none => []

theorem finalDevices_eq :
    finalDevices input node storageSet =
      slotMerge (observedOrder input node)
        (pickDevices (observedOrder input node) (reservedFor input.reserved storageSet)
          storageSet.desiredDiskCount) :=
  rfl

theorem finalDevices_nodup : (finalDevices input node storageSet).Nodup :=
  slotMerge_nodup _ _

theorem mem_reservedFor_of_mem_finalDevices {name : String}
    (member : name ∈ finalDevices input node storageSet) :
    name ∈ reservedFor input.reserved storageSet := by
  rw [finalDevices_eq, mem_slotMerge] at member
  exact mem_of_mem_pickDevices member

theorem finalDevices_length (orderDistinct : (observedOrder input node).Nodup)
    (reservedDistinct : (reservedFor input.reserved storageSet).Nodup)
    (enough : storageSet.desiredDiskCount ≤ (reservedFor input.reserved storageSet).length) :
    (finalDevices input node storageSet).length = storageSet.desiredDiskCount := by
  rw [finalDevices_eq, slotMerge_length _ (pickDevices_nodup orderDistinct),
    pickDevices_length orderDistinct reservedDistinct enough]

/-- A pool is built exactly from a non-empty device list that makes full raid groups. -/
theorem buildPool_eq_ok_iff {pool : PoolSpec} :
    buildPool input layout node storageSet = .ok pool ↔
      (finalDevices input node storageSet).length % layout.groupSize = 0 ∧
        RaidGroup.parts layout.groupSize (finalDevices input node storageSet) ≠ [] ∧
        poolFor node.name
          ((RaidGroup.parts layout.groupSize (finalDevices input node storageSet)).map
            (RaidGroup.mk layout)) layout = pool := by
  simp only [buildPool, bind_eq_ok_iff, RaidGroup.distribute_eq_ok_iff]
  constructor
  · rintro ⟨_, ⟨even, rfl⟩, built⟩
    split at built
    · simp at built
    next nonempty => exact ⟨even, by simpa using nonempty, by simpa using built⟩
  · rintro ⟨even, nonempty, rfl⟩
    exact ⟨_, ⟨even, rfl⟩, by simp [nonempty]⟩

theorem node?_of_buildPool {pool : PoolSpec}
    (built : buildPool input layout node storageSet = .ok pool) :
    pool.node? = some node.name := by
  obtain ⟨-, -, rfl⟩ := buildPool_eq_ok_iff.1 built
  exact node?_poolFor node.name _ layout

/-- A pool lists the devices of its node, since they make full raid groups. -/
theorem deviceNames_of_buildPool {pool : PoolSpec}
    (built : buildPool input layout node storageSet = .ok pool) :
    pool.deviceNames = finalDevices input node storageSet := by
  obtain ⟨even, -, rfl⟩ := buildPool_eq_ok_iff.1 built
  rw [deviceNames_poolFor, List.flatMap_map]
  exact List.flatMap_id'.trans (RaidGroup.flatten_parts even)

theorem buildPools_eq_ready_iff {nodes : List PlannedNode} {pools : List PoolSpec} :
    buildPools input layout nodes = .ok (.ready pools) ↔
      List.Forall₂ (fun node pool => ∃ storageSet,
        (input.storageSets.find? fun storageSet => storageSet.spec.node.uid = node.uid) =
            some storageSet ∧
          buildPool input layout node storageSet = .ok pool) nodes pools := by
  induction nodes generalizing pools with
  | nil => cases pools <;> simp [buildPools]
  | cons node rest ih =>
      rw [buildPools, List.forall₂_cons_left_iff]
      simp only [← ih]
      cases input.storageSets.find? fun storageSet => storageSet.spec.node.uid = node.uid with
      | none => simp
      | some storageSet =>
          cases built : buildPool input layout node storageSet with
          | error fault => simp [built]
          | ok pool =>
              rcases others : buildPools input layout rest with fault | (later | reason)
              · simp [built]
              · simp [built, eq_comm]
              · simp [built]

/-- Pools are tried once every node has a storage set and every storage set its devices. -/
theorem gate_eq_none_iff :
    gate input = none ↔
      input.plan.spec.nodes ≠ [] ∧
        input.plan.spec.nodes.length = input.storageSets.length ∧
        ∀ storageSet ∈ input.storageSets,
          storageSet.desiredDiskCount ≤ (reservedFor input.reserved storageSet).length := by
  unfold gate isReadyByNodeCount isReadyByDiskCount
  by_cases empty : input.plan.spec.nodes.length = 0
  · simp [List.length_eq_zero_iff.1 empty]
  · by_cases matched : input.plan.spec.nodes.length = input.storageSets.length
    · have occupied : input.plan.spec.nodes ≠ [] := fun none => empty (by simp [none])
      simp [occupied, matched, matched ▸ empty]
    · simp [empty, matched]

theorem metadataFor_eq_ok_iff {plan : ClusterPlan} {planUid configUid : String}
    {metadata : ObjectMeta} :
    metadataFor plan planUid configUid = .ok metadata ↔
      ∃ name uid, plan.metadata.name = some name ∧ plan.metadata.uid = some uid ∧
        (ObjectMeta.mark
          (ObjectMeta.mark
            { name := some name
              objectNamespace := plan.metadata.objectNamespace
              ownerReferences := some [Resource.controllerReference ClusterPlan name uid] }
            MarkerKey.clusterPlan planUid)
          MarkerKey.clusterConfig configUid) = metadata := by
  simp only [metadataFor, bind_eq_ok_iff, Resource.ownerReference_eq_ok_iff, pure_eq_ok_iff]
  constructor
  · rintro ⟨_, ⟨name, uid, named, identified, rfl⟩, rfl⟩
    refine ⟨name, uid, named, identified, ?_⟩
    rw [Resource.name_eq_of_metadata plan named]
  · rintro ⟨name, uid, named, identified, rfl⟩
    refine ⟨_, ⟨name, uid, named, identified, rfl⟩, ?_⟩
    rw [Resource.name_eq_of_metadata plan named]

theorem assemble_eq_ready_iff {cluster : PoolCluster} :
    assemble input = .ok (.ready cluster) ↔
      ∃ planUid config configUid layout pools metadata,
        input.plan.metadata.uid = some planUid ∧ input.config = some config ∧
        config.metadata.uid = some configUid ∧
        RaidLayout.ofRequest config.spec.pool.raidType = .ok layout ∧ gate input = none ∧
        buildPools input layout input.plan.spec.nodes = .ok (.ready pools) ∧
        metadataFor input.plan planUid configUid = .ok metadata ∧
        { metadata, spec := { pools } } = cluster := by
  simp only [assemble, bind_eq_ok_iff, Resource.uid_eq_ok_iff]
  cases given : input.config with
  | none => simp
  | some config =>
      simp only [pure_bind, bind_eq_ok_iff, Resource.uid_eq_ok_iff]
      constructor
      · rintro ⟨planUid, planIdentified, configUid, configIdentified, layout, layoutKnown,
          assembled⟩
        cases gated : gate input with
        | some reason => simp [gated] at assembled
        | none =>
            simp only [gated, bind_eq_ok_iff] at assembled
            obtain ⟨_ | reason, built, assembled⟩ := assembled
            · simp only [bind_eq_ok_iff, pure_eq_ok_iff, Assembly.ready.injEq] at assembled
              obtain ⟨metadata, metadataEq, rfl⟩ := assembled
              exact ⟨planUid, config, configUid, layout, _, metadata, planIdentified, rfl,
                configIdentified, layoutKnown, rfl, built, metadataEq, rfl⟩
            · simp at assembled
      · rintro ⟨planUid, _, configUid, layout, pools, metadata, planIdentified, found,
          configIdentified, layoutKnown, gated, built, metadataEq, rfl⟩
        obtain rfl := Option.some.inj found
        refine ⟨planUid, planIdentified, configUid, configIdentified, layout, layoutKnown, ?_⟩
        simp [gated, built, metadataEq]

end Pools
end PoolAssembly
end PoolPlanner
