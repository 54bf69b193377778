import PoolPlanner.Proofs.FullPools
import PoolPlanner.Proofs.PlannedCluster

/-!
# The first pools of a cluster

Once all storage sets of a plan have taken their devices, and there were enough for each, the pool
cluster round builds a full pool for every planned node.
-/

namespace PoolPlanner

/-- Whether a device meets what a resolved intent asks of disks. -/
def ResolvedIntent.accepts (intent : ResolvedIntent) (device : BlockDevice) : Bool :=
  device.isActive && device.claimState = .unclaimed && intent.minDiskBytes ≤ device.capacity &&
    intent.localDiskSelector.admits device

/-- The pool of a node, of accepted devices: it is pinned to the node, consists of full raid groups,
and has as many devices of the node as the intent asks for. -/
structure FirstPool (intent : ResolvedIntent) (devices : List BlockDevice) (node : PlannedNode)
    (pool : PoolSpec) : Prop where
  pinned : pool.nodeSelector = Table.empty.insert hostnameLabel node.name
  fullGroups : ∀ group ∈ pool.raidGroups,
    group.layout = intent.layout ∧ group.blockDevices.length = intent.layout.groupSize
  count : pool.deviceNames.length = intent.minDiskCount
  accepted : ∀ name ∈ pool.deviceNames, ∃ device ∈ devices,
    device.name = name ∧ device.host? = some node.name ∧ intent.accepts device = true

namespace PlannedCluster

variable {planned : PlannedCluster} {order : List StorageSet} {storageSet : StorageSet}
  {device : BlockDevice} {cluster : Cluster}

/-- A device without reservation may be used by whoever is first. -/
theorem isEligibleFor_of_unreserved (unreserved : device.owner? = none) (minBytes : Nat)
    (owner : String) :
    device.isEligibleFor minBytes owner =
      (device.isActive && device.claimState = .unclaimed && minBytes ≤ device.capacity) := by
  have claimable : device.isClaimableBy owner = decide (device.claimState = .unclaimed) := by
    unfold BlockDevice.isClaimableBy BlockDevice.isOwnedBy
    cases device.claimState <;> simp [unreserved]
  simp [BlockDevice.isEligibleFor, claimable, unreserved]

theorem usableDevices_eq (planned : PlannedCluster) (storageSet : StorageSet) :
    (planned.wish storageSet).usableDevices planned.devices =
      planned.devices.filter fun device =>
        planned.intent.accepts device && device.host? = some storageSet.spec.node.name := by
  rw [ReservationRequest.usableDevices, ReservationRequest.onNode, List.filter_filter]
  refine List.filter_congr fun device deviceMem => ?_
  have eligible := isEligibleFor_of_unreserved (planned.unreserved device deviceMem)
    planned.intent.minDiskBytes storageSet.ownerUid
  have selector : (planned.wish storageSet).selector = planned.intent.localDiskSelector :=
    planned.soundDisks.selector
  have request : (planned.wish storageSet).minBytes = planned.intent.minDiskBytes ∧
      (planned.wish storageSet).owner = storageSet.ownerUid ∧
      (planned.wish storageSet).node = storageSet.spec.node.name := ⟨rfl, rfl, rfl⟩
  rw [selector, request.1, request.2.1, request.2.2, eligible, ResolvedIntent.accepts]
  cases planned.intent.localDiskSelector.admits device <;> simp

theorem desiredDiskCount_eq (member : storageSet ∈ planned.storageSets) :
    storageSet.desiredDiskCount = planned.intent.minDiskCount := by
  rw [StorageSet.desiredDiskCount, (planned.storageSetsPlanned storageSet member).disk]
  rfl

theorem exists_accepted_of_mem_wanted {name : String}
    (wanted : name ∈ planned.wanted storageSet) :
    ∃ device ∈ planned.devices, device.name = name ∧
      device.host? = some storageSet.spec.node.name ∧ planned.intent.accepts device = true := by
  obtain ⟨device, usable, named⟩ := ReservationRequest.exists_usable_of_mem_firstNames wanted
  rw [usableDevices_eq] at usable
  obtain ⟨deviceMem, both⟩ := List.mem_filter.1 usable
  obtain ⟨accepted, hosted⟩ := Bool.and_eq_true_iff.1 both
  exact ⟨device, deviceMem, named, of_decide_eq_true hosted, accepted⟩

theorem wanted_nodup (planned : PlannedCluster) (storageSet : StorageSet) :
    (planned.wanted storageSet).Nodup := by
  have names : (((planned.wish storageSet).usableDevices planned.devices).map
      BlockDevice.name).Nodup := by
    rw [usableDevices_eq]
    exact planned.deviceNames.sublist (List.filter_sublist.map _)
  exact ((nodup_inTextOrder _).2 names).sublist (List.take_sublist _ _)

/-- With enough accepted devices on its node, a storage set gets as many as it asks for. -/
theorem wanted_length (member : storageSet ∈ planned.storageSets)
    (enough : planned.intent.minDiskCount ≤ (planned.devices.filter fun device =>
      planned.intent.accepts device && device.host? = some storageSet.spec.node.name).length) :
    (planned.wanted storageSet).length = planned.intent.minDiskCount := by
  have count : (planned.wish storageSet).desiredCount = planned.intent.minDiskCount :=
    desiredDiskCount_eq member
  rw [wanted, ReservationRequest.firstNames, List.length_take, length_inTextOrder,
    List.length_map, usableDevices_eq, count]
  exact Nat.min_eq_left enough

theorem reservedNames_perm (everyone : order.Perm planned.storageSets)
    (member : storageSet ∈ planned.storageSets) :
    (PoolAssembly.reservedNames (planned.devices.map (planned.reserved order))
      storageSet.ownerUid storageSet.spec.node.name).Perm (planned.wanted storageSet) := by
  have included : ∀ other ∈ order, other ∈ planned.storageSets := fun other otherMem =>
    everyone.mem_iff.1 otherMem
  have distinct := PoolAssembly.reservedNames_nodup (planned.nodup_names_reserved order)
    storageSet.ownerUid storageSet.spec.node.name
  refine (List.perm_ext_iff_of_nodup distinct (planned.wanted_nodup storageSet)).2 fun name => ?_
  rw [PoolAssembly.mem_reservedNames]
  constructor
  · rintro ⟨_, deviceMem, ⟨-, owned, -⟩, rfl⟩
    obtain ⟨device, originalMem, rfl⟩ := List.mem_map.1 deviceMem
    rw [name_reserved]
    exact ((owner?_reserved_eq_some_iff included member originalMem).1 (of_decide_eq_true owned)).2
  · intro wanted
    obtain ⟨device, deviceMem, rfl, hosted, accepted⟩ := exists_accepted_of_mem_wanted wanted
    have owned := (owner?_reserved_eq_some_iff included member deviceMem).2
      ⟨everyone.mem_iff.2 member, wanted⟩
    simp only [ResolvedIntent.accepts, Bool.and_eq_true] at accepted
    refine ⟨planned.reserved order device, List.mem_map_of_mem deviceMem, ⟨?_, ?_, ?_⟩, ?_⟩
    · simpa using accepted.1.1.1
    · exact decide_eq_true owned
    · simpa using hosted
    · exact name_reserved

/-- What the pool cluster round reads once storage sets have taken their devices. -/
def snapshot (planned : PlannedCluster) (done : List StorageSet) : PoolClusterRound.Snapshot where
  plan := planned.plan
  config := planned.config
  storageSets := planned.storageSets
  poolClusters := []
  devices := planned.devices.map (planned.reserved done)

theorem snapshot_distinct (planned : PlannedCluster) (done : List StorageSet) :
    (planned.snapshot done).Distinct where
  nodes := planned.distinctNodes.uids
  storageSets := by
    have uids : (planned.storageSets.filterMap fun storageSet => storageSet.metadata.uid) =
        planned.storageSets.map StorageSet.ownerUid := by
      rw [← List.filterMap_eq_map]
      exact List.filterMap_congr fun storageSet member =>
        (planned.storageSetsPlanned storageSet member).identified
    exact uids ▸ planned.storageSetUids
  devices := planned.nodup_names_reserved done
  pools := by
    intro observed present
    cases present

theorem Stage.read_snapshot {done : List StorageSet} (stage : planned.Stage done cluster) :
    PoolClusterRound.Snapshot.read (cluster.request (Resource.encode planned.plan)) =
      .ok (planned.snapshot done) := by
  refine PoolClusterRound.Snapshot.read_eq_ok_iff.2
    ⟨planned.planUid, HookRequest.watchAs_eq_ok rfl planned.planReadBack, planned.planIdentified,
      stage.configOf _, ?_, ?_, stage.ofKind_blockDevice _⟩
  · rw [Attachments.correlated, Cluster.ofKind_storageSet, stage.storageSets]
    have allMarked : planned.storageSets.filter (fun storageSet =>
        (Resource.metadata storageSet).pointsTo MarkerKey.clusterPlan planned.planUid) =
          planned.storageSets := by
      refine List.filter_eq_self.2 fun storageSet member => ?_
      have marked := (planned.storageSetsPlanned storageSet member).marked
      exact decide_eq_true (marked.trans planned.planIdentified)
    exact congrArg Except.ok allMarked
  · have absent : Resource.groupKey PoolCluster ∉ cluster.groups.map Prod.fst := by
      simp only [Cluster.groups, List.map_cons, List.map_nil]
      decide
    rw [Attachments.correlated, Cluster.ofKind_request_of_ne absent]
    rfl

section Assembly

variable (everyone : order.Perm planned.storageSets)
  (enough : ∀ node ∈ planned.plan.spec.nodes, planned.intent.minDiskCount ≤
    (planned.devices.filter fun device =>
      planned.intent.accepts device && device.host? = some node.name).length)

theorem node_mem (member : storageSet ∈ planned.storageSets) :
    storageSet.spec.node ∈ planned.plan.spec.nodes :=
  planned.onePerNode.mem_iff.1 (List.mem_map_of_mem member)

include everyone enough

theorem reservedFor_length (member : storageSet ∈ planned.storageSets) :
    (PoolAssembly.reservedFor (planned.snapshot order).input.reserved storageSet).length =
      planned.intent.minDiskCount := by
  have reservedFor :
      PoolAssembly.reservedFor (planned.snapshot order).input.reserved storageSet =
        PoolAssembly.reservedNames (planned.devices.map (planned.reserved order))
          storageSet.ownerUid storageSet.spec.node.name :=
    PoolAssembly.reservedFor_reservedByStorageSet (planned.snapshot_distinct order).storageSets
      member (planned.storageSetsPlanned storageSet member).identified
  rw [reservedFor, (reservedNames_perm everyone member).length_eq]
  exact wanted_length member (enough storageSet.spec.node (node_mem member))

theorem desiredDiskCount_le (member : storageSet ∈ planned.storageSets) :
    storageSet.desiredDiskCount ≤
      (PoolAssembly.reservedFor (planned.snapshot order).input.reserved storageSet).length :=
  Nat.le_of_eq ((desiredDiskCount_eq member).trans
    (reservedFor_length everyone enough member).symm)

theorem gate_snapshot (occupied : planned.plan.spec.nodes ≠ []) :
    PoolAssembly.gate (planned.snapshot order).input = none := by
  refine PoolAssembly.gate_eq_none_iff.2 ⟨occupied, ?_, fun storageSet member => ?_⟩
  · have lengths := planned.onePerNode.length_eq
    rw [List.length_map] at lengths
    exact lengths.symm
  · exact desiredDiskCount_le everyone enough member

theorem exists_pool (positive : 0 < planned.intent.minDiskCount)
    (even : planned.intent.layout.groupSize ∣ planned.intent.minDiskCount) {node : PlannedNode}
    (nodeMem : node ∈ planned.plan.spec.nodes) :
    ∃ pool storageSet,
      ((planned.snapshot order).input.storageSets.find? fun storageSet =>
        storageSet.spec.node.uid = node.uid) = some storageSet ∧
      PoolAssembly.buildPool (planned.snapshot order).input planned.intent.layout node storageSet =
        .ok pool := by
  have served : ∃ storageSet ∈ planned.storageSets, storageSet.spec.node = node :=
    List.mem_map.1 (planned.onePerNode.mem_iff.2 nodeMem)
  obtain ⟨storageSet, found⟩ := Option.isSome_iff_exists.1
    (List.find?_isSome.2 (served.imp fun storageSet serves =>
      ⟨serves.1, decide_eq_true (congrArg PlannedNode.uid serves.2)⟩))
  have member : storageSet ∈ planned.storageSets := List.mem_of_find?_eq_some found
  have distinct := planned.snapshot_distinct order
  have count : (PoolAssembly.finalDevices (planned.snapshot order).input node
      storageSet).length = planned.intent.minDiskCount := by
    rw [PoolAssembly.finalDevices_length (distinct.observedOrder_nodup node)
      (distinct.reservedFor_nodup member) (desiredDiskCount_le everyone enough member),
      desiredDiskCount_eq member]
  refine ⟨_, storageSet, found, PoolAssembly.buildPool_eq_ok_iff.2 ⟨?_, ?_, rfl⟩⟩
  · rw [count]
    exact Nat.mod_eq_zero_of_dvd even
  · intro empty
    have flattened := RaidGroup.flatten_parts
      (count ▸ Nat.mod_eq_zero_of_dvd even : (PoolAssembly.finalDevices
        (planned.snapshot order).input node storageSet).length %
          planned.intent.layout.groupSize = 0)
    rw [empty] at flattened
    rw [← flattened] at count
    exact Nat.ne_of_lt positive count

theorem assemble_snapshot (occupied : planned.plan.spec.nodes ≠ [])
    (positive : 0 < planned.intent.minDiskCount)
    (even : planned.intent.layout.groupSize ∣ planned.intent.minDiskCount) :
    ∃ poolCluster,
      PoolAssembly.assemble (planned.snapshot order).input = .ok (.ready poolCluster) := by
  obtain ⟨pools, built⟩ := exists_forall₂ fun node nodeMem =>
    exists_pool everyone enough positive even nodeMem
  exact ⟨_, PoolAssembly.assemble_eq_ready_iff.2
    ⟨planned.planUid, planned.config, planned.configUid, planned.intent.layout, pools, _,
      planned.planIdentified, rfl, planned.configIdentified, planned.soundDisks.layout,
      gate_snapshot everyone enough occupied, PoolAssembly.buildPools_eq_ready_iff.2 built,
      PoolAssembly.metadataFor_eq_ok_iff.2
        ⟨planned.planName, planned.planUid, planned.planNamed, planned.planIdentified, rfl⟩, rfl⟩⟩

end Assembly

/-- A full pool of a snapshot has devices that were accepted in the beginning. -/
theorem firstPool_of_fullPool (everyone : order.Perm planned.storageSets) {node : PlannedNode}
    (nodeMem : node ∈ planned.plan.spec.nodes) {pool : PoolSpec}
    (full : (planned.snapshot order).FullPool planned.intent.layout node pool) :
    FirstPool planned.intent planned.devices node pool := by
  have included : ∀ other ∈ order, other ∈ planned.storageSets := fun other otherMem =>
    everyone.mem_iff.1 otherMem
  obtain ⟨storageSet, member, uid, sameNodeUid, identified, count, devices⟩ := full.reserved
  have sameNode : storageSet.spec.node = node :=
    List.inj_on_of_nodup_map planned.distinctNodes.uids (node_mem member) nodeMem sameNodeUid
  refine ⟨full.pinned, full.fullGroups, count.trans (desiredDiskCount_eq member), ?_⟩
  intro name nameMem
  obtain ⟨_, deviceMem, rfl, -, owned⟩ := devices name nameMem
  obtain ⟨device, originalMem, rfl⟩ := List.mem_map.1 deviceMem
  obtain rfl : uid = storageSet.ownerUid := by
    have isPlanned := planned.storageSetsPlanned storageSet member
    exact Option.some.inj (identified.symm.trans isPlanned.identified)
  obtain ⟨-, wanted⟩ :=
    (owner?_reserved_eq_some_iff included member originalMem).1 (of_decide_eq_true owned)
  obtain ⟨found, foundMem, named, hosted, accepted⟩ := exists_accepted_of_mem_wanted wanted
  refine ⟨found, foundMem, ?_, ?_, accepted⟩
  · rw [named, name_reserved]
  · rw [hosted, sameNode]

/-- Once every storage set was called, the pool cluster round applies one pool cluster with a pool
for every planned node. -/
theorem Stage.call_poolCluster (stage : planned.Stage order cluster)
    (everyone : order.Perm planned.storageSets) (occupied : planned.plan.spec.nodes ≠ [])
    (positive : 0 < planned.intent.minDiskCount)
    (even : planned.intent.layout.groupSize ∣ planned.intent.minDiskCount)
    (enough : ∀ node ∈ planned.plan.spec.nodes, planned.intent.minDiskCount ≤
      (planned.devices.filter fun device =>
        planned.intent.accepts device && device.host? = some node.name).length)
    (settings : OperatorConfig) (now : Instant) :
    ∃ (response : HookResponse) (poolCluster : PoolCluster),
      (cluster.call .poolCluster settings now (Resource.encode planned.plan)).1 =
        (response, .applied) ∧
      response.attachments = [Resource.encode poolCluster] ∧
      Resource.decode (Resource.encode poolCluster) = .ok poolCluster ∧
      List.Forall₂ (FirstPool planned.intent planned.devices) planned.plan.spec.nodes
        poolCluster.spec.pools ∧
      (poolCluster.spec.pools.flatMap PoolSpec.deviceNames).Nodup := by
  obtain ⟨poolCluster, assembled⟩ := assemble_snapshot everyone enough occupied positive even
  have ran : PoolClusterRound.run (cluster.request (Resource.encode planned.plan)) =
      .ok (.apply [Resource.encode poolCluster]) :=
    PoolClusterRound.run_eq_apply_iff.2
      ⟨planned.snapshot order, poolCluster, stage.read_snapshot, assembled, rfl⟩
  obtain ⟨layout, layoutKnown, full⟩ := PoolClusterRound.Snapshot.fullPools_of_assemble
    (planned.snapshot_distinct order) assembled
  obtain rfl : planned.intent.layout = layout :=
    Except.ok.inj (planned.soundDisks.layout.symm.trans layoutKnown)
  have called : cluster.call .poolCluster settings now (Resource.encode planned.plan) =
      (Hook.poolCluster.answer (cluster.request (Resource.encode planned.plan)) settings now
        (PoolClusterRound.run (cluster.request (Resource.encode planned.plan))), cluster) :=
    Cluster.call_of_done rfl now
  rw [called, ran]
  refine ⟨_, poolCluster, rfl, rfl, PoolClusterRound.readBack_of_assemble assembled, ?_,
    full.noSharedDevice⟩
  have members : List.Forall₂ (fun node pool => node ∈ planned.plan.spec.nodes ∧
      (planned.snapshot order).FullPool planned.intent.layout node pool)
      planned.plan.spec.nodes poolCluster.spec.pools :=
    (List.forall₂_and_left _ _).2 ⟨fun node nodeMem => nodeMem, full.perNode⟩
  refine members.imp ?_
  rintro node pool ⟨nodeMem, nodePool⟩
  exact firstPool_of_fullPool everyone nodeMem nodePool

end PlannedCluster
end PoolPlanner
