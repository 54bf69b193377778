import Mathlib
import PoolPlanner.Proofs.PoolAssembly
import PoolPlanner.Proofs.ResourceCodec
import PoolPlanner.Proofs.Sync

/-!
# Pools are full and share no device

A pool cluster round that applies anything applies one pool cluster, with a full pool for each
planned node and no device in two places.  The gate only compares counts, so that each node has one
storage set of its own is a matter of counting: distinct node uids, as many storage sets, and a
storage set found for every node.
-/

namespace PoolPlanner
namespace PoolClusterRound

/-- What a round reads out of its request. -/
structure Snapshot where
  plan : ClusterPlan
  config : ClusterConfig
  storageSets : List StorageSet
  poolClusters : List PoolCluster
  devices : List BlockDevice

namespace Snapshot

def read (request : HookRequest) : Except Fault Snapshot := do
  let plan ← request.watchAs ClusterPlan
  let planUid ← Resource.uid .clusterPlan plan
  let config ← request.configOf plan
  let storageSets ← request.attachments.correlated StorageSet MarkerKey.clusterPlan planUid
  let poolClusters ← request.attachments.correlated PoolCluster MarkerKey.clusterPlan planUid
  let devices ← request.attachments.ofKind BlockDevice
  pure { plan, config, storageSets, poolClusters, devices }

/-- The pool cluster that is there already; of several the first by name. -/
def observed? (snapshot : Snapshot) : Option PoolCluster :=
  (Resource.sortedByName snapshot.poolClusters).head?

def input (snapshot : Snapshot) : AssemblyInput where
  plan := snapshot.plan
  config := some snapshot.config
  storageSets := snapshot.storageSets
  reserved := PoolAssembly.reservedByStorageSet snapshot.devices snapshot.storageSets
  observed := snapshot.observed?

/-- Nothing in a snapshot is there twice: no node uid, no storage set uid, no device name, and no
device within a pool. -/
structure Distinct (snapshot : Snapshot) : Prop where
  nodes : (snapshot.plan.spec.nodes.map PlannedNode.uid).Nodup
  storageSets : (snapshot.storageSets.filterMap fun storageSet => storageSet.metadata.uid).Nodup
  devices : (snapshot.devices.map BlockDevice.name).Nodup
  pools : ∀ observed ∈ snapshot.observed?, ∀ pool ∈ observed.spec.pools, pool.deviceNames.Nodup

/-- The pool of a node is pinned to it, made of full raid groups of a layout, and holds as many
devices as the storage set of the node asks for, all of them active and reserved for it. -/
structure FullPool (snapshot : Snapshot) (layout : RaidLayout) (node : PlannedNode)
    (pool : PoolSpec) : Prop where
  pinned : pool.nodeSelector = Table.empty.insert hostnameLabel node.name
  hasGroup : pool.raidGroups ≠ []
  fullGroups : ∀ group ∈ pool.raidGroups,
    group.layout = layout ∧ group.blockDevices.length = layout.groupSize
  reserved : ∃ storageSet ∈ snapshot.storageSets, ∃ uid,
    storageSet.spec.node.uid = node.uid ∧ storageSet.metadata.uid = some uid ∧
      pool.deviceNames.length = storageSet.desiredDiskCount ∧
      ∀ name ∈ pool.deviceNames, ∃ device ∈ snapshot.devices,
        device.name = name ∧ device.isActive = true ∧ device.isOwnedBy uid = true

theorem read_eq_ok_iff {request : HookRequest} {snapshot : Snapshot} :
    read request = .ok snapshot ↔
      ∃ planUid, request.watchAs ClusterPlan = .ok snapshot.plan ∧
        snapshot.plan.metadata.uid = some planUid ∧
        request.configOf snapshot.plan = .ok snapshot.config ∧
        request.attachments.correlated StorageSet MarkerKey.clusterPlan planUid =
          .ok snapshot.storageSets ∧
        request.attachments.correlated PoolCluster MarkerKey.clusterPlan planUid =
          .ok snapshot.poolClusters ∧
        request.attachments.ofKind BlockDevice = .ok snapshot.devices := by
  simp only [read, bind_eq_ok_iff, pure_eq_ok_iff, Resource.uid_eq_ok_iff]
  constructor
  · rintro ⟨plan, watched, planUid, identified, config, configFound, storageSets, setsFound,
      poolClusters, clustersFound, devices, devicesFound, rfl⟩
    exact ⟨planUid, watched, identified, configFound, setsFound, clustersFound, devicesFound⟩
  · rintro ⟨planUid, watched, identified, configFound, setsFound, clustersFound, devicesFound⟩
    exact ⟨_, watched, planUid, identified, _, configFound, _, setsFound, _, clustersFound, _,
      devicesFound, rfl⟩

end Snapshot

theorem run_eq_apply_iff {request : HookRequest} {attachments : List Json} :
    run request = .ok (.apply attachments) ↔
      ∃ snapshot cluster, Snapshot.read request = .ok snapshot ∧
        PoolAssembly.assemble snapshot.input = .ok (.ready cluster) ∧
        [Resource.encode cluster] = attachments := by
  simp only [run, bind_eq_ok_iff, Resource.uid_eq_ok_iff, Snapshot.read_eq_ok_iff]
  constructor
  · rintro ⟨plan, watched, planUid, identified, config, configFound, storageSets, setsFound,
      poolClusters, clustersFound, devices, devicesFound, cluster | reason, assembled, applied⟩
    · exact ⟨⟨plan, config, storageSets, poolClusters, devices⟩, cluster,
        ⟨planUid, watched, identified, configFound, setsFound, clustersFound, devicesFound⟩,
        assembled, by simpa using applied⟩
    · simp at applied
  · rintro ⟨snapshot, cluster, ⟨planUid, watched, identified, configFound, setsFound,
      clustersFound, devicesFound⟩, assembled, rfl⟩
    exact ⟨_, watched, planUid, identified, _, configFound, _, setsFound, _, clustersFound, _,
      devicesFound, .ready cluster, assembled, rfl⟩

namespace Snapshot

variable {snapshot : Snapshot} {layout : RaidLayout} {node : PlannedNode} {pool : PoolSpec}
  {storageSet : StorageSet}

theorem Distinct.observedOrder_nodup (distinct : snapshot.Distinct) (node : PlannedNode) :
    (PoolAssembly.observedOrder snapshot.input node).Nodup := by
  have pools := distinct.pools
  unfold PoolAssembly.observedOrder input
  cases present : snapshot.observed? with
  | none => exact .nil
  | some observed =>
      show (observed.deviceOrder node.name).Nodup
      unfold PoolCluster.deviceOrder
      split
      next pool found =>
        exact pools observed (by simp [present]) pool (List.mem_of_find?_eq_some found)
      next => exact .nil

theorem Distinct.mem_reservedFor_iff (distinct : snapshot.Distinct)
    (member : storageSet ∈ snapshot.storageSets) {name : String} :
    name ∈ PoolAssembly.reservedFor snapshot.input.reserved storageSet ↔
      ∃ uid, storageSet.metadata.uid = some uid ∧ ∃ device ∈ snapshot.devices,
        (device.isActive = true ∧ device.isOwnedBy uid = true ∧
          device.host? = some storageSet.spec.node.name) ∧ device.name = name := by
  cases identified : storageSet.metadata.uid with
  | none => simp [PoolAssembly.reservedFor_of_uid_eq_none identified]
  | some uid =>
      rw [input, PoolAssembly.reservedFor_reservedByStorageSet distinct.storageSets member
        identified, PoolAssembly.mem_reservedNames]
      simp

theorem Distinct.reservedFor_nodup (distinct : snapshot.Distinct)
    (member : storageSet ∈ snapshot.storageSets) :
    (PoolAssembly.reservedFor snapshot.input.reserved storageSet).Nodup := by
  cases identified : storageSet.metadata.uid with
  | none => simp [PoolAssembly.reservedFor_of_uid_eq_none identified]
  | some uid =>
      rw [input, PoolAssembly.reservedFor_reservedByStorageSet distinct.storageSets member
        identified]
      exact PoolAssembly.reservedNames_nodup distinct.devices _ _

theorem fullPool_of_buildPool (distinct : snapshot.Distinct)
    (gated : PoolAssembly.gate snapshot.input = none)
    (found : (snapshot.storageSets.find? fun storageSet =>
      storageSet.spec.node.uid = node.uid) = some storageSet)
    (built : PoolAssembly.buildPool snapshot.input layout node storageSet = .ok pool) :
    snapshot.FullPool layout node pool ∧ pool.deviceNames.Nodup := by
  have member : storageSet ∈ snapshot.storageSets := List.mem_of_find?_eq_some found
  have sameNode : storageSet.spec.node.uid = node.uid := by
    simpa using List.find?_some found
  have listed := PoolAssembly.deviceNames_of_buildPool built
  obtain ⟨-, nonempty, rfl⟩ := PoolAssembly.buildPool_eq_ok_iff.1 built
  have count := PoolAssembly.finalDevices_length (distinct.observedOrder_nodup node)
    (distinct.reservedFor_nodup member)
    ((PoolAssembly.gate_eq_none_iff.1 gated).2.2 storageSet member)
  refine ⟨⟨rfl, by simpa [PoolAssembly.poolFor] using nonempty, ?_, ?_⟩, ?_⟩
  · intro group groupMem
    obtain ⟨part, partMem, rfl⟩ : ∃ part ∈ RaidGroup.parts layout.groupSize
        (PoolAssembly.finalDevices snapshot.input node storageSet),
        (⟨layout, part.map DeviceReference.mk⟩ : RaidGroupSpec) = group := by
      simpa [PoolAssembly.poolFor] using groupMem
    exact ⟨rfl, by simpa using RaidGroup.length_of_mem_parts partMem⟩
  · have reserved : ∀ name ∈ PoolAssembly.finalDevices snapshot.input node storageSet,
        ∃ uid, storageSet.metadata.uid = some uid ∧ ∃ device ∈ snapshot.devices,
          (device.isActive = true ∧ device.isOwnedBy uid = true ∧
            device.host? = some storageSet.spec.node.name) ∧ device.name = name := by
      intro name nameMem
      exact (distinct.mem_reservedFor_iff member).1
        (PoolAssembly.mem_reservedFor_of_mem_finalDevices nameMem)
    obtain ⟨first, firstMem⟩ := List.exists_mem_of_ne_nil _
      (RaidGroup.ne_nil_of_parts_ne_nil nonempty)
    obtain ⟨uid, identified, -⟩ := reserved first firstMem
    refine ⟨storageSet, member, uid, sameNode, identified, by rw [listed, count], ?_⟩
    intro name nameMem
    obtain ⟨_, identifiedAgain, device, deviceMem, ⟨active, owned, -⟩, named⟩ :=
      reserved name (by rwa [listed] at nameMem)
    obtain rfl := Option.some.inj (identified.symm.trans identifiedAgain)
    exact ⟨device, deviceMem, named, active, owned⟩
  · rw [listed]
    exact PoolAssembly.finalDevices_nodup

/-- Pools of different nodes share no device: a device is reserved for one storage set. -/
theorem FullPool.disjoint (distinct : snapshot.Distinct) {otherNode : PlannedNode}
    {otherPool : PoolSpec} (full : snapshot.FullPool layout node pool)
    (otherFull : snapshot.FullPool layout otherNode otherPool)
    (different : node.uid ≠ otherNode.uid) :
    List.Disjoint pool.deviceNames otherPool.deviceNames := by
  intro name inPool inOther
  obtain ⟨storageSet, member, uid, serves, identified, -, devices⟩ := full.reserved
  obtain ⟨otherSet, otherMember, otherUid, otherServes, otherIdentified, -, otherDevices⟩ :=
    otherFull.reserved
  obtain ⟨device, deviceMem, named, -, owned⟩ := devices name inPool
  obtain ⟨otherDevice, otherDeviceMem, otherNamed, -, otherOwned⟩ := otherDevices name inOther
  obtain rfl : device = otherDevice :=
    List.inj_on_of_nodup_map distinct.devices deviceMem otherDeviceMem
      (named.trans otherNamed.symm)
  have sameUid : uid = otherUid :=
    Option.some.inj ((of_decide_eq_true owned).symm.trans (of_decide_eq_true otherOwned))
  have sameSet : storageSet = otherSet :=
    eq_of_nodup_filterMap distinct.storageSets member otherMember identified
      (sameUid ▸ otherIdentified)
  exact different (serves.symm.trans (sameSet ▸ otherServes))

/-- The pools of a round: a full one for each planned node in turn, each node with one storage set
of its own, and no device in two places. -/
structure FullPools (snapshot : Snapshot) (layout : RaidLayout) (pools : List PoolSpec) :
    Prop where
  hasPool : pools ≠ []
  perNode : List.Forall₂ (snapshot.FullPool layout) snapshot.plan.spec.nodes pools
  storageSetPerNode :
    (snapshot.storageSets.map fun storageSet => storageSet.spec.node.uid).Perm
      (snapshot.plan.spec.nodes.map PlannedNode.uid)
  noSharedDevice : (pools.flatMap PoolSpec.deviceNames).Nodup

/-- As many storage sets as nodes, and one for each node: then there are no others. -/
theorem storageSetNodes_perm (distinct : snapshot.Distinct)
    (gated : PoolAssembly.gate snapshot.input = none)
    (served : ∀ node ∈ snapshot.plan.spec.nodes,
      ∃ storageSet ∈ snapshot.storageSets, storageSet.spec.node.uid = node.uid) :
    (snapshot.storageSets.map fun storageSet => storageSet.spec.node.uid).Perm
      (snapshot.plan.spec.nodes.map PlannedNode.uid) := by
  have sameCount : snapshot.plan.spec.nodes.length = snapshot.storageSets.length :=
    (PoolAssembly.gate_eq_none_iff.1 gated).2.1
  have included : snapshot.plan.spec.nodes.map PlannedNode.uid ⊆
      snapshot.storageSets.map fun storageSet => storageSet.spec.node.uid := by
    intro uid uidMem
    obtain ⟨node, nodeMem, rfl⟩ := List.mem_map.1 uidMem
    obtain ⟨storageSet, member, serves⟩ := served node nodeMem
    exact List.mem_map.2 ⟨storageSet, member, serves⟩
  have counted := (distinct.nodes.subperm included).perm_of_length_le (by simp [sameCount])
  exact counted.symm

theorem fullPools_of_assemble (distinct : snapshot.Distinct) {cluster : PoolCluster}
    (assembled : PoolAssembly.assemble snapshot.input = .ok (.ready cluster)) :
    ∃ layout, RaidLayout.ofRequest snapshot.config.spec.pool.raidType = .ok layout ∧
      snapshot.FullPools layout cluster.spec.pools := by
  obtain ⟨planUid, config, configUid, layout, pools, metadata, -, configGiven, -, layoutKnown,
    gated, built, -, rfl⟩ := PoolAssembly.assemble_eq_ready_iff.1 assembled
  obtain rfl : snapshot.config = config := Option.some.inj configGiven
  have partners := PoolAssembly.buildPools_eq_ready_iff.1 built
  have full : List.Forall₂ (fun node pool =>
      snapshot.FullPool layout node pool ∧ pool.deviceNames.Nodup)
      snapshot.plan.spec.nodes pools := by
    refine partners.imp fun node pool => ?_
    rintro ⟨storageSet, found, poolBuilt⟩
    exact fullPool_of_buildPool distinct gated found poolBuilt
  have perNode : List.Forall₂ (snapshot.FullPool layout) snapshot.plan.spec.nodes pools :=
    full.imp fun node pool both => both.1
  refine ⟨layout, layoutKnown, ?_, perNode, storageSetNodes_perm distinct gated ?_, ?_⟩
  · rintro rfl
    exact (PoolAssembly.gate_eq_none_iff.1 gated).1 (List.forall₂_nil_right_iff.1 partners)
  · intro node nodeMem
    obtain ⟨index, inRange, rfl⟩ := List.mem_iff_getElem.1 nodeMem
    obtain ⟨storageSet, member, uid, serves, -⟩ :=
      (perNode.get inRange (perNode.length_eq ▸ inRange)).reserved
    exact ⟨storageSet, member, serves⟩
  · refine List.nodup_flatMap.2 ⟨fun pool poolMem => ?_, ?_⟩
    · obtain ⟨index, inRange, rfl⟩ := List.mem_iff_getElem.1 poolMem
      exact (full.get (full.length_eq ▸ inRange) inRange).2
    · exact pairwise_of_forall₂ perNode (List.pairwise_map.1 distinct.nodes)
        fun different firstFull secondFull => firstFull.disjoint distinct secondFull different

end Snapshot

/-- An assembled pool cluster has new metadata, so all of it is in its document. -/
theorem readBack_of_assemble {input : AssemblyInput} {cluster : PoolCluster}
    (assembled : PoolAssembly.assemble input = .ok (.ready cluster)) :
    Resource.decode (Resource.encode cluster) = .ok cluster := by
  obtain ⟨_, _, _, _, _, metadata, -, -, -, -, -, -, isNew, rfl⟩ :=
    PoolAssembly.assemble_eq_ready_iff.1 assembled
  obtain ⟨name, uid, -, -, rfl⟩ := PoolAssembly.metadataFor_eq_ok_iff.1 isNew
  exact PoolCluster.decode_encode (ObjectMeta.fits_new _ _ _).mark.mark

/-- A call applies the pool cluster that is assembled from its request, or emits nothing; it never
touches the ledger. -/
theorem sync_assembles (request : HookRequest) (settings : OperatorConfig) (now : Instant)
    (ledger : Ledger) :
    ∃ response outcome,
      (Hook.poolCluster.sync request settings now).run ledger = ((response, outcome), ledger) ∧
      (outcome = .applied → ∃ snapshot cluster, Snapshot.read request = .ok snapshot ∧
        PoolAssembly.assemble snapshot.input = .ok (.ready cluster) ∧
        response.attachments = [Resource.encode cluster]) ∧
      (outcome ≠ .applied → response.attachments = []) := by
  rw [Hook.run_sync_poolCluster]
  split
  next => exact ⟨_, _, rfl, by simp, fun _ => rfl⟩
  next =>
    refine ⟨_, _, rfl, ?_⟩
    rcases Hook.answer_cases .poolCluster request settings now (PoolClusterRound.run request) with
      ⟨attachments, applied, emitted, outcome⟩ | ⟨emitted, outcome⟩
    · refine ⟨fun _ => ?_, fun other => absurd outcome other⟩
      obtain ⟨snapshot, cluster, wasRead, assembled, rfl⟩ := run_eq_apply_iff.1 applied
      exact ⟨snapshot, cluster, wasRead, assembled, emitted⟩
    · exact ⟨fun applied => absurd applied outcome, fun _ => emitted⟩

/-- A round on a snapshot without repeats either applies one document, which reads as a pool cluster
all of whose pools are full, or emits no attachment at all; it never touches the ledger. -/
theorem sync_applies_fullPools (request : HookRequest) (settings : OperatorConfig) (now : Instant)
    (ledger : Ledger)
    (distinct : ∀ snapshot, Snapshot.read request = .ok snapshot → snapshot.Distinct) :
    ∃ response outcome,
      (Hook.poolCluster.sync request settings now).run ledger = ((response, outcome), ledger) ∧
      (outcome = .applied → ∃ snapshot layout, ∃ cluster : PoolCluster,
        Snapshot.read request = .ok snapshot ∧
        RaidLayout.ofRequest snapshot.config.spec.pool.raidType = .ok layout ∧
        response.attachments = [Resource.encode cluster] ∧
        Resource.decode (Resource.encode cluster) = .ok cluster ∧
        snapshot.FullPools layout cluster.spec.pools) ∧
      (outcome ≠ .applied → response.attachments = []) := by
  obtain ⟨response, outcome, ran, whenApplied, otherwise⟩ :=
    sync_assembles request settings now ledger
  refine ⟨response, outcome, ran, fun applied => ?_, otherwise⟩
  obtain ⟨snapshot, cluster, wasRead, assembled, emitted⟩ := whenApplied applied
  obtain ⟨layout, layoutKnown, full⟩ :=
    Snapshot.fullPools_of_assemble (distinct snapshot wasRead) assembled
  exact ⟨snapshot, layout, cluster, wasRead, layoutKnown, emitted,
    readBack_of_assemble assembled, full⟩

def reservedPair : Snapshot :=
  let device (name : String) : BlockDevice :=
    { metadata := ObjectMeta.mark { name := some name } MarkerKey.storageSet "set-uid"
      spec := { nodeAttributes := ⟨"node-1"⟩ }
      status := some ⟨.claimed, .active⟩ }
  { plan :=
      { metadata :=
          ObjectMeta.mark { name := some "cluster-a", uid := some "plan-uid" }
            MarkerKey.clusterConfig "config-uid"
        spec := { nodes := [⟨"node-1", "node-uid"⟩] } }
    config := { metadata := { name := some "cluster-a", uid := some "config-uid" }, spec := {} }
    storageSets :=
      [{ metadata :=
          ObjectMeta.mark { name := some "cluster-a-node-uid", uid := some "set-uid" }
            MarkerKey.clusterPlan "plan-uid"
         spec := { node := ⟨"node-1", "node-uid"⟩, disk := ⟨"100Gi", 2⟩ } }]
    poolClusters := []
    devices := [device "disk-1", device "disk-2"] }

def Snapshot.request (snapshot : Snapshot) : HookRequest where
  watch := Resource.encode snapshot.plan
  attachments :=
    let attached := Attachments.attach .empty snapshot.config
    let attached := snapshot.storageSets.foldl Attachments.attach attached
    let attached := snapshot.poolClusters.foldl Attachments.attach attached
    snapshot.devices.foldl Attachments.attach attached

theorem reservedPair_distinct : reservedPair.Distinct := by
  refine ⟨by decide, by decide, by decide, ?_⟩
  intro observed present
  cases present

theorem read_reservedPair : Snapshot.read reservedPair.request = .ok reservedPair := by
  cbv

theorem reservedPair_applied :
    ((Hook.poolCluster.sync reservedPair.request {} .epoch).run .empty).1.2 = .applied := by
  cbv

/-- A round on the reserved pair applies one pool, which has both devices. -/
theorem sync_reservedPair :
    (∀ snapshot, Snapshot.read reservedPair.request = .ok snapshot → snapshot.Distinct) ∧
      ∃ response layout, ∃ cluster : PoolCluster,
        (Hook.poolCluster.sync reservedPair.request {} .epoch).run .empty =
            ((response, .applied), .empty) ∧
          response.attachments = [Resource.encode cluster] ∧
          Resource.decode (Resource.encode cluster) = .ok cluster ∧
          reservedPair.FullPools layout cluster.spec.pools := by
  have distinct : ∀ snapshot,
      Snapshot.read reservedPair.request = .ok snapshot → snapshot.Distinct := by
    intro snapshot wasRead
    obtain rfl := Except.ok.inj (read_reservedPair.symm.trans wasRead)
    exact reservedPair_distinct
  have applies := reservedPair_applied
  obtain ⟨response, outcome, ran, whenApplied, -⟩ :=
    sync_applies_fullPools reservedPair.request {} .epoch .empty distinct
  obtain rfl : outcome = .applied := by rwa [ran] at applies
  obtain ⟨snapshot, layout, cluster, wasRead, -, emitted, readBack, full⟩ := whenApplied rfl
  obtain rfl := Except.ok.inj (read_reservedPair.symm.trans wasRead)
  exact ⟨distinct, response, layout, cluster, ran, emitted, readBack, full⟩

end PoolClusterRound
end PoolPlanner
