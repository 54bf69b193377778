import PoolPlanner.Proofs.FirstPass
import PoolPlanner.Proofs.FirstPools

/-!
# Where a first pass ends

Once its plan and storage sets are stored, a cluster from scratch is a planned cluster.  So the
storage sets take their devices in whatever order they are called, and the pool cluster hook then
finds all that it needs.
-/

namespace PoolPlanner
namespace FirstPass

section Pools

variable {pass : FirstPass} {scratch : Scratch} {nodes : List PlannedNode}
  {inventory : NodeInventory} {intent : ResolvedIntent} {inKeyOrder : List StorageSet}

def plannedCluster (pass : FirstPass) (scratch : Scratch)
    (resolved : scratch.config.spec.resolve inventory pass.settings.plannerDefaults = .ok intent)
    (distinct : NodeSelection.Distinct nodes)
    (permuted : inKeyOrder.Perm (pass.storedSets scratch nodes intent)) : PlannedCluster where
  config := scratch.config
  configUid := scratch.configUid
  plan := pass.storedPlan scratch nodes
  planName := scratch.configName
  planUid := pass.planUid
  intent := intent
  storageSets := inKeyOrder
  devices := scratch.devices
  configIdentified := scratch.configIdentified
  planNamed := rfl
  planIdentified := rfl
  planMarked := pass.marker?_storedPlan scratch nodes
  planReadBack := pass.decode_storedPlan scratch nodes
  soundDisks := scratch.soundDisks resolved
  storageSetsPlanned := fun _ member =>
    plannedStorageSet_of_mem distinct.uids (scratch.soundDisks resolved).countFits
      (permuted.mem_iff.1 member)
  storageSetUids := (permuted.map _).nodup_iff.2 ownerUids_storedSets_nodup
  onePerNode := (permuted.map _).trans (nodes_storedSets_perm pass scratch intent distinct.uids)
  distinctNodes := distinct
  deviceNames := scratch.deviceNames
  unreserved := scratch.unreserved

theorem stage_withStorageSets (occupied : nodes ≠ [])
    (resolved : scratch.config.spec.resolve inventory pass.settings.plannerDefaults = .ok intent)
    (count : nodes.length = intent.minPoolCount) (distinct : NodeSelection.Distinct nodes)
    (permuted : inKeyOrder.Perm (pass.storedSets scratch nodes intent))
    (inOrder : Attachments.decodeAll StorageSet (Attachments.stored StorageSet
      ((pass.storedSets scratch nodes intent).map Resource.encode)).values = .ok inKeyOrder) :
    (plannedCluster pass scratch resolved distinct permuted).Stage []
      (pass.withStorageSets scratch (Resource.encode (pass.storedPlan scratch nodes))) := by
  have stored : pass.withStorageSets scratch (Resource.encode (pass.storedPlan scratch nodes)) =
      { scratch.cluster with
        plans := Attachments.stored ClusterPlan [Resource.encode (pass.storedPlan scratch nodes)]
        storageSets := Attachments.stored StorageSet
          ((pass.storedSets scratch nodes intent).map Resource.encode) } := by
    rw [withStorageSets, storageSets_eq occupied resolved count, call, Cluster.call_of_done rfl,
      withPlan_eq]
  have plans : Attachments.decodeAll ClusterPlan
      ([pass.storedPlan scratch nodes].map Resource.encode) =
        .ok [pass.storedPlan scratch nodes] :=
    Attachments.decodeAll_map_encode fun plan member =>
      List.mem_singleton.1 member ▸ pass.decode_storedPlan scratch nodes
  have untouched : scratch.devices.map
      ((plannedCluster pass scratch resolved distinct permuted).reserved []) =
        scratch.devices := List.map_id scratch.devices
  rw [stored]
  refine ⟨scratch.configs, plans, inOrder, ?_, ?_⟩
  · exact scratch.devicesRead.trans (congrArg Except.ok untouched.symm)
  · intro name holder held
    cases held

/-- Once every storage set was called, all of them have taken the devices that they want. -/
theorem exists_stage_withReservations (occupied : nodes ≠ [])
    (resolved : scratch.config.spec.resolve inventory pass.settings.plannerDefaults = .ok intent)
    (count : nodes.length = intent.minPoolCount) (distinct : NodeSelection.Distinct nodes) :
    ∃ inKeyOrder, ∃ permuted : inKeyOrder.Perm (pass.storedSets scratch nodes intent),
      ∃ order, order.Perm inKeyOrder ∧
        (plannedCluster pass scratch resolved distinct permuted).Stage order
          (pass.withReservations scratch (Resource.encode (pass.storedPlan scratch nodes))) := by
  obtain ⟨inKeyOrder, permuted, inOrder⟩ :=
    exists_inKeyOrder pass scratch distinct.uids (scratch.soundDisks resolved).countFits
  obtain ⟨order, arranged, orderPerm⟩ := exists_map_eq_of_perm_map _
    (pass.arrange_perm ((pass.storedSets scratch nodes intent).map Resource.encode))
  have everyone : order.Perm inKeyOrder := orderPerm.trans permuted.symm
  have once : order.Nodup := everyone.nodup_iff.2
    ((plannedCluster pass scratch resolved distinct permuted).storageSetUids.of_map _)
  have start := stage_withStorageSets occupied resolved count distinct permuted inOrder
  have finish := start.foldl (fun storageSet member => everyone.mem_iff.1 member) once pass.settings
    (pass.clock .storageSet)
  refine ⟨inKeyOrder, permuted, order, everyone, ?_⟩
  rw [withReservations, storageSets_eq occupied resolved count, arranged]
  exact finish

end Pools

/-- A first pass ends with one pool cluster.  A config that is planned at all gets one plan.  If the
number of disks makes full raid groups, the plan has nodes, and each of them has that many accepted
devices of its own, then the pool cluster hook applies a full pool of accepted devices for every
planned node, and no device is in two places. -/
theorem poolClusterAnswer_applies (pass : FirstPass) (scratch : Scratch) {response : HookResponse}
    {inventory : NodeInventory} {intent : ResolvedIntent}
    (answered : pass.clusterConfigAnswer scratch = (response, .applied))
    (resolved : scratch.config.spec.resolve inventory pass.settings.plannerDefaults = .ok intent)
    (positive : 0 < intent.minDiskCount)
    (even : intent.layout.groupSize ∣ intent.minDiskCount) :
    ∃ document, ∃ plan : ClusterPlan,
      response.attachments = [document] ∧ Resource.decode document = .ok plan ∧
      (plan.spec.nodes ≠ [] →
        (∀ node ∈ plan.spec.nodes, intent.minDiskCount ≤
          (scratch.devices.filter fun device =>
            intent.accepts device && device.host? = some node.name).length) →
        ∃ (final : HookResponse) (poolCluster : PoolCluster),
          pass.poolClusterAnswer scratch (document.withUid pass.planUid) = (final, .applied) ∧
          final.attachments = [Resource.encode poolCluster] ∧
          Resource.decode (Resource.encode poolCluster) = .ok poolCluster ∧
          List.Forall₂ (FirstPool intent scratch.devices) plan.spec.nodes
            poolCluster.spec.pools ∧
          (poolCluster.spec.pools.flatMap PoolSpec.deviceNames).Nodup) := by
  obtain ⟨plannedInventory, plannedIntent, nodes, plannedResolved, count, distinct, emitted⟩ :=
    exists_planNamed answered
  refine ⟨_, _, emitted, ClusterPlan.decode_encode
    (ClusterConfigRound.fits_planNamed _ _ _ _) rfl, ?_⟩
  intro (occupied : nodes ≠ []) enough
  -- The hooks resolve the intent with other counts of nodes, which only the pool counts depend on.
  obtain ⟨minimum, maximum, rfl⟩ : ∃ minimum maximum, intent =
      { plannedIntent with minPoolCount := minimum, maxPoolCount := maximum } :=
    ⟨_, _, ClusterIntent.eq_of_resolve plannedResolved resolved⟩
  obtain ⟨inKeyOrder, permuted, order, everyone, finish⟩ :=
    exists_stage_withReservations occupied plannedResolved count distinct
  obtain ⟨final, poolCluster, called, emittedPools, readBack, pools, apart⟩ :=
    finish.call_poolCluster everyone occupied positive even enough pass.settings
      (pass.clock .poolCluster (Resource.encode (pass.storedPlan scratch nodes)))
  refine ⟨final, poolCluster, ?_, emittedPools, readBack, pools.imp ?_, apart⟩
  · rw [ClusterPlan.encode_withUid, ← storedPlan, poolClusterAnswer, call]
    exact called
  · intro node pool first
    exact ⟨first.pinned, first.fullGroups, first.count, first.accepted⟩

/-- Two nodes with two free disks each, under a config that asks for a pool on every node. -/
def freePairs : Scratch :=
  let config : ClusterConfig :=
    { metadata := { name := some "cluster-a", uid := some "config-uid" }
      spec := { minPoolCount := some 2 } }
  let node (name uid : String) : Node := { metadata := { name := some name, uid := some uid } }
  let device (name host : String) : BlockDevice :=
    { metadata := { name := some name, labels := some (Table.empty.insert hostnameLabel host) }
      spec := { capacity := ⟨2 ^ 40⟩ }
      status := some ⟨.unclaimed, .active⟩ }
  let nodes := [node "node-1" "uid-1", node "node-2" "uid-2"]
  let devices := [device "disk-1" "node-1", device "disk-2" "node-2", device "disk-3" "node-1",
    device "disk-4" "node-2"]
  { configDocument := Resource.encode config
    nodeDocuments := Attachments.stored Node (nodes.map Resource.encode)
    deviceDocuments := Attachments.stored BlockDevice (devices.map Resource.encode)
    config, nodes, devices
    configName := "cluster-a"
    configUid := "config-uid"
    configRead := by cbv
    nodesRead := by cbv
    devicesRead := by cbv
    configNamed := rfl
    configIdentified := rfl
    configUid_ne := by decide
    nodeNames := by decide
    nodeUids := by decide
    deviceNames := by decide
    unreserved := by decide }

def backwards : FirstPass where
  settings := {}
  clock := fun _ _ => .epoch
  planUid := "plan-uid"
  storageSetUid := fun index => String.ofList (List.replicate (index + 1) 'u')
  arrange := List.reverse
  planUid_ne := by decide
  storageSetUid_ne := fun index => by simp
  storageSetUid_injective := fun first second same => by simpa using congrArg String.length same
  arrange_perm := List.reverse_perm

theorem poolClusterAnswer_freePairs :
    ∃ response document, ∃ plan : ClusterPlan, ∃ intent final, ∃ poolCluster : PoolCluster,
      backwards.clusterConfigAnswer freePairs = (response, .applied) ∧
      response.attachments = [document] ∧ Resource.decode document = .ok plan ∧
      plan.spec.nodes = [⟨"node-1", "uid-1"⟩, ⟨"node-2", "uid-2"⟩] ∧
      freePairs.config.spec.resolve ⟨2, 2⟩ backwards.settings.plannerDefaults = .ok intent ∧
      intent.minDiskCount = 2 ∧ intent.layout = .mirror ∧
      backwards.poolClusterAnswer freePairs (document.withUid backwards.planUid) =
        (final, .applied) ∧
      final.attachments = [Resource.encode poolCluster] ∧
      Resource.decode (Resource.encode poolCluster) = .ok poolCluster ∧
      List.Forall₂ (FirstPool intent freePairs.devices) plan.spec.nodes poolCluster.spec.pools ∧
      (poolCluster.spec.pools.flatMap PoolSpec.deviceNames).Nodup := by
  let nodes : List PlannedNode := [⟨"node-1", "uid-1"⟩, ⟨"node-2", "uid-2"⟩]
  let intent : ResolvedIntent :=
    { minPoolCount := 2, maxPoolCount := 4, layout := .mirror, minDiskCount := 2
      minDiskCapacity := "100Gi", minDiskBytes := 100 * 2 ^ 30, externalProvision := none
      allowedNodes := default, localDiskSelector := default }
  have applied : (backwards.clusterConfigAnswer freePairs).2 = .applied := by
    decide +kernel
  have answered : backwards.clusterConfigAnswer freePairs =
      ((backwards.clusterConfigAnswer freePairs).1, .applied) :=
    Prod.ext rfl applied
  have planned : (Resource.decode (R := ClusterPlan)
      ((backwards.clusterConfigAnswer freePairs).1.attachments.headD .null)).map
        (fun plan => plan.spec.nodes) = .ok nodes := by
    decide +kernel
  have resolved : freePairs.config.spec.resolve ⟨2, 2⟩ backwards.settings.plannerDefaults =
      .ok intent := by
    decide +kernel
  have enough : ∀ node ∈ nodes, intent.minDiskCount ≤
      (freePairs.devices.filter fun device =>
        intent.accepts device && device.host? = some node.name).length := by
    decide +kernel
  obtain ⟨document, plan, emitted, planRead, ends⟩ := poolClusterAnswer_applies backwards
    freePairs answered resolved (by decide) (by decide)
  rw [emitted, List.headD_cons, planRead] at planned
  have sameNodes : plan.spec.nodes = nodes := Except.ok.inj planned
  rw [← sameNodes] at enough
  obtain ⟨final, poolCluster, called, pools⟩ :=
    ends (sameNodes ▸ List.cons_ne_nil _ _) enough
  exact ⟨_, document, plan, intent, final, poolCluster, answered, emitted, planRead, sameNodes,
    resolved, rfl, rfl, called, pools⟩

end FirstPass
end PoolPlanner
