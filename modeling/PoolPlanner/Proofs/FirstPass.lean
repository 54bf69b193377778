import PoolPlanner.Proofs.PlannedCluster

/-!
# A first pass over a cluster

From a config, nodes and devices that nobody has reserved to a pool cluster: the config is planned,
the plan gets its storage sets, each of them is called once, in any order, and then the pool cluster
hook is called.  Every hook is shown what the earlier ones emitted, with the uids that the
orchestrator gave to it.
-/

namespace PoolPlanner

/-- A cluster before anything was planned: what is stored of it and what that says. -/
structure Scratch where
  configDocument : Json
  nodeDocuments : Table Json
  deviceDocuments : Table Json
  config : ClusterConfig
  nodes : List Node
  devices : List BlockDevice
  configName : String
  configUid : String
  configRead : Resource.decode configDocument = .ok config
  nodesRead : Attachments.decodeAll Node nodeDocuments.values = .ok nodes
  devicesRead : Attachments.decodeAll BlockDevice deviceDocuments.values = .ok devices
  configNamed : config.metadata.name = some configName
  configIdentified : config.metadata.uid = some configUid
  configUid_ne : configUid ≠ ""
  nodeNames : (nodes.filterMap fun node => node.metadata.name).Nodup
  nodeUids : (nodes.filterMap fun node => node.metadata.uid).Nodup
  deviceNames : (devices.map BlockDevice.name).Nodup
  unreserved : ∀ device ∈ devices, device.owner? = none

/-- The stored objects, and a ledger without any reservation. -/
def Scratch.cluster (scratch : Scratch) : Cluster where
  configs := Attachments.stored ClusterConfig [scratch.configDocument]
  nodes := scratch.nodeDocuments
  devices := scratch.deviceDocuments

theorem Scratch.configs (scratch : Scratch) :
    Attachments.decodeAll ClusterConfig scratch.cluster.configs.values = .ok [scratch.config] := by
  have single : scratch.cluster.configs.values = [scratch.configDocument] := rfl
  rw [single, Attachments.decodeAll, scratch.configRead]
  rfl

theorem Scratch.soundDisks (scratch : Scratch) {inventory : NodeInventory}
    {defaults : PlannerDefaults} {intent : ResolvedIntent}
    (resolved : scratch.config.spec.resolve inventory defaults = .ok intent) :
    scratch.config.spec.SoundDisks intent :=
  ClusterIntent.soundDisks_of_resolve
    (ClusterConfig.fits_of_decode scratch.configRead).minDiskCount resolved

/-- What a first pass is free in: the settings, the time of each call, the uids of new objects, and
the order in which the storage sets are called. -/
structure FirstPass where
  settings : OperatorConfig
  clock : Hook → Json → Instant
  planUid : String
  storageSetUid : Nat → String
  arrange : List Json → List Json
  planUid_ne : planUid ≠ ""
  storageSetUid_ne : ∀ index, storageSetUid index ≠ ""
  storageSetUid_injective : Function.Injective storageSetUid
  arrange_perm : ∀ documents, (arrange documents).Perm documents

namespace FirstPass

def call (pass : FirstPass) (cluster : Cluster) (hook : Hook) (watch : Json) :
    (HookResponse × Outcome) × Cluster :=
  cluster.call hook pass.settings (pass.clock hook watch) watch

/-- The answer about the config. -/
def clusterConfigAnswer (pass : FirstPass) (scratch : Scratch) : HookResponse × Outcome :=
  (pass.call scratch.cluster .clusterConfig scratch.configDocument).1

def withPlan (pass : FirstPass) (scratch : Scratch) (plan : Json) : Cluster :=
  { (pass.call scratch.cluster .clusterConfig scratch.configDocument).2 with
    plans := Attachments.stored ClusterPlan [plan] }

/-- The storage sets that are emitted for a plan, each with its uid. -/
def storageSets (pass : FirstPass) (scratch : Scratch) (plan : Json) : List Json :=
  (pass.call (pass.withPlan scratch plan) .clusterPlan plan).1.1.attachments.mapIdx
    fun index document => document.withUid (pass.storageSetUid index)

/-- The cluster once the storage sets of a plan are stored. -/
def withStorageSets (pass : FirstPass) (scratch : Scratch) (plan : Json) : Cluster :=
  { (pass.call (pass.withPlan scratch plan) .clusterPlan plan).2 with
    storageSets := Attachments.stored StorageSet (pass.storageSets scratch plan) }

/-- The cluster once every storage set was called. -/
def withReservations (pass : FirstPass) (scratch : Scratch) (plan : Json) : Cluster :=
  (pass.arrange (pass.storageSets scratch plan)).foldl
    (fun cluster document =>
      cluster.reserve pass.settings (pass.clock .storageSet document) document)
    (pass.withStorageSets scratch plan)

/-- The answer about the pool cluster of a plan. -/
def poolClusterAnswer (pass : FirstPass) (scratch : Scratch) (plan : Json) :
    HookResponse × Outcome :=
  (pass.call (pass.withReservations scratch plan) .poolCluster plan).1

section Plan

variable {pass : FirstPass} {scratch : Scratch}

/-- What the plan of a cluster from scratch says, and what it was planned from. -/
theorem exists_planNamed {response : HookResponse}
    (answered : pass.clusterConfigAnswer scratch = (response, .applied)) :
    ∃ inventory intent nodes,
      scratch.config.spec.resolve inventory pass.settings.plannerDefaults = .ok intent ∧
      nodes.length = intent.minPoolCount ∧ NodeSelection.Distinct nodes ∧
      response.attachments = [Resource.encode (ClusterConfigRound.planNamed scratch.config
        scratch.configName scratch.configUid nodes)] := by
  have called : pass.clusterConfigAnswer scratch =
      Hook.clusterConfig.answer (scratch.cluster.request scratch.configDocument) pass.settings
        (pass.clock .clusterConfig scratch.configDocument)
        (ClusterConfigRound.run (scratch.cluster.request scratch.configDocument)
          pass.settings) := by
    rw [clusterConfigAnswer, call, Cluster.call_of_done rfl]
  rcases Hook.answer_cases .clusterConfig (scratch.cluster.request scratch.configDocument)
      pass.settings (pass.clock .clusterConfig scratch.configDocument)
      (ClusterConfigRound.run (scratch.cluster.request scratch.configDocument) pass.settings) with
    ⟨attachments, applied, emitted, -⟩ | ⟨-, notApplied⟩
  · rw [← called, answered] at emitted
    obtain ⟨inventory, intent, nodes, resolved, count, distinct, same⟩ :=
      ClusterConfigRound.run_eq_apply_of_unplanned
        (HookRequest.watchAs_eq_ok (ClusterConfig.isNull_of_decode scratch.configRead)
          scratch.configRead)
        ((scratch.cluster.ofKind_node _).trans scratch.nodesRead)
        (scratch.cluster.ofKind_clusterPlan _) scratch.nodeNames scratch.nodeUids
        scratch.configNamed scratch.configIdentified applied
    exact ⟨inventory, intent, nodes, resolved, count, distinct, emitted.trans same⟩
  · rw [← called, answered] at notApplied
    exact absurd rfl notApplied

end Plan

section StorageSets

variable {pass : FirstPass} {scratch : Scratch} {nodes : List PlannedNode}
  {inventory : NodeInventory} {intent : ResolvedIntent}

def storedPlan (pass : FirstPass) (scratch : Scratch) (nodes : List PlannedNode) : ClusterPlan :=
  (ClusterConfigRound.planNamed scratch.config scratch.configName scratch.configUid nodes).withUid
    pass.planUid

theorem decode_storedPlan (pass : FirstPass) (scratch : Scratch) (nodes : List PlannedNode) :
    Resource.decode (Resource.encode (pass.storedPlan scratch nodes)) =
      .ok (pass.storedPlan scratch nodes) :=
  ClusterPlan.decode_encode ((ClusterConfigRound.fits_planNamed _ _ _ _).withUid _) rfl

theorem marker?_storedPlan (pass : FirstPass) (scratch : Scratch) (nodes : List PlannedNode) :
    (pass.storedPlan scratch nodes).metadata.marker? MarkerKey.clusterConfig =
      some scratch.configUid := by
  have marked : (pass.storedPlan scratch nodes).metadata.marker? MarkerKey.clusterConfig =
      if scratch.configUid = "" then none else some scratch.configUid := ObjectMeta.marker?_mark
  rw [marked, if_neg scratch.configUid_ne]

theorem withPlan_eq (pass : FirstPass) (scratch : Scratch) (plan : Json) :
    pass.withPlan scratch plan =
      { scratch.cluster with plans := Attachments.stored ClusterPlan [plan] } := by
  rw [withPlan, call, Cluster.call_of_done rfl]

/-- The storage sets of a plan as the orchestrator stores them. -/
def storedSets (pass : FirstPass) (scratch : Scratch) (nodes : List PlannedNode)
    (intent : ResolvedIntent) : List StorageSet :=
  (ClusterPlanRound.firstStorageSets (pass.storedPlan scratch nodes) scratch.configName
    pass.planUid intent).mapIdx fun index storageSet =>
      storageSet.withUid (pass.storageSetUid index)

theorem call_clusterPlan (occupied : nodes ≠ [])
    (resolved : scratch.config.spec.resolve inventory pass.settings.plannerDefaults = .ok intent)
    (count : nodes.length = intent.minPoolCount) :
    (pass.call (pass.withPlan scratch (Resource.encode (pass.storedPlan scratch nodes)))
        .clusterPlan (Resource.encode (pass.storedPlan scratch nodes))).1.1.attachments =
      (ClusterPlanRound.firstStorageSets (pass.storedPlan scratch nodes) scratch.configName
        pass.planUid intent).map Resource.encode := by
  have configFound : ((pass.withPlan scratch
      (Resource.encode (pass.storedPlan scratch nodes))).request
        (Resource.encode (pass.storedPlan scratch nodes))).configOf
          (pass.storedPlan scratch nodes) = .ok scratch.config := by
    refine HookRequest.originOf_eq_ok (pass.marker?_storedPlan scratch nodes) ?_
      scratch.configIdentified
    rw [Cluster.ofKind_clusterConfig, withPlan_eq]
    exact scratch.configs
  have resolvedAgain : scratch.config.spec.resolve
      ⟨(pass.storedPlan scratch nodes).spec.nodes.length,
        (pass.storedPlan scratch nodes).spec.nodes.length⟩ pass.settings.plannerDefaults =
      .ok intent := by
    have planned : (pass.storedPlan scratch nodes).spec.nodes.length = intent.minPoolCount := count
    rw [planned]
    exact ClusterIntent.resolve_planned resolved
  have unserved : ((pass.withPlan scratch
      (Resource.encode (pass.storedPlan scratch nodes))).request
        (Resource.encode (pass.storedPlan scratch nodes))).attachments.ofKind StorageSet =
      .ok [] := by
    rw [Cluster.ofKind_storageSet, withPlan_eq]
    rfl
  have ran := ClusterPlanRound.run_of_unserved
    (HookRequest.watchAs_eq_ok rfl (pass.decode_storedPlan scratch nodes)) rfl rfl unserved
    configFound occupied resolvedAgain
  rw [call, Cluster.call_of_done rfl, ran]
  rfl

theorem storageSets_eq (occupied : nodes ≠ [])
    (resolved : scratch.config.spec.resolve inventory pass.settings.plannerDefaults = .ok intent)
    (count : nodes.length = intent.minPoolCount) :
    pass.storageSets scratch (Resource.encode (pass.storedPlan scratch nodes)) =
      (pass.storedSets scratch nodes intent).map Resource.encode := by
  rw [storageSets, call_clusterPlan occupied resolved count, storedSets, List.mapIdx_eq_iff]
  intro index
  rw [List.getElem?_map, List.getElem?_map, List.getElem?_mapIdx, Option.map_map, Option.map_map]
  refine congrArg (fun function => Option.map function _) (funext fun storageSet => ?_)
  exact (StorageSet.encode_withUid storageSet _).symm

theorem exists_of_mem_storedSets (distinct : (nodes.map PlannedNode.uid).Nodup)
    {storageSet : StorageSet} (member : storageSet ∈ pass.storedSets scratch nodes intent) :
    ∃ node ∈ nodes, ∃ index, storageSet =
      (ClusterPlanRound.firstStorageSet (pass.storedPlan scratch nodes) scratch.configName
        pass.planUid intent node).withUid (pass.storageSetUid index) := by
  obtain ⟨index, inRange, rfl⟩ := List.mem_mapIdx.1 member
  have permuted := ClusterPlanRound.firstStorageSets_perm (pass.storedPlan scratch nodes)
    scratch.configName pass.planUid intent distinct
  obtain ⟨node, nodeMem, same⟩ := List.mem_map.1 (permuted.mem_iff.1 (List.getElem_mem inRange))
  exact ⟨node, nodeMem, index, by rw [same]⟩

theorem nodes_storedSets_perm (pass : FirstPass) (scratch : Scratch) (intent : ResolvedIntent)
    (distinct : (nodes.map PlannedNode.uid).Nodup) :
    ((pass.storedSets scratch nodes intent).map fun storageSet =>
      storageSet.spec.node).Perm nodes := by
  have sameNodes : (pass.storedSets scratch nodes intent).map
      (fun storageSet => storageSet.spec.node) =
        (ClusterPlanRound.firstStorageSets (pass.storedPlan scratch nodes) scratch.configName
          pass.planUid intent).map fun storageSet => storageSet.spec.node := by
    refine List.ext_getElem? fun index => ?_
    rw [List.getElem?_map, storedSets, List.getElem?_mapIdx, List.getElem?_map, Option.map_map]
    rfl
  have permuted := (ClusterPlanRound.firstStorageSets_perm (pass.storedPlan scratch nodes)
    scratch.configName pass.planUid intent distinct).map fun storageSet => storageSet.spec.node
  rw [sameNodes]
  refine permuted.trans (.of_eq ?_)
  rw [List.map_map]
  exact List.map_id nodes

theorem ownerUids_storedSets_nodup :
    ((pass.storedSets scratch nodes intent).map StorageSet.ownerUid).Nodup := by
  refine List.pairwise_iff_getElem.2 fun first second firstLt secondLt before same => ?_
  simp only [storedSets, List.getElem_map, List.getElem_mapIdx] at same
  have sameIndex : first = second := pass.storageSetUid_injective same
  exact absurd sameIndex (Nat.ne_of_lt before)

theorem objectKeys_storedSets_nodup (pass : FirstPass) (scratch : Scratch)
    (intent : ResolvedIntent) (distinct : (nodes.map PlannedNode.uid).Nodup) :
    ((pass.storedSets scratch nodes intent).map Attachments.objectKey).Nodup := by
  have uidsDistinct : ((pass.storedSets scratch nodes intent).map fun storageSet =>
      storageSet.spec.node.uid).Nodup := by
    have permuted := (nodes_storedSets_perm pass scratch intent distinct).map PlannedNode.uid
    rw [List.map_map] at permuted
    exact permuted.nodup_iff.2 distinct
  refine List.pairwise_map.2 ((List.pairwise_map.1 uidsDistinct).imp_of_mem ?_)
  intro first second firstMem secondMem different sameKey
  obtain ⟨firstNode, -, firstIndex, rfl⟩ := exists_of_mem_storedSets distinct firstMem
  obtain ⟨secondNode, -, secondIndex, rfl⟩ := exists_of_mem_storedSets distinct secondMem
  have sameName : StorageSetPlanner.storageSetName scratch.configName firstNode.uid =
      StorageSetPlanner.storageSetName scratch.configName secondNode.uid :=
    Attachments.name_eq_of_objectKey_eq sameKey rfl
  exact different (StorageSetPlanner.storageSetName_injective _ sameName)

theorem plannedStorageSet_of_mem (distinct : (nodes.map PlannedNode.uid).Nodup)
    (countFits : Json.FitsInt64 intent.minDiskCount) {storageSet : StorageSet}
    (member : storageSet ∈ pass.storedSets scratch nodes intent) :
    PlannedStorageSet (pass.storedPlan scratch nodes) intent storageSet := by
  obtain ⟨node, -, index, rfl⟩ := exists_of_mem_storedSets distinct member
  refine ⟨⟨_, rfl⟩, rfl, pass.storageSetUid_ne index, ?_, rfl, ?_⟩
  · exact ObjectMeta.marker?_mark.trans (if_neg pass.planUid_ne)
  · exact StorageSet.decode_encode ((ObjectMeta.fits_new _ _ _).mark.withUid _) countFits rfl

/-- The stored storage sets, in the order of their keys. -/
theorem exists_inKeyOrder (pass : FirstPass) (scratch : Scratch)
    (distinct : (nodes.map PlannedNode.uid).Nodup)
    (countFits : Json.FitsInt64 intent.minDiskCount) :
    ∃ inKeyOrder : List StorageSet, inKeyOrder.Perm (pass.storedSets scratch nodes intent) ∧
      Attachments.decodeAll StorageSet (Attachments.stored StorageSet
        ((pass.storedSets scratch nodes intent).map Resource.encode)).values = .ok inKeyOrder := by
  have readBack : ∀ storageSet ∈ pass.storedSets scratch nodes intent,
      Resource.decode (Resource.encode storageSet) = .ok storageSet := fun storageSet member =>
    (plannedStorageSet_of_mem distinct countFits member).readBack
  have keyed : (pass.storedSets scratch nodes intent).map (fun storageSet =>
      (Attachments.documentKey StorageSet (Resource.encode storageSet),
        Resource.encode storageSet)) =
      (pass.storedSets scratch nodes intent).map fun storageSet =>
        (Attachments.objectKey storageSet, Resource.encode storageSet) := by
    refine List.map_congr_left fun storageSet member => ?_
    rw [Attachments.documentKey, readBack storageSet member]
  obtain ⟨inKeyOrder, permuted, values⟩ := Table.exists_perm_values_ofList Attachments.objectKey
    (Resource.encode (R := StorageSet)) (objectKeys_storedSets_nodup pass scratch intent distinct)
  refine ⟨inKeyOrder, permuted, ?_⟩
  rw [Attachments.stored, List.map_map]
  have stored : ((pass.storedSets scratch nodes intent).map
      ((fun document => (Attachments.documentKey StorageSet document, document)) ∘
        Resource.encode)) = _ := keyed
  rw [stored, values]
  exact Attachments.decodeAll_map_encode fun storageSet member =>
    readBack storageSet (permuted.mem_iff.1 member)

end StorageSets

end FirstPass
end PoolPlanner
