import PoolPlanner.Proofs.FirstPlan
import PoolPlanner.Proofs.Orchestration
import PoolPlanner.Proofs.StorageSetRun

/-!
# Storage sets take their devices one after the other

The storage sets of a plan serve different nodes, and each reserves devices of its own node only.
So whatever the order in which they are called, each one finds the devices of its node as they were
in the beginning, and is granted the first ones that it may use.
-/

namespace PoolPlanner

def StorageSet.ownerUid (storageSet : StorageSet) : String :=
  storageSet.metadata.uid.getD ""

/-- A storage set of a plan, with a name and a uid, whose document is read back as it is. -/
structure PlannedStorageSet (plan : ClusterPlan) (intent : ResolvedIntent)
    (storageSet : StorageSet) : Prop where
  named : ∃ name, storageSet.metadata.name = some name
  identified : storageSet.metadata.uid = some storageSet.ownerUid
  uidNonempty : storageSet.ownerUid ≠ ""
  marked : storageSet.metadata.marker? MarkerKey.clusterPlan = plan.metadata.uid
  disk : storageSet.spec.disk = ClusterPlanRound.diskRequest intent
  readBack : Resource.decode (Resource.encode storageSet) = .ok storageSet

/-- A config, its plan with one storage set for each node, and devices that nobody has reserved. -/
structure PlannedCluster where
  config : ClusterConfig
  configUid : String
  plan : ClusterPlan
  planName : String
  planUid : String
  intent : ResolvedIntent
  storageSets : List StorageSet
  devices : List BlockDevice
  configIdentified : config.metadata.uid = some configUid
  planNamed : plan.metadata.name = some planName
  planIdentified : plan.metadata.uid = some planUid
  planMarked : plan.metadata.marker? MarkerKey.clusterConfig = some configUid
  planReadBack : Resource.decode (Resource.encode plan) = .ok plan
  soundDisks : config.spec.SoundDisks intent
  storageSetsPlanned : ∀ storageSet ∈ storageSets, PlannedStorageSet plan intent storageSet
  storageSetUids : (storageSets.map StorageSet.ownerUid).Nodup
  onePerNode : (storageSets.map fun storageSet => storageSet.spec.node).Perm plan.spec.nodes
  distinctNodes : NodeSelection.Distinct plan.spec.nodes
  deviceNames : (devices.map BlockDevice.name).Nodup
  unreserved : ∀ device ∈ devices, device.owner? = none

namespace PlannedCluster

variable {planned : PlannedCluster} {done : List StorageSet} {storageSet other : StorageSet}

def wish (planned : PlannedCluster) (storageSet : StorageSet) : ReservationRequest :=
  StorageSetRound.requestOf storageSet storageSet.ownerUid planned.config
    planned.intent.minDiskBytes

def wanted (planned : PlannedCluster) (storageSet : StorageSet) : List String :=
  (planned.wish storageSet).firstNames planned.devices

/-- A device after some storage sets were called. -/
def reserved (planned : PlannedCluster) (done : List StorageSet) (device : BlockDevice) :
    BlockDevice :=
  match done.find? fun storageSet => device.name ∈ planned.wanted storageSet with
  | some storageSet => (device.reserve storageSet.ownerUid).whole
  | none => device

section Wanted

theorem exists_hosted_of_mem_wanted {name : String} (member : name ∈ planned.wanted storageSet) :
    ∃ device ∈ planned.devices, device.name = name ∧
      device.host? = some storageSet.spec.node.name := by
  obtain ⟨device, usable, named⟩ := ReservationRequest.exists_usable_of_mem_firstNames member
  obtain ⟨deviceMem, hosted⟩ := List.mem_filter.1 (List.mem_of_mem_filter usable)
  exact ⟨device, deviceMem, named, of_decide_eq_true hosted⟩

theorem host?_of_mem_wanted {device : BlockDevice} (deviceMem : device ∈ planned.devices)
    (member : device.name ∈ planned.wanted storageSet) :
    device.host? = some storageSet.spec.node.name := by
  obtain ⟨found, foundMem, named, hosted⟩ := exists_hosted_of_mem_wanted member
  rwa [List.inj_on_of_nodup_map planned.deviceNames foundMem deviceMem named] at hosted

theorem eq_of_node_name (member : storageSet ∈ planned.storageSets)
    (otherMem : other ∈ planned.storageSets)
    (sameName : storageSet.spec.node.name = other.spec.node.name) : storageSet = other := by
  have names : (planned.storageSets.map fun storageSet => storageSet.spec.node.name).Nodup := by
    have permuted := planned.onePerNode.map PlannedNode.name
    rw [List.map_map] at permuted
    exact permuted.nodup_iff.2 planned.distinctNodes.names
  exact List.inj_on_of_nodup_map names member otherMem sameName

/-- No device is wanted by two storage sets. -/
theorem eq_of_mem_wanted (member : storageSet ∈ planned.storageSets)
    (otherMem : other ∈ planned.storageSets) {device : BlockDevice}
    (deviceMem : device ∈ planned.devices) (wanted : device.name ∈ planned.wanted storageSet)
    (otherWanted : device.name ∈ planned.wanted other) : storageSet = other := by
  have hosted := host?_of_mem_wanted deviceMem wanted
  rw [host?_of_mem_wanted deviceMem otherWanted] at hosted
  exact eq_of_node_name member otherMem (Option.some.inj hosted).symm

end Wanted

section Reserved

variable {device : BlockDevice}

theorem reserved_of_unwanted
    (unwanted : ∀ storageSet ∈ done, device.name ∉ planned.wanted storageSet) :
    planned.reserved done device = device := by
  have absent : (done.find? fun storageSet => device.name ∈ planned.wanted storageSet) = none :=
    List.find?_eq_none.2 fun storageSet member => by simpa using unwanted storageSet member
  rw [reserved, absent]

theorem reserved_of_wanted (included : ∀ storageSet ∈ done, storageSet ∈ planned.storageSets)
    (member : storageSet ∈ done) (deviceMem : device ∈ planned.devices)
    (wanted : device.name ∈ planned.wanted storageSet) :
    planned.reserved done device = (device.reserve storageSet.ownerUid).whole := by
  unfold reserved
  split
  next other found =>
    have otherWanted : device.name ∈ planned.wanted other := by simpa using List.find?_some found
    have otherMem := included other (List.mem_of_find?_eq_some found)
    rw [eq_of_mem_wanted (included storageSet member) otherMem deviceMem wanted otherWanted]
  next absent =>
    have unwanted := List.find?_eq_none.1 absent storageSet member
    exact absurd wanted (by simpa using unwanted)

/-- What is not the reservation marker stays as it was. -/
theorem reserved_frame (planned : PlannedCluster) (done : List StorageSet) (device : BlockDevice) :
    (planned.reserved done device).name = device.name ∧
      (planned.reserved done device).host? = device.host? ∧
      (planned.reserved done device).isActive = device.isActive := by
  unfold reserved
  split <;> simp

@[simp]
theorem name_reserved : (planned.reserved done device).name = device.name :=
  (planned.reserved_frame done device).1

@[simp]
theorem host?_reserved : (planned.reserved done device).host? = device.host? :=
  (planned.reserved_frame done device).2.1

@[simp]
theorem isActive_reserved : (planned.reserved done device).isActive = device.isActive :=
  (planned.reserved_frame done device).2.2

theorem nodup_names_reserved (planned : PlannedCluster) (done : List StorageSet) :
    ((planned.devices.map (planned.reserved done)).map BlockDevice.name).Nodup := by
  have unchanged : (planned.devices.map (planned.reserved done)).map BlockDevice.name =
      planned.devices.map BlockDevice.name := by
    simp [Function.comp_def]
  rw [unchanged]
  exact planned.deviceNames

/-- A device is reserved for a storage set exactly if that one was called and wants it. -/
theorem owner?_reserved_eq_some_iff
    (included : ∀ storageSet ∈ done, storageSet ∈ planned.storageSets)
    (member : storageSet ∈ planned.storageSets) (deviceMem : device ∈ planned.devices) :
    (planned.reserved done device).owner? = some storageSet.ownerUid ↔
      storageSet ∈ done ∧ device.name ∈ planned.wanted storageSet := by
  have owner (storageSet : StorageSet) (member : storageSet ∈ done) :
      (device.reserve storageSet.ownerUid).whole.owner? = some storageSet.ownerUid := by
    have nonempty :=
      (planned.storageSetsPlanned storageSet (included storageSet member)).uidNonempty
    rw [BlockDevice.owner?_whole, BlockDevice.owner?_reserve, if_neg nonempty]
  constructor
  · intro owned
    by_cases someWants : ∃ other ∈ done, device.name ∈ planned.wanted other
    · obtain ⟨other, otherMem, wanted⟩ := someWants
      rw [reserved_of_wanted included otherMem deviceMem wanted, owner other otherMem] at owned
      have same : other = storageSet := List.inj_on_of_nodup_map planned.storageSetUids
        (included other otherMem) member (Option.some.inj owned)
      exact same ▸ ⟨otherMem, wanted⟩
    · have unwanted : ∀ other ∈ done, device.name ∉ planned.wanted other :=
        fun other otherMem wanted => someWants ⟨other, otherMem, wanted⟩
      rw [reserved_of_unwanted unwanted, planned.unreserved device deviceMem] at owned
      cases owned
  · rintro ⟨inDone, wanted⟩
    rw [reserved_of_wanted included inDone deviceMem wanted, owner storageSet inDone]

theorem owner?_ne_of_fresh (included : ∀ storageSet ∈ done, storageSet ∈ planned.storageSets)
    (member : storageSet ∈ planned.storageSets) (fresh : storageSet ∉ done)
    (deviceMem : device ∈ planned.devices.map (planned.reserved done)) :
    device.owner? ≠ some storageSet.ownerUid := by
  intro owned
  obtain ⟨original, originalMem, rfl⟩ := List.mem_map.1 deviceMem
  exact fresh ((owner?_reserved_eq_some_iff included member originalMem).1 owned).1

theorem reserved_concat (included : ∀ storageSet ∈ done, storageSet ∈ planned.storageSets)
    (member : storageSet ∈ planned.storageSets) (fresh : storageSet ∉ done)
    (deviceMem : device ∈ planned.devices) :
    planned.reserved (done ++ [storageSet]) device =
      if device.name ∈ planned.wanted storageSet then
        ((planned.reserved done device).reserve storageSet.ownerUid).whole
      else planned.reserved done device := by
  split
  next wanted =>
    have unwanted : ∀ other ∈ done, device.name ∉ planned.wanted other := by
      intro other otherMem otherWanted
      have same := eq_of_mem_wanted member (included other otherMem) deviceMem wanted otherWanted
      exact fresh (same ▸ otherMem)
    rw [reserved_of_unwanted unwanted]
    refine reserved_of_wanted ?_ (List.mem_append_right _ List.mem_cons_self) deviceMem wanted
    intro other otherMem
    rcases List.mem_append.1 otherMem with before | last
    · exact included other before
    · exact List.mem_singleton.1 last ▸ member
  next unwanted =>
    rw [reserved, reserved, List.find?_append]
    have last : ([storageSet].find? fun storageSet =>
        device.name ∈ planned.wanted storageSet) = none := by
      simpa using unwanted
    rw [last, Option.or_none]

/-- The devices of a node are untouched until the storage set of the node is called. -/
theorem usableDevices_reserved
    (included : ∀ storageSet ∈ done, storageSet ∈ planned.storageSets)
    (member : storageSet ∈ planned.storageSets) (fresh : storageSet ∉ done) :
    (planned.wish storageSet).usableDevices (planned.devices.map (planned.reserved done)) =
      (planned.wish storageSet).usableDevices planned.devices := by
  have onNode : (planned.wish storageSet).onNode (planned.devices.map (planned.reserved done)) =
      (planned.wish storageSet).onNode planned.devices := by
    rw [ReservationRequest.onNode, List.filter_map]
    have sameHosts : (planned.devices.filter
        ((fun device => decide (device.host? = some (planned.wish storageSet).node)) ∘
          planned.reserved done)) = (planned.wish storageSet).onNode planned.devices := by
      simp [ReservationRequest.onNode, Function.comp_def]
    rw [sameHosts]
    refine (List.map_congr_left (g := id) fun device onNodeMem => ?_).trans (List.map_id _)
    obtain ⟨deviceMem, hosted⟩ := List.mem_filter.1 onNodeMem
    refine reserved_of_unwanted fun other otherMem otherWanted => ?_
    have otherHosted := host?_of_mem_wanted deviceMem otherWanted
    rw [of_decide_eq_true hosted] at otherHosted
    have same := eq_of_node_name member (included other otherMem) (Option.some.inj otherHosted)
    exact fresh (same ▸ otherMem)
  rw [ReservationRequest.usableDevices, onNode]
  rfl

theorem firstNames_reserved
    (included : ∀ storageSet ∈ done, storageSet ∈ planned.storageSets)
    (member : storageSet ∈ planned.storageSets) (fresh : storageSet ∉ done) :
    (planned.wish storageSet).firstNames (planned.devices.map (planned.reserved done)) =
      planned.wanted storageSet := by
  rw [wanted, ReservationRequest.firstNames, usableDevices_reserved included member fresh]
  rfl

end Reserved

/-- How far a cluster is: it has the planned objects, and some storage sets have taken the devices
that they want. -/
structure Stage (planned : PlannedCluster) (done : List StorageSet) (cluster : Cluster) : Prop where
  configs : Attachments.decodeAll ClusterConfig cluster.configs.values = .ok [planned.config]
  plans : Attachments.decodeAll ClusterPlan cluster.plans.values = .ok [planned.plan]
  storageSets :
    Attachments.decodeAll StorageSet cluster.storageSets.values = .ok planned.storageSets
  devices : Attachments.decodeAll BlockDevice cluster.devices.values =
    .ok (planned.devices.map (planned.reserved done))
  holders : ∀ name holder, cluster.ledger.holder? name = some holder →
    ∃ storageSet ∈ done, name ∈ planned.wanted storageSet

section Stages

variable {cluster : Cluster}

theorem Stage.configOf (stage : planned.Stage done cluster) (watch : Json) :
    (cluster.request watch).configOf planned.plan = .ok planned.config := by
  refine HookRequest.originOf_eq_ok planned.planMarked ?_ planned.configIdentified
  rw [Cluster.ofKind_clusterConfig, stage.configs]

theorem Stage.planOf (stage : planned.Stage done cluster)
    (member : storageSet ∈ planned.storageSets) (watch : Json) :
    (cluster.request watch).planOf storageSet = .ok planned.plan := by
  have marked := (planned.storageSetsPlanned storageSet member).marked
  refine HookRequest.originOf_eq_ok (marked.trans planned.planIdentified) ?_ planned.planIdentified
  rw [Cluster.ofKind_clusterPlan, stage.plans]

theorem Stage.ofKind_blockDevice (stage : planned.Stage done cluster) (watch : Json) :
    (cluster.request watch).attachments.ofKind BlockDevice =
      .ok (planned.devices.map (planned.reserved done)) := by
  rw [Cluster.ofKind_blockDevice, stage.devices]

/-- Nobody holds what a storage set wants before it was called. -/
theorem Stage.holder?_eq_none (stage : planned.Stage done cluster)
    (included : ∀ storageSet ∈ done, storageSet ∈ planned.storageSets)
    (member : storageSet ∈ planned.storageSets) (fresh : storageSet ∉ done) {name : String}
    (wanted : name ∈ planned.wanted storageSet) : cluster.ledger.holder? name = none := by
  cases held : cluster.ledger.holder? name with
  | none => rfl
  | some holder =>
      obtain ⟨other, otherMem, otherWanted⟩ := stage.holders name holder held
      obtain ⟨device, deviceMem, rfl, -⟩ := exists_hosted_of_mem_wanted wanted
      have same := eq_of_mem_wanted member (included other otherMem) deviceMem wanted otherWanted
      exact absurd (same ▸ otherMem) fresh

/-- What the call of a storage set that was not called yet does. -/
theorem Stage.call_storageSet (stage : planned.Stage done cluster)
    (included : ∀ storageSet ∈ done, storageSet ∈ planned.storageSets)
    (member : storageSet ∈ planned.storageSets) (fresh : storageSet ∉ done)
    (settings : OperatorConfig) (now : Instant) :
    ∃ (chosen : List BlockDevice) (claims : List DiskClaim) (after : Ledger),
      (∀ device ∈ chosen, device ∈ planned.devices.map (planned.reserved done)) ∧
      chosen.map BlockDevice.name = planned.wanted storageSet ∧
      (cluster.call .storageSet settings now (Resource.encode storageSet)).1.1.attachments =
        (chosen.map fun device => Resource.encode (device.reserve storageSet.ownerUid)) ++
          claims.map Resource.encode ∧
      (cluster.call .storageSet settings now (Resource.encode storageSet)).2 =
        { cluster with ledger := after } ∧
      StorageSetRound.Granted storageSet.ownerUid (planned.wanted storageSet) cluster.ledger
        after := by
  have isPlanned := planned.storageSetsPlanned storageSet member
  obtain ⟨name, named⟩ := isPlanned.named
  have wantedNow := firstNames_reserved included member fresh
  have available : ∀ name ∈ (planned.wish storageSet).firstNames
      (planned.devices.map (planned.reserved done)),
      ∀ holder ∈ cluster.ledger.holder? name, holder = storageSet.ownerUid := by
    intro name wanted holder held
    rw [wantedNow] at wanted
    rw [stage.holder?_eq_none included member fresh wanted] at held
    cases held
  have capacity :
      Capacity.bytes storageSet.spec.disk.capacity = .ok planned.intent.minDiskBytes := by
    rw [isPlanned.disk]
    exact planned.soundDisks.capacity
  have valid : planned.config.spec.disk.localDiskSelector.validate = .ok () := by
    rw [planned.soundDisks.selector]
    exact planned.soundDisks.selectorValid
  obtain ⟨chosen, claims, after, chosenMem, names, ran, granted⟩ :=
    StorageSetRound.run_of_unheld
      (HookRequest.watchAs_eq_ok rfl isPlanned.readBack) named isPlanned.identified
      (stage.planOf member (Resource.encode storageSet)) (stage.configOf _)
      (stage.ofKind_blockDevice _) capacity valid (planned.nodup_names_reserved done)
      (fun device => owner?_ne_of_fresh included member fresh) available
  have namesWanted : chosen.map BlockDevice.name = planned.wanted storageSet :=
    names.trans wantedNow
  have called : cluster.call .storageSet settings now (Resource.encode storageSet) =
      (Hook.storageSet.answer (cluster.request (Resource.encode storageSet)) settings now
        (.ok (.apply ((chosen.map fun device =>
          Resource.encode (device.reserve storageSet.ownerUid)) ++ claims.map Resource.encode))),
        { cluster with ledger := after }) := by
    rw [Cluster.call, Hook.run_sync rfl, Hook.reconcile, ran]
  rw [called]
  exact ⟨chosen, claims, after, chosenMem, namesWanted, rfl, rfl, namesWanted ▸ granted⟩

/-- A storage set that was not called yet takes the devices that it wants. -/
theorem Stage.reserve (stage : planned.Stage done cluster)
    (included : ∀ storageSet ∈ done, storageSet ∈ planned.storageSets)
    (member : storageSet ∈ planned.storageSets) (fresh : storageSet ∉ done)
    (settings : OperatorConfig) (now : Instant) :
    planned.Stage (done ++ [storageSet])
      (cluster.reserve settings now (Resource.encode storageSet)) := by
  obtain ⟨chosen, claims, after, chosenMem, names, emitted, ledgerAfter, granted⟩ :=
    stage.call_storageSet included member fresh settings now
  rw [Cluster.reserve, emitted, ledgerAfter]
  refine ⟨stage.configs, stage.plans, stage.storageSets, ?_, ?_⟩
  · have stored := Attachments.decodeAll_eq_ok_iff.1 stage.devices
    have fits : ∀ device ∈ planned.devices.map (planned.reserved done), device.Fits := by
      intro device deviceMem
      obtain ⟨document, -, decoded⟩ :=
        Attachments.exists_document_of_mem (stage.ofKind_blockDevice .null) deviceMem
      exact BlockDevice.fits_of_decode decoded
    rw [Table.values_mapValues, Attachments.decodeAll_eq_ok_iff, List.forall₂_map_left_iff]
    have replaced : planned.devices.map (planned.reserved (done ++ [storageSet])) =
        (planned.devices.map (planned.reserved done)).map fun device =>
          if device.name ∈ chosen.map BlockDevice.name then
            (device.reserve storageSet.ownerUid).whole
          else device := by
      rw [List.map_map]
      refine List.map_congr_left fun device deviceMem => ?_
      rw [reserved_concat included member fresh deviceMem, names]
      simp
    rw [replaced, List.forall₂_map_right_iff]
    refine (forall₂_and_mem stored).imp ?_
    rintro document device ⟨decoded, deviceMem⟩
    exact Json.decode_replacedFrom storageSet.ownerUid claims (planned.nodup_names_reserved done)
      fits chosenMem decoded deviceMem
  · intro name holder held
    have holders := granted name
    rw [held] at holders
    split at holders
    next wanted => exact ⟨storageSet, List.mem_append_right _ List.mem_cons_self, wanted⟩
    next =>
      obtain ⟨other, otherMem, wanted⟩ := stage.holders name holder holders.symm
      exact ⟨other, List.mem_append_left _ otherMem, wanted⟩

/-- Storage sets that are called one after the other, each once and in any order, all take the
devices that they want. -/
theorem Stage.foldl (stage : planned.Stage done cluster) {order : List StorageSet}
    (included : ∀ storageSet ∈ done ++ order, storageSet ∈ planned.storageSets)
    (once : (done ++ order).Nodup) (settings : OperatorConfig) (clock : Json → Instant) :
    planned.Stage (done ++ order)
      ((order.map Resource.encode).foldl
        (fun cluster document => cluster.reserve settings (clock document) document) cluster) := by
  induction order generalizing done cluster with
  | nil => simpa using stage
  | cons storageSet rest ih =>
      have doneIncluded : ∀ other ∈ done, other ∈ planned.storageSets := fun other member =>
        included other (List.mem_append_left _ member)
      have member : storageSet ∈ planned.storageSets :=
        included storageSet (List.mem_append_right _ List.mem_cons_self)
      have fresh : storageSet ∉ done := fun inDone =>
        List.disjoint_of_nodup_append once inDone List.mem_cons_self
      have next := stage.reserve doneIncluded member fresh settings
        (clock (Resource.encode storageSet))
      have regrouped : done ++ storageSet :: rest = (done ++ [storageSet]) ++ rest := by simp
      rw [regrouped] at included once ⊢
      exact ih next included once

end Stages
end PlannedCluster
end PoolPlanner
