import PoolPlanner.Proofs.FullPools

/-!
# Pools and the hosts of their devices

A pool is pinned to the name that the plan has for its node.  Its devices are taken from the host
that a storage set has on record, and the two are joined by the node's uid alone.  So a pool stays
on its own host exactly as long as both know the node by the same name.
-/

namespace PoolPlanner
namespace PoolClusterRound

namespace Snapshot

variable {snapshot : Snapshot} {layout : RaidLayout} {node : PlannedNode} {pool : PoolSpec}
  {serving supplier : StorageSet}

/-- The storage set whose reservations make the pool of a node.  It is the one that serves the
node; of several with its uid, reservations are known for the last. -/
def supplier? (snapshot : Snapshot) (node : PlannedNode) : Option StorageSet := do
  let serving ← snapshot.storageSets.find? fun storageSet => storageSet.spec.node.uid = node.uid
  let uid ← serving.metadata.uid
  snapshot.storageSets.reverse.find? fun storageSet => storageSet.metadata.uid = some uid

/-- Every device of a pool is attached and on a host. -/
def OnHost (snapshot : Snapshot) (pool : PoolSpec) (host : String) : Prop :=
  ∀ name ∈ pool.deviceNames, ∃ device ∈ snapshot.devices,
    device.name = name ∧ device.host? = some host

/-- Every pool has devices of the host that it is pinned to only. -/
def OnOwnHosts (snapshot : Snapshot) (pools : List PoolSpec) : Prop :=
  ∀ pool ∈ pools, ∀ host, pool.node? = some host → snapshot.OnHost pool host

/-- The supplier of a node has the name on record that the plan has. -/
def SameName (snapshot : Snapshot) (node : PlannedNode) : Prop :=
  ∃ supplier, snapshot.supplier? node = some supplier ∧ supplier.spec.node.name = node.name

/-- A pool that is pinned to its node and has devices, all from the host of the supplier. -/
structure SuppliedPool (snapshot : Snapshot) (node : PlannedNode) (pool : PoolSpec) : Prop where
  pinned : pool.node? = some node.name
  hasDevice : pool.deviceNames ≠ []
  fromSupplier : ∃ supplier, snapshot.supplier? node = some supplier ∧
    snapshot.OnHost pool supplier.spec.node.name

theorem supplier?_eq_of_find?
    (found : (snapshot.storageSets.find? fun storageSet =>
      storageSet.spec.node.uid = node.uid) = some serving) :
    snapshot.supplier? node = serving.metadata.uid.bind fun uid =>
      snapshot.storageSets.reverse.find? fun storageSet => storageSet.metadata.uid = some uid := by
  simp [supplier?, found]

theorem exists_supplier_of_mem_reservedFor
    (found : (snapshot.storageSets.find? fun storageSet =>
      storageSet.spec.node.uid = node.uid) = some serving)
    {name : String}
    (member : name ∈ PoolAssembly.reservedFor snapshot.input.reserved serving) :
    ∃ supplier, snapshot.supplier? node = some supplier ∧ ∃ device ∈ snapshot.devices,
      device.name = name ∧ device.host? = some supplier.spec.node.name := by
  rw [supplier?_eq_of_find? found]
  cases identified : serving.metadata.uid with
  | none => simp [PoolAssembly.reservedFor_of_uid_eq_none identified] at member
  | some uid =>
      have reserved : snapshot.input.reserved.find? uid = _ :=
        PoolAssembly.find?_reservedByStorageSet snapshot.devices snapshot.storageSets uid
      rw [PoolAssembly.reservedFor, identified, Option.bind_some, reserved] at member
      rw [Option.bind_some]
      cases last : snapshot.storageSets.reverse.find? fun storageSet =>
          storageSet.metadata.uid = some uid with
      | none => simp [last] at member
      | some supplier =>
          rw [last, Option.map_some, Option.getD_some, PoolAssembly.mem_reservedNames] at member
          obtain ⟨device, deviceMem, ⟨-, -, host⟩, named⟩ := member
          exact ⟨supplier, rfl, device, deviceMem, named, host⟩

theorem suppliedPool_of_buildPool
    (found : (snapshot.storageSets.find? fun storageSet =>
      storageSet.spec.node.uid = node.uid) = some serving)
    (built : PoolAssembly.buildPool snapshot.input layout node serving = .ok pool) :
    snapshot.SuppliedPool node pool := by
  have listed := PoolAssembly.deviceNames_of_buildPool built
  have hasDevice : pool.deviceNames ≠ [] := by
    obtain ⟨-, nonempty, -⟩ := PoolAssembly.buildPool_eq_ok_iff.1 built
    rw [listed]
    exact RaidGroup.ne_nil_of_parts_ne_nil nonempty
  have supplied : ∀ name ∈ pool.deviceNames, ∃ supplier,
      snapshot.supplier? node = some supplier ∧ ∃ device ∈ snapshot.devices,
        device.name = name ∧ device.host? = some supplier.spec.node.name := by
    intro name nameMem
    rw [listed] at nameMem
    exact exists_supplier_of_mem_reservedFor found
      (PoolAssembly.mem_reservedFor_of_mem_finalDevices nameMem)
  -- Any one device tells the supplier of all of them.
  obtain ⟨first, firstMem⟩ := List.exists_mem_of_ne_nil _ hasDevice
  obtain ⟨supplier, chosen, -⟩ := supplied first firstMem
  refine ⟨PoolAssembly.node?_of_buildPool built, hasDevice, supplier, chosen, ?_⟩
  intro name nameMem
  obtain ⟨_, chosenAgain, attached⟩ := supplied name nameMem
  obtain rfl := Option.some.inj (chosen.symm.trans chosenAgain)
  exact attached

theorem OnHost.host_eq (distinct : (snapshot.devices.map BlockDevice.name).Nodup)
    (hasDevice : pool.deviceNames ≠ []) {host other : String} (onHost : snapshot.OnHost pool host)
    (onOther : snapshot.OnHost pool other) : host = other := by
  obtain ⟨name, nameMem⟩ := List.exists_mem_of_ne_nil _ hasDevice
  obtain ⟨device, deviceMem, named, isOn⟩ := onHost name nameMem
  obtain ⟨otherDevice, otherMem, otherNamed, isOnOther⟩ := onOther name nameMem
  obtain rfl : device = otherDevice :=
    List.inj_on_of_nodup_map distinct deviceMem otherMem (named.trans otherNamed.symm)
  exact Option.some.inj (isOn.symm.trans isOnOther)

/-- The pool of a node is on the host it is pinned to if the supplier knows the node by name. -/
theorem SuppliedPool.onHost_iff (distinct : (snapshot.devices.map BlockDevice.name).Nodup)
    (supplied : snapshot.SuppliedPool node pool) :
    snapshot.OnHost pool node.name ↔ snapshot.SameName node := by
  obtain ⟨-, hasDevice, supplier, chosen, fromHost⟩ := supplied
  constructor
  · intro onHost
    exact ⟨supplier, chosen, fromHost.host_eq distinct hasDevice onHost⟩
  · rintro ⟨_, chosenAgain, sameName⟩
    obtain rfl := Option.some.inj (chosen.symm.trans chosenAgain)
    rwa [sameName] at fromHost

theorem onOwnHosts_iff (distinct : (snapshot.devices.map BlockDevice.name).Nodup)
    {nodes : List PlannedNode} {pools : List PoolSpec}
    (supplied : List.Forall₂ snapshot.SuppliedPool nodes pools) :
    snapshot.OnOwnHosts pools ↔ ∀ node ∈ nodes, snapshot.SameName node := by
  induction supplied with
  | nil => simp [OnOwnHosts]
  | cons first rest ih =>
      rw [List.forall_mem_cons, ← ih, ← first.onHost_iff distinct]
      simp [OnOwnHosts, first.pinned]

theorem suppliedPools_of_assemble {cluster : PoolCluster}
    (assembled : PoolAssembly.assemble snapshot.input = .ok (.ready cluster)) :
    List.Forall₂ snapshot.SuppliedPool snapshot.plan.spec.nodes cluster.spec.pools := by
  obtain ⟨-, -, -, layout, pools, metadata, -, -, -, -, -, built, -, rfl⟩ :=
    PoolAssembly.assemble_eq_ready_iff.1 assembled
  refine (PoolAssembly.buildPools_eq_ready_iff.1 built).imp fun node pool => ?_
  rintro ⟨serving, found, poolBuilt⟩
  exact suppliedPool_of_buildPool found poolBuilt

end Snapshot

/-- The pools that a round applies are pinned to the planned nodes.  They are on their own hosts if
and only if plan and storage sets agree on the names of the nodes. -/
theorem sync_pools_onOwnHosts_iff (request : HookRequest) (settings : OperatorConfig)
    (now : Instant) (ledger : Ledger)
    (distinct : ∀ snapshot, Snapshot.read request = .ok snapshot →
      (snapshot.devices.map BlockDevice.name).Nodup) :
    ∃ response outcome,
      (Hook.poolCluster.sync request settings now).run ledger = ((response, outcome), ledger) ∧
      (outcome = .applied → ∃ snapshot, ∃ cluster : PoolCluster,
        Snapshot.read request = .ok snapshot ∧
        response.attachments = [Resource.encode cluster] ∧
        Resource.decode (Resource.encode cluster) = .ok cluster ∧
        List.Forall₂ snapshot.SuppliedPool snapshot.plan.spec.nodes cluster.spec.pools ∧
        (snapshot.OnOwnHosts cluster.spec.pools ↔
          ∀ node ∈ snapshot.plan.spec.nodes, snapshot.SameName node)) ∧
      (outcome ≠ .applied → response.attachments = []) := by
  obtain ⟨response, outcome, ran, whenApplied, otherwise⟩ :=
    sync_assembles request settings now ledger
  refine ⟨response, outcome, ran, fun applied => ?_, otherwise⟩
  obtain ⟨snapshot, cluster, wasRead, assembled, emitted⟩ := whenApplied applied
  have supplied := Snapshot.suppliedPools_of_assemble assembled
  exact ⟨snapshot, cluster, wasRead, emitted, readBack_of_assemble assembled, supplied,
    Snapshot.onOwnHosts_iff (distinct snapshot wasRead) supplied⟩

/-- On the reserved pair plan and storage set agree, and the pool is on its own host. -/
theorem sync_reservedPair_onOwnHosts :
    (∀ snapshot, Snapshot.read reservedPair.request = .ok snapshot →
        (snapshot.devices.map BlockDevice.name).Nodup) ∧
      ∃ response, ∃ cluster : PoolCluster,
        (Hook.poolCluster.sync reservedPair.request {} .epoch).run .empty =
            ((response, .applied), .empty) ∧
          response.attachments = [Resource.encode cluster] ∧
          Resource.decode (Resource.encode cluster) = .ok cluster ∧
          reservedPair.OnOwnHosts cluster.spec.pools := by
  have distinct : ∀ snapshot, Snapshot.read reservedPair.request = .ok snapshot →
      (snapshot.devices.map BlockDevice.name).Nodup := by
    intro snapshot wasRead
    obtain rfl := Except.ok.inj (read_reservedPair.symm.trans wasRead)
    exact reservedPair_distinct.devices
  have applies := reservedPair_applied
  have sameNames : ∀ node ∈ reservedPair.plan.spec.nodes, reservedPair.SameName node := by
    intro node nodeMem
    obtain rfl := List.mem_singleton.1 nodeMem
    exact ⟨_, rfl, rfl⟩
  obtain ⟨response, outcome, ran, whenApplied, -⟩ :=
    sync_pools_onOwnHosts_iff reservedPair.request {} .epoch .empty distinct
  obtain rfl : outcome = .applied := by rwa [ran] at applies
  obtain ⟨snapshot, cluster, wasRead, emitted, readBack, -, onOwnHosts⟩ := whenApplied rfl
  obtain rfl := Except.ok.inj (read_reservedPair.symm.trans wasRead)
  exact ⟨distinct, response, cluster, ran, emitted, readBack, onOwnHosts.2 sameNames⟩

/-- The reserved pair after its node has been renamed: the plan has the new name already, storage
set and devices still have the old one. -/
def renamedNode : Snapshot :=
  { reservedPair with
    plan := { reservedPair.plan with spec := { nodes := [⟨"node-2", "node-uid"⟩] } } }

/-- The pool is pinned to the new name of the node, while its devices are where the old one is. -/
theorem renamedNode_leavesHost :
    (renamedNode.devices.map BlockDevice.name).Nodup ∧
      Snapshot.read renamedNode.request = .ok renamedNode ∧
      ∃ response, ∃ cluster : PoolCluster,
        (Hook.poolCluster.sync renamedNode.request {} .epoch).run .empty =
            ((response, .applied), .empty) ∧
          response.attachments = [Resource.encode cluster] ∧
          Resource.decode (Resource.encode cluster) = .ok cluster ∧
          (∃ pool ∈ cluster.spec.pools, pool.node? = some "node-2" ∧ pool.deviceNames ≠ [] ∧
            renamedNode.OnHost pool "node-1") ∧
          ¬ renamedNode.OnOwnHosts cluster.spec.pools := by
  have distinct : (renamedNode.devices.map BlockDevice.name).Nodup := by decide
  have isRead : Snapshot.read renamedNode.request = .ok renamedNode := by cbv
  have applies : ((Hook.poolCluster.sync renamedNode.request {} .epoch).run .empty).1.2 =
      .applied := by
    cbv
  obtain ⟨response, outcome, ran, whenApplied, -⟩ :=
    sync_assembles renamedNode.request {} .epoch .empty
  obtain rfl : outcome = .applied := by rwa [ran] at applies
  obtain ⟨snapshot, cluster, wasRead, assembled, emitted⟩ := whenApplied rfl
  obtain rfl := Except.ok.inj (isRead.symm.trans wasRead)
  have supplied := Snapshot.suppliedPools_of_assemble assembled
  have onNodeOne : ∃ pool ∈ cluster.spec.pools, pool.node? = some "node-2" ∧
      pool.deviceNames ≠ [] ∧ renamedNode.OnHost pool "node-1" := by
    obtain ⟨pool, rest, first, -, pools⟩ := List.forall₂_cons_left_iff.1 supplied
    obtain ⟨pinned, hasDevice, supplier, chosen, onHost⟩ := first
    obtain rfl := Option.some.inj chosen
    exact ⟨pool, by simp [pools], pinned, hasDevice, onHost⟩
  refine ⟨distinct, isRead, response, cluster, ran, emitted, readBack_of_assemble assembled,
    onNodeOne, fun onOwnHosts => ?_⟩
  obtain ⟨pool, poolMem, pinned, hasDevice, onHost⟩ := onNodeOne
  have sameHost := onHost.host_eq distinct hasDevice (onOwnHosts pool poolMem "node-2" pinned)
  exact absurd sameHost (by decide)

end PoolClusterRound
end PoolPlanner
