import PoolPlanner.Planning.RaidGroups
import PoolPlanner.Planning.SlotMerge
import PoolPlanner.Resource.BlockDevice
import PoolPlanner.Resource.PoolCluster
import PoolPlanner.Resource.StorageSet

/-!
# Assembling pool clusters

The pool cluster of a plan, once every node has a storage set and every storage set has its devices.
Until then nothing is built.  Devices that are in a pool already keep their place in it.
-/

namespace PoolPlanner

/-- Why a pool cluster cannot be built yet. -/
inductive Unready
  | noNodes
  | storageSetCount (observed planned : Nat)
  | devicesMissing
  | noStorageSet (node : String)
deriving DecidableEq, Repr

def Unready.message : Unready → String
  | .noNodes => "cluster plan has no nodes"
  | .storageSetCount observed planned => s!"{observed} of {planned} storage sets observed"
  | .devicesMissing => "storage sets are still waiting for devices"
  | .noStorageSet node => s!"no storage set for node {node}"

/-- What became of an attempt to assemble pools. -/
inductive Assembly (α : Type)
  | ready (result : α)
  | notReady (reason : Unready)

structure AssemblyInput where
  plan : ClusterPlan
  config : Option ClusterConfig
  storageSets : List StorageSet
  /-- The names of the reserved devices by the uid of their storage set. -/
  reserved : Table (List String)
  observed : Option PoolCluster

namespace PoolAssembly

def isReadyByNodeCount (plannedNodes observedStorageSets : Nat) : Bool :=
  plannedNodes = observedStorageSets

/-- Whether each storage set has as many devices as it asks for, by pairs of the two counts. -/
def isReadyByDiskCount (counts : List (Nat × Nat)) : Bool :=
  counts.all fun count => count.1 ≤ count.2

/-- The names of the active devices on the node of a storage set that are reserved for it. -/
def reservedNames (devices : List BlockDevice) (uid node : String) : List String :=
  inTextOrder
    ((devices.filter fun device =>
      device.isActive && device.isOwnedBy uid && device.host? = some node).map BlockDevice.name)

/-- Reserved devices by the uid of their storage set; a storage set without uid has none. -/
def reservedByStorageSet (devices : List BlockDevice) (storageSets : List StorageSet) :
    Table (List String) :=
  .ofList (storageSets.filterMap fun storageSet =>
    storageSet.metadata.uid.map fun uid =>
      (uid, reservedNames devices uid storageSet.spec.node.name))

def reservedFor (reserved : Table (List String)) (storageSet : StorageSet) : List String :=
  (storageSet.metadata.uid.bind reserved.find?).getD []

/-- The devices that a node contributes: those in its pool first, then others by name. -/
def pickDevices (observedOrder reserved : List String) (count : Nat) : List String :=
  let kept := (observedOrder.filter fun name => name ∈ reserved).take count
  fillUpTo count kept (inTextOrder reserved)

def poolFor (node : String) (groups : List RaidGroup) (layout : RaidLayout) : PoolSpec where
  nodeSelector := Table.empty.insert hostnameLabel node
  raidGroups := groups.map fun group =>
    { layout := group.layout, blockDevices := group.devices.map DeviceReference.mk }
  settings := .forLayout layout

/-- The device list of a node in the order in which its pool has it. -/
def finalDevices (input : AssemblyInput) (node : PlannedNode) (storageSet : StorageSet) :
    List String :=
  let observedOrder :=
    match input.observed with
    | some observed => observed.deviceOrder node.name
    | none => []
  slotMerge observedOrder
    (pickDevices observedOrder (reservedFor input.reserved storageSet)
      storageSet.desiredDiskCount)

def buildPool (input : AssemblyInput) (layout : RaidLayout) (node : PlannedNode)
    (storageSet : StorageSet) : Except Fault PoolSpec := do
  let groups ← RaidGroup.distribute node.name (finalDevices input node storageSet) layout
  if groups.isEmpty then
    throw (.validation (.emptyPool (Resource.name storageSet) node.name))
  pure (poolFor node.name groups layout)

def buildPools (input : AssemblyInput) (layout : RaidLayout) :
    List PlannedNode → Except Fault (Assembly (List PoolSpec))
  | [] => .ok (.ready [])
  | node :: rest =>
      match input.storageSets.find? fun storageSet => storageSet.spec.node.uid = node.uid with
      | none => .ok (.notReady (.noStorageSet node.name))
      | some storageSet =>
          match buildPool input layout node storageSet with
          | .error fault => .error fault
          | .ok pool =>
              match buildPools input layout rest with
              | .error fault => .error fault
              | .ok (.notReady reason) => .ok (.notReady reason)
              | .ok (.ready pools) => .ok (.ready (pool :: pools))

/-- What keeps pools from being built, before any is tried. -/
def gate (input : AssemblyInput) : Option Unready :=
  let planned := input.plan.spec.nodes.length
  let observed := input.storageSets.length
  let counts := input.storageSets.map fun storageSet =>
    (storageSet.desiredDiskCount, (reservedFor input.reserved storageSet).length)
  if planned = 0 then some .noNodes
  else if !isReadyByNodeCount planned observed then some (.storageSetCount observed planned)
  else if !isReadyByDiskCount counts then some .devicesMissing
  else none

def metadataFor (plan : ClusterPlan) (planUid configUid : String) : Except Fault ObjectMeta := do
  let owner ← Resource.ownerReference .clusterPlan plan
  let metadata : ObjectMeta :=
    { name := some (Resource.name plan)
      objectNamespace := plan.metadata.objectNamespace
      ownerReferences := some [owner] }
  pure ((metadata.mark MarkerKey.clusterPlan planUid).mark MarkerKey.clusterConfig configUid)

def assemble (input : AssemblyInput) : Except Fault (Assembly PoolCluster) := do
  let planUid ← Resource.uid .clusterPlan input.plan
  let config ←
    match input.config with
    | some config => pure config
    | none => throw (.missingAttachment (Resource.kind ClusterConfig))
  let configUid ← Resource.uid .clusterConfig config
  let layout ← RaidLayout.ofRequest config.spec.pool.raidType
  match gate input with
  | some reason => pure (.notReady reason)
  | none =>
      match ← buildPools input layout input.plan.spec.nodes with
      | .notReady reason => pure (.notReady reason)
      | .ready pools =>
          let metadata ← metadataFor input.plan planUid configUid
          pure (.ready { metadata, spec := { pools } })

end PoolAssembly
end PoolPlanner
