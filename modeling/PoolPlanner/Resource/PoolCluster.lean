import PoolPlanner.RaidLayout
import PoolPlanner.Resource.Kind

/-!
# Pool clusters

What the planner builds in the end: one pool for each node, each of raid groups of block devices in
a fixed order.
-/

namespace PoolPlanner

/-- A device as a raid group lists it. -/
structure DeviceReference where
  blockDeviceName : String
deriving DecidableEq

namespace DeviceReference

def decode : Decoder DeviceReference :=
  Json.asRecord "struct BlockDeviceRef" 1 fun source =>
    DeviceReference.mk <$> source.required 0 "blockDeviceName" Json.asString

def encode (reference : DeviceReference) : Json :=
  .ofMembers [("blockDeviceName", some (.string reference.blockDeviceName))]

end DeviceReference

/-- One raid group of a pool. -/
structure RaidGroupSpec where
  layout : RaidLayout
  blockDevices : List DeviceReference
deriving DecidableEq

namespace RaidGroupSpec

def decode : Decoder RaidGroupSpec :=
  Json.asRecord "struct RaidGroupSpec" 2 fun source =>
    RaidGroupSpec.mk <$> source.required 0 "type" (Json.asVariant RaidLayout.named) <*>
      source.defaulted 1 "blockDevices" [] (Json.asList DeviceReference.decode)

def encode (group : RaidGroupSpec) : Json :=
  .ofMembers
    [("blockDevices", some (.array (group.blockDevices.map DeviceReference.encode))),
      ("type", some (.string group.layout.name))]

end RaidGroupSpec

/-- The settings of a pool. -/
structure PoolSettings where
  defaultLayout : RaidLayout
  overProvisioning : Bool
  compression : String
deriving DecidableEq

namespace PoolSettings

/-- The settings of every pool that is planned with a layout. -/
def forLayout (layout : RaidLayout) : PoolSettings :=
  { defaultLayout := layout, overProvisioning := false, compression := "off" }

def decode : Decoder PoolSettings :=
  Json.asRecord "struct PoolConfig" 3 fun source =>
    PoolSettings.mk <$>
      source.required 0 "defaultRaidGroupType" (Json.asVariant RaidLayout.named) <*>
      source.defaulted 1 "overProvisioning" false Json.asBool <*>
      source.required 2 "compression" Json.asString

def encode (settings : PoolSettings) : Json :=
  .ofMembers
    [("compression", some (.string settings.compression)),
      ("defaultRaidGroupType", some (.string settings.defaultLayout.name)),
      ("overProvisioning", some (.bool settings.overProvisioning))]

end PoolSettings

/-- The pool of one node. -/
structure PoolSpec where
  nodeSelector : Table String
  raidGroups : List RaidGroupSpec
  settings : PoolSettings
deriving DecidableEq

namespace PoolSpec

def node? (pool : PoolSpec) : Option String :=
  pool.nodeSelector.find? hostnameLabel

/-- The devices of a pool in the order of its raid groups. -/
def deviceNames (pool : PoolSpec) : List String :=
  pool.raidGroups.flatMap fun group =>
    group.blockDevices.map DeviceReference.blockDeviceName

def decode : Decoder PoolSpec :=
  Json.asRecord "struct PoolSpec" 3 fun source =>
    PoolSpec.mk <$> source.required 0 "nodeSelector" (Json.asTable Json.asString) <*>
      source.defaulted 1 "raidGroups" [] (Json.asList RaidGroupSpec.decode) <*>
      source.required 2 "poolConfig" PoolSettings.decode

def encode (pool : PoolSpec) : Json :=
  .ofMembers
    [("nodeSelector", some pool.nodeSelector.encode),
      ("poolConfig", some pool.settings.encode),
      ("raidGroups", some (.array (pool.raidGroups.map RaidGroupSpec.encode)))]

end PoolSpec

/-- What a pool cluster says. -/
structure PoolClusterSpec where
  pools : List PoolSpec := []
deriving DecidableEq, Inhabited

namespace PoolClusterSpec

def decode : Decoder PoolClusterSpec :=
  Json.asRecord "struct CStorPoolClusterSpec" 1 fun source =>
    PoolClusterSpec.mk <$> source.defaulted 0 "pools" [] (Json.asList PoolSpec.decode)

def encode (spec : PoolClusterSpec) : Json :=
  .ofMembers [("pools", some (.array (spec.pools.map PoolSpec.encode)))]

end PoolClusterSpec

/-- The pools of a cluster. -/
structure PoolCluster where
  metadata : ObjectMeta
  spec : PoolClusterSpec

namespace PoolCluster

/-- The devices of the pool of a node in their order; none if the node has no pool. -/
def deviceOrder (cluster : PoolCluster) (node : String) : List String :=
  match cluster.spec.pools.find? fun pool => pool.node? = some node with
  | some pool => pool.deviceNames
  | none => []

end PoolCluster

instance : Resource PoolCluster where
  kind := "CStorPoolCluster"
  apiVersion := "cstor.openebs.io/v1"
  metadata := PoolCluster.metadata
  decode :=
    Json.asRecord "struct CStorPoolCluster" 2 fun source =>
      PoolCluster.mk <$> source.required 0 "metadata" ObjectMeta.decode <*>
        source.required 1 "spec" PoolClusterSpec.decode
  encode cluster :=
    .ofMembers
      [("apiVersion", some (.string "cstor.openebs.io/v1")),
        ("kind", some (.string "CStorPoolCluster")),
        ("metadata", some cluster.metadata.encode),
        ("spec", some cluster.spec.encode)]

end PoolPlanner
