import PoolPlanner.Resource.Kind
import PoolPlanner.Resource.Status
import PoolPlanner.Selector.Basic

/-!
# Cluster configs

The intent of a user: how many pools there are, which raid layout they have, and what their disks
look like.  Every field may be left out.
-/

namespace PoolPlanner

/-- The driver that provisions disks from outside the cluster. -/
structure ExternalProvision where
  csiAttacherName : String
  storageClassName : String
deriving DecidableEq

namespace ExternalProvision

/-- Whether both names are given. -/
def isComplete (provision : ExternalProvision) : Bool :=
  !Text.isBlankText provision.csiAttacherName && !Text.isBlankText provision.storageClassName

def decode : Decoder ExternalProvision :=
  Json.asRecord "struct ExternalProvision" 2 fun source =>
    ExternalProvision.mk <$> source.defaulted 0 "csiAttacherName" "" Json.asString <*>
      source.defaulted 1 "storageClassName" "" Json.asString

def encode (provision : ExternalProvision) : Json :=
  .ofMembers
    [("csiAttacherName", some (.string provision.csiAttacherName)),
      ("storageClassName", some (.string provision.storageClassName))]

end ExternalProvision

/-- What an intent says about pools. -/
structure PoolIntent where
  raidType : Option String := none
deriving DecidableEq, Inhabited

namespace PoolIntent

def decode : Decoder PoolIntent :=
  Json.asRecord "struct PoolConfigIntent" 1 fun source =>
    PoolIntent.mk <$> source.optional 0 "raidType" Json.asString

def encode (intent : PoolIntent) : Json :=
  .ofMembers [("raidType", intent.raidType.map .string)]

end PoolIntent

/-- What an intent says about disks. -/
structure DiskIntent where
  minCount : Option Int := none
  minCapacity : Option String := none
  externalProvision : Option ExternalProvision := none
  localDiskSelector : Selector := default
deriving DecidableEq, Inhabited

namespace DiskIntent

def decode : Decoder DiskIntent :=
  Json.asRecord "struct DiskConfigIntent" 4 fun source =>
    DiskIntent.mk <$> source.optional 0 "minCount" Json.asInt64 <*>
      source.optional 1 "minCapacity" Json.asString <*>
      source.optional 2 "externalProvision" ExternalProvision.decode <*>
      source.defaulted 3 "localDiskSelector" default Selector.decode

def encode (intent : DiskIntent) : Json :=
  .ofMembers
    [("externalProvision", intent.externalProvision.map ExternalProvision.encode),
      ("localDiskSelector", some intent.localDiskSelector.encode),
      ("minCapacity", intent.minCapacity.map .string),
      ("minCount", intent.minCount.map Json.integer)]

end DiskIntent

/-- The intent for a cluster of pools, as the user wrote it. -/
structure ClusterIntent where
  allowedNodes : Selector := default
  minPoolCount : Option Int := none
  maxPoolCount : Option Int := none
  pool : PoolIntent := {}
  disk : DiskIntent := {}
deriving DecidableEq, Inhabited

namespace ClusterIntent

def decode : Decoder ClusterIntent :=
  Json.asRecord "struct CStorClusterConfigSpec" 5 fun source =>
    ClusterIntent.mk <$> source.defaulted 0 "allowedNodes" default Selector.decode <*>
      source.optional 1 "minPoolCount" Json.asInt64 <*>
      source.optional 2 "maxPoolCount" Json.asInt64 <*>
      source.defaulted 3 "poolConfig" {} PoolIntent.decode <*>
      source.defaulted 4 "diskConfig" {} DiskIntent.decode

def encode (intent : ClusterIntent) : Json :=
  .ofMembers
    [("allowedNodes", some intent.allowedNodes.encode),
      ("diskConfig", some intent.disk.encode),
      ("maxPoolCount", intent.maxPoolCount.map Json.integer),
      ("minPoolCount", intent.minPoolCount.map Json.integer),
      ("poolConfig", some intent.pool.encode)]

end ClusterIntent

/-- The object that holds an intent. -/
structure ClusterConfig where
  metadata : ObjectMeta
  spec : ClusterIntent
  status : Option ClusterStatus := none

instance : Resource ClusterConfig where
  kind := "CStorClusterConfig"
  apiVersion := OwnedKind.apiVersion
  metadata := ClusterConfig.metadata
  decode :=
    Json.asRecord "struct CStorClusterConfig" 3 fun source =>
      ClusterConfig.mk <$> source.required 0 "metadata" ObjectMeta.decode <*>
        source.required 1 "spec" ClusterIntent.decode <*>
        source.nullable 2 "status" ClusterStatus.decode
  encode config :=
    .ofMembers
      [("apiVersion", some (.string OwnedKind.apiVersion)),
        ("kind", some (.string "CStorClusterConfig")),
        ("metadata", some config.metadata.encode),
        ("spec", some config.spec.encode),
        ("status", config.status.map ClusterStatus.encode)]

end PoolPlanner
