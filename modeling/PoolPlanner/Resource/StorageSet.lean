import PoolPlanner.Resource.ClusterConfig
import PoolPlanner.Resource.ClusterPlan

/-!
# Storage sets

The disks that one node of a plan has to contribute.
-/

namespace PoolPlanner

/-- The disks that a storage set asks for. -/
structure DiskRequest where
  capacity : String
  count : Int
deriving DecidableEq, Inhabited

namespace DiskRequest

def decode : Decoder DiskRequest :=
  Json.asRecord "struct DiskRequest" 2 fun source =>
    DiskRequest.mk <$> source.required 0 "capacity" Json.asString <*>
      source.required 1 "count" Json.asInt64

def encode (request : DiskRequest) : Json :=
  .ofMembers
    [("capacity", some (.string request.capacity)),
      ("count", some (Json.integer request.count))]

end DiskRequest

/-- What a storage set says. -/
structure StorageSetSpec where
  node : PlannedNode
  disk : DiskRequest
  externalProvision : Option ExternalProvision := none
deriving DecidableEq, Inhabited

namespace StorageSetSpec

def decode : Decoder StorageSetSpec :=
  Json.asRecord "struct CStorClusterStorageSetSpec" 3 fun source =>
    StorageSetSpec.mk <$> source.required 0 "node" PlannedNode.decode <*>
      source.required 1 "disk" DiskRequest.decode <*>
      source.optional 2 "externalProvision" ExternalProvision.decode

def encode (spec : StorageSetSpec) : Json :=
  .ofMembers
    [("disk", some spec.disk.encode),
      ("externalProvision", spec.externalProvision.map ExternalProvision.encode),
      ("node", some spec.node.encode)]

end StorageSetSpec

/-- The object that asks for the disks of one node. -/
structure StorageSet where
  metadata : ObjectMeta
  spec : StorageSetSpec
  status : Option ClusterStatus := none

namespace StorageSet

/-- How many disks a storage set asks for; a negative count asks for none. -/
def desiredDiskCount (storageSet : StorageSet) : Nat :=
  storageSet.spec.disk.count.toNat

end StorageSet

instance : Resource StorageSet where
  kind := "CStorClusterStorageSet"
  apiVersion := OwnedKind.apiVersion
  metadata := StorageSet.metadata
  decode :=
    Json.asRecord "struct CStorClusterStorageSet" 3 fun source =>
      StorageSet.mk <$> source.required 0 "metadata" ObjectMeta.decode <*>
        source.required 1 "spec" StorageSetSpec.decode <*>
        source.nullable 2 "status" ClusterStatus.decode
  encode storageSet :=
    .ofMembers
      [("apiVersion", some (.string OwnedKind.apiVersion)),
        ("kind", some (.string "CStorClusterStorageSet")),
        ("metadata", some storageSet.metadata.encode),
        ("spec", some storageSet.spec.encode),
        ("status", storageSet.status.map ClusterStatus.encode)]

end PoolPlanner
