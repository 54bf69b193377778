import PoolPlanner.Ordering
import PoolPlanner.Resource.StorageSet

/-!
# Planning storage sets

One storage set for each node of a plan.  A node uid is kept if it is planned and has a storage set,
created if it is only planned, and removed if it only has a storage set.  Removed and created uids
are paired in ascending order: the storage set of the one then serves the other under its old name,
so that its disks are not given up.  What is left over is created or dropped.
-/

namespace PoolPlanner

/-- What becomes of the storage set of a node. -/
inductive NodeAction
  | keep (node : PlannedNode)
  | create (node : PlannedNode)
  | retarget (fromUid : String) (node : PlannedNode)
  | remove (uid : String)
deriving DecidableEq

/-- Node uids by what becomes of their storage sets. -/
structure NodeBuckets where
  keep : List String
  create : List String
  remove : List String
  /-- Uids that lose a storage set with those that get it. -/
  retarget : List (String × String)
deriving DecidableEq

structure StorageSetPlanner where
  planName : String
  planUid : String
  planNamespace : Option String
  owner : OwnerReference
  /-- The planned nodes by uid. -/
  desired : Table PlannedNode
  /-- The observed storage sets by the uid of their node. -/
  observed : Table StorageSet
  disk : DiskRequest
  externalProvision : Option ExternalProvision

namespace StorageSetPlanner

/-- The planned nodes by uid; of two with one uid the later counts. -/
def desiredTable (nodes : List PlannedNode) : Table PlannedNode :=
  .ofList (nodes.map fun node => (node.uid, node))

/-- Storage sets by the uid of their node; of two for one node the first by name counts. -/
def observedTable (storageSets : List StorageSet) : Table StorageSet :=
  .ofList ((Resource.sortedByName storageSets).reverse.map fun storageSet =>
    (storageSet.spec.node.uid, storageSet))

def ofPlan (plan : ClusterPlan) (observed : List StorageSet) (disk : DiskRequest)
    (externalProvision : Option ExternalProvision) : Except Fault StorageSetPlanner := do
  let planUid ← Resource.uid .clusterPlan plan
  let owner ← Resource.ownerReference .clusterPlan plan
  pure
    { planName := Resource.name plan
      planUid
      planNamespace := plan.metadata.objectNamespace
      owner
      desired := desiredTable plan.spec.nodes
      observed := observedTable observed
      disk
      externalProvision }

def common (left right : List String) : List String :=
  left.filter fun uid => uid ∈ right

def without (left right : List String) : List String :=
  left.filter fun uid => uid ∉ right

def buckets (planner : StorageSetPlanner) : NodeBuckets :=
  let desired := planner.desired.keys
  let observed := planner.observed.keys
  let created := without desired observed
  let removed := without observed desired
  { keep := common desired observed
    create := created.drop removed.length
    remove := removed.drop created.length
    retarget := removed.zip created }

/-- What becomes of each node uid, bucket by bucket. -/
def actions (planner : StorageSetPlanner) : List NodeAction :=
  let buckets := planner.buckets
  (buckets.keep.filterMap fun uid => (planner.desired.find? uid).map .keep) ++
    (buckets.retarget.filterMap fun pair =>
      (planner.desired.find? pair.2).map (.retarget pair.1)) ++
    (buckets.create.filterMap fun uid => (planner.desired.find? uid).map .create) ++
    buckets.remove.map .remove

def storageSetName (planName nodeUid : String) : String :=
  s!"{planName}-{nodeUid}"

def storageSetFor (planner : StorageSetPlanner) (name : String) (node : PlannedNode) :
    StorageSet where
  metadata :=
    ObjectMeta.mark
      { name := some name
        objectNamespace := planner.planNamespace
        ownerReferences := some [planner.owner] }
      MarkerKey.clusterPlan planner.planUid
  spec := { node, disk := planner.disk, externalProvision := planner.externalProvision }

/-- The storage set that an action calls for, if any. -/
def planned? (planner : StorageSetPlanner) : NodeAction → Option StorageSet
  | .keep node =>
      (planner.observed.find? node.uid).map fun existing =>
        planner.storageSetFor (Resource.name existing) existing.spec.node
  | .retarget fromUid node =>
      (planner.observed.find? fromUid).map fun existing =>
        planner.storageSetFor (Resource.name existing) node
  | .create node => some (planner.storageSetFor (storageSetName planner.planName node.uid) node)
  | .remove _ => none

/-- The storage sets to have, by name; an observed one that is not among them is given up. -/
def plan (planner : StorageSetPlanner) : List StorageSet :=
  Resource.sortedByName (planner.actions.filterMap planner.planned?)

end StorageSetPlanner
end PoolPlanner
