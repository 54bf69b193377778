import PoolPlanner.Resource.Kind
import PoolPlanner.Resource.Status

/-!
# Cluster plans

The nodes that host a pool now.
-/

namespace PoolPlanner

/-- A node of a plan.  Its uid identifies it; the name may change. -/
structure PlannedNode where
  name : String
  uid : String
deriving DecidableEq, Inhabited, Repr

namespace PlannedNode

/-- Whether a node comes before another or is the same: by name, then by uid. -/
def isAtMost (left right : PlannedNode) : Bool :=
  left.name < right.name || (left.name = right.name && left.uid ≤ right.uid)

def decode : Decoder PlannedNode :=
  Json.asRecord "struct PlannedNode" 2 fun source =>
    PlannedNode.mk <$> source.required 0 "name" Json.asString <*>
      source.required 1 "uid" Json.asString

def encode (node : PlannedNode) : Json :=
  .ofMembers [("name", some (.string node.name)), ("uid", some (.string node.uid))]

end PlannedNode

/-- What a plan says. -/
structure ClusterPlanSpec where
  nodes : List PlannedNode := []
deriving DecidableEq, Inhabited

namespace ClusterPlanSpec

def decode : Decoder ClusterPlanSpec :=
  Json.asRecord "struct CStorClusterPlanSpec" 1 fun source =>
    ClusterPlanSpec.mk <$> source.defaulted 0 "nodes" [] (Json.asList PlannedNode.decode)

def encode (spec : ClusterPlanSpec) : Json :=
  .ofMembers [("nodes", some (.array (spec.nodes.map PlannedNode.encode)))]

end ClusterPlanSpec

/-- The object that holds a plan. -/
structure ClusterPlan where
  metadata : ObjectMeta
  spec : ClusterPlanSpec
  status : Option ClusterStatus := none

instance : Resource ClusterPlan where
  kind := "CStorClusterPlan"
  apiVersion := OwnedKind.apiVersion
  metadata := ClusterPlan.metadata
  decode :=
    Json.asRecord "struct CStorClusterPlan" 3 fun source =>
      ClusterPlan.mk <$> source.required 0 "metadata" ObjectMeta.decode <*>
        source.required 1 "spec" ClusterPlanSpec.decode <*>
        source.nullable 2 "status" ClusterStatus.decode
  encode plan :=
    .ofMembers
      [("apiVersion", some (.string OwnedKind.apiVersion)),
        ("kind", some (.string "CStorClusterPlan")),
        ("metadata", some plan.metadata.encode),
        ("spec", some plan.spec.encode),
        ("status", plan.status.map ClusterStatus.encode)]

end PoolPlanner
