import PoolPlanner.Hook.Round
import PoolPlanner.Planning.NodeSelection
import PoolPlanner.OperatorConfig

/-!
# The cluster config round

From a cluster config, with the nodes of the cluster and its earlier plan attached, to the plan.
-/

namespace PoolPlanner
namespace ClusterConfigRound

/-- The plan of a config for some nodes: it has the config's name and belongs to it. -/
def planFor (config : ClusterConfig) (configUid : String) (nodes : List PlannedNode) :
    Except Fault ClusterPlan := do
  let owner ← Resource.ownerReference .clusterConfig config
  let metadata : ObjectMeta :=
    { name := some (Resource.name config)
      objectNamespace := config.metadata.objectNamespace
      ownerReferences := some [owner] }
  pure { metadata := metadata.mark MarkerKey.clusterConfig configUid, spec := { nodes } }

/-- The nodes of the first plan by name. -/
def previousNodes (plans : List ClusterPlan) : List PlannedNode :=
  match (Resource.sortedByName plans).head? with
  | some plan => plan.spec.nodes
  | none => []

def run (request : HookRequest) (settings : OperatorConfig) : Except Fault RoundResult := do
  let config ← request.watchAs ClusterConfig
  let configUid ← Resource.uid .clusterConfig config
  let nodes ← request.attachments.ofKind Node
  let eligible ← NodeSelection.eligible nodes config.spec.allowedNodes
  let inventory : NodeInventory := ⟨nodes.length, eligible.length⟩
  let intent ← config.spec.resolve inventory settings.plannerDefaults
  let plans ←
    request.attachments.correlated ClusterPlan MarkerKey.clusterConfig configUid
  let selected ←
    NodeSelection.select eligible (previousNodes plans) intent.minPoolCount intent.maxPoolCount
  let plan ← planFor config configUid selected
  pure (.apply [Resource.encode plan])

end ClusterConfigRound
end PoolPlanner
