import PoolPlanner.Hook.Round
import PoolPlanner.Planning.Intent
import PoolPlanner.Planning.StorageSets
import PoolPlanner.OperatorConfig

/-!
# The cluster plan round

From a plan, with its config and its storage sets attached, to one storage set for each node.
-/

namespace PoolPlanner
namespace ClusterPlanRound

/-- The storage sets of a plan whose config has an intent. -/
def storageSetsFor (plan : ClusterPlan) (config : ClusterConfig) (observed : List StorageSet)
    (settings : OperatorConfig) : Except Fault (List StorageSet) := do
  let planned := plan.spec.nodes.length
  let intent ← config.spec.resolve ⟨planned, planned⟩ settings.plannerDefaults
  let disk : DiskRequest := ⟨intent.minDiskCapacity, intent.minDiskCount⟩
  let planner ← StorageSetPlanner.ofPlan plan observed disk intent.externalProvision
  pure planner.plan

def run (request : HookRequest) (settings : OperatorConfig) : Except Fault RoundResult := do
  let plan ← request.watchAs ClusterPlan
  let planUid ← Resource.uid .clusterPlan plan
  let observed ← request.attachments.correlated StorageSet MarkerKey.clusterPlan planUid
  if plan.spec.nodes.isEmpty then
    pure (.apply [])
  else
    let config ← request.configOf plan
    let storageSets ← storageSetsFor plan config observed settings
    pure (.apply (storageSets.map Resource.encode))

end ClusterPlanRound
end PoolPlanner
