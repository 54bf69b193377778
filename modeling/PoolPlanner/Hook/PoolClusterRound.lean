import PoolPlanner.Hook.Round

/-!
# The pool cluster round

From a plan, with its config, its storage sets, the block devices and any earlier pool cluster
attached, to the pool cluster, once every node has its devices.
-/

namespace PoolPlanner
namespace PoolClusterRound

def run (request : HookRequest) : Except Fault RoundResult := do
  let plan ← request.watchAs ClusterPlan
  let planUid ← Resource.uid .clusterPlan plan
  let config ← request.configOf plan
  let storageSets ← request.attachments.correlated StorageSet MarkerKey.clusterPlan planUid
  let observed ← request.attachments.correlated PoolCluster MarkerKey.clusterPlan planUid
  let devices ← request.attachments.ofKind BlockDevice
  let assembly ← PoolAssembly.assemble
    { plan
      config := some config
      storageSets
      reserved := PoolAssembly.reservedByStorageSet devices storageSets
      observed := (Resource.sortedByName observed).head? }
  match assembly with
  | .ready cluster => pure (.apply [Resource.encode cluster])
  | .notReady reason => pure (.notReady reason)

end PoolClusterRound
end PoolPlanner
