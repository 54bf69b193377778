import PoolPlanner.Hook.Request
import PoolPlanner.Planning.PoolAssembly

/-!
# Rounds

What a round of planning comes to, and how a hook finds the objects that its watched object was
derived from.
-/

namespace PoolPlanner

/-- What a round that did not fail comes to. -/
inductive RoundResult
  /-- These attachments are to exist, and no others. -/
  | apply (attachments : List Json)
  /-- Something is still missing; nothing is changed. -/
  | notReady (reason : Unready)

namespace HookRequest

/-- The attached object of a kind that metadata names by uid under a key. -/
def originOf (R : Type) [Resource R] (request : HookRequest) (key : String)
    (metadata : ObjectMeta) : Except Fault R :=
  let missing : Fault := .missingAttachment (Resource.kind R)
  match metadata.marker? key with
  | none => .error missing
  | some uid =>
      match request.attachments.ofKind R with
      | .error fault => .error fault
      | .ok resources =>
          match resources.find? fun resource => (Resource.metadata resource).uid = some uid with
          | some resource => .ok resource
          | none => .error missing

def configOf (request : HookRequest) (plan : ClusterPlan) : Except Fault ClusterConfig :=
  request.originOf ClusterConfig MarkerKey.clusterConfig plan.metadata

def planOf (request : HookRequest) (storageSet : StorageSet) : Except Fault ClusterPlan :=
  request.originOf ClusterPlan MarkerKey.clusterPlan storageSet.metadata

end HookRequest
end PoolPlanner
