import PoolPlanner.Hook.ClusterConfigRound
import PoolPlanner.Hook.ClusterPlanRound
import PoolPlanner.Hook.PoolClusterRound
import PoolPlanner.Hook.StatusUpdate
import PoolPlanner.Hook.StorageSetRound

/-!
# Answering hooks

The four hooks and the policy that they share: a call never fails, every fault becomes a skipped
round, and the status of the watched object tells of it where a person has to act.
-/

namespace PoolPlanner

inductive Hook
  | clusterConfig
  | clusterPlan
  | storageSet
  | poolCluster
deriving DecidableEq, Repr

namespace Hook

def all : List Hook :=
  [.clusterConfig, .clusterPlan, .storageSet, .poolCluster]

def name : Hook → String
  | .clusterConfig => "clusterconfig"
  | .clusterPlan => "clusterplan"
  | .storageSet => "storageset"
  | .poolCluster => "poolcluster"

/-- The type of the condition that a hook owns on the object it watches. -/
def conditionType : Hook → String
  | .poolCluster => "PoolCluster" ++ Condition.reconcileError
  | _ => Condition.reconcileError

def ofName? (name : String) : Option Hook :=
  all.find? fun hook => hook.name = name

def reconcile (hook : Hook) (request : HookRequest) (settings : OperatorConfig) :
    LedgerProgram (Except Fault RoundResult) :=
  match hook with
  | .clusterConfig => .done (ClusterConfigRound.run request settings)
  | .clusterPlan => .done (ClusterPlanRound.run request settings)
  | .storageSet => StorageSetRound.run request
  | .poolCluster => .done (PoolClusterRound.run request)

/-- Clean up after an object that is being deleted; only storage sets leave something behind. -/
def finalize (hook : Hook) (request : HookRequest) :
    LedgerProgram (Except Fault (List Json)) :=
  match hook with
  | .storageSet => StorageSetRound.finalize request
  | _ => .done (.ok [])

end Hook

inductive Outcome
  | applied
  | notReady
  | skipped
  | failed
  | finalized
deriving DecidableEq, Repr

namespace Outcome

def all : List Outcome :=
  [.applied, .notReady, .skipped, .failed, .finalized]

def name : Outcome → String
  | .applied => "applied"
  | .notReady => "not_ready"
  | .skipped => "skipped"
  | .failed => "failed"
  | .finalized => "finalized"

end Outcome

/-- What the orchestrator gets back. -/
structure HookResponse where
  /-- The attachments that are to exist. -/
  attachments : List Json := []
  /-- Whether the present attachments are left alone instead. -/
  skipReconcile : Bool := false
  /-- After how many seconds to call again. -/
  resyncAfterSeconds : Option Nat := none
  /-- The status to write. -/
  status : Option Json := none

namespace HookResponse

def skip : HookResponse :=
  { skipReconcile := true }

/-- Change nothing and come back after some seconds. -/
def retryAfter (seconds : Nat) : HookResponse :=
  { skipReconcile := true, resyncAfterSeconds := some seconds }

/-- Write a response; the delay is a double. -/
def encode (response : HookResponse) : Json :=
  .ofMembers
    [("attachments", some (.array response.attachments)),
      ("resyncAfterSeconds",
        response.resyncAfterSeconds.map fun seconds =>
          .number (.double false (.ofNat seconds))),
      ("skipReconcile", some (.bool response.skipReconcile)),
      ("status", response.status)]

end HookResponse

namespace Hook

/-- The answer to a round that came to a result or a fault. -/
def answer (hook : Hook) (request : HookRequest) (settings : OperatorConfig) (now : Instant) :
    Except Fault RoundResult → HookResponse × Outcome
  | .ok (.apply attachments) =>
      ({ attachments, status := request.resolvedStatus hook.conditionType now }, .applied)
  | .ok (.notReady _) => (.retryAfter settings.resyncAfterSeconds, .notReady)
  | .error fault =>
      match fault.action with
      | .report =>
          let status := request.faultStatus hook.conditionType fault now
          ({ HookResponse.skip with status }, .failed)
      | .skip => (.skip, .skipped)
      | .resync => (.retryAfter settings.resyncAfterSeconds, .failed)
      | .retryAfter seconds => (.retryAfter seconds, .failed)

def sync (hook : Hook) (request : HookRequest) (settings : OperatorConfig) (now : Instant) :
    LedgerProgram (HookResponse × Outcome) :=
  if request.finalizing then do
    match ← hook.finalize request with
    | .ok attachments => pure ({ attachments }, .finalized)
    | .error _ => pure ({}, .finalized)
  else do
    let result ← hook.reconcile request settings
    pure (hook.answer request settings now result)

end Hook
end PoolPlanner
