import PoolPlanner.Hook.ClusterConfigRound
import PoolPlanner.Hook.ClusterPlanRound
import PoolPlanner.Proofs.Intent
import PoolPlanner.Proofs.NodeSelection
import PoolPlanner.Proofs.ResourceCodec
import PoolPlanner.Proofs.StorageSetReuse

/-!
# Planning for the first time

A config without a plan gets one for the first eligible nodes, and a plan without storage sets gets
one for each of its nodes.  Both rounds resolve the same intent, though they count different nodes.
-/

namespace PoolPlanner

namespace ClusterConfigRound

def planNamed (config : ClusterConfig) (name uid : String) (nodes : List PlannedNode) :
    ClusterPlan where
  metadata :=
    ObjectMeta.mark
      { name := some name
        objectNamespace := config.metadata.objectNamespace
        ownerReferences := some [Resource.controllerReference ClusterConfig name uid] }
      MarkerKey.clusterConfig uid
  spec := { nodes }

theorem planFor_eq {config : ClusterConfig} {name uid : String} {nodes : List PlannedNode}
    (named : config.metadata.name = some name) (identified : config.metadata.uid = some uid) :
    planFor config uid nodes = .ok (planNamed config name uid nodes) := by
  have owner : Resource.ownerReference .clusterConfig config =
      .ok (Resource.controllerReference ClusterConfig name uid) :=
    Resource.ownerReference_eq_ok_iff.2 ⟨name, uid, named, identified, rfl⟩
  rw [planFor, owner, ok_bind, Resource.name_eq_of_metadata config named]
  rfl

theorem fits_planNamed (config : ClusterConfig) (name uid : String) (nodes : List PlannedNode) :
    (planNamed config name uid nodes).metadata.Fits :=
  (ObjectMeta.fits_new _ _ _).mark

/-- What a round that applies a plan plans from, and the nodes that it selects. -/
structure Planning (request : HookRequest) (settings : OperatorConfig) where
  config : ClusterConfig
  name : String
  uid : String
  nodes : List Node
  eligible : List PlannedNode
  intent : ResolvedIntent
  plans : List ClusterPlan
  selected : List PlannedNode
  watched : request.watchAs ClusterConfig = .ok config
  named : config.metadata.name = some name
  identified : config.metadata.uid = some uid
  attached : request.attachments.ofKind Node = .ok nodes
  isEligible : NodeSelection.eligible nodes config.spec.allowedNodes = .ok eligible
  resolved : config.spec.resolve ⟨nodes.length, eligible.length⟩ settings.plannerDefaults =
    .ok intent
  correlated : request.attachments.correlated ClusterPlan MarkerKey.clusterConfig uid = .ok plans
  isSelected : NodeSelection.select eligible (previousNodes plans) intent.minPoolCount
    intent.maxPoolCount = .ok selected

variable {request : HookRequest} {settings : OperatorConfig} {attachments : List Json}

def Planning.plan (planning : Planning request settings) : ClusterPlan :=
  planNamed planning.config planning.name planning.uid planning.selected

theorem run_eq_apply_iff :
    run request settings = .ok (.apply attachments) ↔
      ∃ planning : Planning request settings, attachments = [Resource.encode planning.plan] := by
  simp only [run, bind_eq_ok_iff, Resource.uid_eq_ok_iff]
  constructor
  · rintro ⟨config, watched, uid, identified, nodes, attached, eligible, isEligible, intent,
      resolved, plans, correlated, selected, isSelected, plan, planned, answered⟩
    have owned : ∃ name, config.metadata.name = some name := by
      obtain ⟨owner, ownerEq, -⟩ := bind_eq_ok_iff.1 planned
      obtain ⟨name, _, named, -⟩ := Resource.ownerReference_eq_ok_iff.1 ownerEq
      exact ⟨name, named⟩
    obtain ⟨name, named⟩ := owned
    obtain rfl := Except.ok.inj ((planFor_eq named identified).symm.trans planned)
    exact ⟨⟨config, name, uid, nodes, eligible, intent, plans, selected, watched, named,
      identified, attached, isEligible, resolved, correlated, isSelected⟩,
      (RoundResult.apply.inj (pure_eq_ok_iff.1 answered)).symm⟩
  · rintro ⟨planning, rfl⟩
    exact ⟨_, planning.watched, _, planning.identified, _, planning.attached, _,
      planning.isEligible, _, planning.resolved, _, planning.correlated, _, planning.isSelected, _,
      planFor_eq planning.named planning.identified, rfl⟩

/-- What a config without a plan is planned from, and the plan. -/
theorem run_eq_apply_of_unplanned {config : ClusterConfig} {nodes : List Node}
    {name uid : String}
    (watched : request.watchAs ClusterConfig = .ok config)
    (nodesFound : request.attachments.ofKind Node = .ok nodes)
    (unplanned : request.attachments.ofKind ClusterPlan = .ok [])
    (nodeNames : (nodes.filterMap fun node => node.metadata.name).Nodup)
    (nodeUids : (nodes.filterMap fun node => node.metadata.uid).Nodup)
    (named : config.metadata.name = some name) (identified : config.metadata.uid = some uid)
    (applied : run request settings = .ok (.apply attachments)) :
    ∃ inventory intent selected,
      config.spec.resolve inventory settings.plannerDefaults = .ok intent ∧
      selected.length = intent.minPoolCount ∧ NodeSelection.Distinct selected ∧
      attachments = [Resource.encode (planNamed config name uid selected)] := by
  obtain ⟨planning, rfl⟩ := run_eq_apply_iff.1 applied
  obtain rfl := Except.ok.inj (watched.symm.trans planning.watched)
  obtain rfl := Except.ok.inj (nodesFound.symm.trans planning.attached)
  obtain rfl := Option.some.inj (named.symm.trans planning.named)
  obtain rfl := Option.some.inj (identified.symm.trans planning.identified)
  have unplannedHere : planning.plans = [] := by
    obtain ⟨found, foundEq, plansEq⟩ := map_eq_ok_iff.1 planning.correlated
    obtain rfl := Except.ok.inj (unplanned.symm.trans foundEq)
    exact plansEq.symm
  have selectedHere := planning.isSelected
  have distinct := NodeSelection.distinct_of_eligible nodeNames nodeUids planning.isEligible
  rw [unplannedHere] at selectedHere
  obtain ⟨enough, selectedEq⟩ := (NodeSelection.select_nil distinct.uids).1 selectedHere
  refine ⟨_, planning.intent, planning.selected, planning.resolved, ?_, ?_, rfl⟩
  · rw [← selectedEq]
    exact List.length_take_of_le enough
  · rw [← selectedEq]
    exact distinct.sublist (List.take_sublist _ _)

end ClusterConfigRound

namespace ClusterPlanRound

def diskRequest (intent : ResolvedIntent) : DiskRequest :=
  ⟨intent.minDiskCapacity, intent.minDiskCount⟩

def firstStorageSets (plan : ClusterPlan) (name uid : String) (intent : ResolvedIntent) :
    List StorageSet :=
  (StorageSetPlanner.forPlan plan name uid [] (diskRequest intent) intent.externalProvision).plan

/-- The storage set that a plan without any creates for a node. -/
def firstStorageSet (plan : ClusterPlan) (name uid : String) (intent : ResolvedIntent)
    (node : PlannedNode) : StorageSet where
  metadata :=
    ObjectMeta.mark
      { name := some (StorageSetPlanner.storageSetName name node.uid)
        objectNamespace := plan.metadata.objectNamespace
        ownerReferences := some [Resource.controllerReference ClusterPlan name uid] }
      MarkerKey.clusterPlan uid
  spec :=
    { node, disk := diskRequest intent, externalProvision := intent.externalProvision }

/-- A plan without storage sets gets one for each node. -/
theorem firstStorageSets_perm (plan : ClusterPlan) (name uid : String) (intent : ResolvedIntent)
    (distinct : (plan.spec.nodes.map PlannedNode.uid).Nodup) :
    (firstStorageSets plan name uid intent).Perm
      (plan.spec.nodes.map (firstStorageSet plan name uid intent)) :=
  (StorageSetPlanner.plan_perm_of_unobserved
    (StorageSetPlanner.wellKeyed_of_forPlan _ _ _ _ _ _) rfl).trans
    ((StorageSetPlanner.values_desiredTable_perm distinct).map _)

/-- The storage sets that a plan gets with some observed ones. -/
def plannedStorageSets (plan : ClusterPlan) (name uid : String) (intent : ResolvedIntent)
    (observed : List StorageSet) : List StorageSet :=
  (StorageSetPlanner.forPlan plan name uid observed (diskRequest intent)
    intent.externalProvision).plan

section Rounds

variable {request : HookRequest} {settings : OperatorConfig} {plan : ClusterPlan}
  {config : ClusterConfig} {intent : ResolvedIntent} {name uid : String}

theorem run_of_resolved {observed : List StorageSet}
    (watched : request.watchAs ClusterPlan = .ok plan)
    (named : plan.metadata.name = some name) (identified : plan.metadata.uid = some uid)
    (correlated : request.attachments.correlated StorageSet MarkerKey.clusterPlan uid =
      .ok observed)
    (configFound : request.configOf plan = .ok config) (occupied : plan.spec.nodes ≠ [])
    (resolved : config.spec.resolve ⟨plan.spec.nodes.length, plan.spec.nodes.length⟩
      settings.plannerDefaults = .ok intent) :
    run request settings =
      .ok (.apply ((plannedStorageSets plan name uid intent observed).map Resource.encode)) := by
  have storageSets : storageSetsFor plan config observed settings =
      .ok (plannedStorageSets plan name uid intent observed) := by
    have planner :
        StorageSetPlanner.ofPlan plan observed (diskRequest intent) intent.externalProvision =
          .ok (.forPlan plan name uid observed (diskRequest intent) intent.externalProvision) :=
      StorageSetPlanner.ofPlan_eq_ok_iff.2 ⟨name, uid, named, identified, rfl⟩
    rw [diskRequest] at planner
    simp only [storageSetsFor, resolved, ok_bind, planner]
    rfl
  have planUid : Resource.uid .clusterPlan plan = .ok uid := Resource.uid_eq_ok_iff.2 identified
  have someNode : plan.spec.nodes.isEmpty = false := by simpa using occupied
  simp only [run, watched, planUid, correlated, someNode, configFound, storageSets, ok_bind,
    Bool.false_eq_true, if_false]
  rfl

theorem run_of_unserved (watched : request.watchAs ClusterPlan = .ok plan)
    (named : plan.metadata.name = some name) (identified : plan.metadata.uid = some uid)
    (unserved : request.attachments.ofKind StorageSet = .ok [])
    (configFound : request.configOf plan = .ok config) (occupied : plan.spec.nodes ≠ [])
    (resolved : config.spec.resolve ⟨plan.spec.nodes.length, plan.spec.nodes.length⟩
      settings.plannerDefaults = .ok intent) :
    run request settings =
      .ok (.apply ((firstStorageSets plan name uid intent).map Resource.encode)) := by
  have observed : request.attachments.correlated StorageSet MarkerKey.clusterPlan uid = .ok [] := by
    simp [Attachments.correlated, unserved]
  exact run_of_resolved watched named identified observed configFound occupied resolved

end Rounds
end ClusterPlanRound
end PoolPlanner
