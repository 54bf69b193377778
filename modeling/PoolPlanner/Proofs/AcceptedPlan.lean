import PoolPlanner.Proofs.PlanStability

/-!
# Plans of accepted configs are carried out

The plan hook resolves the intent of the config again, this time for as many nodes as there are in
the plan.  Since the plan keeps to the pool counts of the first resolution, the second one succeeds
and asks for the same disks, whatever storage sets there are already.
-/

namespace PoolPlanner

/-- A call of the plan hook about a stored plan: a document that was given a uid, with the config
that it comes from and some storage sets attached. -/
structure FollowsUp (request : HookRequest) (document : Json) (planUid : String)
    (config : ClusterConfig) : Prop where
  watch : request.watch = document.withUid planUid
  going : request.finalizing = false
  config : ∃ configs, request.attachments.ofKind ClusterConfig = .ok configs ∧ config ∈ configs ∧
    ∀ other ∈ configs, other.metadata.uid = config.metadata.uid → other = config
  storageSets : ∃ storageSets, request.attachments.ofKind StorageSet = .ok storageSets

namespace ClusterConfigRound.Planning

variable {request : HookRequest} {settings : OperatorConfig}

theorem length_selected_le (planning : Planning request settings) :
    planning.selected.length ≤ max planning.intent.minPoolCount planning.intent.maxPoolCount ∧
      planning.selected.length ≤ planning.nodes.length := by
  have eligible := NodeSelection.length_select_le_eligible planning.isSelected
  exact ⟨NodeSelection.length_select_le planning.isSelected,
    Nat.le_trans eligible planning.counted⟩

/-- The intent can be resolved again for the nodes of the plan, and comes to the same disks. -/
theorem exists_resolve (planning : Planning request settings)
    (countable : planning.nodes.length < 2 ^ 63) (occupied : planning.selected ≠ []) :
    ∃ again, planning.config.spec.resolve
        ⟨planning.selected.length, planning.selected.length⟩ settings.plannerDefaults = .ok again ∧
      ClusterPlanRound.diskRequest again = ClusterPlanRound.diskRequest planning.intent ∧
      again.externalProvision = planning.intent.externalProvision := by
  have few := planning.length_selected_le
  have small : planning.selected.length < 2 ^ 63 := Nat.lt_of_le_of_lt few.2 countable
  obtain ⟨again, resolvedAgain⟩ := ClusterIntent.exists_resolve planning.resolved
    (List.length_pos_iff.2 occupied) small few.1
  have same := ClusterIntent.eq_of_resolve planning.resolved resolvedAgain
  refine ⟨again, resolvedAgain, ?_, ?_⟩
  · rw [same]
    rfl
  · rw [same]

theorem countFits (planning : Planning request settings) :
    Json.FitsInt64 planning.intent.minDiskCount := by
  have decoded := HookRequest.decode_of_watchAs planning.watched
  have fits := ClusterConfig.fits_of_decode decoded
  exact (ClusterIntent.soundDisks_of_resolve fits.minDiskCount planning.resolved).countFits

theorem layout (planning : Planning request settings) :
    RaidLayout.ofRequest planning.config.spec.pool.raidType = .ok planning.intent.layout := by
  obtain ⟨-, minimum, maximum, layout, diskCount, bytes, -, -, layoutEq, -, -, -, -, -, same⟩ :=
    ClusterIntent.resolve_eq_ok_iff.1 planning.resolved
  rw [← same]
  exact layoutEq

theorem named_withUid (planning : Planning request settings) (planUid : String) :
    (planning.plan.withUid planUid).metadata.name = some planning.name :=
  rfl

theorem decode_withUid (planning : Planning request settings) (planUid : String) :
    Resource.decode ((Resource.encode planning.plan).withUid planUid) =
      .ok (planning.plan.withUid planUid) := by
  rw [ClusterPlan.encode_withUid]
  exact ClusterPlan.decode_encode ((fits_planNamed _ _ _ _).withUid planUid) rfl

theorem watchAs_withUid (planning : Planning request settings) {second : HookRequest}
    {planUid : String} (asked : second.watch = (Resource.encode planning.plan).withUid planUid) :
    second.watchAs ClusterPlan = .ok (planning.plan.withUid planUid) := by
  apply HookRequest.watchAs_eq_ok
  · rw [asked, ClusterPlan.encode_withUid]
    rfl
  · rw [asked]
    exact planning.decode_withUid planUid

/-- The plan leads back to its config, unless the uid of the config is empty. -/
theorem configOf_withUid (planning : Planning request settings) {second : HookRequest}
    {document : Json} {planUid : String} (uid_ne : planning.uid ≠ "")
    (followsUp : FollowsUp second document planUid planning.config) :
    second.configOf (planning.plan.withUid planUid) = .ok planning.config := by
  have marked : (planning.plan.withUid planUid).metadata.marker? MarkerKey.clusterConfig =
      if planning.uid = "" then none else some planning.uid := ObjectMeta.marker?_mark
  rw [if_neg uid_ne] at marked
  obtain ⟨configs, attached, member, only⟩ := followsUp.config
  apply HookRequest.originOf_eq_ok_of_only marked attached member planning.identified
  intro other otherMem sameUid
  exact only other otherMem (sameUid.trans planning.identified.symm)

end ClusterConfigRound.Planning

namespace ClusterPlanRound

/-- One storage set for each node of a plan, each with the disks and the provisioner of an
intent. -/
structure Serves (storageSets : List StorageSet) (plan : ClusterPlan) (intent : ResolvedIntent) :
    Prop where
  distinct : (plan.spec.nodes.map PlannedNode.uid).Nodup
  eachOnce : (storageSets.map fun storageSet => storageSet.spec.node.uid).Perm
    (plan.spec.nodes.map PlannedNode.uid)
  disk : ∀ storageSet ∈ storageSets,
    storageSet.spec.disk = ⟨intent.minDiskCapacity, intent.minDiskCount⟩
  externalProvision : ∀ storageSet ∈ storageSets,
    storageSet.spec.externalProvision = intent.externalProvision

theorem serves_plannedStorageSets {plan : ClusterPlan} (name uid : String) (intent : ResolvedIntent)
    (observed : List StorageSet) (distinct : (plan.spec.nodes.map PlannedNode.uid).Nodup) :
    Serves (plannedStorageSets plan name uid intent observed) plan intent := by
  let planner := StorageSetPlanner.forPlan plan name uid observed (diskRequest intent)
    intent.externalProvision
  have keyed : planner.WellKeyed := StorageSetPlanner.wellKeyed_of_forPlan _ _ _ _ _ _
  have assigned : planner.plan.Perm (plan.spec.nodes.map planner.assigned) :=
    (StorageSetPlanner.plan_perm_assigned keyed).trans
      ((StorageSetPlanner.values_desiredTable_perm distinct).map _)
  have carries (storageSet : StorageSet) (member : storageSet ∈ planner.plan) :
      storageSet.Carries plan name uid (diskRequest intent) intent.externalProvision := by
    obtain ⟨node, rfl⟩ := StorageSetPlanner.exists_assigned_of_mem_plan keyed member
    exact StorageSetPlanner.carries_assigned _ _ _ node
  refine ⟨distinct, ?_, fun storageSet member => (carries storageSet member).disk,
    fun storageSet member => (carries storageSet member).externalProvision⟩
  have uids := assigned.map fun storageSet => storageSet.spec.node.uid
  rw [List.map_map] at uids
  exact uids.trans (.of_eq (List.map_congr_left fun node _ => StorageSetPlanner.uid_assigned node))

/-- A storage set is planned anew in each round, so all of it is in its document. -/
theorem readBack_plannedStorageSets {plan : ClusterPlan} {name uid : String}
    {intent : ResolvedIntent} {observed : List StorageSet}
    (countFits : Json.FitsInt64 intent.minDiskCount) :
    ∀ storageSet ∈ plannedStorageSets plan name uid intent observed,
      Resource.decode (Resource.encode storageSet) = .ok storageSet := by
  intro storageSet member
  have keyed := StorageSetPlanner.wellKeyed_of_forPlan plan name uid observed (diskRequest intent)
    intent.externalProvision
  obtain ⟨node, rfl⟩ := StorageSetPlanner.exists_assigned_of_mem_plan keyed member
  obtain ⟨setName, recorded, isNew⟩ := StorageSetPlanner.exists_assigned_eq _ node
  rw [isNew]
  exact StorageSet.decode_encode (ObjectMeta.fits_new _ _ _).mark countFits rfl

theorem Serves.congr {storageSets : List StorageSet} {plan other : ClusterPlan}
    {intent otherIntent : ResolvedIntent} (serves : Serves storageSets plan intent)
    (nodes : plan.spec.nodes = other.spec.nodes)
    (disk : diskRequest intent = diskRequest otherIntent)
    (externalProvision : intent.externalProvision = otherIntent.externalProvision) :
    Serves storageSets other otherIntent := by
  refine ⟨nodes ▸ serves.distinct, nodes ▸ serves.eachOnce, ?_, ?_⟩
  · intro storageSet member
    exact (serves.disk storageSet member).trans disk
  · intro storageSet member
    exact (serves.externalProvision storageSet member).trans externalProvision

end ClusterPlanRound

section Stages

variable {settings : OperatorConfig} {first second : HookRequest} {document : Json}
  {config : ClusterConfig} {plan : ClusterPlan} {planUid : String}

/-- The plan round about a plan that was applied applies one storage set for each of its nodes. -/
theorem ClusterConfigRound.Planning.exists_storageSets (planning : Planning first settings)
    (countable : planning.nodes.length < 2 ^ 63) (uid_ne : planning.uid ≠ "")
    (occupied : planning.selected ≠ [])
    (followsUp : FollowsUp second (Resource.encode planning.plan) planUid planning.config) :
    ∃ storageSets, ClusterPlanRound.run second settings =
        .ok (.apply (storageSets.map Resource.encode)) ∧
      (∀ storageSet ∈ storageSets,
        Resource.decode (Resource.encode storageSet) = .ok storageSet) ∧
      ClusterPlanRound.Serves storageSets planning.plan planning.intent := by
  obtain ⟨again, resolvedAgain, sameDisks, sameProvision⟩ :=
    planning.exists_resolve countable occupied
  obtain ⟨attached, attachedEq⟩ := followsUp.storageSets
  let observed := attached.filter fun storageSet =>
    (Resource.metadata storageSet).pointsTo MarkerKey.clusterPlan planUid
  have correlated : second.attachments.correlated StorageSet MarkerKey.clusterPlan planUid =
      .ok observed := by
    rw [Attachments.correlated, attachedEq]
    rfl
  have distinct : ((planning.plan.withUid planUid).spec.nodes.map PlannedNode.uid).Nodup :=
    NodeSelection.uids_select_nodup planning.isSelected
  have serves := ClusterPlanRound.serves_plannedStorageSets planning.name planUid again observed
    distinct
  have sameCount : (again.minDiskCount : Int) = planning.intent.minDiskCount :=
    congrArg DiskRequest.count sameDisks
  exact ⟨_, ClusterPlanRound.run_of_resolved (planning.watchAs_withUid followsUp.watch)
    (planning.named_withUid planUid) rfl correlated (planning.configOf_withUid uid_ne followsUp)
    occupied resolvedAgain,
    ClusterPlanRound.readBack_plannedStorageSets (sameCount ▸ planning.countFits),
    serves.congr rfl sameDisks sameProvision⟩

/-- A plan that the config hook answered with is accepted by the plan hook: whatever storage sets
there are, the answer reads as one storage set for each node of the plan, with the disks and the
provisioner that the config resolved to; and its raid layout is the one that its pools are built
with.  The Nodes are not more than a list in memory can hold. -/
theorem plan_accepted {now : Instant} {ledger : Ledger} {response : HookResponse}
    (answered : ((Hook.clusterConfig.sync first settings now).run ledger).1 = (response, .applied))
    (countable : ∀ nodes, first.attachments.ofKind Node = .ok nodes → nodes.length < 2 ^ 63)
    (watched : first.watchAs ClusterConfig = .ok config) (uid_ne : config.metadata.uid ≠ some "")
    (emitted : response.attachments = [document]) (decoded : Resource.decode document = .ok plan)
    (occupied : plan.spec.nodes ≠ []) (followsUp : FollowsUp second document planUid config)
    (later : Instant) (otherLedger : Ledger) :
    ∃ nodes eligible intent storageSets answer,
      first.attachments.ofKind Node = .ok nodes ∧
      NodeSelection.eligible nodes config.spec.allowedNodes = .ok eligible ∧
      config.spec.resolve ⟨nodes.length, eligible.length⟩ settings.plannerDefaults = .ok intent ∧
      (Hook.clusterPlan.sync second settings later).run otherLedger =
        ((answer, .applied), otherLedger) ∧
      answer.attachments = storageSets.map Resource.encode ∧
      Attachments.decodeAll StorageSet answer.attachments = .ok storageSets ∧
      ClusterPlanRound.Serves storageSets plan intent ∧
      RaidLayout.ofRequest config.spec.pool.raidType = .ok intent.layout := by
  have ran : ClusterConfigRound.run first settings = .ok (.apply [document]) := by
    have reconciled := Hook.run_reconcile_of_applied (Hook.going_of_applied (by rw [answered]))
      (Prod.ext answered rfl)
    rw [emitted] at reconciled
    exact congrArg Prod.fst reconciled
  obtain ⟨planning, isPlan⟩ := ClusterConfigRound.run_eq_apply_iff.1 ran
  obtain rfl := List.singleton_inj.1 isPlan
  obtain rfl := Except.ok.inj (watched.symm.trans planning.watched)
  obtain rfl : planning.plan = plan := by
    have readBack : Resource.decode (Resource.encode planning.plan) = .ok planning.plan :=
      ClusterPlan.decode_encode (ClusterConfigRound.fits_planNamed _ _ _ _) rfl
    exact Except.ok.inj (readBack.symm.trans decoded)
  have namedUid_ne : planning.uid ≠ "" := fun empty =>
    uid_ne (planning.identified.trans (congrArg some empty))
  obtain ⟨storageSets, planned, readBack, serves⟩ := planning.exists_storageSets
    (countable _ planning.attached) namedUid_ne occupied followsUp
  have reconciled : (Hook.clusterPlan.reconcile second settings).run otherLedger =
      (.ok (.apply (storageSets.map Resource.encode)), otherLedger) :=
    congrArg (fun result => (result, otherLedger)) planned
  exact ⟨_, _, _, storageSets, _, planning.attached, planning.isEligible, planning.resolved,
    Hook.run_sync_of_apply followsUp.going reconciled later, rfl,
    Attachments.decodeAll_map_encode readBack, serves, planning.layout⟩

end Stages

section LeastCountLeftOpen

open ClusterConfigRound

/-- A config that bounds its pools from above only. -/
def boundedConfig : ClusterConfig where
  metadata := { name := some "cluster-a", uid := some "config-uid" }
  spec :=
    { maxPoolCount := some 3
      pool := { raidType := some "mirror" }
      disk := { minCapacity := some "50Gi" } }

def servingNode (node : PlannedNode) : StorageSet where
  metadata := ObjectMeta.mark { name := some "set-d" } MarkerKey.clusterPlan "plan-uid"
  spec := { node, disk := ⟨"10Gi", 1⟩ }

/-- The config among four Nodes, with the storage set of a Node that it does not plan. -/
def boundedCluster : Cluster where
  configs := Attachments.stored ClusterConfig [Resource.encode boundedConfig]
  nodes := nodeDocuments fourNodes
  devices := .empty
  storageSets := Attachments.stored StorageSet
    [Resource.encode (servingNode ⟨"d", "D"⟩)]

/-- The plan for the first three Nodes. -/
def boundedPlan : ClusterPlan :=
  planNamed boundedConfig "cluster-a" "config-uid" [⟨"a", "A"⟩, ⟨"b", "B"⟩, ⟨"c", "C"⟩]

def boundedRequest : HookRequest :=
  boundedCluster.request (Resource.encode boundedConfig)

def boundedFollowUp : HookRequest :=
  boundedCluster.request ((Resource.encode boundedPlan).withUid "plan-uid")

theorem configs_boundedFollowUp :
    boundedFollowUp.attachments.ofKind ClusterConfig = .ok [boundedConfig] := by
  refine (Cluster.ofKind_clusterConfig _ _).trans ?_
  cbv

theorem nodes_boundedRequest : boundedRequest.attachments.ofKind Node = .ok fourNodes :=
  (Cluster.ofKind_node _ _).trans (decode_nodeDocuments fourNodes (by simp))

theorem storageSets_boundedFollowUp :
    boundedFollowUp.attachments.ofKind StorageSet = .ok [servingNode ⟨"d", "D"⟩] := by
  refine (Cluster.ofKind_storageSet _ _).trans ?_
  cbv

theorem followsUp_bounded :
    FollowsUp boundedFollowUp (Resource.encode boundedPlan) "plan-uid" boundedConfig where
  watch := rfl
  going := rfl
  config := ⟨_, configs_boundedFollowUp, by simp, by simp⟩
  storageSets := ⟨_, storageSets_boundedFollowUp⟩

def boundedIntent : ResolvedIntent where
  minPoolCount := 3
  maxPoolCount := 3
  layout := .mirror
  minDiskCount := 2
  minDiskCapacity := "50Gi"
  minDiskBytes := 50 * 2 ^ 30
  externalProvision := none
  allowedNodes := ⟨[]⟩
  localDiskSelector := ⟨[]⟩

theorem resolve_boundedConfig :
    boundedConfig.spec.resolve ⟨4, 4⟩ ({} : OperatorConfig).plannerDefaults =
      .ok boundedIntent := by
  decide +kernel

def boundedPlanning : Planning boundedRequest {} where
  config := boundedConfig
  name := "cluster-a"
  uid := "config-uid"
  nodes := fourNodes
  eligible := [⟨"a", "A"⟩, ⟨"b", "B"⟩, ⟨"c", "C"⟩, ⟨"d", "D"⟩]
  intent := boundedIntent
  plans := []
  selected := boundedPlan.spec.nodes
  watched := HookRequest.watchAs_eq_ok rfl (by cbv)
  named := rfl
  identified := rfl
  attached := nodes_boundedRequest
  isEligible := by rfl
  resolved := resolve_boundedConfig
  correlated := by
    rw [Attachments.correlated, boundedRequest, Cluster.ofKind_clusterPlan]
    rfl
  isSelected := by rfl

/-- Three nodes are just what the config allows at most, in the second round as in the first.  The
plan gets three storage sets, of which one is the storage set that is there. -/
theorem boundedPlan_accepted :
    ∃ response, ((Hook.clusterConfig.sync boundedRequest {} .epoch).run .empty).1 =
        (response, .applied) ∧ response.attachments = [Resource.encode boundedPlan] ∧
      FollowsUp boundedFollowUp (Resource.encode boundedPlan) "plan-uid" boundedConfig ∧
      ∃ storageSets answer, (Hook.clusterPlan.sync boundedFollowUp {} .epoch).run .empty =
          ((answer, .applied), .empty) ∧
        answer.attachments = storageSets.map Resource.encode ∧
        Attachments.decodeAll StorageSet answer.attachments = .ok storageSets ∧
        ClusterPlanRound.Serves storageSets boundedPlan boundedIntent ∧
        RaidLayout.ofRequest (some "mirror") = .ok .mirror := by
  have reconciled : (Hook.clusterConfig.reconcile boundedRequest {}).run .empty =
      (.ok (.apply [Resource.encode boundedPlan]), .empty) :=
    congrArg (fun result => (result, Ledger.empty)) (run_eq_apply_iff.2 ⟨boundedPlanning, rfl⟩)
  have answered := congrArg Prod.fst (Hook.run_sync_of_apply rfl reconciled .epoch)
  have decoded : Resource.decode (Resource.encode boundedPlan) = .ok boundedPlan :=
    ClusterPlan.decode_encode (fits_planNamed _ _ _ _) rfl
  have countable (nodes : List Node)
      (attached : boundedRequest.attachments.ofKind Node = .ok nodes) : nodes.length < 2 ^ 63 := by
    obtain rfl := Except.ok.inj (nodes_boundedRequest.symm.trans attached)
    decide
  obtain ⟨nodes, eligible, intent, storageSets, answer, attached, isEligible, resolved, ran,
    emitted, readBack, serves, layout⟩ :=
      plan_accepted answered countable boundedPlanning.watched (by decide) rfl decoded (by decide)
        followsUp_bounded .epoch .empty
  obtain rfl := Except.ok.inj (nodes_boundedRequest.symm.trans attached)
  obtain rfl := Except.ok.inj (boundedPlanning.isEligible.symm.trans isEligible)
  obtain rfl := Except.ok.inj (boundedPlanning.resolved.symm.trans resolved)
  exact ⟨_, answered, rfl, followsUp_bounded, storageSets, answer, ran, emitted, readBack, serves,
    layout⟩

end LeastCountLeftOpen
end PoolPlanner
