import PoolPlanner.Proofs.StorageSetPlanning

/-!
# Which storage set serves which node

Planned and served uids are divided without remainder.  As many planned nodes as possible are served
by a storage set that is there already, under its old name, and none of these serves two nodes.
-/

namespace PoolPlanner

/-- The uids of some nodes, each once and in ascending order. -/
def PlannedNode.ascendingUids (nodes : List PlannedNode) : List String :=
  inTextOrder (firstOccurrences (nodes.map PlannedNode.uid))

theorem PlannedNode.eq_of_name_eq {first second : PlannedNode} (nameEq : first.name = second.name)
    (uidEq : first.uid = second.uid) : first = second := by
  cases first
  cases second
  exact congr (congrArg PlannedNode.mk nameEq) uidEq

/-- The storage set that counts for a node: of several with its uid the first by name. -/
def StorageSet.firstServing? (storageSets : List StorageSet) (uid : String) : Option StorageSet :=
  (Resource.sortedByName storageSets).find? fun storageSet => storageSet.spec.node.uid = uid

namespace NodeBuckets

/-- Each uid whose storage set goes on serving, with the uid that it serves from now on. -/
def reuses (buckets : NodeBuckets) : List (String × String) :=
  (buckets.keep.map fun uid => (uid, uid)) ++ buckets.retarget

theorem map_fst_reuses (buckets : NodeBuckets) :
    buckets.reuses.map Prod.fst = buckets.keep ++ buckets.retarget.map Prod.fst := by
  simp [reuses, Function.comp_def]

theorem map_snd_reuses (buckets : NodeBuckets) :
    buckets.reuses.map Prod.snd = buckets.keep ++ buckets.retarget.map Prod.snd := by
  simp [reuses, Function.comp_def]

/-- As many storage sets are reused as there are both uids to serve and uids served. -/
theorem Divides.length_reuses {buckets : NodeBuckets} {planned served : List String}
    (divides : buckets.Divides planned served) :
    buckets.reuses.length = min planned.length served.length := by
  have plannedLength := divides.dividesPlanned.length_eq
  have servedLength := divides.dividesServed.length_eq
  simp only [List.length_append, List.length_map] at plannedLength servedLength
  simp only [reuses, List.length_append, List.length_map]
  rcases divides.oneSided with none | none
  · simp only [none, List.length_nil] at plannedLength
    omega
  · simp only [none, List.length_nil] at servedLength
    omega

end NodeBuckets

namespace StorageSetPlanner

section Division

variable (planner : StorageSetPlanner)

theorem reuses_fst_nodup : (planner.buckets.reuses.map Prod.fst).Nodup := by
  have distinct := planner.buckets_divide.dividesServed.nodup_iff.2 planner.observed.keys_nodup
  rw [NodeBuckets.map_fst_reuses]
  exact (List.nodup_append'.1 distinct).1

theorem reuses_snd_nodup : (planner.buckets.reuses.map Prod.snd).Nodup := by
  have distinct := planner.buckets_divide.dividesPlanned.nodup_iff.2 planner.desired.keys_nodup
  rw [NodeBuckets.map_snd_reuses]
  exact (List.nodup_append'.1 distinct).1

end Division

section Assignment

variable {planner : StorageSetPlanner}

/-- The storage set that goes on serving and from now on serves a uid. -/
def source? (planner : StorageSetPlanner) (uid : String) : Option StorageSet :=
  (planner.buckets.reuses.find? fun pair => pair.2 = uid).bind fun pair =>
    planner.observed.find? pair.1

/-- The storage set that is planned for a node. -/
def assigned (planner : StorageSetPlanner) (node : PlannedNode) : StorageSet :=
  match planner.source? node.uid with
  | some existing =>
      planner.storageSetFor (Resource.name existing)
        (if existing.spec.node.uid = node.uid then existing.spec.node else node)
  | none => planner.storageSetFor (storageSetName planner.planName node.uid) node

theorem exists_assigned_eq (planner : StorageSetPlanner) (node : PlannedNode) :
    ∃ name recorded, planner.assigned node = planner.storageSetFor name recorded := by
  unfold assigned
  split
  · exact ⟨_, _, rfl⟩
  · exact ⟨_, _, rfl⟩

theorem find?_reuses_eq_some_iff {pair : String × String} :
    (planner.buckets.reuses.find? fun other => other.2 = pair.2) = some pair ↔
      pair ∈ planner.buckets.reuses := by
  rw [find?_key_eq_some_iff Prod.snd planner.reuses_snd_nodup]
  exact and_iff_left rfl

theorem source?_eq_of_mem {pair : String × String} (member : pair ∈ planner.buckets.reuses) :
    planner.source? pair.2 = planner.observed.find? pair.1 := by
  rw [source?, find?_reuses_eq_some_iff.2 member]
  rfl

theorem find?_reuses_eq_none_iff {uid : String} :
    (planner.buckets.reuses.find? fun pair => pair.2 = uid) = none ↔
      uid ∉ planner.buckets.reuses.map Prod.snd := by
  rw [List.find?_eq_none, List.mem_map]
  simp only [decide_eq_true_eq, not_exists, not_and]

theorem source?_eq_none {uid : String}
    (unserved : uid ∉ planner.buckets.reuses.map Prod.snd) : planner.source? uid = none := by
  rw [source?, find?_reuses_eq_none_iff.2 unserved]
  rfl

theorem exists_observed_of_mem_reuses {pair : String × String}
    (member : pair ∈ planner.buckets.reuses) :
    ∃ existing, planner.observed.find? pair.1 = some existing := by
  apply Table.mem_keys_iff.1
  apply planner.buckets_divide.dividesServed.mem_iff.1
  apply List.mem_append_left
  rw [← NodeBuckets.map_fst_reuses]
  exact List.mem_map_of_mem member

theorem planned?_keep (keyed : planner.WellKeyed) {uid : String}
    (kept : uid ∈ planner.buckets.keep) {node : PlannedNode}
    (found : planner.desired.find? uid = some node) :
    planner.planned? (.keep node) = some (planner.assigned node) := by
  obtain rfl := keyed.desired found
  have pairMem : (node.uid, node.uid) ∈ planner.buckets.reuses :=
    List.mem_append_left _ (List.mem_map.2 ⟨node.uid, kept, rfl⟩)
  obtain ⟨existing, existingFound⟩ := exists_observed_of_mem_reuses pairMem
  have source : planner.source? node.uid = some existing :=
    (source?_eq_of_mem pairMem).trans existingFound
  simp only [planned?, existingFound, assigned, source, keyed.observed existingFound,
    Option.map_some, if_true]

theorem planned?_retarget (keyed : planner.WellKeyed) {pair : String × String}
    (retargeted : pair ∈ planner.buckets.retarget) {node : PlannedNode}
    (found : planner.desired.find? pair.2 = some node) :
    planner.planned? (.retarget pair.1 node) = some (planner.assigned node) := by
  have pairMem : pair ∈ planner.buckets.reuses := List.mem_append_right _ retargeted
  obtain ⟨existing, existingFound⟩ := exists_observed_of_mem_reuses pairMem
  have nodeUid := keyed.desired found
  have source : planner.source? node.uid = some existing := by
    rw [nodeUid, source?_eq_of_mem pairMem, existingFound]
  -- The storage set serves another uid so far, because that one is not planned any more.
  have moved : existing.spec.node.uid ≠ node.uid := by
    rw [keyed.observed existingFound, nodeUid]
    intro same
    have apart := mem_keys_of_mem_retarget retargeted
    exact apart.1.2 (same ▸ apart.2.1)
  simp only [planned?, existingFound, assigned, source, Option.map_some, if_neg moved]

theorem planned?_create (keyed : planner.WellKeyed) {uid : String}
    (created : uid ∈ planner.buckets.create) {node : PlannedNode}
    (found : planner.desired.find? uid = some node) :
    planner.planned? (.create node) = some (planner.assigned node) := by
  obtain rfl := keyed.desired found
  have distinct := planner.buckets_divide.dividesPlanned.nodup_iff.2 planner.desired.keys_nodup
  have unserved : node.uid ∉ planner.buckets.reuses.map Prod.snd := by
    rw [NodeBuckets.map_snd_reuses]
    intro served
    exact (List.nodup_append'.1 distinct).2.2 served created
  simp only [planned?, assigned, source?_eq_none unserved]

/-- Every planned node has the storage set that is assigned to it, and no other is planned. -/
theorem plan_perm_assigned (keyed : planner.WellKeyed) :
    planner.plan.Perm (planner.desired.values.map planner.assigned) := by
  let divided :=
    planner.buckets.keep ++ planner.buckets.retarget.map Prod.snd ++ planner.buckets.create
  have planned : planner.actions.filterMap planner.planned? =
      divided.filterMap fun uid => (planner.desired.find? uid).map planner.assigned := by
    simp only [filterMap_actions, divided, List.filterMap_append, List.filterMap_filterMap,
      List.filterMap_map]
    congr 1
    · congr 1
      · apply List.filterMap_congr
        intro uid kept
        cases found : planner.desired.find? uid with
        | none => rfl
        | some node => exact planned?_keep keyed kept found
      · apply List.filterMap_congr
        intro pair retargeted
        cases found : planner.desired.find? pair.2 with
        | none => simp [found]
        | some node => simpa [found] using planned?_retarget keyed retargeted found
    · apply List.filterMap_congr
      intro uid created
      cases found : planner.desired.find? uid with
      | none => rfl
      | some node => exact planned?_create keyed created found
  have permuted :=
    (planner.buckets_divide.dividesPlanned.filterMap planner.desired.find?).map planner.assigned
  rw [Table.filterMap_find?_keys, List.map_filterMap] at permuted
  rw [plan, planned]
  exact (Resource.sortedByName_perm _).trans permuted

theorem exists_assigned_of_mem_plan (keyed : planner.WellKeyed) {storageSet : StorageSet}
    (member : storageSet ∈ planner.plan) : ∃ node, planner.assigned node = storageSet := by
  have isAssigned := (plan_perm_assigned keyed).mem_iff.1 member
  obtain ⟨node, -, same⟩ := List.mem_map.1 isAssigned
  exact ⟨node, same⟩

theorem plan_perm_of_unobserved (keyed : planner.WellKeyed)
    (unobserved : planner.observed = .empty) :
    planner.plan.Perm (planner.desired.values.map fun node =>
      planner.storageSetFor (storageSetName planner.planName node.uid) node) := by
  have allNew : planner.assigned = fun node =>
      planner.storageSetFor (storageSetName planner.planName node.uid) node := by
    funext node
    have unserved : planner.source? node.uid = none := by
      simp [source?, unobserved]
    rw [assigned, unserved]
  rw [← allNew]
  exact plan_perm_assigned keyed

theorem firstServing?_eq (observed : List StorageSet) (uid : String) :
    (observedTable observed).find? uid = StorageSet.firstServing? observed uid := by
  have lookedUp (storageSets : List StorageSet) :
      (storageSets.map fun storageSet => (storageSet.spec.node.uid, storageSet)).lookup uid =
        storageSets.find? fun storageSet => storageSet.spec.node.uid = uid := by
    induction storageSets with
    | nil => rfl
    | cons storageSet rest ih =>
        rw [List.map_cons, lookup_entry_cons, List.find?_cons, ih]
        by_cases same : storageSet.spec.node.uid = uid
        · simp [same]
        · simp [same, Ne.symm same]
  rw [observedTable, Table.find?_ofList, List.map_reverse, List.reverse_reverse, lookedUp]
  rfl

theorem keys_desiredTable (nodes : List PlannedNode) :
    (desiredTable nodes).keys = PlannedNode.ascendingUids nodes := by
  rw [desiredTable, Table.keys_ofList, List.map_map]
  rfl

theorem keys_observedTable (observed : List StorageSet) :
    (observedTable observed).keys =
      PlannedNode.ascendingUids (observed.map fun storageSet => storageSet.spec.node) := by
  apply eq_inTextOrder_of_mem_iff (Table.keys_nodup _) (Table.keys_pairwise _)
  intro uid
  rw [observedTable, Table.mem_keys_ofList]
  simp

@[simp]
theorem uid_assigned (node : PlannedNode) : (planner.assigned node).spec.node.uid = node.uid := by
  unfold assigned
  split
  · simp only [spec_storageSetFor]
    split
    next same => exact same
    next => rfl
  · rfl

theorem uids_plan_perm (keyed : planner.WellKeyed) :
    (planner.plan.map fun storageSet => storageSet.spec.node.uid).Perm planner.desired.keys := by
  have permuted :=
    (plan_perm_assigned keyed).map fun storageSet => storageSet.spec.node.uid
  have uids : planner.desired.values.map PlannedNode.uid = planner.desired.keys := by
    rw [Table.values, Table.keys, List.map_map]
    apply List.map_congr_left
    intro entry member
    exact keyed.desired (Table.find?_eq_some_iff.2 member)
  rw [List.map_map] at permuted
  simpa only [Function.comp_def, uid_assigned, uids] using permuted

theorem plan_pairwise (planner : StorageSetPlanner) :
    planner.plan.Pairwise fun first second => Resource.name first ≤ Resource.name second := by
  have ordered := inOrder_pairwise (isOrder_textAtMost.comap Resource.name)
    (planner.actions.filterMap planner.planned?)
  exact ordered.imp fun before => by simpa [textAtMost] using before

end Assignment

section Plan

/-- Every uid of the buckets is found: the planned ones among the nodes of a plan, and those whose
storage sets go on serving among observed storage sets. -/
structure FindsAll (planner : StorageSetPlanner) (nodes : List PlannedNode)
    (observed : List StorageSet) : Prop where
  nodes : ∀ uid ∈ planner.buckets.keep ++ planner.buckets.retarget.map Prod.snd ++
      planner.buckets.create,
    ∃ node ∈ nodes, node.uid = uid ∧ planner.desired.find? uid = some node
  storageSets : ∀ uid ∈ planner.buckets.keep ++ planner.buckets.retarget.map Prod.fst,
    ∃ existing ∈ observed, existing.spec.node.uid = uid ∧
      StorageSet.firstServing? observed uid = some existing ∧
      planner.observed.find? uid = some existing

/-- A planned storage set has the old name of the one that is reused for its node, or else the name
of a new one. -/
def Names (planner : StorageSetPlanner) (planName : String) (observed : List StorageSet)
    (storageSet : StorageSet) : Prop :=
  (∃ pair ∈ planner.buckets.reuses, pair.2 = storageSet.spec.node.uid ∧
    ∃ existing, StorageSet.firstServing? observed pair.1 = some existing ∧
      storageSet.metadata.name = some (Resource.name existing)) ∨
  (storageSet.spec.node.uid ∉ planner.buckets.reuses.map Prod.snd ∧
    storageSet.metadata.name = some (storageSetName planName storageSet.spec.node.uid))

variable {plan : ClusterPlan} {name uid : String} {observed : List StorageSet}
  {disk : DiskRequest} {externalProvision : Option ExternalProvision}

theorem findsAll_of_forPlan :
    (forPlan plan name uid observed disk externalProvision).FindsAll plan.spec.nodes observed := by
  set planner := forPlan plan name uid observed disk externalProvision with planner_eq
  have divides := planner.buckets_divide
  constructor
  · intro wanted member
    have isKey : wanted ∈ planner.desired.keys := divides.dividesPlanned.mem_iff.1 member
    obtain ⟨node, found⟩ := Table.mem_keys_iff.1 isKey
    have origin := mem_of_find?_desiredTable found
    exact ⟨node, origin.1, origin.2, found⟩
  · intro wanted member
    have isKey : wanted ∈ planner.observed.keys :=
      divides.dividesServed.mem_iff.1 (List.mem_append_left _ member)
    obtain ⟨existing, found⟩ := Table.mem_keys_iff.1 isKey
    have origin := mem_of_find?_observedTable found
    exact ⟨existing, origin.1, origin.2, (firstServing?_eq observed wanted).symm.trans found, found⟩

theorem names_assigned (node : PlannedNode) :
    (forPlan plan name uid observed disk externalProvision).Names name observed
      ((forPlan plan name uid observed disk externalProvision).assigned node) := by
  set planner := forPlan plan name uid observed disk externalProvision with planner_eq
  unfold Names
  rw [uid_assigned]
  cases reused : planner.buckets.reuses.find? fun pair => pair.2 = node.uid with
  | none =>
      right
      have unserved := find?_reuses_eq_none_iff.1 reused
      refine ⟨unserved, ?_⟩
      rw [assigned, source?_eq_none unserved]
      rfl
  | some pair =>
      left
      have pairMem := List.mem_of_find?_eq_some reused
      have pairServes : pair.2 = node.uid := by simpa using List.find?_some reused
      obtain ⟨existing, found⟩ := exists_observed_of_mem_reuses pairMem
      have source : planner.source? node.uid = some existing := by
        rw [← pairServes, source?_eq_of_mem pairMem, found]
      refine ⟨pair, pairMem, pairServes, existing, ?_, ?_⟩
      · exact (firstServing?_eq observed pair.1).symm.trans found
      · rw [assigned, source]
        rfl

end Plan
end StorageSetPlanner

/-- A storage set carries what a plan and its intent say: the disks, the provisioner, the namespace,
and the reference and the marker that lead back to the plan. -/
structure StorageSet.Carries (plan : ClusterPlan) (name uid : String) (disk : DiskRequest)
    (externalProvision : Option ExternalProvision) (storageSet : StorageSet) : Prop where
  disk : storageSet.spec.disk = disk
  externalProvision : storageSet.spec.externalProvision = externalProvision
  objectNamespace : storageSet.metadata.objectNamespace = plan.metadata.objectNamespace
  owner : storageSet.metadata.ownerReferences =
    some [Resource.controllerReference ClusterPlan name uid]
  annotations : storageSet.metadata.annotations =
    some (Table.empty.insert MarkerKey.clusterPlan uid)
  labels : storageSet.metadata.labels = some (Table.empty.insert MarkerKey.clusterPlan uid)

namespace StorageSetPlanner

variable {plan : ClusterPlan} {name uid : String}

theorem carries_assigned (observed : List StorageSet) (disk : DiskRequest)
    (externalProvision : Option ExternalProvision) (node : PlannedNode) :
    StorageSet.Carries plan name uid disk externalProvision
      ((forPlan plan name uid observed disk externalProvision).assigned node) := by
  obtain ⟨setName, recorded, isNew⟩ := exists_assigned_eq
    (forPlan plan name uid observed disk externalProvision) node
  rw [isNew]
  exact ⟨rfl, rfl, rfl, rfl, rfl, rfl⟩

/-- The buckets of a plan with a name and a uid divide the planned and the served uids, every uid is
found where it is looked up, and each planned uid gets one storage set.  As many of these as there
can be are observed ones under their old names, none of them twice, and the others are new. -/
theorem plan_reuses_most (named : plan.metadata.name = some name)
    (identified : plan.metadata.uid = some uid) (observed : List StorageSet) (disk : DiskRequest)
    (externalProvision : Option ExternalProvision) :
    ∃ planner, ofPlan plan observed disk externalProvision = .ok planner ∧
      let planned := PlannedNode.ascendingUids plan.spec.nodes
      let served := PlannedNode.ascendingUids (observed.map fun storageSet => storageSet.spec.node)
      planner.buckets.Divides planned served ∧
      planner.FindsAll plan.spec.nodes observed ∧
      planner.plan.length = planned.length ∧
      (planner.plan.map fun storageSet => storageSet.spec.node.uid).Perm planned ∧
      (planner.plan.Pairwise fun first second => Resource.name first ≤ Resource.name second) ∧
      planner.buckets.reuses.length = min planned.length served.length ∧
      (planner.buckets.reuses.map Prod.fst).Nodup ∧
      ∀ storageSet ∈ planner.plan, planner.Names name observed storageSet ∧
        storageSet.Carries plan name uid disk externalProvision := by
  let planner := forPlan plan name uid observed disk externalProvision
  have made : ofPlan plan observed disk externalProvision = .ok planner :=
    ofPlan_eq_ok_iff.2 ⟨name, uid, named, identified, rfl⟩
  have keyed : planner.WellKeyed := wellKeyed_of_forPlan _ _ _ _ _ _
  have plannedKeys : planner.desired.keys = PlannedNode.ascendingUids plan.spec.nodes :=
    keys_desiredTable plan.spec.nodes
  have servedKeys : planner.observed.keys =
      PlannedNode.ascendingUids (observed.map fun storageSet => storageSet.spec.node) :=
    keys_observedTable observed
  have divides := planner.buckets_divide
  have uids := uids_plan_perm keyed
  rw [plannedKeys, servedKeys] at divides
  rw [plannedKeys] at uids
  refine ⟨planner, made, divides, findsAll_of_forPlan, ?_, uids, plan_pairwise planner,
    divides.length_reuses, planner.reuses_fst_nodup, ?_⟩
  · simpa using uids.length_eq
  · intro storageSet member
    obtain ⟨node, rfl⟩ := exists_assigned_of_mem_plan keyed member
    exact ⟨names_assigned node, carries_assigned observed disk externalProvision node⟩

/-- A plan of three nodes, of which node B has a storage set already. -/
def threeNodes : ClusterPlan where
  metadata := { name := some "cluster-a", uid := some "plan-uid" }
  spec := { nodes := [⟨"node-d", "D"⟩, ⟨"node-c", "C"⟩, ⟨"node-b", "B"⟩] }

def servingSet (name : String) (node : PlannedNode) : StorageSet where
  metadata := { name := some name }
  spec := { node, disk := ⟨"50Gi", 1⟩ }

/-- The storage set of node A, which is not planned, and two of node B. -/
def threeSets : List StorageSet :=
  [servingSet "set-b2" ⟨"node-b", "B"⟩, servingSet "set-b1" ⟨"node-b", "B"⟩,
    servingSet "set-a" ⟨"node-a", "A"⟩]

/-- Node B keeps the first of its storage sets, node C takes over that of node A, and only node D
gets a new one. -/
theorem threeNodes_reuse :
    threeNodes.metadata.name = some "cluster-a" ∧ threeNodes.metadata.uid = some "plan-uid" ∧
      ∃ planner, ofPlan threeNodes threeSets ⟨"100Gi", 2⟩ none = .ok planner ∧
        planner.buckets.reuses = [("B", "B"), ("A", "C")] ∧
        planner.buckets.reuses.length = min 3 2 ∧
        planner.plan.map (fun storageSet => (Resource.name storageSet, storageSet.spec.node.uid)) =
          [("cluster-a-D", "D"), ("set-a", "C"), ("set-b1", "B")] ∧
        ∀ storageSet ∈ planner.plan,
          StorageSet.Carries threeNodes "cluster-a" "plan-uid" ⟨"100Gi", 2⟩ none storageSet := by
  have isNamed : threeNodes.metadata.name = some "cluster-a" := rfl
  have isIdentified : threeNodes.metadata.uid = some "plan-uid" := rfl
  obtain ⟨planner, made, -, -, -, -, -, reused, -, planned⟩ :=
    plan_reuses_most isNamed isIdentified threeSets ⟨"100Gi", 2⟩ none
  obtain ⟨name, uid, named, identified, rfl⟩ := ofPlan_eq_ok_iff.1 made
  obtain rfl := Option.some.inj named
  obtain rfl := Option.some.inj identified
  refine ⟨isNamed, isIdentified, _, made, by decide +kernel, ?_, by decide +kernel, ?_⟩
  · rw [reused]
    decide +kernel
  · intro storageSet member
    exact (planned storageSet member).2

section RecordedNodes

variable {planner : StorageSetPlanner}

/-- A node that has a storage set keeps it, as it was recorded there. -/
theorem assigned_of_observed (keyed : planner.WellKeyed) {node : PlannedNode}
    (planned : node.uid ∈ planner.desired.keys) {existing : StorageSet}
    (found : planner.observed.find? node.uid = some existing) :
    planner.assigned node = planner.storageSetFor (Resource.name existing) existing.spec.node := by
  have kept : node.uid ∈ planner.buckets.keep :=
    mem_keep_iff.2 ⟨planned, Table.mem_keys_iff.2 ⟨existing, found⟩⟩
  have pairMem : (node.uid, node.uid) ∈ planner.buckets.reuses :=
    List.mem_append_left _ (List.mem_map.2 ⟨node.uid, kept, rfl⟩)
  have source : planner.source? node.uid = some existing :=
    (source?_eq_of_mem pairMem).trans found
  rw [assigned, source]
  simp [keyed.observed found]

/-- The node that a planned storage set records: a storage set that goes on serving its node keeps
the node as it was recorded, any other one takes it from the plan. -/
theorem node_assigned (keyed : planner.WellKeyed) {node : PlannedNode}
    (planned : node.uid ∈ planner.desired.keys) :
    (planner.assigned node).spec.node =
      ((planner.observed.find? node.uid).map fun existing => existing.spec.node).getD node := by
  cases found : planner.observed.find? node.uid with
  | some existing =>
      rw [assigned_of_observed keyed planned found]
      rfl
  | none =>
      unfold assigned
      split
      next existing source =>
        obtain ⟨pair, -, serves⟩ := Option.bind_eq_some_iff.1 source
        have moved : existing.spec.node.uid ≠ node.uid := by
          intro same
          rw [← keyed.observed serves, same, found] at serves
          cases serves
        simp [moved]
      next => rfl

end RecordedNodes

section Nodes

variable {plan : ClusterPlan} {name uid : String}

theorem plannedNodes_perm (name uid : String)
    (distinct : (plan.spec.nodes.map PlannedNode.uid).Nodup)
    (observed : List StorageSet) (disk : DiskRequest)
    (externalProvision : Option ExternalProvision) :
    ((forPlan plan name uid observed disk externalProvision).plan.map
        fun storageSet => storageSet.spec.node).Perm
      (plan.spec.nodes.map fun node =>
        ((StorageSet.firstServing? observed node.uid).map
          fun existing => existing.spec.node).getD node) := by
  let planner := forPlan plan name uid observed disk externalProvision
  have keyed : planner.WellKeyed := wellKeyed_of_forPlan _ _ _ _ _ _
  have assigned : planner.plan.Perm (plan.spec.nodes.map planner.assigned) :=
    (plan_perm_assigned keyed).trans ((values_desiredTable_perm distinct).map _)
  have recorded := assigned.map fun storageSet => storageSet.spec.node
  rw [List.map_map] at recorded
  apply recorded.trans
  apply List.Perm.of_eq
  apply List.map_congr_left
  intro node member
  have planned : node.uid ∈ planner.desired.keys :=
    mem_keys_desiredTable.2 (List.mem_map_of_mem member)
  rw [← firstServing?_eq]
  exact node_assigned keyed planned

/-- Each planned node gets one storage set.  These record the nodes of the plan exactly if none of
the storage sets that are there for a planned node has recorded the node under another name. -/
theorem plan_nodes_perm_iff (named : plan.metadata.name = some name)
    (identified : plan.metadata.uid = some uid)
    (distinct : (plan.spec.nodes.map PlannedNode.uid).Nodup) (observed : List StorageSet)
    (disk : DiskRequest) (externalProvision : Option ExternalProvision) :
    ∃ planner, ofPlan plan observed disk externalProvision = .ok planner ∧
      planner.plan.length = plan.spec.nodes.length ∧
      (planner.plan.map fun storageSet => storageSet.spec.node.uid).Perm
        (plan.spec.nodes.map PlannedNode.uid) ∧
      ((planner.plan.map fun storageSet => storageSet.spec.node).Perm plan.spec.nodes ↔
        ∀ node ∈ plan.spec.nodes, ∀ existing,
          StorageSet.firstServing? observed node.uid = some existing →
            existing.spec.node.name = node.name) := by
  let recorded (node : PlannedNode) : PlannedNode :=
    ((StorageSet.firstServing? observed node.uid).map fun existing => existing.spec.node).getD node
  have permuted := plannedNodes_perm name uid distinct observed disk externalProvision
  have sameUid (node : PlannedNode) : (recorded node).uid = node.uid := by
    simp only [recorded]
    cases found : StorageSet.firstServing? observed node.uid with
    | none => rfl
    | some existing =>
        rw [← firstServing?_eq] at found
        exact (mem_of_find?_observedTable found).2
  have uids := permuted.map PlannedNode.uid
  have uidsEq : (plan.spec.nodes.map recorded).map PlannedNode.uid =
      plan.spec.nodes.map PlannedNode.uid := by
    rw [List.map_map]
    exact List.map_congr_left fun node _ => sameUid node
  rw [uidsEq, List.map_map] at uids
  refine ⟨_, ofPlan_eq_ok_iff.2 ⟨name, uid, named, identified, rfl⟩, ?_, uids, ?_⟩
  · simpa using uids.length_eq
  constructor
  · intro asPlanned node member existing found
    have recordedMem : recorded node ∈ plan.spec.nodes :=
      asPlanned.mem_iff.1 (permuted.mem_iff.2 (List.mem_map_of_mem member))
    have unchanged : recorded node = node :=
      List.inj_on_of_nodup_map distinct recordedMem member (sameUid node)
    have isRecorded : recorded node = existing.spec.node := by simp [recorded, found]
    rw [← isRecorded, unchanged]
  · intro sameNames
    apply permuted.trans
    apply List.Perm.of_eq
    have unchanged : ∀ node ∈ plan.spec.nodes, recorded node = id node := by
      intro node member
      cases found : StorageSet.firstServing? observed node.uid with
      | none => simp [recorded, found]
      | some existing =>
          have isRecorded : recorded node = existing.spec.node := by simp [recorded, found]
          have uidEq := sameUid node
          rw [isRecorded] at uidEq ⊢
          exact PlannedNode.eq_of_name_eq (sameNames node member existing found) uidEq
    rw [← List.map_id plan.spec.nodes]
    simpa using List.map_congr_left unchanged

/-- The one storage set that is there for a planned node has its current name. -/
theorem threeNodes_recorded :
    (threeNodes.spec.nodes.map PlannedNode.uid).Nodup ∧
      ∃ planner, ofPlan threeNodes threeSets ⟨"100Gi", 2⟩ none = .ok planner ∧
        planner.plan.length = 3 ∧
        (planner.plan.map fun storageSet => storageSet.spec.node).Perm
          [⟨"node-b", "B"⟩, ⟨"node-c", "C"⟩, ⟨"node-d", "D"⟩] := by
  have isNamed : threeNodes.metadata.name = some "cluster-a" := rfl
  have isIdentified : threeNodes.metadata.uid = some "plan-uid" := rfl
  have distinct : (threeNodes.spec.nodes.map PlannedNode.uid).Nodup := by decide
  obtain ⟨planner, made, lengthEq, -, asPlanned⟩ :=
    plan_nodes_perm_iff isNamed isIdentified distinct threeSets ⟨"100Gi", 2⟩ none
  have sameNames : ∀ node ∈ threeNodes.spec.nodes, ∀ existing,
      StorageSet.firstServing? threeSets node.uid = some existing →
        existing.spec.node.name = node.name := by
    have counted : ∀ node ∈ threeNodes.spec.nodes,
        ((StorageSet.firstServing? threeSets node.uid).map
          fun existing => existing.spec.node.name).getD node.name = node.name := by
      decide +kernel
    intro node member existing found
    simpa [found] using counted node member
  refine ⟨distinct, planner, made, lengthEq, (asPlanned.2 sameNames).trans ?_⟩
  decide

/-- The plan of one node whose name has changed. -/
def renamed : ClusterPlan where
  metadata := { name := some "cluster-a", uid := some "plan-uid" }
  spec := { nodes := [⟨"node-2", "node-uid"⟩] }

/-- The storage set of a renamed node goes on recording the old name, which the plan does not have
any more. -/
theorem renamed_keepsOldName :
    renamed.metadata.name = some "cluster-a" ∧ renamed.metadata.uid = some "plan-uid" ∧
      (renamed.spec.nodes.map PlannedNode.uid).Nodup ∧
      ∃ planner, ofPlan renamed [servingSet "cluster-a-node-uid" ⟨"node-1", "node-uid"⟩]
          ⟨"100Gi", 2⟩ none = .ok planner ∧
        (planner.plan.map fun storageSet => storageSet.spec.node) = [⟨"node-1", "node-uid"⟩] ∧
        ¬ (planner.plan.map fun storageSet => storageSet.spec.node).Perm renamed.spec.nodes := by
  have planned :
      ((forPlan renamed "cluster-a" "plan-uid"
          [servingSet "cluster-a-node-uid" ⟨"node-1", "node-uid"⟩] ⟨"100Gi", 2⟩ none).plan.map
        fun storageSet => storageSet.spec.node) = [⟨"node-1", "node-uid"⟩] := by
    decide +kernel
  refine ⟨rfl, rfl, by decide, _, ofPlan_eq_ok_iff.2 ⟨_, _, rfl, rfl, rfl⟩, planned, ?_⟩
  rw [planned]
  decide

end Nodes

end StorageSetPlanner
end PoolPlanner
