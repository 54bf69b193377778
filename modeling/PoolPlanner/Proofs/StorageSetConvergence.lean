import PoolPlanner.Proofs.StorageSetReuse

/-!
# A second round of storage set planning

The storage sets that a round plans serve the uids of the plan, each of them once.  With them as the
observed ones, the next round keeps every uid and plans the same storage sets again.
-/

namespace PoolPlanner
namespace StorageSetPlanner

section Settled

variable {planner : StorageSetPlanner}

/-- Where the served uids are the planned ones, every uid is kept. -/
theorem buckets_of_keys_eq (served : planner.observed.keys = planner.desired.keys) :
    planner.buckets =
      { keep := planner.desired.keys, create := [], remove := [], retarget := [] } := by
  have kept : common planner.desired.keys planner.desired.keys = planner.desired.keys :=
    List.filter_eq_self.2 fun uid member => by simpa using member
  have apart : without planner.desired.keys planner.desired.keys = [] :=
    List.filter_eq_nil_iff.2 fun uid member => by simpa using member
  simp [buckets, served, kept, apart]

theorem uid_mem_keys (keyed : planner.WellKeyed) {node : PlannedNode}
    (member : node ∈ planner.desired.values) : node.uid ∈ planner.desired.keys := by
  obtain ⟨⟨uid, planned⟩, entryMem, rfl⟩ := List.mem_map.1 member
  have found : planner.desired.find? uid = some planned := Table.find?_eq_some_iff.2 entryMem
  exact Table.mem_keys_iff.2 ⟨planned, (keyed.desired found).symm ▸ found⟩

end Settled

section NextRound

variable {plan : ClusterPlan} {name uid : String} {disk : DiskRequest}
  {externalProvision : Option ExternalProvision}

theorem find?_observedTable_plan {planner : StorageSetPlanner} (keyed : planner.WellKeyed)
    {node : PlannedNode} (member : node ∈ planner.desired.values) :
    (observedTable planner.plan).find? node.uid = some (planner.assigned node) := by
  have uids := uids_plan_perm keyed
  have distinct : ((Resource.sortedByName planner.plan).map
      fun storageSet => storageSet.spec.node.uid).Nodup :=
    (((Resource.sortedByName_perm planner.plan).map _).trans uids).nodup_iff.2
      planner.desired.keys_nodup
  have isPlanned : planner.assigned node ∈ planner.plan :=
    (plan_perm_assigned keyed).mem_iff.2 (List.mem_map_of_mem member)
  rw [firstServing?_eq, StorageSet.firstServing?,
    find?_key_eq_some_iff (fun storageSet : StorageSet => storageSet.spec.node.uid) distinct]
  exact ⟨(Resource.mem_sortedByName _ _).2 isPlanned, uid_assigned node⟩

variable (plan name uid disk externalProvision) in
def nextRound (observed : List StorageSet) : StorageSetPlanner :=
  forPlan plan name uid (forPlan plan name uid observed disk externalProvision).plan disk
    externalProvision

variable (observed : List StorageSet)

theorem keys_observed_nextRound :
    (nextRound plan name uid disk externalProvision observed).observed.keys =
      (nextRound plan name uid disk externalProvision observed).desired.keys := by
  let first := forPlan plan name uid observed disk externalProvision
  have keyed : first.WellKeyed := wellKeyed_of_forPlan _ _ _ _ _ _
  have served (wanted : String) := (uids_plan_perm keyed).mem_iff (a := wanted)
  calc
    (observedTable first.plan).keys =
        PlannedNode.ascendingUids (first.plan.map fun storageSet => storageSet.spec.node) :=
      keys_observedTable first.plan
    _ = first.desired.keys := by
      refine (eq_inTextOrder_of_mem_iff first.desired.keys_nodup first.desired.keys_pairwise
        fun wanted => ?_).symm
      rw [List.map_map]
      exact (served wanted).symm

/-- A node keeps the storage set that it was given in the round before. -/
theorem assigned_nextRound {node : PlannedNode}
    (member : node ∈ (desiredTable plan.spec.nodes).values) :
    (nextRound plan name uid disk externalProvision observed).assigned node =
      (forPlan plan name uid observed disk externalProvision).assigned node := by
  let first := forPlan plan name uid observed disk externalProvision
  let second := nextRound plan name uid disk externalProvision observed
  have firstKeyed : first.WellKeyed := wellKeyed_of_forPlan _ _ _ _ _ _
  have secondKeyed : second.WellKeyed := wellKeyed_of_forPlan _ _ _ _ _ _
  have found : second.observed.find? node.uid = some (first.assigned node) :=
    find?_observedTable_plan firstKeyed member
  obtain ⟨setName, recorded, same⟩ := exists_assigned_eq first node
  calc
    second.assigned node =
        second.storageSetFor (Resource.name (first.assigned node))
          (first.assigned node).spec.node :=
      assigned_of_observed secondKeyed (uid_mem_keys secondKeyed member) found
    _ = second.storageSetFor setName recorded := by rw [same]; rfl
    -- What a storage set gets besides its name and node does not depend on the observed ones.
    _ = first.storageSetFor setName recorded := rfl
    _ = first.assigned node := same.symm

theorem plan_nextRound_perm :
    (nextRound plan name uid disk externalProvision observed).plan.Perm
      (forPlan plan name uid observed disk externalProvision).plan := by
  let first := forPlan plan name uid observed disk externalProvision
  let second := nextRound plan name uid disk externalProvision observed
  have firstKeyed : first.WellKeyed := wellKeyed_of_forPlan _ _ _ _ _ _
  have secondKeyed : second.WellKeyed := wellKeyed_of_forPlan _ _ _ _ _ _
  have same : second.desired.values.map second.assigned =
      first.desired.values.map first.assigned :=
    List.map_congr_left fun node member => assigned_nextRound observed member
  have secondPlan := plan_perm_assigned secondKeyed
  rw [same] at secondPlan
  exact secondPlan.trans (plan_perm_assigned firstKeyed).symm

theorem plan_eq_of_perm {first second : StorageSetPlanner} (same : second.plan.Perm first.plan)
    (distinct : (first.plan.map Resource.name).Nodup) : second.plan = first.plan := by
  refine same.eq_of_pairwise ?_ (plan_pairwise second) (plan_pairwise first)
  intro left right leftMem rightMem before after
  exact List.inj_on_of_nodup_map distinct (same.mem_iff.1 leftMem) rightMem
    (String.le_antisymm before after)

/-- With the planned storage sets as the observed ones every uid of the plan is kept, none is
created, removed or replaced, and the same storage sets are planned again, in the same order if
their names are distinct. -/
theorem plan_settles (named : plan.metadata.name = some name)
    (identified : plan.metadata.uid = some uid) (observed : List StorageSet) (disk : DiskRequest)
    (externalProvision : Option ExternalProvision) :
    ∃ first second, ofPlan plan observed disk externalProvision = .ok first ∧
      ofPlan plan first.plan disk externalProvision = .ok second ∧
      second.buckets =
        { keep := PlannedNode.ascendingUids plan.spec.nodes
          create := []
          remove := []
          retarget := [] } ∧
      second.plan.Perm first.plan ∧
      ((first.plan.map Resource.name).Nodup → second.plan = first.plan) := by
  let first := forPlan plan name uid observed disk externalProvision
  let second := nextRound plan name uid disk externalProvision observed
  have same : second.plan.Perm first.plan := plan_nextRound_perm observed
  have served : second.observed.keys = second.desired.keys := keys_observed_nextRound observed
  have planned : second.desired.keys = PlannedNode.ascendingUids plan.spec.nodes :=
    keys_desiredTable plan.spec.nodes
  have buckets := buckets_of_keys_eq served
  rw [planned] at buckets
  refine ⟨first, second, ?_, ?_, buckets, same, plan_eq_of_perm same⟩
  · exact ofPlan_eq_ok_iff.2 ⟨name, uid, named, identified, rfl⟩
  · exact ofPlan_eq_ok_iff.2 ⟨name, uid, named, identified, rfl⟩

/-- The first round keeps a storage set, has another one serve another node and creates a third; the
second round has nothing to do. -/
theorem threeNodes_settle :
    threeNodes.metadata.name = some "cluster-a" ∧ threeNodes.metadata.uid = some "plan-uid" ∧
      ∃ first second, ofPlan threeNodes threeSets ⟨"100Gi", 2⟩ none = .ok first ∧
        ofPlan threeNodes first.plan ⟨"100Gi", 2⟩ none = .ok second ∧
        first.buckets = ⟨["B"], ["D"], [], [("A", "C")]⟩ ∧
        second.buckets = ⟨["B", "C", "D"], [], [], []⟩ ∧
        second.plan = first.plan := by
  have isNamed : threeNodes.metadata.name = some "cluster-a" := rfl
  have isIdentified : threeNodes.metadata.uid = some "plan-uid" := rfl
  obtain ⟨first, second, made, madeAgain, buckets, -, settled⟩ :=
    plan_settles isNamed isIdentified threeSets ⟨"100Gi", 2⟩ none
  obtain ⟨name, uid, named, identified, rfl⟩ := ofPlan_eq_ok_iff.1 made
  obtain rfl := Option.some.inj named
  obtain rfl := Option.some.inj identified
  refine ⟨isNamed, isIdentified, _, second, made, madeAgain, by decide +kernel, ?_,
    settled (by decide +kernel)⟩
  rw [buckets]
  decide +kernel

end NextRound
end StorageSetPlanner
end PoolPlanner
