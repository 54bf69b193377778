import PoolPlanner.Planning.StorageSets
import PoolPlanner.Proofs.Fallible
import PoolPlanner.Proofs.Table

/-!
# What a round of storage set planning plans

The planned storage sets are the observed ones that go on serving a node, under their old names, and
one new storage set for each created uid.
-/

namespace PoolPlanner

namespace NodeBuckets

/-- Planned and served uids, both ascending and each once, are divided among the buckets. -/
structure Divides (buckets : NodeBuckets) (planned served : List String) : Prop where
  dividesPlanned : (buckets.keep ++ buckets.retarget.map Prod.snd ++ buckets.create).Perm planned
  dividesServed : (buckets.keep ++ buckets.retarget.map Prod.fst ++ buckets.remove).Perm served
  oneSided : buckets.create = [] ∨ buckets.remove = []
  paired : buckets.retarget =
    (served.filter fun uid => uid ∉ planned).zip (planned.filter fun uid => uid ∉ served)

end NodeBuckets

namespace StorageSetPlanner

@[simp]
theorem name_storageSetFor (planner : StorageSetPlanner) (name : String) (node : PlannedNode) :
    Resource.name (planner.storageSetFor name node) = name :=
  rfl

@[simp]
theorem spec_storageSetFor (planner : StorageSetPlanner) (name : String) (node : PlannedNode) :
    (planner.storageSetFor name node).spec =
      { node, disk := planner.disk, externalProvision := planner.externalProvision } :=
  rfl

theorem storageSetName_injective (planName : String) :
    Function.Injective (storageSetName planName) := by
  intro first second same
  simpa [storageSetName, toString, String.ext_iff] using same

/-- The planner for a plan with a name and a uid. -/
def forPlan (plan : ClusterPlan) (name uid : String) (observed : List StorageSet)
    (disk : DiskRequest) (externalProvision : Option ExternalProvision) : StorageSetPlanner where
  planName := name
  planUid := uid
  planNamespace := plan.metadata.objectNamespace
  owner := Resource.controllerReference ClusterPlan name uid
  desired := desiredTable plan.spec.nodes
  observed := observedTable observed
  disk := disk
  externalProvision := externalProvision

theorem ofPlan_eq_ok_iff {plan : ClusterPlan} {observed : List StorageSet} {disk : DiskRequest}
    {externalProvision : Option ExternalProvision} {planner : StorageSetPlanner} :
    ofPlan plan observed disk externalProvision = .ok planner ↔
      ∃ name uid, plan.metadata.name = some name ∧ plan.metadata.uid = some uid ∧
        forPlan plan name uid observed disk externalProvision = planner := by
  simp only [ofPlan, bind_eq_ok_iff, Resource.uid_eq_ok_iff, Resource.ownerReference_eq_ok_iff,
    pure_eq_ok_iff]
  constructor
  · rintro ⟨uid, identified, _, ⟨name, _, named, identifiedAgain, rfl⟩, rfl⟩
    obtain rfl := Option.some.inj (identified.symm.trans identifiedAgain)
    rw [Resource.name_eq_of_metadata plan named]
    exact ⟨name, uid, named, identified, rfl⟩
  · rintro ⟨name, uid, named, identified, rfl⟩
    refine ⟨uid, identified, _, ⟨name, uid, named, identified, rfl⟩, ?_⟩
    rw [Resource.name_eq_of_metadata plan named]
    rfl

section Tables

theorem mem_of_find?_desiredTable {nodes : List PlannedNode} {uid : String} {node : PlannedNode}
    (found : (desiredTable nodes).find? uid = some node) : node ∈ nodes ∧ node.uid = uid := by
  rw [desiredTable, Table.find?_ofList] at found
  obtain ⟨before, after, split, -⟩ := List.lookup_eq_some_iff.1 found
  have member : (uid, node) ∈ nodes.map fun node => (node.uid, node) := by
    rw [← List.mem_reverse, split]
    simp
  obtain ⟨origin, originMem, same⟩ := List.mem_map.1 member
  obtain ⟨rfl, rfl⟩ := Prod.mk.inj same
  exact ⟨originMem, rfl⟩

theorem mem_of_find?_observedTable {storageSets : List StorageSet} {uid : String}
    {storageSet : StorageSet} (found : (observedTable storageSets).find? uid = some storageSet) :
    storageSet ∈ storageSets ∧ storageSet.spec.node.uid = uid := by
  rw [observedTable, Table.find?_ofList] at found
  obtain ⟨before, after, split, -⟩ := List.lookup_eq_some_iff.1 found
  have member : (uid, storageSet) ∈ (Resource.sortedByName storageSets).map
      fun storageSet => (storageSet.spec.node.uid, storageSet) := by
    rw [← List.mem_reverse, ← List.map_reverse, ← List.mem_reverse, split]
    simp
  obtain ⟨origin, originMem, same⟩ := List.mem_map.1 member
  obtain ⟨rfl, rfl⟩ := Prod.mk.inj same
  exact ⟨(Resource.mem_sortedByName storageSets origin).1 originMem, rfl⟩

theorem mem_keys_desiredTable {nodes : List PlannedNode} {uid : String} :
    uid ∈ (desiredTable nodes).keys ↔ uid ∈ nodes.map PlannedNode.uid := by
  simp [desiredTable, Table.mem_keys_ofList]

end Tables

/-- The observed storage sets that go on serving a node: those of kept uids, then those of uids
that are replaced. -/
def reused (planner : StorageSetPlanner) : List StorageSet :=
  (planner.buckets.keep ++ planner.buckets.retarget.map Prod.fst).filterMap
    planner.observed.find?

def createdNames (planner : StorageSetPlanner) : List String :=
  planner.buckets.create.map (storageSetName planner.planName)

/-- Both tables of a planner find things under their own uids. -/
structure WellKeyed (planner : StorageSetPlanner) : Prop where
  desired : ∀ {uid node}, planner.desired.find? uid = some node → node.uid = uid
  observed : ∀ {uid storageSet},
    planner.observed.find? uid = some storageSet → storageSet.spec.node.uid = uid

theorem wellKeyed_of_forPlan (plan : ClusterPlan) (name uid : String) (observed : List StorageSet)
    (disk : DiskRequest) (externalProvision : Option ExternalProvision) :
    (forPlan plan name uid observed disk externalProvision).WellKeyed where
  desired found := (mem_of_find?_desiredTable found).2
  observed found := (mem_of_find?_observedTable found).2

section Zip

variable {α β : Type}

theorem map_fst_zip_append_drop (first : List α) (second : List β) :
    (first.zip second).map Prod.fst ++ first.drop second.length = first := by
  induction first generalizing second with
  | nil => simp
  | cons head rest ih =>
      cases second with
      | nil => simp
      | cons other others => simpa using ih others

theorem map_snd_zip_append_drop (first : List α) (second : List β) :
    (first.zip second).map Prod.snd ++ second.drop first.length = second := by
  induction second generalizing first with
  | nil => simp
  | cons other others ih =>
      cases first with
      | nil => simp
      | cons head rest => simpa using ih rest

theorem drop_eq_nil_or_drop_eq_nil (first : List α) (second : List β) :
    first.drop second.length = [] ∨ second.drop first.length = [] := by
  rcases Nat.le_total first.length second.length with shorter | longer
  · exact .inl (List.drop_eq_nil_of_le shorter)
  · exact .inr (List.drop_eq_nil_of_le longer)

end Zip

section Division

variable (planner : StorageSetPlanner)

theorem common_append_without (left right : List String) :
    (common left right ++ without left right).Perm left := by
  have parts := List.filter_append_perm (fun uid => decide (uid ∈ right)) left
  simpa only [common, without, decide_not] using parts

theorem common_comm {left right : List String} (leftDistinct : left.Nodup)
    (rightDistinct : right.Nodup) : (common left right).Perm (common right left) := by
  apply (List.perm_ext_iff_of_nodup (leftDistinct.filter _) (rightDistinct.filter _)).2
  intro uid
  simp [and_comm]

theorem buckets_divide :
    planner.buckets.Divides planner.desired.keys planner.observed.keys where
  dividesPlanned := by
    simp only [buckets, List.append_assoc]
    rw [map_snd_zip_append_drop]
    exact common_append_without _ _
  dividesServed := by
    have kept := common_comm planner.desired.keys_nodup planner.observed.keys_nodup
    simp only [buckets, List.append_assoc]
    rw [map_fst_zip_append_drop]
    exact (kept.append_right _).trans (common_append_without _ _)
  oneSided := drop_eq_nil_or_drop_eq_nil _ _
  paired := rfl

end Division

section Buckets

variable {planner : StorageSetPlanner}

theorem mem_keep_iff {uid : String} :
    uid ∈ planner.buckets.keep ↔ uid ∈ planner.desired.keys ∧ uid ∈ planner.observed.keys := by
  simp [buckets, common]

theorem mem_keys_of_mem_create {uid : String} (created : uid ∈ planner.buckets.create) :
    uid ∈ planner.desired.keys ∧ uid ∉ planner.observed.keys := by
  have member : uid ∈ without planner.desired.keys planner.observed.keys :=
    List.mem_of_mem_drop created
  simpa [without] using member

theorem mem_keys_of_mem_retarget {pair : String × String}
    (retargeted : pair ∈ planner.buckets.retarget) :
    (pair.1 ∈ planner.observed.keys ∧ pair.1 ∉ planner.desired.keys) ∧
      pair.2 ∈ planner.desired.keys ∧ pair.2 ∉ planner.observed.keys := by
  have members := List.of_mem_zip (a := pair.1) (b := pair.2) retargeted
  simpa [without] using members

theorem create_nodup : planner.buckets.create.Nodup := by
  have distinct := planner.buckets_divide.dividesPlanned.nodup_iff.2 planner.desired.keys_nodup
  exact (List.nodup_append'.1 distinct).2.1

/-- The uids whose storage sets go on serving are distinct. -/
theorem reusedUids_nodup :
    (planner.buckets.keep ++ planner.buckets.retarget.map Prod.fst).Nodup := by
  have distinct := planner.buckets_divide.dividesServed.nodup_iff.2 planner.observed.keys_nodup
  exact (List.nodup_append'.1 distinct).1

end Buckets

section Planned

variable {planner : StorageSetPlanner}

/-- What is planned, bucket by bucket; nothing is planned for a uid that is removed. -/
theorem filterMap_actions (planner : StorageSetPlanner) :
    planner.actions.filterMap planner.planned? =
      ((planner.buckets.keep.filterMap fun uid => (planner.desired.find? uid).map .keep).filterMap
          planner.planned?) ++
        ((planner.buckets.retarget.filterMap fun pair =>
          (planner.desired.find? pair.2).map (.retarget pair.1)).filterMap planner.planned?) ++
        ((planner.buckets.create.filterMap fun uid =>
          (planner.desired.find? uid).map .create).filterMap planner.planned?) := by
  have removed :
      (planner.buckets.remove.map NodeAction.remove).filterMap planner.planned? = [] := by
    simp [List.filterMap_map, planned?, Function.comp_def]
  simp only [actions, List.filterMap_append, removed, List.append_nil]

theorem plannedNames_keep (keyed : planner.WellKeyed) :
    ((planner.buckets.keep.filterMap fun uid => (planner.desired.find? uid).map .keep).filterMap
        planner.planned?).map Resource.name =
      (planner.buckets.keep.filterMap planner.observed.find?).map Resource.name := by
  rw [List.filterMap_filterMap, List.map_filterMap, List.map_filterMap]
  refine List.filterMap_congr fun uid kept => ?_
  obtain ⟨node, nodeFound⟩ := Table.mem_keys_iff.1 (mem_keep_iff.1 kept).1
  simp [nodeFound, planned?, keyed.desired nodeFound, Function.comp_def]

theorem plannedNames_retarget :
    ((planner.buckets.retarget.filterMap fun pair =>
        (planner.desired.find? pair.2).map (.retarget pair.1)).filterMap
          planner.planned?).map Resource.name =
      ((planner.buckets.retarget.map Prod.fst).filterMap planner.observed.find?).map
        Resource.name := by
  rw [List.filterMap_filterMap, List.filterMap_map, List.map_filterMap, List.map_filterMap]
  refine List.filterMap_congr fun pair retargeted => ?_
  obtain ⟨node, nodeFound⟩ :=
    Table.mem_keys_iff.1 (mem_keys_of_mem_retarget retargeted).2.1
  simp [nodeFound, planned?, Function.comp_def]

theorem plannedNames_create (keyed : planner.WellKeyed) :
    ((planner.buckets.create.filterMap fun uid =>
        (planner.desired.find? uid).map .create).filterMap planner.planned?).map Resource.name =
      planner.createdNames := by
  rw [List.filterMap_filterMap, List.map_filterMap, createdNames, ← List.filterMap_eq_map]
  refine List.filterMap_congr fun uid created => ?_
  obtain ⟨node, nodeFound⟩ := Table.mem_keys_iff.1 (mem_keys_of_mem_create created).1
  simp [nodeFound, planned?, keyed.desired nodeFound]

/-- The names of the planned storage sets are the old names of the reused ones and the names of
the created ones. -/
theorem plannedNames_perm (keyed : planner.WellKeyed) :
    (planner.plan.map Resource.name).Perm
      (planner.reused.map Resource.name ++ planner.createdNames) := by
  refine ((Resource.sortedByName_perm _).map _).trans (.of_eq ?_)
  rw [filterMap_actions, List.map_append, List.map_append, plannedNames_keep keyed,
    plannedNames_retarget, plannedNames_create keyed, reused, List.filterMap_append,
    List.map_append]

end Planned

theorem values_desiredTable_perm {nodes : List PlannedNode}
    (distinct : (nodes.map PlannedNode.uid).Nodup) : (desiredTable nodes).values.Perm nodes := by
  obtain ⟨inKeyOrder, permuted, same⟩ :=
    Table.exists_perm_values_ofList PlannedNode.uid id distinct
  have valuesEq : (desiredTable nodes).values = inKeyOrder := by
    simpa [desiredTable] using same
  rw [valuesEq]
  exact permuted

end StorageSetPlanner
end PoolPlanner
