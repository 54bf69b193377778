import Mathlib
import PoolPlanner.Proofs.StorageSetPlanning

/-!
# Names of storage sets over a run

A created storage set is named for the node that it is created for, and keeps that name when it is
moved to another node.  So the names of a run stay distinct exactly as long as no node comes back
while the storage set that has its name still serves another one.
-/

namespace PoolPlanner

/-- What changes from one round of storage set planning to the next: the nodes of the plan and the
disks that they are asked for. -/
structure PlanningRound where
  nodes : List PlannedNode
  disk : DiskRequest
  externalProvision : Option ExternalProvision := none

namespace ClusterPlan

def withNodes (plan : ClusterPlan) (nodes : List PlannedNode) : ClusterPlan :=
  { plan with spec := { nodes } }

def plannerFor (plan : ClusterPlan) (round : PlanningRound) (observed : List StorageSet) :
    Except Fault StorageSetPlanner :=
  StorageSetPlanner.ofPlan (plan.withNodes round.nodes) observed round.disk
    round.externalProvision

/-- The planners of successive rounds, each of which observes what the one before it planned. -/
def plannersOver (plan : ClusterPlan) :
    List PlanningRound → List StorageSet → Except Fault (List StorageSetPlanner)
  | [], _ => .ok []
  | round :: rest, observed =>
      match plan.plannerFor round observed with
      | .error fault => .error fault
      | .ok planner => (plan.plannersOver rest planner.plan).map (planner :: ·)

end ClusterPlan

namespace StorageSetPlanner

/-- A storage set is created for a node while the one that has its name goes on serving. -/
def RetakesName (planner : StorageSetPlanner) : Prop :=
  ∃ uid ∈ planner.buckets.create, ∃ storageSet ∈ planner.reused,
    Resource.name storageSet = storageSetName planner.planName uid

theorem mem_observed_of_mem_reused {planner : StorageSetPlanner} {observed : List StorageSet}
    (table : planner.observed = observedTable observed) {storageSet : StorageSet}
    (member : storageSet ∈ planner.reused) : storageSet ∈ observed := by
  obtain ⟨uid, -, found⟩ := List.mem_filterMap.1 member
  exact (mem_of_find?_observedTable (table ▸ found)).1

theorem reusedNames_nodup {planner : StorageSetPlanner} {observed : List StorageSet}
    (table : planner.observed = observedTable observed)
    (distinct : (observed.map Resource.name).Nodup) :
    (planner.reused.map Resource.name).Nodup := by
  have nameInjective := List.inj_on_of_nodup_map distinct
  rw [reused, List.map_filterMap]
  refine reusedUids_nodup.filterMap fun first second name firstFound secondFound => ?_
  obtain ⟨firstSet, firstSetFound, firstNamed⟩ := Option.map_eq_some_iff.1 firstFound
  obtain ⟨secondSet, secondSetFound, secondNamed⟩ := Option.map_eq_some_iff.1 secondFound
  obtain ⟨firstMem, firstUid⟩ := mem_of_find?_observedTable (table ▸ firstSetFound)
  obtain ⟨secondMem, secondUid⟩ := mem_of_find?_observedTable (table ▸ secondSetFound)
  have same : firstSet = secondSet :=
    nameInjective firstMem secondMem (firstNamed.trans secondNamed.symm)
  rw [← firstUid, ← secondUid, same]

theorem createdNames_nodup (planner : StorageSetPlanner) : planner.createdNames.Nodup :=
  create_nodup.map (storageSetName_injective planner.planName)

/-- In one round, distinct observed names lead to distinct planned names unless a name is
retaken. -/
theorem plannedNames_nodup_iff {planner : StorageSetPlanner} {observed : List StorageSet}
    (keyed : planner.WellKeyed) (table : planner.observed = observedTable observed)
    (distinct : (observed.map Resource.name).Nodup) :
    (planner.plan.map Resource.name).Nodup ↔ ¬ planner.RetakesName := by
  rw [(plannedNames_perm keyed).nodup_iff, List.nodup_append']
  constructor
  · rintro ⟨-, -, apart⟩ ⟨uid, created, storageSet, storageSetMem, same⟩
    refine apart (List.mem_map_of_mem storageSetMem) ?_
    exact same ▸ List.mem_map_of_mem created
  · intro notRetaken
    refine ⟨reusedNames_nodup table distinct, planner.createdNames_nodup, ?_⟩
    intro name inReused inCreated
    obtain ⟨storageSet, storageSetMem, rfl⟩ := List.mem_map.1 inReused
    obtain ⟨uid, created, same⟩ := List.mem_map.1 inCreated
    exact notRetaken ⟨uid, created, storageSet, storageSetMem, same.symm⟩

end StorageSetPlanner

namespace ClusterPlan

variable {plan : ClusterPlan} {rounds : List PlanningRound} {observed : List StorageSet}
  {planners : List StorageSetPlanner}

theorem plannerFor_eq_ok_iff {round : PlanningRound} {planner : StorageSetPlanner} :
    plan.plannerFor round observed = .ok planner ↔
      ∃ name uid, plan.metadata.name = some name ∧ plan.metadata.uid = some uid ∧
        StorageSetPlanner.forPlan (plan.withNodes round.nodes) name uid observed round.disk
          round.externalProvision = planner :=
  StorageSetPlanner.ofPlan_eq_ok_iff

theorem plannersOver_cons_eq_ok_iff {round : PlanningRound} :
    plan.plannersOver (round :: rounds) observed = .ok planners ↔
      ∃ planner later, plan.plannerFor round observed = .ok planner ∧
        plan.plannersOver rounds planner.plan = .ok later ∧ planner :: later = planners := by
  rw [plannersOver]
  cases plan.plannerFor round observed <;> simp

theorem exists_plannersOver {name uid : String} (named : plan.metadata.name = some name)
    (identified : plan.metadata.uid = some uid) (rounds : List PlanningRound)
    (observed : List StorageSet) :
    ∃ planners, plan.plannersOver rounds observed = .ok planners := by
  induction rounds generalizing observed with
  | nil => exact ⟨[], rfl⟩
  | cons round rest ih =>
      obtain ⟨planner, made⟩ : ∃ planner, plan.plannerFor round observed = .ok planner :=
        ⟨_, plannerFor_eq_ok_iff.2 ⟨name, uid, named, identified, rfl⟩⟩
      obtain ⟨later, followed⟩ := ih planner.plan
      exact ⟨_, plannersOver_cons_eq_ok_iff.2 ⟨planner, later, made, followed, rfl⟩⟩

/-- Over a run, names stay distinct as long as no round retakes one, and no longer. -/
theorem plannedNames_nodup_iff_of_run (distinct : (observed.map Resource.name).Nodup)
    (run : plan.plannersOver rounds observed = .ok planners) :
    (∀ planner ∈ planners, (planner.plan.map Resource.name).Nodup) ↔
      ∀ planner ∈ planners, ¬ planner.RetakesName := by
  induction rounds generalizing observed planners with
  | nil =>
      obtain rfl : [] = planners := by simpa [plannersOver] using run
      simp
  | cons round rest ih =>
      obtain ⟨planner, later, made, followed, rfl⟩ := plannersOver_cons_eq_ok_iff.1 run
      obtain ⟨name, uid, -, -, rfl⟩ := plannerFor_eq_ok_iff.1 made
      have roundIff := StorageSetPlanner.plannedNames_nodup_iff
        (StorageSetPlanner.wellKeyed_of_forPlan (plan.withNodes round.nodes) name uid observed
          round.disk round.externalProvision) rfl distinct
      rw [List.forall_mem_cons, List.forall_mem_cons, ← roundIff]
      exact and_congr_right fun planned => ih planned followed

theorem exists_node_of_plannedName {name : String} (named : plan.metadata.name = some name)
    (isNode : String → Prop)
    (nodes : ∀ round ∈ rounds, ∀ node ∈ round.nodes, isNode node.uid)
    (names : ∀ storageSet ∈ observed,
      ∃ uid, isNode uid ∧ Resource.name storageSet = StorageSetPlanner.storageSetName name uid)
    (run : plan.plannersOver rounds observed = .ok planners) :
    ∀ planner ∈ planners, ∀ storageSet ∈ planner.plan,
      ∃ uid, isNode uid ∧
        Resource.name storageSet = StorageSetPlanner.storageSetName name uid := by
  induction rounds generalizing observed planners with
  | nil =>
      obtain rfl : [] = planners := by simpa [plannersOver] using run
      simp
  | cons round rest ih =>
      obtain ⟨planner, later, made, followed, rfl⟩ := plannersOver_cons_eq_ok_iff.1 run
      obtain ⟨planName, planUid, namedAgain, -, rfl⟩ := plannerFor_eq_ok_iff.1 made
      obtain rfl := Option.some.inj (named.symm.trans namedAgain)
      obtain ⟨roundNodes, restNodes⟩ := List.forall_mem_cons.1 nodes
      refine List.forall_mem_cons.2 ⟨?planned, ih restNodes ?planned followed⟩
      intro storageSet planned
      have nameMem := (StorageSetPlanner.plannedNames_perm
        (StorageSetPlanner.wellKeyed_of_forPlan _ _ planUid observed _ _)).subset
          (List.mem_map_of_mem (f := Resource.name) planned)
      rcases List.mem_append.1 nameMem with inReused | inCreated
      · obtain ⟨existing, existingMem, same⟩ := List.mem_map.1 inReused
        rw [← same]
        exact names existing (StorageSetPlanner.mem_observed_of_mem_reused rfl existingMem)
      · obtain ⟨uid, created, same⟩ := List.mem_map.1 inCreated
        have uidMem := StorageSetPlanner.mem_keys_desiredTable.1
          (StorageSetPlanner.mem_keys_of_mem_create created).1
        obtain ⟨node, nodeMem, rfl⟩ := List.mem_map.1 uidMem
        exact ⟨node.uid, roundNodes node nodeMem, same.symm⟩

/-- A run from scratch gives every storage set the name of one of its nodes, and the names of all
rounds are distinct exactly if no node comes back while the storage set with its name still serves
another one.  Only a plan without a name or a uid plans nothing. -/
theorem run_names_distinct_iff (plan : ClusterPlan) (rounds : List PlanningRound) :
    (∃ planners, plan.plannersOver rounds [] = .ok planners ∧
      (∀ planner ∈ planners, ∀ storageSet ∈ planner.plan, ∃ round ∈ rounds,
        ∃ node ∈ round.nodes, Resource.name storageSet =
          StorageSetPlanner.storageSetName (Resource.name plan) node.uid) ∧
      ((∀ planner ∈ planners, (planner.plan.map Resource.name).Nodup) ↔
        ∀ planner ∈ planners, ¬ planner.RetakesName)) ∨
    plan.metadata.name = none ∨ plan.metadata.uid = none := by
  cases named : plan.metadata.name with
  | none => exact .inr (.inl rfl)
  | some name =>
      cases identified : plan.metadata.uid with
      | none => exact .inr (.inr rfl)
      | some uid =>
          obtain ⟨planners, run⟩ := exists_plannersOver named identified rounds []
          refine .inl ⟨planners, run, ?_, plannedNames_nodup_iff_of_run (by simp) run⟩
          intro planner plannerMem storageSet planned
          obtain ⟨_, ⟨round, roundMem, node, nodeMem, rfl⟩, same⟩ :=
            exists_node_of_plannedName named
              (fun uid => ∃ round ∈ rounds, ∃ node ∈ round.nodes, node.uid = uid)
              (fun round roundMem node nodeMem => ⟨round, roundMem, node, nodeMem, rfl⟩)
              (by simp) run planner plannerMem storageSet planned
          rw [Resource.name_eq_of_metadata plan named]
          exact ⟨round, roundMem, node, nodeMem, same⟩

/-- A plan over whose rounds its only node is replaced and then comes back. -/
def returning : ClusterPlan where
  metadata := { name := some "cluster-a", uid := some "plan-uid" }
  spec := {}

def returningRounds : List PlanningRound :=
  let disk : DiskRequest := ⟨"100Gi", 2⟩
  [{ nodes := [⟨"nA", "A"⟩], disk }, { nodes := [⟨"nB", "B"⟩], disk },
    { nodes := [⟨"nA", "A"⟩, ⟨"nB", "B"⟩], disk }]

/-- The storage set of node A serves node B under its name when another one of that name is
created. -/
theorem returning_node_collides :
    (∀ round ∈ returningRounds, (round.nodes.map PlannedNode.uid).Nodup) ∧
      (returning.plannersOver returningRounds []).map (fun planners =>
          planners.map fun planner => planner.plan.map Resource.name) =
        .ok [["cluster-a-A"], ["cluster-a-A"], ["cluster-a-A", "cluster-a-A"]] := by
  refine ⟨by decide, ?_⟩
  cbv

end ClusterPlan
end PoolPlanner
