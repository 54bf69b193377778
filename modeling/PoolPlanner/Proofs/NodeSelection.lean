import PoolPlanner.Planning.NodeSelection
import PoolPlanner.Proofs.Fallible
import PoolPlanner.Proofs.SlotMerge

/-!
# The nodes of a plan

Without an earlier plan, the first eligible nodes are selected, as many as the least number of
pools.  A later plan merges the uids that are kept, filled up with new ones, into those that were
planned.  Nodes with distinct names and uids stay distinct in a plan.
-/

namespace PoolPlanner
namespace NodeSelection

variable {selector : Selector} {nodes : List Node} {planned : List PlannedNode}

theorem length_uids (planned : List PlannedNode) : (uids planned).length = planned.length :=
  List.length_map _

theorem identity_of_candidate? {node : Node} {candidate : PlannedNode}
    (found : candidate? node = some candidate) :
    node.metadata.name = some candidate.name ∧ node.metadata.uid = some candidate.uid := by
  unfold candidate? at found
  split at found
  next name uid named identified =>
    split at found
    next => simp at found
    next =>
      obtain rfl := Option.some.inj found
      exact ⟨named, identified⟩
  next => simp at found

theorem isUnschedulable_of_candidate? {node : Node} {candidate : PlannedNode}
    (found : candidate? node = some candidate) : node.isUnschedulable = false := by
  unfold candidate? at found
  split at found
  next =>
    split at found
    next => simp at found
    next schedulable => simpa using schedulable
  next => simp at found

/-- The allowed nodes stand in the order of the nodes. -/
theorem allowed_sublist (allowedHere : allowed selector nodes = .ok planned) :
    planned.Sublist (nodes.filterMap candidate?) := by
  induction nodes generalizing planned with
  | nil =>
      obtain rfl := Except.ok.inj allowedHere
      exact .slnil
  | cons node rest ih =>
      rw [allowed] at allowedHere
      cases candidate : candidate? node with
      | none =>
          rw [candidate] at allowedHere
          rw [List.filterMap_cons_none candidate]
          exact ih allowedHere
      | some found =>
          simp only [candidate] at allowedHere
          rw [List.filterMap_cons_some candidate]
          split at allowedHere
          next => simp at allowedHere
          next => exact (ih allowedHere).cons found
          next =>
            obtain ⟨others, othersAllowed, rfl⟩ := map_eq_ok_iff.1 allowedHere
            exact (ih othersAllowed).cons_cons found

/-- The allowed nodes are the candidates that the selector selects. -/
theorem mem_allowed_iff (allowedHere : allowed selector nodes = .ok planned)
    {candidate : PlannedNode} :
    candidate ∈ planned ↔
      ∃ node ∈ nodes, candidate? node = some candidate ∧ selector.selects node = .ok true := by
  induction nodes generalizing planned with
  | nil =>
      obtain rfl := Except.ok.inj allowedHere
      simp
  | cons node rest ih =>
      rw [allowed] at allowedHere
      cases isCandidate : candidate? node with
      | none =>
          rw [isCandidate] at allowedHere
          simp [ih allowedHere, isCandidate]
      | some found =>
          simp only [isCandidate] at allowedHere
          split at allowedHere
          next => simp at allowedHere
          next refused => simp [ih allowedHere, refused]
          next selected =>
            obtain ⟨others, othersAllowed, rfl⟩ := map_eq_ok_iff.1 allowedHere
            simp [ih othersAllowed, isCandidate, selected, eq_comm]

theorem mem_eligible_iff (eligibleHere : eligible nodes selector = .ok planned)
    {candidate : PlannedNode} :
    candidate ∈ planned ↔
      ∃ node ∈ nodes, candidate? node = some candidate ∧ selector.selects node = .ok true := by
  obtain ⟨allowedNodes, allowedHere, rfl⟩ := map_eq_ok_iff.1 eligibleHere
  rw [mem_inOrder, mem_allowed_iff allowedHere]

theorem length_eligible_le (eligibleHere : eligible nodes selector = .ok planned) :
    planned.length ≤ nodes.length := by
  obtain ⟨allowedNodes, allowedHere, rfl⟩ := map_eq_ok_iff.1 eligibleHere
  have candidates := (allowed_sublist allowedHere).length_le
  have counted := List.length_filterMap_le candidate? nodes
  rw [length_inOrder]
  exact Nat.le_trans candidates counted

/-- Planned nodes have distinct names and uids. -/
structure Distinct (planned : List PlannedNode) : Prop where
  names : (planned.map PlannedNode.name).Nodup
  uids : (uids planned).Nodup

theorem Distinct.sublist {others : List PlannedNode} (distinct : Distinct others)
    (included : planned.Sublist others) : Distinct planned :=
  ⟨distinct.names.sublist (included.map _), distinct.uids.sublist (included.map _)⟩

theorem Distinct.perm {others : List PlannedNode} (distinct : Distinct others)
    (permuted : planned.Perm others) : Distinct planned :=
  ⟨(permuted.map _).nodup_iff.2 distinct.names, (permuted.map _).nodup_iff.2 distinct.uids⟩

theorem uids_candidates_nodup (distinct : (nodes.filterMap fun node => node.metadata.uid).Nodup) :
    (uids (nodes.filterMap candidate?)).Nodup := by
  rw [uids, List.map_filterMap]
  refine nodup_filterMap_of_imp distinct fun node uid found => ?_
  obtain ⟨candidate, candidateFound, rfl⟩ := Option.map_eq_some_iff.1 found
  exact (identity_of_candidate? candidateFound).2

theorem uids_eligible_nodup (distinct : (nodes.filterMap fun node => node.metadata.uid).Nodup)
    (eligibleHere : eligible nodes selector = .ok planned) : (uids planned).Nodup := by
  obtain ⟨allowedNodes, allowedHere, rfl⟩ := map_eq_ok_iff.1 eligibleHere
  have allowedDistinct : (uids allowedNodes).Nodup :=
    (uids_candidates_nodup distinct).sublist ((allowed_sublist allowedHere).map _)
  exact ((inOrder_perm _ allowedNodes).map PlannedNode.uid).nodup_iff.2 allowedDistinct

theorem distinct_candidates
    (names : (nodes.filterMap fun node => node.metadata.name).Nodup)
    (uids : (nodes.filterMap fun node => node.metadata.uid).Nodup) :
    Distinct (nodes.filterMap candidate?) := by
  refine ⟨?_, uids_candidates_nodup uids⟩
  rw [List.map_filterMap]
  refine nodup_filterMap_of_imp names fun node name found => ?_
  obtain ⟨candidate, candidateFound, rfl⟩ := Option.map_eq_some_iff.1 found
  exact (identity_of_candidate? candidateFound).1

theorem distinct_of_eligible
    (names : (nodes.filterMap fun node => node.metadata.name).Nodup)
    (uids : (nodes.filterMap fun node => node.metadata.uid).Nodup)
    (eligibleHere : eligible nodes selector = .ok planned) : Distinct planned := by
  obtain ⟨allowedNodes, allowedHere, rfl⟩ := map_eq_ok_iff.1 eligibleHere
  exact ((distinct_candidates names uids).sublist (allowed_sublist allowedHere)).perm
    (inOrder_perm _ _)

section FirstPlan

variable {eligible : List PlannedNode} {minimum maximum : Nat}

theorem exists_lastWithUid? {uid : String} (member : uid ∈ uids eligible) :
    ∃ node, lastWithUid? eligible uid = some node := by
  obtain ⟨node, nodeMem, rfl⟩ := List.mem_map.1 member
  apply Option.isSome_iff_exists.1
  rw [lastWithUid?, List.find?_isSome]
  exact ⟨node, List.mem_reverse.2 nodeMem, by simp⟩

theorem uid_of_lastWithUid? {uid : String} {node : PlannedNode}
    (found : lastWithUid? eligible uid = some node) : node ∈ eligible ∧ node.uid = uid := by
  have member := List.mem_of_find?_eq_some found
  have same := List.find?_some found
  exact ⟨List.mem_reverse.1 member, by simpa using same⟩

/-- Among distinct uids, the last node with the uid of a node is that node. -/
theorem lastWithUid?_uid (distinct : (uids eligible).Nodup) {node : PlannedNode}
    (member : node ∈ eligible) : lastWithUid? eligible node.uid = some node := by
  obtain ⟨other, found⟩ := exists_lastWithUid? (List.mem_map_of_mem member)
  obtain ⟨otherMem, sameUid⟩ := uid_of_lastWithUid? found
  rw [found, List.inj_on_of_nodup_map distinct otherMem member sameUid]

/-- Among distinct uids, nodes are found again by their uids. -/
theorem filterMap_lastWithUid? (distinct : (uids eligible).Nodup) {found : List PlannedNode}
    (included : found ⊆ eligible) : (uids found).filterMap (lastWithUid? eligible) = found := by
  calc
    (uids found).filterMap (lastWithUid? eligible) = found.filterMap some := by
      rw [uids, List.filterMap_map]
      refine List.filterMap_congr fun node member => ?_
      exact lastWithUid?_uid distinct (included member)
    _ = found := List.filterMap_some

theorem select_eq_ok_iff {previous selected : List PlannedNode} :
    select eligible previous minimum maximum = .ok selected ↔
      minimum ≤ eligible.length ∧
        (slotMerge (uids previous) (chosenUids eligible previous minimum maximum)).filterMap
          (lastWithUid? eligible) = selected := by
  unfold select
  split
  next tooFew => simp [Nat.not_le.2 tooFew]
  next enough => simp [Nat.not_lt.1 enough]

theorem exists_select (previous : List PlannedNode) (maximum : Nat)
    (enough : minimum ≤ eligible.length) :
    ∃ selected, select eligible previous minimum maximum = .ok selected :=
  ⟨_, select_eq_ok_iff.2 ⟨enough, rfl⟩⟩

theorem select_eq_error_iff {previous : List PlannedNode} {fault : Fault} :
    select eligible previous minimum maximum = .error fault ↔
      eligible.length < minimum ∧
        Fault.validation (.tooFewNodes eligible.length minimum) = fault := by
  unfold select
  split
  next tooFew => simp [tooFew]
  next enough => simp [enough]

/-- Without a previous plan, the chosen uids are those of the first eligible nodes. -/
theorem chosenUids_nil (distinct : (uids eligible).Nodup) :
    chosenUids eligible [] minimum maximum = uids (eligible.take minimum) := by
  have kept : (((uids []).filter fun uid => uid ∈ uids eligible).take maximum) = [] := by
    simp [uids]
  rw [chosenUids, kept, fillUpTo_nil distinct, uids, uids, List.map_take]

theorem select_nil (distinct : (uids eligible).Nodup) {selected : List PlannedNode} :
    select eligible [] minimum maximum = .ok selected ↔
      minimum ≤ eligible.length ∧ eligible.take minimum = selected := by
  have chosenDistinct : (uids (eligible.take minimum)).Nodup :=
    distinct.sublist ((List.take_sublist minimum eligible).map _)
  have slots : slotMerge (uids []) (uids (eligible.take minimum)) =
      uids (eligible.take minimum) := slotMerge_nil chosenDistinct
  rw [select_eq_ok_iff, chosenUids_nil distinct, slots,
    filterMap_lastWithUid? distinct (List.take_subset minimum eligible)]

end FirstPlan

section NextPlan

variable {eligible previous selected : List PlannedNode} {minimum maximum : Nat}

/-- The uids of a previous plan that are still eligible. -/
def stillEligible (eligible previous : List PlannedNode) : List String :=
  (uids previous).filter fun uid => uid ∈ uids eligible

theorem stillEligible_subset : stillEligible eligible previous ⊆ uids eligible := by
  intro uid member
  simpa using (List.mem_filter.1 member).2

theorem stillEligible_nodup (previousDistinct : (uids previous).Nodup) :
    (stillEligible eligible previous).Nodup :=
  previousDistinct.filter _

theorem length_stillEligible_le (previousDistinct : (uids previous).Nodup) :
    (stillEligible eligible previous).length ≤ previous.length ∧
      (stillEligible eligible previous).length ≤ eligible.length := by
  have ofPrevious : (stillEligible eligible previous).length ≤ (uids previous).length :=
    List.length_filter_le _ _
  have ofEligible : (stillEligible eligible previous).length ≤ (uids eligible).length :=
    ((stillEligible_nodup previousDistinct).subperm stillEligible_subset).length_le
  simpa [uids] using And.intro ofPrevious ofEligible

/-- The uids that stay planned: the first of them, if not all can. -/
def keptUids (eligible previous : List PlannedNode) (maximum : Nat) : List String :=
  (stillEligible eligible previous).take maximum

theorem chosenUids_eq_append (eligibleDistinct : (uids eligible).Nodup) :
    chosenUids eligible previous minimum maximum =
      keptUids eligible previous maximum ++
        ((uids eligible).filter fun uid => uid ∉ keptUids eligible previous maximum).take
          (minimum - (keptUids eligible previous maximum).length) := by
  have filled : chosenUids eligible previous minimum maximum =
      fillUpTo minimum (keptUids eligible previous maximum) (uids eligible) := rfl
  rw [filled, fillUpTo_eq, firstOccurrences_of_nodup eligibleDistinct]

theorem chosenUids_eq (fits : (stillEligible eligible previous).length ≤ maximum) :
    chosenUids eligible previous minimum maximum =
      fillUpTo minimum (stillEligible eligible previous) (uids eligible) := by
  have kept : (stillEligible eligible previous).take maximum = stillEligible eligible previous :=
    List.take_of_length_le fits
  unfold chosenUids
  exact congrArg (fun chosen => fillUpTo minimum chosen (uids eligible)) kept

theorem chosenUids_subset : chosenUids eligible previous minimum maximum ⊆ uids eligible := by
  intro uid member
  rcases mem_of_mem_fillUpTo member with kept | other
  · exact stillEligible_subset (List.mem_of_mem_take kept)
  · exact other

/-- The uids of a plan are the chosen ones, merged into those of the previous plan. -/
theorem uids_select (selectedHere : select eligible previous minimum maximum = .ok selected) :
    uids selected =
      slotMerge (uids previous) (chosenUids eligible previous minimum maximum) := by
  obtain ⟨-, rfl⟩ := select_eq_ok_iff.1 selectedHere
  let merged := slotMerge (uids previous) (chosenUids eligible previous minimum maximum)
  have each : ∀ uid ∈ merged,
      (lastWithUid? eligible uid).map PlannedNode.uid = some uid := by
    intro uid member
    have isEligible := chosenUids_subset ((mem_slotMerge _ _ uid).1 member)
    obtain ⟨node, found⟩ := exists_lastWithUid? isEligible
    rw [found, Option.map_some, (uid_of_lastWithUid? found).2]
  rw [uids, List.map_filterMap, List.filterMap_congr each]
  exact List.filterMap_some

theorem mem_eligible_of_mem_select
    (selectedHere : select eligible previous minimum maximum = .ok selected) {node : PlannedNode}
    (member : node ∈ selected) : node ∈ eligible := by
  obtain ⟨-, rfl⟩ := select_eq_ok_iff.1 selectedHere
  obtain ⟨uid, -, found⟩ := List.mem_filterMap.1 member
  exact (uid_of_lastWithUid? found).1

theorem uids_select_nodup (selectedHere : select eligible previous minimum maximum = .ok selected) :
    (uids selected).Nodup := by
  rw [uids_select selectedHere]
  exact slotMerge_nodup _ _

/-- As many nodes are added as the kept uids are too few, and each kept uid makes one node, however
often the previous plan repeats it. -/
theorem length_select_eq (eligibleDistinct : (uids eligible).Nodup)
    (selectedHere : select eligible previous minimum maximum = .ok selected) :
    selected.length = (firstOccurrences (keptUids eligible previous maximum)).length +
      (minimum - (keptUids eligible previous maximum).length) := by
  let kept := keptUids eligible previous maximum
  let added := ((uids eligible).filter fun uid => uid ∉ kept).take (minimum - kept.length)
  have addedDistinct : added.Nodup :=
    (eligibleDistinct.filter _).sublist (List.take_sublist _ _)
  have apart : ∀ uid ∈ added, uid ∉ kept := fun uid member => by
    simpa using (List.mem_filter.1 (List.mem_of_mem_take member)).2
  have addedLength : added.length = minimum - kept.length := by
    have enough : minimum ≤ eligible.length := (select_eq_ok_iff.1 selectedHere).1
    have available := length_sub_le_filter_notMem kept eligibleDistinct
    rw [length_uids] at available
    rw [List.length_take, Nat.min_eq_left]
    exact Nat.le_trans (by omega) available
  calc
    selected.length = (uids selected).length := (length_uids selected).symm
    _ = (firstOccurrences (kept ++ added)).length := by
      rw [uids_select selectedHere, (slotMerge_perm _ _).length_eq,
        chosenUids_eq_append eligibleDistinct]
    _ = (firstOccurrences kept).length + (minimum - kept.length) := by
      rw [firstOccurrences_append addedDistinct apart, List.length_append, addedLength]

/-- A plan has the least number of nodes, or as many as can stay. -/
theorem length_select (eligibleDistinct : (uids eligible).Nodup)
    (previousDistinct : (uids previous).Nodup)
    (fits : (stillEligible eligible previous).length ≤ maximum)
    (selectedHere : select eligible previous minimum maximum = .ok selected) :
    selected.length = max minimum (stillEligible eligible previous).length := by
  have allKept : keptUids eligible previous maximum = stillEligible eligible previous :=
    List.take_of_length_le fits
  have counted := length_select_eq eligibleDistinct selectedHere
  rw [allKept, firstOccurrences_of_nodup (stillEligible_nodup previousDistinct)] at counted
  omega

/-- No plan has more nodes than the greater of its counts, whatever it was planned from. -/
theorem length_select_le (selectedHere : select eligible previous minimum maximum = .ok selected) :
    selected.length ≤ max minimum maximum := by
  let kept := (stillEligible eligible previous).take maximum
  have few : kept.length ≤ maximum := List.length_take_le _ _
  have filled : (chosenUids eligible previous minimum maximum).length ≤ max minimum maximum := by
    have chosen : chosenUids eligible previous minimum maximum =
        fillUpTo minimum kept (uids eligible) := rfl
    have taken := List.length_take_le (minimum - kept.length)
      ((firstOccurrences (uids eligible)).filter fun uid => uid ∉ kept)
    rw [chosen, fillUpTo_eq, List.length_append]
    omega
  have merged := (slotMerge_perm (uids previous)
    (chosenUids eligible previous minimum maximum)).length_eq
  have once := length_firstOccurrences_le (chosenUids eligible previous minimum maximum)
  have counted := congrArg List.length (uids_select selectedHere)
  rw [length_uids] at counted
  omega

theorem length_select_le_eligible
    (selectedHere : select eligible previous minimum maximum = .ok selected) :
    selected.length ≤ eligible.length := by
  have included : uids selected ⊆ uids eligible := by
    intro uid member
    obtain ⟨node, nodeMem, rfl⟩ := List.mem_map.1 member
    exact List.mem_map_of_mem (mem_eligible_of_mem_select selectedHere nodeMem)
  have fewer := ((uids_select_nodup selectedHere).subperm included).length_le
  simpa [uids] using fewer

/-- Uids of the previous plan that are eligible stay, in their order. -/
theorem sublist_select (previousDistinct : (uids previous).Nodup)
    (fits : (stillEligible eligible previous).length ≤ maximum)
    (selectedHere : select eligible previous minimum maximum = .ok selected) {kept : List String}
    (included : kept.Sublist (uids previous)) (isEligible : kept ⊆ uids eligible) :
    kept.Sublist (uids selected) := by
  rw [uids_select selectedHere]
  apply sublist_slotMerge previousDistinct included
  intro uid member
  have staying : uid ∈ stillEligible eligible previous :=
    List.mem_filter.2 ⟨included.subset member, by simpa using isEligible member⟩
  rw [chosenUids_eq fits, fillUpTo_eq]
  exact List.mem_append_left _ staying

end NextPlan
end NodeSelection
end PoolPlanner
