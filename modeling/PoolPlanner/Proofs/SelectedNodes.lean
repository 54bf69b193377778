import PoolPlanner.Proofs.NodeSelection

/-!
# Which nodes are selected

A selection keeps the planned nodes that are still eligible, in their order and up to the maximum,
and adds the first other eligible ones only as far as the minimum asks.  Its counts are reckoned
before repeats are taken out, so a previous plan that repeats a node can end below the minimum.
-/

namespace PoolPlanner
namespace NodeSelection

variable {eligible previous selected : List PlannedNode} {minimum maximum : Nat}

/-- A selection that changes no more than it has to, of nodes whose uids in part are planned and
may stay. -/
structure ChangesLeast (eligible : List PlannedNode) (staying : List String)
    (minimum maximum : Nat) (selected : List PlannedNode) : Prop where
  kept : ((uids selected).filter fun uid => uid ∈ staying) =
    staying.take (min staying.length maximum)
  added : ((uids selected).filter fun uid => uid ∉ staying) =
    ((uids eligible).filter fun uid => uid ∉ staying).take (minimum - staying.length)
  addedLength : ((uids selected).filter fun uid => uid ∉ staying).length =
    minimum - staying.length
  length : selected.length = max minimum (min staying.length maximum)
  distinct : (uids selected).Nodup
  included : selected ⊆ eligible
  /-- Where no node is added, the kept ones stand in their order. -/
  inOrder : minimum ≤ staying.length →
    uids selected = staying.take (min staying.length maximum)
  settled : select eligible selected minimum maximum = .ok selected

theorem mem_stillEligible {uid : String} :
    uid ∈ stillEligible eligible previous ↔ uid ∈ uids previous ∧ uid ∈ uids eligible := by
  simp [stillEligible]

theorem keptUids_sublist : (keptUids eligible previous maximum).Sublist (uids previous) :=
  (List.take_sublist maximum _).trans List.filter_sublist

theorem keptUids_eq : keptUids eligible previous maximum =
    (stillEligible eligible previous).take
      (min (stillEligible eligible previous).length maximum) := by
  rw [keptUids, List.take_eq_take_min, Nat.min_comm]

theorem length_keptUids : (keptUids eligible previous maximum).length =
    min (stillEligible eligible previous).length maximum := by
  rw [keptUids, List.length_take, Nat.min_comm]

/-- Between ordered counts, nodes are only added if none that could stay is left out. -/
theorem chosenUids_eq_of_le (eligibleDistinct : (uids eligible).Nodup)
    (ordered : minimum ≤ maximum) :
    chosenUids eligible previous minimum maximum =
      keptUids eligible previous maximum ++
        ((uids eligible).filter fun uid => uid ∉ stillEligible eligible previous).take
          (minimum - (stillEligible eligible previous).length) := by
  rw [chosenUids_eq_append eligibleDistinct]
  by_cases tooFew : (stillEligible eligible previous).length < minimum
  · have allKept : keptUids eligible previous maximum = stillEligible eligible previous :=
      List.take_of_length_le (by omega)
    rw [allKept]
  · have enoughKept : minimum - (keptUids eligible previous maximum).length = 0 := by
      rw [length_keptUids]
      omega
    have enough : minimum - (stillEligible eligible previous).length = 0 := by omega
    rw [enoughKept, enough, List.take_zero, List.take_zero]

/-- Planned nodes that are all eligible and of which there are neither too few nor too many are
selected again, as they are. -/
theorem select_self (eligibleDistinct : (uids eligible).Nodup) (distinct : (uids selected).Nodup)
    (included : selected ⊆ eligible) (atLeast : minimum ≤ selected.length)
    (atMost : selected.length ≤ maximum) :
    select eligible selected minimum maximum = .ok selected := by
  have allStay : stillEligible eligible selected = uids selected := by
    refine List.filter_eq_self.2 fun uid member => ?_
    exact decide_eq_true (List.map_subset PlannedNode.uid included member)
  have counted := length_uids selected
  have allKept : keptUids eligible selected maximum = uids selected := by
    rw [keptUids, allStay, List.take_of_length_le (by omega)]
  have noneMissing : minimum - (uids selected).length = 0 := by omega
  have chosen : chosenUids eligible selected minimum maximum = uids selected := by
    rw [chosenUids_eq_append eligibleDistinct, allKept, noneMissing, List.take_zero,
      List.append_nil]
  have fewer : (uids selected).length ≤ (uids eligible).length :=
    (distinct.subperm (List.map_subset PlannedNode.uid included)).length_le
  refine select_eq_ok_iff.2 ⟨?_, ?_⟩
  · rw [length_uids, length_uids] at fewer
    omega
  · rw [chosen, slotMerge_self distinct, filterMap_lastWithUid? eligibleDistinct included]

theorem chosenUids_nodup (previousDistinct : (uids previous).Nodup) :
    (chosenUids eligible previous minimum maximum).Nodup :=
  fillUpTo_nodup (previousDistinct.sublist keptUids_sublist)

theorem notMem_uids_previous {uid : String} (isEligible : uid ∈ uids eligible)
    (isNew : uid ∉ stillEligible eligible previous) : uid ∉ uids previous := fun planned =>
  isNew (mem_stillEligible.2 ⟨planned, isEligible⟩)

theorem mem_uids_previous_iff
    (selectedHere : select eligible previous minimum maximum = .ok selected) {uid : String}
    (member : uid ∈ uids selected) :
    uid ∈ uids previous ↔ uid ∈ stillEligible eligible previous := by
  obtain ⟨node, nodeMem, rfl⟩ := List.mem_map.1 member
  have isEligible : node.uid ∈ uids eligible :=
    List.mem_map_of_mem (mem_eligible_of_mem_select selectedHere nodeMem)
  rw [mem_stillEligible, and_iff_left isEligible]

section ChangesLeast

variable (eligibleDistinct : (uids eligible).Nodup) (previousDistinct : (uids previous).Nodup)
  (ordered : minimum ≤ maximum)

include eligibleDistinct ordered

theorem filter_notMem_chosenUids :
    ((chosenUids eligible previous minimum maximum).filter fun uid => uid ∉ uids previous) =
      ((uids eligible).filter fun uid => uid ∉ stillEligible eligible previous).take
        (minimum - (stillEligible eligible previous).length) := by
  rw [chosenUids_eq_of_le eligibleDistinct ordered, List.filter_append]
  have noneKept : ((keptUids eligible previous maximum).filter fun uid => uid ∉ uids previous) =
      [] :=
    List.filter_eq_nil_iff.2 fun uid member => by simpa using keptUids_sublist.subset member
  rw [noneKept, List.nil_append]
  refine List.filter_eq_self.2 fun uid member => ?_
  obtain ⟨isEligible, isNew⟩ := List.mem_filter.1 (List.mem_of_mem_take member)
  simpa using notMem_uids_previous isEligible (by simpa using isNew)

include previousDistinct

theorem filter_mem_chosenUids :
    ((uids previous).filter fun uid => uid ∈ chosenUids eligible previous minimum maximum) =
      keptUids eligible previous maximum := by
  calc
    ((uids previous).filter fun uid => uid ∈ chosenUids eligible previous minimum maximum) =
        (uids previous).filter fun uid => uid ∈ keptUids eligible previous maximum := by
      refine List.filter_congr fun uid planned => ?_
      rw [chosenUids_eq_of_le eligibleDistinct ordered, decide_eq_decide, List.mem_append]
      refine or_iff_left fun member => ?_
      obtain ⟨isEligible, isNew⟩ := List.mem_filter.1 (List.mem_of_mem_take member)
      exact notMem_uids_previous isEligible (by simpa using isNew) planned
    _ = keptUids eligible previous maximum :=
      filter_mem_of_sublist previousDistinct keptUids_sublist

theorem changesLeast_of_select
    (selectedHere : select eligible previous minimum maximum = .ok selected) :
    ChangesLeast eligible (stillEligible eligible previous) minimum maximum selected := by
  have chosenDistinct : (chosenUids eligible previous minimum maximum).Nodup :=
    chosenUids_nodup previousDistinct
  obtain ⟨oldKept, newAdded⟩ := filter_slotMerge previousDistinct chosenDistinct
  rw [← uids_select selectedHere] at oldKept newAdded
  -- A selected uid is eligible, so it was planned before exactly if it could stay.
  have kept : ((uids selected).filter fun uid => uid ∈ stillEligible eligible previous) =
      keptUids eligible previous maximum := by
    rw [← filter_mem_chosenUids eligibleDistinct previousDistinct ordered, ← oldKept]
    exact List.filter_congr fun uid member => by simp [mem_uids_previous_iff selectedHere member]
  have added : ((uids selected).filter fun uid => uid ∉ stillEligible eligible previous) =
      ((uids eligible).filter fun uid => uid ∉ stillEligible eligible previous).take
        (minimum - (stillEligible eligible previous).length) := by
    rw [← filter_notMem_chosenUids eligibleDistinct ordered, ← newAdded]
    exact List.filter_congr fun uid member => by simp [mem_uids_previous_iff selectedHere member]
  have keptDistinct : (keptUids eligible previous maximum).Nodup :=
    previousDistinct.sublist keptUids_sublist
  have counted := length_select_eq eligibleDistinct selectedHere
  rw [firstOccurrences_of_nodup keptDistinct, length_keptUids] at counted
  have distinct := uids_select_nodup selectedHere
  have included : selected ⊆ eligible := fun node member =>
    mem_eligible_of_mem_select selectedHere member
  exact {
    kept := kept.trans keptUids_eq
    added
    addedLength := by
      have whole := length_uids selected
      have parts := List.length_eq_length_filter_add (l := uids selected)
        fun uid => uid ∈ stillEligible eligible previous
      rw [kept, length_keptUids] at parts
      simp only [decide_not]
      omega
    length := by omega
    distinct
    included
    inOrder := fun enough => by
      have noneAdded : minimum - (stillEligible eligible previous).length = 0 := by omega
      rw [noneAdded, List.take_zero, List.filter_eq_nil_iff] at added
      have allKept : ((uids selected).filter fun uid => uid ∈ stillEligible eligible previous) =
          uids selected :=
        List.filter_eq_self.2 fun uid member => by simpa using added uid member
      rw [← allKept, kept, keptUids_eq]
    settled := select_self eligibleDistinct distinct included (by omega) (by omega) }

end ChangesLeast

/-- Nodes are selected unless fewer than the minimum are eligible, and the selection changes the
previous plan as little as the counts allow, in whatever order the eligible nodes are given. -/
theorem select_changesLeast (eligibleDistinct : (uids eligible).Nodup)
    (previousDistinct : (uids previous).Nodup) (ordered : minimum ≤ maximum) :
    (∀ fault, select eligible previous minimum maximum = .error fault ↔
      eligible.length < minimum ∧
        Fault.validation (.tooFewNodes eligible.length minimum) = fault) ∧
    (minimum ≤ eligible.length →
      ∃ selected, select eligible previous minimum maximum = .ok selected ∧
        ChangesLeast eligible (stillEligible eligible previous) minimum maximum selected) := by
  refine ⟨fun fault => select_eq_error_iff, fun enough => ?_⟩
  obtain ⟨selected, selectedHere⟩ := exists_select previous maximum enough
  exact ⟨selected, selectedHere,
    changesLeast_of_select eligibleDistinct previousDistinct ordered selectedHere⟩

def fourNodesByName : List PlannedNode :=
  [⟨"node-1", "A"⟩, ⟨"node-2", "B"⟩, ⟨"node-3", "C"⟩, ⟨"node-4", "D"⟩]

/-- One node has another name now, and the first node that is not planned takes the slot of one that
is gone. -/
theorem renamedAndGone_changesLeast :
    (uids fourNodesByName).Nodup ∧ ["C", "X", "A"].Nodup ∧
      select fourNodesByName [⟨"old-3", "C"⟩, ⟨"gone", "X"⟩, ⟨"node-1", "A"⟩] 3 4 =
        .ok [⟨"node-3", "C"⟩, ⟨"node-2", "B"⟩, ⟨"node-1", "A"⟩] ∧
      ChangesLeast fourNodesByName ["C", "A"] 3 4
        [⟨"node-3", "C"⟩, ⟨"node-2", "B"⟩, ⟨"node-1", "A"⟩] := by
  have eligibleDistinct : (uids fourNodesByName).Nodup := by decide
  have previousDistinct : (uids [⟨"old-3", "C"⟩, ⟨"gone", "X"⟩, ⟨"node-1", "A"⟩]).Nodup := by
    decide
  obtain ⟨selected, selectedHere, least⟩ :=
    (select_changesLeast eligibleDistinct previousDistinct (by decide : 3 ≤ 4)).2 (by decide)
  have computed : select fourNodesByName [⟨"old-3", "C"⟩, ⟨"gone", "X"⟩, ⟨"node-1", "A"⟩] 3 4 =
      .ok [⟨"node-3", "C"⟩, ⟨"node-2", "B"⟩, ⟨"node-1", "A"⟩] := rfl
  obtain rfl := Except.ok.inj (computed.symm.trans selectedHere)
  exact ⟨eligibleDistinct, previousDistinct, computed, least⟩

/-- Whatever was planned before, a selection has no uid twice and no more nodes than the maximum.
It has as many as the minimum exactly if no repeat among the kept uids hides that they are too
few: none is repeated, or there are enough of them without their repeats. -/
theorem select_withinBounds_iff (eligibleDistinct : (uids eligible).Nodup)
    (ordered : minimum ≤ maximum)
    (selectedHere : select eligible previous minimum maximum = .ok selected) :
    (uids selected).Nodup ∧ selected.length ≤ maximum ∧
      (minimum ≤ selected.length ↔
        (keptUids eligible previous maximum).Nodup ∨
          minimum ≤ (firstOccurrences (keptUids eligible previous maximum)).length) := by
  have atMost := length_select_le selectedHere
  have counted := length_select_eq eligibleDistinct selectedHere
  have once := length_firstOccurrences_le (keptUids eligible previous maximum)
  refine ⟨uids_select_nodup selectedHere, by omega, ?_⟩
  rw [← length_firstOccurrences_eq_iff]
  omega

/-- A repeat in the previous plan that takes no place from another node. -/
theorem repeatedNode_withinBounds :
    (uids fourNodesByName).Nodup ∧
      ∃ selected, select fourNodesByName
          [⟨"node-1", "A"⟩, ⟨"node-1", "A"⟩, ⟨"node-3", "C"⟩] 2 3 = .ok selected ∧
        selected = [⟨"node-1", "A"⟩, ⟨"node-3", "C"⟩] ∧
        ¬ (keptUids fourNodesByName
          [⟨"node-1", "A"⟩, ⟨"node-1", "A"⟩, ⟨"node-3", "C"⟩] 3).Nodup ∧
        (uids selected).Nodup ∧ selected.length ≤ 3 ∧ 2 ≤ selected.length := by
  have eligibleDistinct : (uids fourNodesByName).Nodup := by decide
  obtain ⟨selected, selectedHere, selectedEq⟩ : ∃ selected, select fourNodesByName
      [⟨"node-1", "A"⟩, ⟨"node-1", "A"⟩, ⟨"node-3", "C"⟩] 2 3 = .ok selected ∧
        selected = [⟨"node-1", "A"⟩, ⟨"node-3", "C"⟩] := ⟨_, rfl, rfl⟩
  obtain ⟨distinct, atMost, atLeast⟩ :=
    select_withinBounds_iff eligibleDistinct (by decide : 2 ≤ 3) selectedHere
  exact ⟨eligibleDistinct, selected, selectedHere, selectedEq, by decide, distinct, atMost,
    atLeast.2 (.inr (by decide))⟩

/-- The plan repeats its one node, which counts for two, so no second node is added. -/
theorem repeatedNode_underMinimum :
    (uids fourNodesByName).Nodup ∧
      ∃ selected, select fourNodesByName [⟨"node-1", "A"⟩, ⟨"node-1", "A"⟩] 2 2 = .ok selected ∧
        selected = [⟨"node-1", "A"⟩] ∧
        ¬ (2 ≤ selected.length ∧ selected.length ≤ 2 ∧ (uids selected).Nodup) :=
  ⟨by decide, _, rfl, rfl, by decide⟩

end NodeSelection
end PoolPlanner
