import PoolPlanner.Proofs.NodeSelection
import PoolPlanner.Proofs.PoolAssembly
import PoolPlanner.Proofs.Reservations
import PoolPlanner.Proofs.StorageSetReuse

/-!
# Planning does not depend on listing order

The cluster lists its objects in any order.  Every stage of planning filters what it is given, puts
it in order and looks it up by keys, so that its result, or its fault, is the same for every
arrangement of the list.
-/

namespace PoolPlanner

section Ordered

variable {α : Type} {atMost : α → α → Bool} {items others : List α}

theorem eq_nil_iff_of_perm (permuted : items.Perm others) : items = [] ↔ others = [] :=
  ⟨fun none => List.nil_perm.1 (none ▸ permuted), fun none => List.perm_nil.1 (none ▸ permuted)⟩

/-- Items that stand in one order only are put in that order however they are listed. -/
theorem inOrder_eq_of_perm (order : IsOrder atMost) (permuted : items.Perm others)
    (antisymm : ∀ first ∈ items, ∀ second ∈ items,
      atMost first second = true → atMost second first = true → first = second) :
    inOrder atMost items = inOrder atMost others := by
  have orderedPermuted : (inOrder atMost items).Perm (inOrder atMost others) :=
    (inOrder_perm atMost items).trans (permuted.trans (inOrder_perm atMost others).symm)
  refine orderedPermuted.eq_of_pairwise ?_ (inOrder_pairwise order items)
    (inOrder_pairwise order others)
  intro first second firstMem secondMem before after
  have secondHere : second ∈ items := permuted.mem_iff.2 ((mem_inOrder _ _ _).1 secondMem)
  exact antisymm first ((mem_inOrder _ _ _).1 firstMem) second secondHere before after

theorem inTextOrder_eq_of_perm {texts others : List String} (permuted : texts.Perm others) :
    inTextOrder texts = inTextOrder others := by
  refine inOrder_eq_of_perm isOrder_textAtMost permuted fun first _ second _ before after => ?_
  simp only [textAtMost, decide_eq_true_eq] at before after
  exact String.le_antisymm before after

theorem Resource.sortedByName_eq_of_perm {R : Type} [Resource R] {resources others : List R}
    (permuted : resources.Perm others) (distinct : (resources.map Resource.name).Nodup) :
    sortedByName resources = sortedByName others := by
  apply inOrder_eq_of_perm (isOrder_textAtMost.comap Resource.name) permuted
  intro first firstMem second secondMem before after
  simp only [textAtMost, decide_eq_true_eq] at before after
  exact List.inj_on_of_nodup_map distinct firstMem secondMem (String.le_antisymm before after)

/-- A table of entries with keys of their own is the same in whatever order they are put in. -/
theorem Table.ofList_eq_of_perm {entries others : List (String × α)}
    (permuted : entries.Perm others) (distinct : (entries.map Prod.fst).Nodup) :
    ofList entries = ofList others := by
  have othersDistinct : (others.map Prod.fst).Nodup := (permuted.map _).nodup_iff.1 distinct
  apply ext_find?
  intro key
  apply Option.ext
  intro value
  rw [find?_ofList_of_nodup distinct, find?_ofList_of_nodup othersDistinct, permuted.mem_iff]

/-- Planned nodes are in order by name, and those of one name by uid. -/
theorem PlannedNode.isAtMost_iff {first second : PlannedNode} :
    first.isAtMost second = true ↔
      first.name < second.name ∨ (first.name = second.name ∧ first.uid ≤ second.uid) := by
  simp [isAtMost]

theorem PlannedNode.isOrder_isAtMost : IsOrder PlannedNode.isAtMost where
  total first second := by
    simp only [isAtMost_iff]
    by_cases same : first.name = second.name
    · rcases String.le_total first.uid second.uid with before | after
      · exact .inl (.inr ⟨same, before⟩)
      · exact .inr (.inr ⟨same.symm, after⟩)
    · rcases String.le_total first.name second.name with before | after
      · exact .inl (.inl (Std.lt_of_le_of_ne before same))
      · exact .inr (.inl (Std.lt_of_le_of_ne after (Ne.symm same)))
  trans := by
    intro first second third before after
    rw [isAtMost_iff] at before after ⊢
    rcases before with nameBefore | ⟨sameName, uidBefore⟩
    · rcases after with nameAfter | ⟨sameNext, -⟩
      · exact .inl (String.lt_trans nameBefore nameAfter)
      · exact .inl (sameNext ▸ nameBefore)
    · rcases after with nameAfter | ⟨sameNext, uidAfter⟩
      · exact .inl (sameName ▸ nameAfter)
      · exact .inr ⟨sameName.trans sameNext, String.le_trans uidBefore uidAfter⟩

theorem PlannedNode.isAtMost_antisymm {first second : PlannedNode}
    (before : first.isAtMost second = true) (after : second.isAtMost first = true) :
    first = second := by
  rw [isAtMost_iff] at before after
  rcases before with nameBefore | ⟨sameName, uidBefore⟩
  · rcases after with nameAfter | ⟨sameName, -⟩
    · exact absurd (String.lt_trans nameBefore nameAfter) (String.lt_irrefl _)
    · exact absurd (sameName ▸ nameBefore) (String.lt_irrefl _)
  · rcases after with nameAfter | ⟨-, uidAfter⟩
    · exact absurd (sameName ▸ nameAfter) (String.lt_irrefl _)
    · exact eq_of_name_eq sameName (String.le_antisymm uidBefore uidAfter)

end Ordered

section Selection

variable {selector : Selector} {fault : Fault}

/-- On an object that is there, evaluation fails with what is wrong with the selector or not at
all. -/
theorem Selector.selects_eq {R : Type} [Resource R] (selector : Selector) (resource : R)
    (present : (Resource.encode resource).isNull = false) :
    selector.selects resource =
      selector.validate.map fun _ => selector.holds (Resource.encode resource) := by
  rw [selects, matchesTarget]
  cases selector.validate with
  | error fault => rfl
  | ok _ => simp [target?, present, Except.map]

namespace NodeSelection

/-- The node as a plan lists it, if it is a candidate of which a well-formed selector holds. -/
def held? (selector : Selector) (node : Node) : Option PlannedNode :=
  (candidate? node).filter fun _ => selector.holds (Resource.encode node)

theorem allowed_of_validate (valid : selector.validate = .ok ()) (nodes : List Node) :
    allowed selector nodes = .ok (nodes.filterMap (held? selector)) := by
  induction nodes with
  | nil => rfl
  | cons node rest ih =>
      rw [allowed, ih]
      cases isCandidate : candidate? node with
      | none =>
          have dropped : held? selector node = none := by simp [held?, isCandidate]
          rw [List.filterMap_cons_none dropped]
      | some planned =>
          have evaluated : selector.selects node = .ok (selector.holds (Resource.encode node)) := by
            rw [selector.selects_eq node rfl, valid]
            rfl
          cases holds : selector.holds (Resource.encode node) with
          | false =>
              have dropped : held? selector node = none := by simp [held?, isCandidate, holds]
              simp only [evaluated, holds, List.filterMap_cons_none dropped]
          | true =>
              have kept : held? selector node = some planned := by
                simp [held?, isCandidate, holds]
              simp only [evaluated, holds, List.filterMap_cons_some kept, Except.map]

/-- What is wrong with a selector shows as soon as there is a candidate. -/
theorem allowed_of_invalid (invalid : selector.validate = .error fault) (nodes : List Node) :
    allowed selector nodes =
      if nodes.filterMap candidate? = [] then .ok [] else .error fault := by
  induction nodes with
  | nil => rfl
  | cons node rest ih =>
      rw [allowed]
      cases isCandidate : candidate? node with
      | none =>
          rw [List.filterMap_cons_none isCandidate]
          exact ih
      | some planned =>
          have evaluated : selector.selects node = .error fault := by
            rw [selector.selects_eq node rfl, invalid]
            rfl
          rw [List.filterMap_cons_some isCandidate, if_neg (List.cons_ne_nil _ _)]
          simp only [evaluated]

theorem eligible_eq_of_perm (selector : Selector) {nodes others : List Node}
    (permuted : nodes.Perm others) : eligible nodes selector = eligible others selector := by
  cases validated : selector.validate with
  | ok _ =>
      have ordered := inOrder_eq_of_perm PlannedNode.isOrder_isAtMost
        (permuted.filterMap (held? selector)) fun _ _ _ _ => PlannedNode.isAtMost_antisymm
      rw [eligible, eligible, allowed_of_validate validated, allowed_of_validate validated]
      exact congrArg Except.ok ordered
  | error fault =>
      rw [eligible, eligible, allowed_of_invalid validated, allowed_of_invalid validated]
      simp only [eq_nil_iff_of_perm (permuted.filterMap candidate?)]

end NodeSelection

namespace BlockDevice

variable {minBytes : Nat} {owner : String}

theorem eligible_of_validate (valid : selector.validate = .ok ()) (devices : List BlockDevice) :
    eligible selector minBytes owner devices =
      .ok (devices.filter fun device =>
        selector.admits device && device.isEligibleFor minBytes owner) :=
  eligible_eq_ok_iff.2 ⟨fun device _ => Selector.selects_of_validate valid device, rfl⟩

/-- What is wrong with a selector shows as soon as there is a device. -/
theorem eligible_of_invalid (invalid : selector.validate = .error fault)
    (devices : List BlockDevice) :
    eligible selector minBytes owner devices = if devices = [] then .ok [] else .error fault := by
  cases devices with
  | nil => rfl
  | cons device rest =>
      have evaluated : selector.selects device = .error fault := by
        rw [selector.selects_eq device rfl, invalid]
        rfl
      rw [eligible, evaluated, if_neg (List.cons_ne_nil _ _)]

end BlockDevice

namespace ReservationRequest

variable (request : ReservationRequest) {devices others : List BlockDevice}

theorem held_eq_of_perm (permuted : devices.Perm others) (owner : String) :
    held devices owner = held others owner :=
  inTextOrder_eq_of_perm ((permuted.filter _).map BlockDevice.name)

theorem usable_eq_of_perm (permuted : devices.Perm others) :
    request.usable devices = request.usable others := by
  have onNode := permuted.filter fun device => device.host? = some request.node
  cases validated : request.selector.validate with
  | ok _ =>
      have named := inTextOrder_eq_of_perm ((onNode.filter fun device =>
        request.selector.admits device &&
          device.isEligibleFor request.minBytes request.owner).map BlockDevice.name)
      simp only [usable, BlockDevice.eligible_of_validate validated]
      exact congrArg Except.ok named
  | error fault =>
      simp only [usable, BlockDevice.eligible_of_invalid validated, eq_nil_iff_of_perm onNode]

theorem plan_eq_of_perm (permuted : devices.Perm others) :
    request.plan devices = request.plan others := by
  rw [plan, plan, request.usable_eq_of_perm permuted, held_eq_of_perm permuted]

end ReservationRequest
end Selection

namespace StorageSetPlanner

theorem desiredTable_eq_of_perm {nodes others : List PlannedNode} (permuted : nodes.Perm others)
    (distinct : (nodes.map PlannedNode.uid).Nodup) : desiredTable nodes = desiredTable others :=
  Table.ofList_eq_of_perm (permuted.map _) (by rwa [List.map_map])

/-- Of the storage sets that serve one node the first by name counts, wherever it is listed. -/
theorem observedTable_eq_of_perm {storageSets others : List StorageSet}
    (permuted : storageSets.Perm others) (distinct : (storageSets.map Resource.name).Nodup) :
    observedTable storageSets = observedTable others := by
  rw [observedTable, observedTable, Resource.sortedByName_eq_of_perm permuted distinct]

theorem ofPlan_eq_of_perm {plan other : ClusterPlan} {observed others : List StorageSet}
    (sameMetadata : other.metadata = plan.metadata) (nodes : plan.spec.nodes.Perm other.spec.nodes)
    (uids : (plan.spec.nodes.map PlannedNode.uid).Nodup) (storageSets : observed.Perm others)
    (names : (observed.map Resource.name).Nodup) (disk : DiskRequest)
    (externalProvision : Option ExternalProvision) :
    ofPlan plan observed disk externalProvision = ofPlan other others disk externalProvision := by
  obtain ⟨metadata, spec, status⟩ := plan
  obtain ⟨_, otherSpec, otherStatus⟩ := other
  obtain rfl := sameMetadata
  simp only [ofPlan, desiredTable_eq_of_perm nodes uids,
    observedTable_eq_of_perm storageSets names]
  rfl

end StorageSetPlanner

namespace PoolAssembly

theorem reservedNames_eq_of_perm {devices others : List BlockDevice}
    (permuted : devices.Perm others) (uid node : String) :
    reservedNames devices uid node = reservedNames others uid node :=
  inTextOrder_eq_of_perm ((permuted.filter _).map BlockDevice.name)

theorem reservedByStorageSet_eq_of_perm {devices otherDevices : List BlockDevice}
    {storageSets others : List StorageSet} (permuted : devices.Perm otherDevices)
    (setsPermuted : storageSets.Perm others)
    (distinct : (storageSets.filterMap fun storageSet => storageSet.metadata.uid).Nodup) :
    reservedByStorageSet devices storageSets = reservedByStorageSet otherDevices others := by
  simp only [reservedByStorageSet, reservedNames_eq_of_perm permuted]
  apply Table.ofList_eq_of_perm (setsPermuted.filterMap _)
  rw [List.map_filterMap]
  simpa [Function.comp_def] using distinct

end PoolAssembly

/-- However the cluster lists its objects, the eligible nodes or the fault are the same, and so are
the reservations of a request.  The storage set planner of a plan is the same, with its buckets and
what it plans, as long as no two planned nodes share a uid and no two storage sets a name, and so
are the reserved devices of storage sets that do not share a uid. -/
theorem planning_ignores_listingOrder :
    (∀ (selector : Selector) {nodes others : List Node}, nodes.Perm others →
      NodeSelection.eligible nodes selector = NodeSelection.eligible others selector) ∧
    (∀ (request : ReservationRequest) {devices others : List BlockDevice}, devices.Perm others →
      request.plan devices = request.plan others) ∧
    (∀ {plan other : ClusterPlan} {observed others : List StorageSet} (disk : DiskRequest)
        (externalProvision : Option ExternalProvision), other.metadata = plan.metadata →
      plan.spec.nodes.Perm other.spec.nodes → (plan.spec.nodes.map PlannedNode.uid).Nodup →
      observed.Perm others → (observed.map Resource.name).Nodup →
        StorageSetPlanner.ofPlan plan observed disk externalProvision =
          StorageSetPlanner.ofPlan other others disk externalProvision) ∧
    (∀ {devices otherDevices : List BlockDevice} {storageSets others : List StorageSet},
      devices.Perm otherDevices → storageSets.Perm others →
      (storageSets.filterMap fun storageSet => storageSet.metadata.uid).Nodup →
        PoolAssembly.reservedByStorageSet devices storageSets =
          PoolAssembly.reservedByStorageSet otherDevices others) := by
  refine ⟨?_, ?_, ?_, ?_⟩
  · intro selector nodes others permuted
    exact NodeSelection.eligible_eq_of_perm selector permuted
  · intro request devices others permuted
    exact request.plan_eq_of_perm permuted
  · intro plan other observed others disk externalProvision metadata nodes uids storageSets names
    exact StorageSetPlanner.ofPlan_eq_of_perm metadata nodes uids storageSets names disk
      externalProvision
  · intro devices otherDevices storageSets others permuted setsPermuted distinct
    exact PoolAssembly.reservedByStorageSet_eq_of_perm permuted setsPermuted distinct

section Listings

open StorageSetPlanner

def listedNode (name uid : String) : Node where
  metadata := { name := some name, uid := some uid }

/-- A device on node A that storage set S holds, or that nobody holds. -/
def listedDevice (name : String) (isHeld : Bool) : BlockDevice where
  metadata :=
    { name := some name
      labels := some (Table.empty.insert hostnameLabel "node-a")
      annotations := if isHeld then some (Table.empty.insert MarkerKey.storageSet "S") else none }
  spec := { capacity := ⟨10⟩ }
  status := some { state := .active }

/-- The request of storage set S for two devices of node A. -/
def listedRequest : ReservationRequest where
  owner := "S"
  node := "node-a"
  selector := ⟨[]⟩
  minBytes := 10
  desiredCount := 2

def listedSet : StorageSet where
  metadata := { name := some "set", uid := some "S" }
  spec := { node := ⟨"node-a", "A"⟩, disk := ⟨"10", 2⟩ }

/-- The plan of three nodes, listed backwards. -/
def threeNodesReversed : ClusterPlan :=
  { threeNodes with spec := ⟨threeNodes.spec.nodes.reverse⟩ }

/-- Listed backwards, nodes, devices, planned nodes and storage sets come to the same, under a
selector that can be evaluated and under one that cannot. -/
theorem reversed_listings :
    NodeSelection.eligible [listedNode "node-b" "B", listedNode "node-a" "A"] ⟨[]⟩ =
        .ok [⟨"node-a", "A"⟩, ⟨"node-b", "B"⟩] ∧
      NodeSelection.eligible [listedNode "node-b" "B", listedNode "node-a" "A"]
          ⟨[{ labelExpressions := [⟨"", .exists, []⟩] }]⟩ = .error (.selector .emptyKey) ∧
      listedRequest.plan [listedDevice "disk-2" true, listedDevice "disk-1" false,
          listedDevice "disk-3" false] =
        .ok ⟨["disk-2", "disk-1"], ["disk-1"], [], 0⟩ ∧
      ((ofPlan threeNodesReversed threeSets.reverse ⟨"100Gi", 2⟩ none).map
          fun planner => planner.buckets) =
        .ok ⟨["B"], ["D"], [], [("A", "C")]⟩ ∧
      (PoolAssembly.reservedByStorageSet [listedDevice "disk-2" true, listedDevice "disk-1" true]
        [listedSet]).find? "S" = some ["disk-1", "disk-2"] := by
  obtain ⟨eligible, reservations, planners, reserved⟩ := planning_ignores_listingOrder
  have nodes : [listedNode "node-b" "B", listedNode "node-a" "A"].Perm
      [listedNode "node-a" "A", listedNode "node-b" "B"] := .swap _ _ _
  have devices : [listedDevice "disk-2" true, listedDevice "disk-1" false,
        listedDevice "disk-3" false].Perm
      [listedDevice "disk-1" false, listedDevice "disk-2" true, listedDevice "disk-3" false] :=
    .swap _ _ _
  have heldDevices : [listedDevice "disk-2" true, listedDevice "disk-1" true].Perm
      [listedDevice "disk-1" true, listedDevice "disk-2" true] := .swap _ _ _
  have metadata : threeNodesReversed.metadata = threeNodes.metadata := rfl
  have planned : threeNodes.spec.nodes.Perm threeNodesReversed.spec.nodes :=
    (List.reverse_perm _).symm
  have observed : threeSets.Perm threeSets.reverse := (List.reverse_perm _).symm
  refine ⟨?_, ?_, ?_, ?_, ?_⟩
  · rw [eligible ⟨[]⟩ nodes]
    rfl
  · rw [eligible _ nodes]
    rfl
  · rw [reservations listedRequest devices]
    rfl
  · rw [← planners ⟨"100Gi", 2⟩ none metadata planned (by decide) observed (by decide)]
    rfl
  · rw [reserved heldDevices (.refl [listedSet]) (by decide)]
    rfl

end Listings
end PoolPlanner
