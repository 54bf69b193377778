import Mathlib
import PoolPlanner.Proofs.FirstPlan
import PoolPlanner.Proofs.Orchestration

/-!
# Planned nodes over a run

Each round of the cluster config hook is shown the plan that was applied last.  Nodes that stay
eligible stay planned, in their order, although the pool counts may change with the nodes there are:
no plan has more nodes than the ceiling of its intent, and up to this ceiling every eligible node
fits into every round.
-/

namespace PoolPlanner
namespace ClusterConfigRound

/-- The documents that a round applies, unless it fails. -/
def applied? (request : HookRequest) (settings : OperatorConfig) : Option (List Json) :=
  match run request settings with
  | .ok (.apply documents) => some documents
  | _ => none

/-- The nodes of the plan that a round applies, as its document says them. -/
def planned? (request : HookRequest) (settings : OperatorConfig) : Option (List PlannedNode) :=
  match applied? request settings with
  | some [document] =>
      (Resource.decode document).toOption.map fun plan : ClusterPlan => plan.spec.nodes
  | _ => none

/-- What is planned after a round; one that fails leaves the plan as it is. -/
def plannedAfter (settings : OperatorConfig) (previous : List PlannedNode)
    (request : HookRequest) : List PlannedNode :=
  (planned? request settings).getD previous

/-- A round about an intent with some nodes planned before.  Its Nodes have distinct uids, and they
are not more than a list in memory can hold. -/
structure Follows (intent : ClusterIntent) (previous : List PlannedNode) (request : HookRequest) :
    Prop where
  intent : ∀ config, request.watchAs ClusterConfig = .ok config → config.spec = intent
  distinct : ∀ nodes, request.attachments.ofKind Node = .ok nodes →
    (nodes.filterMap fun node => node.metadata.uid).Nodup
  countable : ∀ nodes, request.attachments.ofKind Node = .ok nodes → nodes.length < 2 ^ 63
  previous : ∀ config uid plans, request.watchAs ClusterConfig = .ok config →
    config.metadata.uid = some uid →
    request.attachments.correlated ClusterPlan MarkerKey.clusterConfig uid = .ok plans →
    previousNodes plans = previous

/-- Rounds about one intent, each of which is shown the nodes that are planned after the one before
it. -/
def IsRun (intent : ClusterIntent) (settings : OperatorConfig) :
    List PlannedNode → List HookRequest → Prop
  | _, [] => True
  | previous, request :: rest =>
      Follows intent previous request ∧
        IsRun intent settings (plannedAfter settings previous request) rest

/-- A node with a uid is attached, has a name, takes new work, and is allowed. -/
def Offers (request : HookRequest) (allowed : Selector) (uid : String) : Prop :=
  ∃ nodes, request.attachments.ofKind Node = .ok nodes ∧ ∃ node ∈ nodes,
    node.metadata.uid = some uid ∧ node.metadata.name ≠ none ∧ node.isUnschedulable = false ∧
      allowed.selects node = .ok true

/-- The nodes of a plan: no uid twice, within the pool counts that the intent resolves to in this
round, and each an attached Node that can be planned, under its current name. -/
structure IsPlanOf (intent : ClusterIntent) (settings : OperatorConfig) (request : HookRequest)
    (planned : List PlannedNode) : Prop where
  distinct : (NodeSelection.uids planned).Nodup
  withinCounts : ∃ nodes eligible resolved,
    request.attachments.ofKind Node = .ok nodes ∧
    NodeSelection.eligible nodes intent.allowedNodes = .ok eligible ∧
    intent.resolve ⟨nodes.length, eligible.length⟩ settings.plannerDefaults = .ok resolved ∧
    resolved.minPoolCount ≤ planned.length ∧ planned.length ≤ resolved.maxPoolCount
  current : ∀ node ∈ planned, ∃ nodes, request.attachments.ofKind Node = .ok nodes ∧
    ∃ attached ∈ nodes, attached.metadata.name = some node.name ∧
      attached.metadata.uid = some node.uid ∧ attached.isUnschedulable = false ∧
      intent.allowedNodes.selects attached = .ok true

section Round

variable {intent : ClusterIntent} {settings : OperatorConfig} {request : HookRequest}
  {previous planned : List PlannedNode}

theorem planned?_eq_some_iff :
    planned? request settings = some planned ↔
      ∃ planning : Planning request settings, planning.selected = planned := by
  have readBack (planning : Planning request settings) :
      Resource.decode (Resource.encode planning.plan) = .ok planning.plan :=
    ClusterPlan.decode_encode (fits_planNamed _ _ _ _) rfl
  constructor
  · intro found
    unfold planned? at found
    split at found
    next document applied =>
      unfold applied? at applied
      split at applied
      next documents ran =>
        obtain rfl := Option.some.inj applied
        obtain ⟨planning, same⟩ := run_eq_apply_iff.1 ran
        obtain rfl := List.singleton_inj.1 same
        rw [readBack planning] at found
        exact ⟨planning, Option.some.inj found⟩
      next => simp at applied
    next => simp at found
  · rintro ⟨planning, rfl⟩
    have ran := run_eq_apply_iff.2 ⟨planning, rfl⟩
    simp only [planned?, applied?, ran, readBack planning]
    rfl

/-- A plan that has no uid twice and no more nodes than the ceiling. -/
structure Bounded (intent : ClusterIntent) (settings : OperatorConfig)
    (planned : List PlannedNode) : Prop where
  distinct : (NodeSelection.uids planned).Nodup
  underCeiling : planned.length ≤ (intent.poolCeiling settings.plannerDefaults).toNat

theorem bounded_nil (intent : ClusterIntent) (settings : OperatorConfig) :
    Bounded intent settings [] :=
  ⟨List.nodup_nil, Nat.zero_le _⟩

namespace Planning

variable {planning : Planning request settings}

theorem counted (planning : Planning request settings) :
    planning.eligible.length ≤ planning.nodes.length :=
  NodeSelection.length_eligible_le planning.isEligible

theorem uids_eligible_nodup (follows : Follows intent previous request) :
    (NodeSelection.uids planning.eligible).Nodup :=
  NodeSelection.uids_eligible_nodup (follows.distinct _ planning.attached) planning.isEligible

theorem poolCounts (follows : Follows intent previous request) :
    planning.intent.minPoolCount ≤ planning.intent.maxPoolCount ∧
      planning.intent.minPoolCount ≤ (intent.poolCeiling settings.plannerDefaults).toNat ∧
      ∀ count : Nat, count ≤ (intent.poolCeiling settings.plannerDefaults).toNat →
        count ≤ planning.eligible.length → count ≤ planning.intent.maxPoolCount := by
  have sameIntent := follows.intent _ planning.watched
  have resolvedHere := planning.resolved
  rw [sameIntent] at resolvedHere
  exact ClusterIntent.poolCounts_of_resolve planning.counted
    (follows.countable _ planning.attached) resolvedHere

theorem isSelected_after (follows : Follows intent previous request) :
    NodeSelection.select planning.eligible previous planning.intent.minPoolCount
      planning.intent.maxPoolCount = .ok planning.selected := by
  have sameNodes :=
    follows.previous _ _ _ planning.watched planning.identified planning.correlated
  rw [← sameNodes]
  exact planning.isSelected

/-- The greatest number of pools never cuts off a node that could stay. -/
theorem stillEligible_le (follows : Follows intent previous request)
    (bounded : Bounded intent settings previous) :
    (NodeSelection.stillEligible planning.eligible previous).length ≤
      planning.intent.maxPoolCount := by
  obtain ⟨-, -, room⟩ := planning.poolCounts follows
  have few : (NodeSelection.stillEligible planning.eligible previous).length ≤ previous.length ∧
      (NodeSelection.stillEligible planning.eligible previous).length ≤ planning.eligible.length :=
    NodeSelection.length_stillEligible_le bounded.distinct
  have ceiling := bounded.underCeiling
  exact room _ (by omega) few.2

theorem length_selected (follows : Follows intent previous request)
    (bounded : Bounded intent settings previous) :
    planning.selected.length = max planning.intent.minPoolCount
      (NodeSelection.stillEligible planning.eligible previous).length :=
  NodeSelection.length_select (planning.uids_eligible_nodup follows) bounded.distinct
    (planning.stillEligible_le follows bounded) (planning.isSelected_after follows)

end Planning

theorem Bounded.step (bounded : Bounded intent settings previous)
    (follows : Follows intent previous request) :
    Bounded intent settings (plannedAfter settings previous request) := by
  unfold plannedAfter
  cases found : planned? request settings with
  | none => exact bounded
  | some planned =>
      obtain ⟨planning, rfl⟩ := planned?_eq_some_iff.1 found
      have few : (NodeSelection.stillEligible planning.eligible previous).length ≤
          previous.length := (NodeSelection.length_stillEligible_le bounded.distinct).1
      have counts := planning.poolCounts follows
      have length := planning.length_selected follows bounded
      have ceiling := bounded.underCeiling
      constructor
      · exact NodeSelection.uids_select_nodup planning.isSelected
      · simp only [Option.getD_some]
        omega

theorem isPlanOf_of_follows (bounded : Bounded intent settings previous)
    (follows : Follows intent previous request)
    (found : planned? request settings = some planned) :
    IsPlanOf intent settings request planned := by
  obtain ⟨planning, rfl⟩ := planned?_eq_some_iff.1 found
  have sameIntent := follows.intent _ planning.watched
  have isEligible := planning.isEligible
  have resolved := planning.resolved
  rw [sameIntent] at isEligible resolved
  constructor
  · exact NodeSelection.uids_select_nodup planning.isSelected
  · have ordered := (planning.poolCounts follows).1
    have fits := planning.stillEligible_le follows bounded
    have length := planning.length_selected follows bounded
    exact ⟨_, _, _, planning.attached, isEligible, resolved, by omega, by omega⟩
  · intro node member
    have nodeEligible := NodeSelection.mem_eligible_of_mem_select planning.isSelected member
    obtain ⟨attached, attachedMem, candidate, selected⟩ :=
      (NodeSelection.mem_eligible_iff isEligible).1 nodeEligible
    have identity := NodeSelection.identity_of_candidate? candidate
    have schedulable := NodeSelection.isUnschedulable_of_candidate? candidate
    exact ⟨_, planning.attached, attached, attachedMem, identity.1, identity.2, schedulable,
      selected⟩

theorem mem_uids_of_offers {planning : Planning request settings}
    (follows : Follows intent previous request) {uid : String}
    (offered : Offers request intent.allowedNodes uid) :
    uid ∈ NodeSelection.uids planning.eligible := by
  obtain ⟨nodes, attached, node, nodeMem, identified, named, schedulable, selected⟩ := offered
  obtain rfl := Except.ok.inj (attached.symm.trans planning.attached)
  have sameIntent := follows.intent _ planning.watched
  have isEligible := planning.isEligible
  rw [sameIntent] at isEligible
  obtain ⟨name, nameEq⟩ := Option.ne_none_iff_exists'.1 named
  have candidate : NodeSelection.candidate? node = some ⟨name, uid⟩ := by
    simp [NodeSelection.candidate?, nameEq, identified, schedulable]
  have member := (NodeSelection.mem_eligible_iff isEligible).2 ⟨node, nodeMem, candidate, selected⟩
  exact List.mem_map.2 ⟨_, member, rfl⟩

theorem sublist_plannedAfter (bounded : Bounded intent settings previous)
    (follows : Follows intent previous request) {kept : List String}
    (included : kept.Sublist (NodeSelection.uids previous))
    (offered : planned? request settings ≠ none →
      ∀ uid ∈ kept, Offers request intent.allowedNodes uid) :
    kept.Sublist (NodeSelection.uids (plannedAfter settings previous request)) := by
  unfold plannedAfter
  cases found : planned? request settings with
  | none => exact included
  | some planned =>
      obtain ⟨planning, rfl⟩ := planned?_eq_some_iff.1 found
      have offeredHere := offered (by simp [found])
      apply NodeSelection.sublist_select bounded.distinct
        (planning.stillEligible_le follows bounded) (planning.isSelected_after follows) included
      intro uid member
      exact mem_uids_of_offers follows (offeredHere uid member)

end Round

section Run

variable {intent : ClusterIntent} {settings : OperatorConfig} {previous : List PlannedNode}

theorem isRun_append {first second : List HookRequest} :
    IsRun intent settings previous (first ++ second) ↔
      IsRun intent settings previous first ∧
        IsRun intent settings (first.foldl (plannedAfter settings) previous) second := by
  induction first generalizing previous with
  | nil => simp [IsRun]
  | cons request rest ih =>
      rw [List.cons_append, IsRun, IsRun, ih, List.foldl_cons, and_assoc]

theorem Bounded.run {requests : List HookRequest} (bounded : Bounded intent settings previous)
    (run : IsRun intent settings previous requests) :
    Bounded intent settings (requests.foldl (plannedAfter settings) previous) := by
  induction requests generalizing previous with
  | nil => exact bounded
  | cons request rest ih => exact ih (bounded.step run.1) run.2

theorem isPlanOf_of_isRun {requests : List HookRequest}
    (bounded : Bounded intent settings previous) (run : IsRun intent settings previous requests) :
    ∀ request ∈ requests, ∀ planned, planned? request settings = some planned →
      IsPlanOf intent settings request planned := by
  induction requests generalizing previous with
  | nil => simp
  | cons request rest ih =>
      intro other member planned found
      rcases List.mem_cons.1 member with rfl | inRest
      · exact isPlanOf_of_follows bounded run.1 found
      · exact ih (bounded.step run.1) run.2 other inRest planned found

theorem sublist_foldl_plannedAfter {requests : List HookRequest}
    (bounded : Bounded intent settings previous) (run : IsRun intent settings previous requests)
    {kept : List String} (included : kept.Sublist (NodeSelection.uids previous))
    (offered : ∀ request ∈ requests, planned? request settings ≠ none →
      ∀ uid ∈ kept, Offers request intent.allowedNodes uid) :
    kept.Sublist (NodeSelection.uids (requests.foldl (plannedAfter settings) previous)) := by
  induction requests generalizing previous with
  | nil => exact included
  | cons request rest ih =>
      have offeredHere := List.forall_mem_cons.1 offered
      have includedAfter := sublist_plannedAfter bounded run.1 included offeredHere.1
      exact ih (bounded.step run.1) run.2 includedAfter offeredHere.2

/-- In a run that starts without a plan, every plan is within the pool counts of its round and has
each of its nodes once, under its current name.  Whatever uids of a plan can be planned in every
later round up to another plan are in this plan too, in the same order. -/
theorem plans_sticky {requests : List HookRequest} (run : IsRun intent settings [] requests) :
    (∀ request ∈ requests, ∀ planned, planned? request settings = some planned →
      IsPlanOf intent settings request planned) ∧
    ∀ before first between last after earlier later,
      requests = before ++ first :: (between ++ last :: after) →
      planned? first settings = some earlier → planned? last settings = some later →
      ∀ kept : List String, kept.Sublist (NodeSelection.uids earlier) →
        (∀ request ∈ between ++ [last], planned? request settings ≠ none →
          ∀ uid ∈ kept, Offers request intent.allowedNodes uid) →
        kept.Sublist (NodeSelection.uids later) := by
  have start := bounded_nil intent settings
  refine ⟨isPlanOf_of_isRun start run, ?_⟩
  rintro before first between last after earlier later rfl firstPlanned lastPlanned kept included
    offered
  have regrouped : before ++ first :: (between ++ last :: after) =
      (before ++ [first]) ++ ((between ++ [last]) ++ after) := by
    simp
  rw [regrouped] at run
  obtain ⟨upToFirst, afterwards⟩ := isRun_append.1 run
  obtain ⟨upToLast, -⟩ := isRun_append.1 afterwards
  have afterFirst : (before ++ [first]).foldl (plannedAfter settings) [] = earlier := by
    rw [List.foldl_append, List.foldl_cons, List.foldl_nil, plannedAfter, firstPlanned]
    rfl
  have afterLast : (between ++ [last]).foldl (plannedAfter settings) earlier = later := by
    rw [List.foldl_append, List.foldl_cons, List.foldl_nil, plannedAfter, lastPlanned]
    rfl
  have bounded := start.run upToFirst
  rw [afterFirst] at bounded upToLast
  have staying := sublist_foldl_plannedAfter bounded upToLast included offered
  rwa [afterLast] at staying

end Run

section FeedBack

/-- What is sent about a config, with Nodes and plans attached. -/
def requestAbout (configDocument : Json) (nodes : Table Json) (plans : List Json) : HookRequest :=
  Cluster.request
    { configs := Attachments.stored ClusterConfig [configDocument]
      nodes
      devices := .empty
      plans := Attachments.stored ClusterPlan plans }
    configDocument

/-- A round for each list of Nodes, with the plan attached that was applied last. -/
def feedBack (settings : OperatorConfig) (configDocument : Json) :
    List Json → List (Table Json) → List HookRequest
  | _, [] => []
  | plans, nodes :: rest =>
      requestAbout configDocument nodes plans ::
        feedBack settings configDocument
          ((applied? (requestAbout configDocument nodes plans) settings).getD plans) rest

variable {settings : OperatorConfig} {configDocument : Json} {config : ClusterConfig}
  {uid : String}

/-- No plan, or one that points back at a config and says what nodes are planned. -/
def Records (uid : String) (plans : List Json) (previous : List PlannedNode) : Prop :=
  (plans = [] ∧ previous = []) ∨ ∃ plan : ClusterPlan, plans = [Resource.encode plan] ∧
    Resource.decode (Resource.encode plan) = .ok plan ∧
    plan.metadata.pointsTo MarkerKey.clusterConfig uid = true ∧ plan.spec.nodes = previous

theorem Records.previousNodes_eq {plans : List Json} {previous : List PlannedNode}
    (records : Records uid plans previous) (nodes : Table Json) {found : List ClusterPlan}
    (correlated : (requestAbout configDocument nodes plans).attachments.correlated ClusterPlan
      MarkerKey.clusterConfig uid = .ok found) : previousNodes found = previous := by
  rw [requestAbout, Attachments.correlated, Cluster.ofKind_clusterPlan] at correlated
  rcases records with ⟨rfl, rfl⟩ | ⟨plan, rfl, readBack, pointsBack, rfl⟩
  · obtain rfl : [] = found := Except.ok.inj correlated
    rfl
  · have single : (Attachments.stored ClusterPlan [Resource.encode plan]).values =
        [Resource.encode plan] := rfl
    have isShown : (Resource.metadata plan).pointsTo MarkerKey.clusterConfig uid = true :=
      pointsBack
    simp only [single, Attachments.decodeAll, readBack] at correlated
    obtain rfl : [plan].filter (fun plan =>
        (Resource.metadata plan).pointsTo MarkerKey.clusterConfig uid) = found :=
      Except.ok.inj correlated
    have onlyPlan : ([plan].filter fun plan =>
        (Resource.metadata plan).pointsTo MarkerKey.clusterConfig uid) = [plan] := by
      simp [isShown]
    rw [onlyPlan]
    rfl

theorem watchAs_requestAbout (decoded : Resource.decode configDocument = .ok config)
    (nodes : Table Json) (plans : List Json) :
    (requestAbout configDocument nodes plans).watchAs ClusterConfig = .ok config :=
  HookRequest.watchAs_eq_ok (ClusterConfig.isNull_of_decode decoded) decoded

theorem Records.step (decoded : Resource.decode configDocument = .ok config)
    (identified : config.metadata.uid = some uid) (uid_ne : uid ≠ "") {plans : List Json}
    {previous : List PlannedNode} (records : Records uid plans previous) (nodes : Table Json) :
    Records uid ((applied? (requestAbout configDocument nodes plans) settings).getD plans)
      (plannedAfter settings previous (requestAbout configDocument nodes plans)) := by
  cases ran : run (requestAbout configDocument nodes plans) settings with
  | error fault => simpa [plannedAfter, planned?, applied?, ran] using records
  | ok result =>
      cases result with
      | notReady reason => simpa [plannedAfter, planned?, applied?, ran] using records
      | apply documents =>
          obtain ⟨planning, rfl⟩ := run_eq_apply_iff.1 ran
          have planned := planned?_eq_some_iff.2 ⟨planning, rfl⟩
          have sameConfig : config = planning.config :=
            Except.ok.inj ((watchAs_requestAbout decoded nodes plans).symm.trans planning.watched)
          have sameUid : planning.uid = uid := by
            have identifiedHere := planning.identified
            rw [← sameConfig, identified] at identifiedHere
            exact (Option.some.inj identifiedHere).symm
          have marked : planning.plan.metadata.marker? MarkerKey.clusterConfig =
              if planning.uid = "" then none else some planning.uid := ObjectMeta.marker?_mark
          rw [sameUid, if_neg uid_ne] at marked
          simp only [plannedAfter, planned, applied?, ran, Option.getD_some]
          right
          refine ⟨planning.plan, rfl, ClusterPlan.decode_encode (fits_planNamed _ _ _ _) rfl, ?_,
            rfl⟩
          simp [ObjectMeta.pointsTo, marked]

/-- Feeding back what was applied makes a run, for a config that can be found back. -/
theorem isRun_feedBack (decoded : Resource.decode configDocument = .ok config)
    (identified : config.metadata.uid = some uid) (uid_ne : uid ≠ "")
    {inventories : List (Table Json)}
    (distinct : ∀ documents ∈ inventories, ∀ nodes,
      Attachments.decodeAll Node documents.values = .ok nodes →
        (nodes.filterMap fun node => node.metadata.uid).Nodup)
    (countable : ∀ documents ∈ inventories, ∀ nodes,
      Attachments.decodeAll Node documents.values = .ok nodes → nodes.length < 2 ^ 63)
    {plans : List Json} {previous : List PlannedNode} (records : Records uid plans previous) :
    IsRun config.spec settings previous (feedBack settings configDocument plans inventories) := by
  induction inventories generalizing plans previous with
  | nil => trivial
  | cons documents rest ih =>
      have distinctParts := List.forall_mem_cons.1 distinct
      have countableParts := List.forall_mem_cons.1 countable
      have watched := watchAs_requestAbout decoded documents plans
      have nodesShown : (requestAbout configDocument documents plans).attachments.ofKind Node =
          Attachments.decodeAll Node documents.values := Cluster.ofKind_node _ _
      constructor
      · constructor
        · intro found foundEq
          rw [Except.ok.inj (watched.symm.trans foundEq)]
        · intro nodes attached
          exact distinctParts.1 nodes (nodesShown.symm.trans attached)
        · intro nodes attached
          exact countableParts.1 nodes (nodesShown.symm.trans attached)
        · intro found foundUid found? foundEq identifiedHere correlated
          obtain rfl := Except.ok.inj (watched.symm.trans foundEq)
          obtain rfl := Option.some.inj (identified.symm.trans identifiedHere)
          exact records.previousNodes_eq documents correlated
      · exact ih distinctParts.2 countableParts.2 (records.step decoded identified uid_ne documents)

end FeedBack

section Renaming

/-- A config that leaves both pool counts open. -/
def openConfig : ClusterConfig where
  metadata := { name := some "cluster-a", uid := some "config-uid" }
  spec := {}

def nodeCalled (name uid : String) (unschedulable : Bool) : Node where
  metadata := { name := some name, uid := some uid }
  spec := some { unschedulable := some unschedulable }

def fourNodes : List Node :=
  [nodeCalled "a" "A" false, nodeCalled "b" "B" false, nodeCalled "c" "C" false,
    nodeCalled "d" "D" false]

/-- The four Nodes with another name for A and no new work for B. -/
def renamedNodes : List Node :=
  [nodeCalled "b" "B" true, nodeCalled "c" "C" false, nodeCalled "d" "D" false,
    nodeCalled "z" "A" false]

def nodeDocuments (nodes : List Node) : Table Json :=
  Attachments.stored Node (nodes.map Resource.encode)

def renamingRounds : List HookRequest :=
  feedBack {} (Resource.encode openConfig) [] ([fourNodes, [], renamedNodes].map nodeDocuments)

theorem decode_nodeDocuments : ∀ nodes ∈ [fourNodes, [], renamedNodes],
    Attachments.decodeAll Node (nodeDocuments nodes).values = .ok nodes := by
  intro nodes member
  simp only [List.mem_cons, List.not_mem_nil, or_false] at member
  rcases member with rfl | rfl | rfl <;> cbv

theorem isRun_renamingRounds : IsRun {} {} [] renamingRounds := by
  have decoded : Resource.decode (Resource.encode openConfig) = .ok openConfig := by cbv
  have each (holds : List Node → Prop)
      (all : ∀ nodes ∈ [fourNodes, [], renamedNodes], holds nodes) :
      ∀ documents ∈ [fourNodes, [], renamedNodes].map nodeDocuments, ∀ nodes,
        Attachments.decodeAll Node documents.values = .ok nodes → holds nodes := by
    intro documents member nodes read
    obtain ⟨origin, originMem, rfl⟩ := List.mem_map.1 member
    obtain rfl := Except.ok.inj ((decode_nodeDocuments origin originMem).symm.trans read)
    exact all origin originMem
  exact isRun_feedBack decoded rfl (by decide)
    (each (fun nodes => (nodes.filterMap fun node => node.metadata.uid).Nodup) (by decide))
    (each (fun nodes => nodes.length < 2 ^ 63) (by decide)) (.inl ⟨rfl, rfl⟩)

/-- The failed round leaves the plan.  After it A has its new name, and D has taken the slot of B
between A and C. -/
theorem renamingRounds_sticky :
    IsRun {} {} [] renamingRounds ∧
      ∃ first failed last, renamingRounds = [first, failed, last] ∧
        planned? first {} = some [⟨"a", "A"⟩, ⟨"b", "B"⟩, ⟨"c", "C"⟩] ∧
        planned? failed {} = none ∧
        planned? last {} = some [⟨"z", "A"⟩, ⟨"d", "D"⟩, ⟨"c", "C"⟩] ∧
        IsPlanOf {} {} last [⟨"z", "A"⟩, ⟨"d", "D"⟩, ⟨"c", "C"⟩] ∧
        ["A", "C"].Sublist (NodeSelection.uids [⟨"z", "A"⟩, ⟨"d", "D"⟩, ⟨"c", "C"⟩]) := by
  have planned : renamingRounds.map (fun request => planned? request {}) =
      [some [⟨"a", "A"⟩, ⟨"b", "B"⟩, ⟨"c", "C"⟩], none,
        some [⟨"z", "A"⟩, ⟨"d", "D"⟩, ⟨"c", "C"⟩]] := by
    decide +kernel
  obtain ⟨first, failed, last, rounds, lastNodes⟩ : ∃ first failed last,
      renamingRounds = [first, failed, last] ∧
        last.attachments.ofKind Node =
          Attachments.decodeAll Node (nodeDocuments renamedNodes).values :=
    ⟨_, _, _, rfl, Cluster.ofKind_node _ _⟩
  rw [rounds] at planned
  obtain ⟨plannedFirst, plannedFailed, plannedLast⟩ : planned? first {} = _ ∧
      planned? failed {} = _ ∧ planned? last {} = _ := by
    simpa using planned
  obtain ⟨isPlan, stay⟩ := plans_sticky isRun_renamingRounds
  refine ⟨isRun_renamingRounds, first, failed, last, rounds, plannedFirst, plannedFailed,
    plannedLast, isPlan last (by simp [rounds]) _ plannedLast, ?_⟩
  apply stay [] first [failed] last [] _ _ rounds plannedFirst plannedLast
  · decide
  · intro request member applied uid uidMem
    simp only [List.cons_append, List.nil_append, List.mem_cons, List.not_mem_nil, or_false]
      at member uidMem
    rcases member with rfl | rfl
    · exact absurd plannedFailed applied
    · have offered : ∀ uid ∈ ["A", "C"], ∃ node ∈ renamedNodes, node.metadata.uid = some uid ∧
          node.metadata.name ≠ none ∧ node.isUnschedulable = false ∧
          (default : Selector).selects node = .ok true := by
        decide +kernel
      have attached := lastNodes.trans (decode_nodeDocuments renamedNodes (by simp))
      exact ⟨_, attached, offered uid (by simpa using uidMem)⟩

end Renaming
end ClusterConfigRound
end PoolPlanner
