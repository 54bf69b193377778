import Mathlib.Data.List.Lex
import Mathlib.Order.WithBot
import PoolPlanner.Proofs.StatusMerging

/-!
# Convergence of conditions

Conditions may reach a status in any order and in any batches.  Of each type the one that was
observed last stays, so the status ends up the same, but for the order of types that are new to it.
-/

namespace PoolPlanner

section Times

def Moment.fields (moment : Moment) : List Int :=
  [moment.year, moment.month, moment.day, moment.hour, moment.minute, moment.second,
    moment.nanosecond]

theorem Moment.isBefore_iff {first second : Moment} :
    first.isBefore second = true ↔ first.fields < second.fields :=
  decide_eq_true_iff

theorem Moment.fields_injective : Function.Injective fields := by
  intro first second same
  cases first
  cases second
  simp only [fields, List.cons.injEq, Int.natCast_inj, and_true] at same
  obtain ⟨rfl, rfl, rfl, rfl, rfl, rfl, rfl⟩ := same
  rfl

namespace Condition

/-- The place of a time of observation among others: no time is the earliest. -/
def timePlace : Option Instant → WithBot (List Int)
  | none => ⊥
  | some instant => WithBot.some instant.moment.fields

theorem timePlace_injective : Function.Injective timePlace := by
  intro first second same
  cases first with
  | none =>
      cases second with
      | none => rfl
      | some second => exact absurd same WithBot.bot_ne_coe
  | some first =>
      cases second with
      | none => exact absurd same WithBot.coe_ne_bot
      | some second =>
          have sameMoment := Moment.fields_injective (WithBot.coe_injective same)
          cases first
          cases second
          obtain rfl := sameMoment
          rfl

theorem isLater_iff {first second : Option Instant} :
    isLater first second = true ↔ timePlace second < timePlace first := by
  cases first with
  | none => simp [isLater, timePlace]
  | some first =>
      cases second with
      | none => simp [isLater, timePlace]
      | some second => exact Moment.isBefore_iff.trans WithBot.coe_lt_coe.symm

theorem not_isLater_iff {first second : Option Instant} :
    isLater first second = false ↔ timePlace first ≤ timePlace second := by
  rw [← Bool.not_eq_true, isLater_iff, not_lt]

end Condition
end Times

namespace Condition

/-- Whether a condition is among some, and none of its type was observed later. -/
structure IsLatestOf (conditions : List Condition) (condition : Condition) : Prop where
  mem : condition ∈ conditions
  notLater : ∀ other ∈ conditions, other.type = condition.type →
    timePlace other.observed ≤ timePlace condition.observed

/-- Whether conditions of one type that were observed at one time are the same. -/
def Unambiguous (conditions : List Condition) : Prop :=
  ∀ first ∈ conditions, ∀ second ∈ conditions, first.type = second.type →
    first.observed = second.observed → first = second

variable {conditions : List Condition} {first second condition : Condition}

theorem IsLatestOf.unique (unambiguous : Unambiguous conditions)
    (firstLatest : IsLatestOf conditions first) (secondLatest : IsLatestOf conditions second)
    (sameType : first.type = second.type) : first = second := by
  have secondFirst := firstLatest.notLater second secondLatest.mem sameType.symm
  have firstSecond := secondLatest.notLater first firstLatest.mem sameType
  exact unambiguous first firstLatest.mem second secondLatest.mem sameType
    (timePlace_injective (le_antisymm firstSecond secondFirst))

theorem isLatestOf_of_distinct (distinct : (conditions.map type).Nodup)
    (member : condition ∈ conditions) : IsLatestOf conditions condition := by
  refine ⟨member, fun other otherMem sameType => ?_⟩
  rw [List.inj_on_of_nodup_map distinct otherMem member sameType]

theorem isLatestOf_congr {others : List Condition}
    (same : ∀ condition, condition ∈ conditions ↔ condition ∈ others) :
    IsLatestOf conditions condition ↔ IsLatestOf others condition := by
  constructor
  · rintro ⟨mem, notLater⟩
    exact ⟨(same condition).1 mem, fun other otherMem => notLater other ((same other).2 otherMem)⟩
  · rintro ⟨mem, notLater⟩
    exact ⟨(same condition).2 mem, fun other otherMem => notLater other ((same other).1 otherMem)⟩

theorem isFailure_eq_true_iff :
    condition.isFailure = true ↔
      (∃ stem, condition.type = stem ++ reconcileError) ∧ condition.state = .isTrue := by
  have ends : reconcileError.toList <:+ condition.type.toList ↔
      ∃ stem, condition.type = stem ++ reconcileError := by
    constructor
    · rintro ⟨stem, same⟩
      refine ⟨String.ofList stem, String.toList_inj.1 ?_⟩
      rw [String.toList_append, String.toList_ofList, same]
    · rintro ⟨stem, same⟩
      exact ⟨stem.toList, by rw [same, String.toList_append]⟩
  rw [isFailure, Bool.and_eq_true, List.isSuffixOf_iff_suffix, ends, decide_eq_true_iff]

end Condition

/-- What merging keeps of all conditions so far: one of each type, and that the latest. -/
structure KeepsLatest (seen conditions : List Condition) : Prop where
  distinct : (conditions.map Condition.type).Nodup
  latest : ∀ condition ∈ conditions, condition.IsLatestOf seen
  known : ∀ condition ∈ seen, condition.type ∈ conditions.map Condition.type

namespace KeepsLatest

open ClusterStatus Condition

variable {seen conditions : List Condition} {incoming condition : Condition}

theorem of_distinct (distinct : (conditions.map Condition.type).Nodup) :
    KeepsLatest conditions conditions where
  distinct := distinct
  latest _ member := isLatestOf_of_distinct distinct member
  known _ member := List.mem_map_of_mem member

theorem latest_of_kept (keeps : KeepsLatest seen conditions) (member : condition ∈ conditions)
    (kept : condition.type = incoming.type →
      isLater condition.observed incoming.observed = true) :
    condition.IsLatestOf (seen ++ [incoming]) := by
  obtain ⟨wasSeen, notLater⟩ := keeps.latest condition member
  refine ⟨List.mem_append_left _ wasSeen, fun other otherMem sameType => ?_⟩
  rcases List.mem_append.1 otherMem with otherSeen | isIncoming
  · exact notLater other otherSeen sameType
  · obtain rfl := List.mem_singleton.1 isIncoming
    exact (isLater_iff.1 (kept sameType.symm)).le

theorem latest_of_incoming (keeps : KeepsLatest seen conditions)
    (notLater : ∀ existing ∈ conditions, existing.type = incoming.type →
      isLater existing.observed incoming.observed = false) :
    incoming.IsLatestOf (seen ++ [incoming]) := by
  refine ⟨List.mem_append_right _ List.mem_cons_self, fun other otherMem sameType => ?_⟩
  rcases List.mem_append.1 otherMem with otherSeen | isIncoming
  · -- What was seen of the type is not later than the kept one, and that not than the incoming one.
    obtain ⟨existing, existingMem, existingType⟩ := List.mem_map.1 (keeps.known other otherSeen)
    calc
      timePlace other.observed ≤ timePlace existing.observed :=
        (keeps.latest existing existingMem).notLater other otherSeen existingType.symm
      _ ≤ timePlace incoming.observed :=
        not_isLater_iff.1 (notLater existing existingMem (existingType.trans sameType))
  · rw [List.mem_singleton.1 isIncoming]

theorem step (keeps : KeepsLatest seen conditions) (incoming : Condition) :
    KeepsLatest (seen ++ [incoming]) (mergeCondition incoming conditions) where
  distinct := types_mergeCondition_nodup keeps.distinct
  latest condition member := by
    rcases (mem_mergeCondition keeps.distinct).1 member with ⟨wasKept, kept⟩ | ⟨rfl, notLater⟩
    · exact keeps.latest_of_kept wasKept kept
    · exact keeps.latest_of_incoming notLater
  known condition member := by
    rw [map_type_mergeCondition]
    rcases List.mem_append.1 member with wasSeen | isIncoming
    · have known := keeps.known condition wasSeen
      split
      · exact known
      · exact List.mem_append_left _ known
    · obtain rfl := List.mem_singleton.1 isIncoming
      split
      next known => exact known
      next => exact List.mem_append_right _ List.mem_cons_self

/-- Merging conditions one after the other keeps the latest of all of them. -/
theorem foldl (keeps : KeepsLatest seen conditions) (incoming : List Condition) :
    KeepsLatest (seen ++ incoming)
      (incoming.foldl (fun merged condition => mergeCondition condition merged) conditions) := by
  induction incoming generalizing seen conditions with
  | nil => rwa [List.append_nil]
  | cons condition rest ih =>
      have regrouped : seen ++ condition :: rest = seen ++ [condition] ++ rest := by simp
      rw [List.foldl_cons, regrouped]
      exact ih (keeps.step condition)

theorem mem_iff (keeps : KeepsLatest seen conditions) (unambiguous : Unambiguous seen) :
    condition ∈ conditions ↔ condition.IsLatestOf seen := by
  refine ⟨keeps.latest condition, fun isLatest => ?_⟩
  obtain ⟨kept, keptMem, sameType⟩ := List.mem_map.1 (keeps.known condition isLatest.mem)
  rwa [isLatest.unique unambiguous (keeps.latest kept keptMem) sameType.symm]

end KeepsLatest

namespace ClusterStatus

open Condition

variable {status : ClusterStatus} {incoming : List Condition} {batches : List (List Condition)}

/-- Types are never dropped or moved, only added at the end. -/
theorem types_prefix_foldl (conditions incoming : List Condition) :
    conditions.map Condition.type <+:
      (incoming.foldl (fun merged condition => mergeCondition condition merged) conditions).map
        Condition.type := by
  induction incoming generalizing conditions with
  | nil => exact List.prefix_refl _
  | cons condition rest ih =>
      have first : conditions.map Condition.type <+:
          (mergeCondition condition conditions).map Condition.type := by
        rw [map_type_mergeCondition]
        split
        · exact List.prefix_refl _
        · exact List.prefix_append _ _
      exact first.trans (ih (mergeCondition condition conditions))

def mergeAll (status : ClusterStatus) (batches : List (List Condition)) : ClusterStatus :=
  batches.foldl merge status

/-- How conditions are grouped into batches does not matter. -/
theorem conditions_mergeAll (status : ClusterStatus) (batches : List (List Condition)) :
    (status.mergeAll batches).conditions =
      batches.flatten.foldl (fun merged condition => mergeCondition condition merged)
        status.conditions := by
  induction batches generalizing status with
  | nil => rfl
  | cons batch rest ih =>
      rw [List.flatten_cons, List.foldl_append]
      exact ih (status.merge batch)

theorem phase_mergeAll (some : batches ≠ []) :
    (status.mergeAll batches).phase =
      .some (phaseOf (status.mergeAll batches).conditions) := by
  obtain ⟨earlier, last, rfl⟩ := (List.eq_nil_or_concat batches).resolve_left some
  rw [List.concat_eq_append, mergeAll, List.foldl_append]
  rfl

theorem phaseOf_eq_error_iff {conditions : List Condition} :
    phaseOf conditions = .error ↔
      ∃ condition ∈ conditions, (∃ stem, condition.type = stem ++ reconcileError) ∧
        condition.state = .isTrue := by
  simp only [← isFailure_eq_true_iff, ← List.any_eq_true, phaseOf]
  cases conditions.any isFailure <;> simp

/-- What a status becomes by merging conditions into it: for each type the latest of all is found,
and no type stands there twice.  Types without an incoming condition are as before, and the types
of before stand in front as they were. -/
structure IsMergeOf (status : ClusterStatus) (incoming : List Condition)
    (merged : ClusterStatus) : Prop where
  latest : ∀ type condition, merged.condition? type = some condition ↔
    condition.type = type ∧ condition.IsLatestOf (status.conditions ++ incoming)
  distinct : (merged.conditions.map Condition.type).Nodup
  untouched : ∀ type, type ∉ incoming.map Condition.type →
    merged.condition? type = status.condition? type
  order : status.conditions.map Condition.type <+: merged.conditions.map Condition.type

theorem isMergeOf_mergeAll (distinct : (status.conditions.map Condition.type).Nodup)
    (unambiguous : Unambiguous (status.conditions ++ batches.flatten)) :
    IsMergeOf status batches.flatten (status.mergeAll batches) := by
  have keeps := (KeepsLatest.of_distinct distinct).foldl batches.flatten
  rw [← conditions_mergeAll] at keeps
  have latest (type : String) (condition : Condition) :
      (status.mergeAll batches).condition? type = some condition ↔
        condition.type = type ∧
          condition.IsLatestOf (status.conditions ++ batches.flatten) := by
    rw [condition?_eq_some_iff keeps.distinct, keeps.mem_iff unambiguous, and_comm]
  refine ⟨latest, keeps.distinct, fun type unmentioned => ?_, ?_⟩
  · apply Option.ext
    intro condition
    rw [latest, condition?_eq_some_iff distinct, and_comm]
    refine and_congr_left fun ofType => ?_
    have notIncoming : ∀ other ∈ batches.flatten, other.type ≠ condition.type := by
      intro other member sameType
      exact unmentioned (List.mem_map.2 ⟨other, member, sameType.trans ofType⟩)
    constructor
    · intro isLatest
      exact (List.mem_append.1 isLatest.mem).resolve_right fun member =>
        notIncoming condition member rfl
    · intro member
      refine ⟨List.mem_append_left _ member, fun other otherMem sameType => ?_⟩
      have inStatus := (List.mem_append.1 otherMem).resolve_right fun isIncoming =>
        notIncoming other isIncoming sameType
      exact (isLatestOf_of_distinct distinct member).notLater other inStatus sameType
  · rw [conditions_mergeAll]
    exact types_prefix_foldl status.conditions batches.flatten

namespace IsMergeOf

variable {merged other : ClusterStatus}

theorem mem_iff (isMerge : IsMergeOf status incoming merged) {condition : Condition} :
    condition ∈ merged.conditions ↔ condition.IsLatestOf (status.conditions ++ incoming) := by
  have found := isMerge.latest condition.type condition
  rwa [condition?_eq_some_iff isMerge.distinct, and_iff_left rfl, and_iff_right rfl] at found

theorem condition?_eq (isMerge : IsMergeOf status incoming merged)
    (isOther : IsMergeOf status incoming other) (type : String) :
    merged.condition? type = other.condition? type := by
  apply Option.ext
  intro condition
  rw [isMerge.latest, isOther.latest]

theorem phaseOf_eq (isMerge : IsMergeOf status incoming merged)
    (isOther : IsMergeOf status incoming other) :
    phaseOf merged.conditions = phaseOf other.conditions := by
  have sameFailures :
      merged.conditions.any isFailure = other.conditions.any isFailure := by
    rw [Bool.eq_iff_iff, List.any_eq_true, List.any_eq_true]
    exact exists_congr fun condition => by rw [isMerge.mem_iff, isOther.mem_iff]
  rw [phaseOf, phaseOf, sameFailures]

theorem of_perm {others : List Condition} (isMerge : IsMergeOf status incoming merged)
    (permuted : incoming.Perm others) : IsMergeOf status others merged where
  latest type condition := by
    have sameSeen (other : Condition) :
        other ∈ status.conditions ++ incoming ↔ other ∈ status.conditions ++ others :=
      (permuted.append_left status.conditions).mem_iff
    rw [isMerge.latest, isLatestOf_congr sameSeen]
  distinct := isMerge.distinct
  untouched type unmentioned :=
    isMerge.untouched type fun mentioned =>
      unmentioned ((permuted.map Condition.type).mem_iff.1 mentioned)
  order := isMerge.order

end IsMergeOf

/-- Two sequences of batches with the same conditions, in whatever order and grouping, make the same
of a status: for each type the condition that was observed last, and from these the phase. -/
theorem merges_converge {left right : List (List Condition)}
    (distinct : (status.conditions.map Condition.type).Nodup)
    (unambiguous : Unambiguous (status.conditions ++ left.flatten))
    (permuted : left.flatten.Perm right.flatten) :
    IsMergeOf status left.flatten (status.mergeAll left) ∧
    IsMergeOf status left.flatten (status.mergeAll right) ∧
    (∀ type, (status.mergeAll left).condition? type = (status.mergeAll right).condition? type) ∧
    (left ≠ [] → right ≠ [] → ∃ phase,
      (status.mergeAll left).phase = some phase ∧ (status.mergeAll right).phase = some phase ∧
      (phase = .error ↔ ∃ condition ∈ (status.mergeAll left).conditions,
        (∃ stem, condition.type = stem ++ reconcileError) ∧ condition.state = .isTrue)) := by
  have rightUnambiguous : Unambiguous (status.conditions ++ right.flatten) := by
    have sameSeen := permuted.append_left status.conditions
    intro first firstMem second secondMem
    exact unambiguous first (sameSeen.mem_iff.2 firstMem) second (sameSeen.mem_iff.2 secondMem)
  have leftMerge := isMergeOf_mergeAll distinct unambiguous
  have rightMerge := (isMergeOf_mergeAll distinct rightUnambiguous).of_perm permuted.symm
  refine ⟨leftMerge, rightMerge, leftMerge.condition?_eq rightMerge, fun leftSome rightSome => ?_⟩
  refine ⟨phaseOf (status.mergeAll left).conditions, phase_mergeAll leftSome, ?_,
    phaseOf_eq_error_iff⟩
  rw [phase_mergeAll rightSome, leftMerge.phaseOf_eq rightMerge]

section Reports

def noon : Instant :=
  ⟨⟨1970, 1, 1, 12, 0, 0, 0⟩, by decide⟩

def plainCondition (type : String) (state : ConditionState) (observed : Option Instant) :
    Condition :=
  { type, state, reason := none, message := none, observed }

def failing : ClusterStatus where
  phase := some .error
  conditions :=
    [plainCondition "Ready" .unknown none, plainCondition reconcileError .isTrue (some .epoch)]

/-- The recovery comes in before a repetition of the failure. -/
def recoveryFirst : List (List Condition) :=
  [[plainCondition reconcileError .isFalse (some noon),
    plainCondition reconcileError .isTrue (some .epoch)],
   [plainCondition "Ready" .isTrue (some .epoch)]]

/-- The recovery comes in last, and every condition by itself. -/
def recoveryLast : List (List Condition) :=
  [[plainCondition "Ready" .isTrue (some .epoch)], [],
   [plainCondition reconcileError .isTrue (some .epoch)],
   [plainCondition reconcileError .isFalse (some noon)]]

/-- Either way the failure is over. -/
theorem recoveries_converge :
    (failing.conditions.map Condition.type).Nodup ∧
      Unambiguous (failing.conditions ++ recoveryFirst.flatten) ∧
      recoveryFirst.flatten.Perm recoveryLast.flatten ∧
      IsMergeOf failing recoveryFirst.flatten (failing.mergeAll recoveryLast) ∧
      (∀ type, (failing.mergeAll recoveryFirst).condition? type =
        (failing.mergeAll recoveryLast).condition? type) ∧
      (failing.mergeAll recoveryFirst).phase = some .online ∧
      (failing.mergeAll recoveryLast).phase = some .online := by
  have distinct : (failing.conditions.map Condition.type).Nodup := by decide
  have unambiguous : Unambiguous (failing.conditions ++ recoveryFirst.flatten) := by
    unfold Unambiguous
    decide
  have permuted : recoveryFirst.flatten.Perm recoveryLast.flatten := by decide
  obtain ⟨-, lastMerge, same, samePhase⟩ := merges_converge distinct unambiguous permuted
  obtain ⟨phase, firstPhase, lastPhase, -⟩ := samePhase (by decide) (by decide)
  have online : (failing.mergeAll recoveryFirst).phase = some .online := by decide
  obtain rfl := Option.some.inj (firstPhase.symm.trans online)
  exact ⟨distinct, unambiguous, permuted, lastMerge, same, firstPhase, lastPhase⟩

end Reports

end ClusterStatus
end PoolPlanner
