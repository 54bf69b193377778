import PoolPlanner.Hook.StatusUpdate
import PoolPlanner.Proofs.ObjectCodec

/-!
# Merging into a status

A status is read back from its document with every time of observation.  Merging a condition that
is not older than those of the status changes what stands under its type and nothing else.
-/

namespace PoolPlanner

section Codec

open RecordSource

theorem Instant.decode_text (instant : Instant) :
    Instant.decode (.string instant.text) = .ok instant := by
  simp [decode, read_text]

theorem RecordSource.readPresent_instantTexts {key : String} (value : Option Instant) :
    readPresent key Instant.decode (value.map fun time => .string time.text) = .read value :=
  readPresent_same value (by simp) fun present _ => present.decode_text

@[simp]
theorem Condition.decode_encode (condition : Condition) :
    decode condition.encode = .ok condition := by
  have state : Json.asVariant ConditionState.named (.string condition.state.name) =
      .ok condition.state := by
    cases condition.state <;> rfl
  simp [decode, encode, required_named, optional_named, readPresent_instantTexts, state]

@[simp]
theorem ClusterStatus.decode_encode (status : ClusterStatus) :
    decode status.encode = .ok status := by
  have phase (key : String) :
      readPresent key (Json.asVariant Phase.named)
        (status.phase.map fun phase => .string phase.name) = .read status.phase :=
    readPresent_same status.phase (by simp) fun phase _ => by cases phase <;> rfl
  have each : Json.asList Condition.decode (.array (status.conditions.map Condition.encode)) =
      .ok (status.conditions.map id) :=
    Json.asList_map fun condition _ => condition.decode_encode
  have conditions (key : String) :
      readMember key (Json.asList Condition.decode) (.read [])
        (if status.conditions = [] then none
        else some (.array (status.conditions.map Condition.encode))) =
          .read status.conditions := by
    split
    next empty => rw [empty]; rfl
    next => rw [readMember_some, each, List.map_id]; rfl
  simp [decode, encode, optional_named, defaulted_named, phase, conditions]

end Codec

section Merging

open ClusterStatus

theorem Condition.saysSame_iff {left right : Condition} :
    left.saysSame right = true ↔
      left.state = right.state ∧ left.reason = right.reason ∧ left.message = right.message := by
  simp [saysSame, and_assoc]

variable {conditions : List Condition} {incoming condition : Condition}

/-- Merging adds a type at the end, unless there is a condition of it already. -/
theorem map_type_mergeCondition (incoming : Condition) (conditions : List Condition) :
    (mergeCondition incoming conditions).map Condition.type =
      if incoming.type ∈ conditions.map Condition.type then conditions.map Condition.type
      else conditions.map Condition.type ++ [incoming.type] := by
  induction conditions with
  | nil => rfl
  | cons existing rest ih =>
      rw [mergeCondition]
      by_cases same : existing.type = incoming.type
      · have known : incoming.type ∈ (existing :: rest).map Condition.type :=
          same ▸ List.mem_cons_self
        rw [if_pos same, if_pos known]
        split
        · rfl
        · rw [List.map_cons, List.map_cons, same]
      · rw [if_neg same, List.map_cons, ih]
        by_cases known : incoming.type ∈ rest.map Condition.type
        · simp [known]
        · simp [known, Ne.symm same]

theorem types_mergeCondition_nodup (distinct : (conditions.map Condition.type).Nodup) :
    ((mergeCondition incoming conditions).map Condition.type).Nodup := by
  rw [map_type_mergeCondition]
  split
  next => exact distinct
  next new =>
    refine List.nodup_append'.2 ⟨distinct, List.nodup_singleton _, ?_⟩
    exact List.disjoint_singleton.2 new

/-- Merging leaves a condition unless it is of the incoming type and was not observed later, and
takes the incoming one unless there is one of its type that was. -/
theorem mem_mergeCondition (distinct : (conditions.map Condition.type).Nodup) :
    condition ∈ mergeCondition incoming conditions ↔
      (condition ∈ conditions ∧ (condition.type = incoming.type →
        Condition.isLater condition.observed incoming.observed = true)) ∨
      (condition = incoming ∧ ∀ existing ∈ conditions, existing.type = incoming.type →
        Condition.isLater existing.observed incoming.observed = false) := by
  induction conditions with
  | nil => simp [mergeCondition]
  | cons existing rest ih =>
      obtain ⟨new, restDistinct⟩ := List.nodup_cons.1 distinct
      rw [mergeCondition]
      by_cases same : existing.type = incoming.type
      · have restOther : ∀ other ∈ rest, other.type ≠ incoming.type := by
          intro other member sameType
          exact new (List.mem_map.2 ⟨other, member, sameType.trans same.symm⟩)
        rw [if_pos same]
        by_cases later : Condition.isLater existing.observed incoming.observed = true
        · rw [if_pos later]
          constructor
          · intro member
            refine .inl ⟨member, fun sameType => ?_⟩
            rcases List.mem_cons.1 member with rfl | inRest
            · exact later
            · exact absurd sameType (restOther condition inRest)
          · rintro (⟨member, -⟩ | ⟨-, notLater⟩)
            · exact member
            · simp [notLater existing List.mem_cons_self same] at later
        · rw [if_neg later, List.mem_cons]
          constructor
          · rintro (rfl | inRest)
            · refine .inr ⟨rfl, fun other member sameType => ?_⟩
              rcases List.mem_cons.1 member with rfl | inRest
              · simpa using later
              · exact absurd sameType (restOther other inRest)
            · exact .inl ⟨List.mem_cons_of_mem _ inRest,
                fun sameType => absurd sameType (restOther condition inRest)⟩
          · rintro (⟨member, isLater⟩ | ⟨rfl, -⟩)
            · rcases List.mem_cons.1 member with rfl | inRest
              · exact absurd (isLater same) later
              · exact .inr inRest
            · exact .inl rfl
      · rw [if_neg same, List.mem_cons, ih restDistinct]
        grind

/-- A condition that is not older than the one of its type takes the place of it. -/
theorem mem_mergeCondition_iff (condition : Condition)
    (distinct : (conditions.map Condition.type).Nodup)
    (notOlder : ∀ existing ∈ conditions,
      Condition.isLater existing.observed incoming.observed = false) :
    condition ∈ mergeCondition incoming conditions ↔
      condition = incoming ∨ (condition ∈ conditions ∧ condition.type ≠ incoming.type) := by
  rw [mem_mergeCondition distinct, or_comm]
  refine or_congr ?_ ?_
  · exact and_iff_left fun existing member _ => notOlder existing member
  · refine and_congr_right fun member => ?_
    rw [notOlder condition member]
    simp

theorem condition?_eq_some_iff {status : ClusterStatus}
    (distinct : (status.conditions.map Condition.type).Nodup) {type : String} :
    status.condition? type = some condition ↔
      condition ∈ status.conditions ∧ condition.type = type :=
  find?_key_eq_some_iff Condition.type distinct

end Merging

namespace HookRequest

variable {request : HookRequest} {current : Option ClusterStatus}

/-- The status of the watched object as the request shows it; `null` counts as none. -/
def shownStatus? (request : HookRequest) : Option Json :=
  (request.watch.member? "status").filter fun document => !document.isNull

theorem watchStatus_eq_ok (shows : request.shownStatus? = current.map ClusterStatus.encode) :
    request.watchStatus = .ok current := by
  unfold watchStatus
  cases current with
  | none =>
      have noStatus := Option.filter_eq_none_iff.1 shows
      split
      next => rfl
      next => rfl
      next document notNull found =>
        have isNull : document.isNull = true := by simpa using noStatus document found
        cases document with
        | null => exact absurd rfl notNull
        | _ => cases isNull
  | some status =>
      obtain ⟨found, -⟩ := Option.filter_eq_some_iff.1 shows
      have present : status.encode ≠ .null := by simp [ClusterStatus.encode, Json.ofMembers_eq]
      rw [found]
      split
      next absent => cases absent
      next isNull => exact absurd (Option.some.inj isNull) present
      next document _ same =>
        rw [← Option.some.inj same, ClusterStatus.decode_encode]

/-- What becomes of a condition that is reported: there is nothing to clear, it says what the
present one of its type says, or it is merged. -/
theorem updatedStatus?_cases (watched : request.watchStatus = .ok current) (condition : Condition) :
    (request.updatedStatus? condition = none ∧ current = none ∧ condition.state ≠ .isTrue) ∨
      (request.updatedStatus? condition = none ∧ ∃ shown existing, current = some shown ∧
        shown.condition? condition.type = some existing ∧ existing.saysSame condition = true) ∨
      (request.updatedStatus? condition = some ((current.getD {}).merge [condition]) ∧
        (current = none → condition.state = .isTrue)) := by
  unfold updatedStatus?
  rw [watched]
  cases current with
  | none =>
      by_cases isTrue : condition.state = .isTrue
      · exact .inr (.inr ⟨if_pos isTrue, fun _ => isTrue⟩)
      · exact .inl ⟨if_neg isTrue, rfl, isTrue⟩
  | some shown =>
      refine .inr ?_
      by_cases unchanged : ((shown.condition? condition.type).any
          fun existing => existing.saysSame condition) = true
      · obtain ⟨existing, found, same⟩ := (Option.any_eq_true _ _).1 unchanged
        exact .inl ⟨if_pos unchanged, shown, existing, rfl, found, same⟩
      · exact .inr ⟨if_neg unchanged, by simp⟩

end HookRequest
end PoolPlanner
