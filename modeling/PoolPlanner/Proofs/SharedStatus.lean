import PoolPlanner.Proofs.StatusMerging
import PoolPlanner.Proofs.Sync

/-!
# Two hooks on one status

The plan hook and the pool cluster hook both watch plans and write their verdicts into the one
status that a plan has, each under a condition type of its own.  However their calls are
interleaved, the status says of each hook what its last verdict was.
-/

namespace PoolPlanner

def Hook.onPlans : List Hook :=
  [.clusterPlan, .poolCluster]

theorem Hook.conditionType_injOn : ∀ first ∈ onPlans, ∀ second ∈ onPlans,
    first.conditionType = second.conditionType → first = second := by
  decide

inductive Verdict
  | applied
  | failed (reason message : String)
deriving DecidableEq, Repr

namespace Verdict

def condition (verdict : Verdict) (type : String) (now : Instant) : Condition :=
  match verdict with
  | .applied => .resolved type now
  | .failed reason message =>
      { type, state := .isTrue, reason := some reason, message := some message
        observed := some now }

/-- Whether a condition records a verdict, whenever it was observed. -/
def IsTold : Verdict → Condition → Prop
  | .applied, condition =>
      condition.state = .isFalse ∧ condition.reason = none ∧ condition.message = none
  | .failed reason message, condition =>
      condition.state = .isTrue ∧ condition.reason = some reason ∧ condition.message = some message

@[simp]
theorem type_condition (verdict : Verdict) (type : String) (now : Instant) :
    (verdict.condition type now).type = type := by
  cases verdict <;> rfl

@[simp]
theorem observed_condition (verdict : Verdict) (type : String) (now : Instant) :
    (verdict.condition type now).observed = some now := by
  cases verdict <;> rfl

/-- Neither the type nor the time matter for what a condition says. -/
theorem saysSame_condition {verdict : Verdict} {condition : Condition} {type : String}
    {now : Instant} :
    condition.saysSame (verdict.condition type now) = true ↔ verdict.IsTold condition := by
  rw [Condition.saysSame_iff]
  cases verdict <;> rfl

theorem isTold_condition (verdict : Verdict) (type : String) (now : Instant) :
    verdict.IsTold (verdict.condition type now) := by
  cases verdict <;> exact ⟨rfl, rfl, rfl⟩

end Verdict

structure PlanCall where
  hook : Hook
  watchesPlans : hook ∈ Hook.onPlans
  request : HookRequest
  settings : OperatorConfig
  now : Instant
  ledger : Ledger

namespace PlanCall

variable (call : PlanCall)

def answer : HookResponse × Outcome :=
  ((call.hook.sync call.request call.settings call.now).run call.ledger).1

def result : Except Fault RoundResult :=
  ((call.hook.reconcile call.request call.settings).run call.ledger).1

/-- What a call reports: that it applied its attachments, or a fault that a person has to see to.
A call that cleans up, that is not ready, or that only comes back later reports nothing. -/
def verdict? : Option Verdict :=
  if call.request.finalizing then none
  else
    match call.result with
    | .ok (.apply _) => some .applied
    | .ok (.notReady _) => none
    | .error fault =>
        if fault.action = .report then some (.failed fault.reason fault.message) else none

def statusAfter (status : Option Json) : Option Json :=
  call.answer.1.status.or status

theorem status_answer :
    call.answer.1.status = call.verdict?.bind fun verdict =>
      call.request.statusUpdate (verdict.condition call.hook.conditionType call.now) := by
  unfold answer verdict?
  split
  next finalizing => rw [Hook.run_sync_finalizing finalizing]; rfl
  next going =>
    rw [Hook.run_sync (by simpa using going)]
    change (call.hook.answer call.request call.settings call.now call.result).1.status = _
    rcases call.result with fault | (attachments | reason)
    · simp only [Hook.answer]
      cases fault.action <;> rfl
    · rfl
    · rfl

theorem statusAfter_map (status : Option ClusterStatus) :
    call.statusAfter (status.map ClusterStatus.encode) =
      ((call.verdict?.bind fun verdict => call.request.updatedStatus?
        (verdict.condition call.hook.conditionType call.now)).or status).map
          ClusterStatus.encode := by
  rw [statusAfter, status_answer]
  cases call.verdict? with
  | none => rfl
  | some verdict =>
      simp only [Option.bind_some, HookRequest.statusUpdate]
      cases call.request.updatedStatus? (verdict.condition call.hook.conditionType call.now) <;> rfl

section Histories

/-- What a hook reported last in some calls. -/
def lastVerdict? (hook : Hook) (calls : List PlanCall) : Option Verdict :=
  calls.reverse.findSome? fun call => if call.hook = hook then call.verdict? else none

def HasFailed (calls : List PlanCall) : Prop :=
  ∃ call ∈ calls, ∃ reason message, call.verdict? = some (.failed reason message)

variable {calls : List PlanCall} {call : PlanCall} {hook : Hook} {verdict : Verdict}

theorem lastVerdict?_append :
    lastVerdict? hook (calls ++ [call]) =
      (if call.hook = hook then call.verdict? else none).or (lastVerdict? hook calls) := by
  rw [lastVerdict?, List.reverse_append, List.reverse_singleton, List.singleton_append,
    List.findSome?_cons]
  cases (if call.hook = hook then call.verdict? else none) <;> rfl

theorem lastVerdict?_append_self (reported : call.verdict? = some verdict) :
    lastVerdict? call.hook (calls ++ [call]) = some verdict := by
  rw [lastVerdict?_append, if_pos rfl, reported, Option.some_or]

theorem lastVerdict?_append_of_ne (other : call.hook ≠ hook) :
    lastVerdict? hook (calls ++ [call]) = lastVerdict? hook calls := by
  rw [lastVerdict?_append, if_neg other, Option.none_or]

theorem lastVerdict?_append_of_silent (silent : call.verdict? = none) :
    lastVerdict? hook (calls ++ [call]) = lastVerdict? hook calls := by
  rw [lastVerdict?_append, silent, ite_self, Option.none_or]

theorem hasFailed_append :
    HasFailed (calls ++ [call]) ↔
      HasFailed calls ∨ ∃ reason message, call.verdict? = some (.failed reason message) := by
  simp [HasFailed, or_and_right, exists_or]

end Histories

/-- What a status has to do with the calls so far: its conditions record the last verdicts of the
hooks, each hook's under its own type, and there is none before the first failure. -/
structure Tells (calls : List PlanCall) (status : Option ClusterStatus) : Prop where
  absent : status = none ↔ ¬ HasFailed calls
  distinct : ∀ shown ∈ status, (shown.conditions.map Condition.type).Nodup
  owned : ∀ shown ∈ status, ∀ condition ∈ shown.conditions, ∃ hook ∈ Hook.onPlans,
    condition.type = hook.conditionType ∧
      ∃ verdict, lastVerdict? hook calls = some verdict ∧ verdict.IsTold condition
  told : ∀ hook ∈ Hook.onPlans, ∀ reason message,
    lastVerdict? hook calls = some (.failed reason message) →
      ∃ shown ∈ status, ∃ condition ∈ shown.conditions, condition.type = hook.conditionType
  phase : ∀ shown ∈ status, shown.phase = some (ClusterStatus.phaseOf shown.conditions)
  observed : ∀ shown ∈ status, ∀ condition ∈ shown.conditions, ∃ call ∈ calls,
    condition.observed = some call.now

/-- Whether a verdict is recorded in a status so that it would not change it again. -/
def IsSettled (verdict : Verdict) (type : String) (status : Option ClusterStatus) : Prop :=
  (status = none ∧ verdict = .applied) ∨
    ∃ shown existing, status = some shown ∧ shown.condition? type = some existing ∧
      verdict.IsTold existing

section Step

variable {calls : List PlanCall} {call : PlanCall} {status : Option ClusterStatus}
  {verdict : Verdict} {shown : ClusterStatus} {existing : Condition}

theorem Tells.observed_append (tells : Tells calls status) : ∀ shown ∈ status,
    ∀ condition ∈ shown.conditions, ∃ earlier ∈ calls ++ [call],
      condition.observed = some earlier.now := by
  intro shown isShown condition member
  obtain ⟨earlier, earlierMem, observed⟩ := tells.observed shown isShown condition member
  exact ⟨earlier, List.mem_append_left _ earlierMem, observed⟩

theorem Tells.silent (tells : Tells calls status) (silent : call.verdict? = none) :
    Tells (calls ++ [call]) status := by
  constructor
  · rw [tells.absent, hasFailed_append]
    simp [silent]
  · exact tells.distinct
  · intro shown isShown condition member
    obtain ⟨hook, watches, isOwn, last⟩ := tells.owned shown isShown condition member
    exact ⟨hook, watches, isOwn, by rwa [lastVerdict?_append_of_silent silent]⟩
  · intro hook watches reason message last
    rw [lastVerdict?_append_of_silent silent] at last
    exact tells.told hook watches reason message last
  · exact tells.phase
  · exact tells.observed_append

theorem Tells.ignored (tells : Tells calls none) (reported : call.verdict? = some .applied) :
    Tells (calls ++ [call]) none := by
  have noFailure := tells.absent.1 rfl
  constructor
  · rw [hasFailed_append]
    simp [noFailure, reported]
  · simp
  · simp
  · intro hook watches reason message last
    by_cases own : call.hook = hook
    · rw [← own, lastVerdict?_append_self reported] at last
      cases last
    · rw [lastVerdict?_append_of_ne own] at last
      exact tells.told hook watches reason message last
  · simp
  · simp

theorem Tells.unchanged (tells : Tells calls (some shown))
    (reported : call.verdict? = some verdict)
    (found : shown.condition? call.hook.conditionType = some existing)
    (same : verdict.IsTold existing) : Tells (calls ++ [call]) (some shown) := by
  have distinct := tells.distinct shown rfl
  obtain ⟨existingMem, existingType⟩ := (condition?_eq_some_iff distinct).1 found
  constructor
  · have hadFailed : HasFailed calls := by
      by_contra none
      cases tells.absent.2 none
    rw [hasFailed_append]
    simp [hadFailed]
  · exact tells.distinct
  · rintro _ ⟨⟩ condition member
    obtain ⟨hook, watches, isOwn, last⟩ := tells.owned shown rfl condition member
    refine ⟨hook, watches, isOwn, ?_⟩
    by_cases own : call.hook = hook
    · have sameCondition : condition = existing :=
        List.inj_on_of_nodup_map distinct member existingMem
          (by rw [isOwn, existingType, own])
      rw [← own, sameCondition]
      exact ⟨verdict, lastVerdict?_append_self reported, same⟩
    · rwa [lastVerdict?_append_of_ne own]
  · intro hook watches reason message last
    by_cases own : call.hook = hook
    · exact ⟨shown, rfl, existing, existingMem, own ▸ existingType⟩
    · rw [lastVerdict?_append_of_ne own] at last
      exact tells.told hook watches reason message last
  · exact tells.phase
  · exact tells.observed_append

theorem exists_shown_of_mem {condition : Condition}
    (member : condition ∈ (status.getD {}).conditions) :
    ∃ shown ∈ status, condition ∈ shown.conditions := by
  cases status with
  | none => cases member
  | some shown => exact ⟨shown, rfl, member⟩

theorem Tells.distinct_getD (tells : Tells calls status) :
    ((status.getD {}).conditions.map Condition.type).Nodup := by
  cases status with
  | none => exact List.nodup_nil
  | some shown => exact tells.distinct shown rfl

/-- A condition of a later call takes the place of the one of its type. -/
theorem Tells.mem_merge_iff (tells : Tells calls status)
    (notBefore : ∀ earlier ∈ calls, call.now.isBefore earlier.now = false)
    {condition : Condition} :
    condition ∈ ((status.getD {}).merge
        [verdict.condition call.hook.conditionType call.now]).conditions ↔
      condition = verdict.condition call.hook.conditionType call.now ∨
        (condition ∈ (status.getD {}).conditions ∧ condition.type ≠ call.hook.conditionType) := by
  have notOlder : ∀ existing ∈ (status.getD {}).conditions,
      Condition.isLater existing.observed
        (verdict.condition call.hook.conditionType call.now).observed = false := by
    intro existing member
    obtain ⟨shown, isShown, existingMem⟩ := exists_shown_of_mem member
    obtain ⟨earlier, earlierMem, observed⟩ := tells.observed shown isShown existing existingMem
    rw [observed, Verdict.observed_condition]
    exact notBefore earlier earlierMem
  have merged := mem_mergeCondition_iff condition tells.distinct_getD notOlder
  rwa [Verdict.type_condition] at merged

theorem Tells.merged (tells : Tells calls status) (reported : call.verdict? = some verdict)
    (worth : status = none → ∃ reason message, verdict = .failed reason message)
    (notBefore : ∀ earlier ∈ calls, call.now.isBefore earlier.now = false) :
    Tells (calls ++ [call]) (some ((status.getD {}).merge
      [verdict.condition call.hook.conditionType call.now])) := by
  have incomingMem : verdict.condition call.hook.conditionType call.now ∈
      ((status.getD {}).merge
        [verdict.condition call.hook.conditionType call.now]).conditions :=
    (tells.mem_merge_iff notBefore).2 (.inl rfl)
  constructor
  · have failed : HasFailed (calls ++ [call]) := by
      rw [hasFailed_append]
      by_cases none : status = none
      · obtain ⟨reason, message, rfl⟩ := worth none
        exact .inr ⟨reason, message, reported⟩
      · exact .inl (not_not.1 fun noFailure => none (tells.absent.2 noFailure))
    simp [failed]
  · rintro _ ⟨⟩
    exact types_mergeCondition_nodup tells.distinct_getD
  · rintro _ ⟨⟩ condition member
    rcases (tells.mem_merge_iff notBefore).1 member with rfl | ⟨wasThere, other⟩
    · exact ⟨call.hook, call.watchesPlans, Verdict.type_condition _ _ _, verdict,
        lastVerdict?_append_self reported, Verdict.isTold_condition _ _ _⟩
    · obtain ⟨shown, isShown, shownMem⟩ := exists_shown_of_mem wasThere
      obtain ⟨hook, watches, isOwn, last⟩ := tells.owned shown isShown condition shownMem
      have otherHook : call.hook ≠ hook := fun same => other (same ▸ isOwn)
      exact ⟨hook, watches, isOwn, by rwa [lastVerdict?_append_of_ne otherHook]⟩
  · intro hook watches reason message last
    by_cases own : call.hook = hook
    · exact ⟨_, rfl, _, incomingMem, own ▸ Verdict.type_condition _ _ _⟩
    · rw [lastVerdict?_append_of_ne own] at last
      obtain ⟨shown, isShown, condition, member, isOwn⟩ :=
        tells.told hook watches reason message last
      have stays : condition ∈ (status.getD {}).conditions := by
        rw [Option.mem_def.1 isShown]
        exact member
      have other : condition.type ≠ call.hook.conditionType := by
        rw [isOwn]
        exact fun same => own (Hook.conditionType_injOn _ watches _ call.watchesPlans same).symm
      exact ⟨_, rfl, condition, (tells.mem_merge_iff notBefore).2 (.inr ⟨stays, other⟩), isOwn⟩
  · rintro _ ⟨⟩
    rfl
  · rintro _ ⟨⟩ condition member
    rcases (tells.mem_merge_iff notBefore).1 member with rfl | ⟨wasThere, -⟩
    · exact ⟨call, by simp, Verdict.observed_condition _ _ _⟩
    · obtain ⟨shown, isShown, shownMem⟩ := exists_shown_of_mem wasThere
      exact tells.observed_append shown isShown condition shownMem

/-- One call keeps the status true to the calls, and its own verdict is settled then. -/
theorem Tells.step (tells : Tells calls status)
    (shows : call.request.shownStatus? = status.map ClusterStatus.encode)
    (notBefore : ∀ earlier ∈ calls, call.now.isBefore earlier.now = false) :
    ∃ next, call.statusAfter (status.map ClusterStatus.encode) = next.map ClusterStatus.encode ∧
      Tells (calls ++ [call]) next ∧
      ∀ verdict, call.verdict? = some verdict →
        IsSettled verdict call.hook.conditionType next := by
  have watched := HookRequest.watchStatus_eq_ok shows
  rw [statusAfter_map]
  cases reported : call.verdict? with
  | none => exact ⟨status, rfl, tells.silent reported, by simp⟩
  | some verdict =>
      rw [Option.bind_some]
      rcases HookRequest.updatedStatus?_cases watched
        (verdict.condition call.hook.conditionType call.now) with
        ⟨noUpdate, rfl, notTrue⟩ | ⟨noUpdate, shown, existing, rfl, found, same⟩ |
          ⟨update, worth⟩
      · obtain rfl : verdict = .applied := by
          cases verdict with
          | applied => rfl
          | failed reason message => exact absurd rfl notTrue
        rw [noUpdate]
        refine ⟨none, rfl, tells.ignored reported, ?_⟩
        rintro _ ⟨⟩
        exact .inl ⟨rfl, rfl⟩
      · rw [Verdict.type_condition] at found
        have told := Verdict.saysSame_condition.1 same
        rw [noUpdate]
        refine ⟨some shown, rfl, tells.unchanged reported found told, ?_⟩
        rintro _ ⟨⟩
        exact .inr ⟨shown, existing, rfl, found, told⟩
      · have isFailure : status = none → ∃ reason message, verdict = .failed reason message := by
          intro none
          have isTrue := worth none
          cases verdict with
          | applied => cases isTrue
          | failed reason message => exact ⟨reason, message, rfl⟩
        have after := tells.merged reported isFailure notBefore
        rw [update]
        refine ⟨_, rfl, after, ?_⟩
        rintro _ ⟨⟩
        have found := (condition?_eq_some_iff (after.distinct _ rfl)).2
          ⟨(tells.mem_merge_iff notBefore).2 (.inl rfl), Verdict.type_condition _ _ _⟩
        exact .inr ⟨_, _, rfl, found, Verdict.isTold_condition _ _ _⟩

end Step

section Run

def statusAfterAll (status : Option Json) (calls : List PlanCall) : Option Json :=
  calls.foldl (fun status call => call.statusAfter status) status

/-- Calls about one plan, each of which is shown the status that the one before it left. -/
def IsRun : Option Json → List PlanCall → Prop
  | _, [] => True
  | status, call :: rest =>
      call.request.shownStatus? = status ∧ IsRun (call.statusAfter status) rest

theorem isRun_append {first second : List PlanCall} {status : Option Json} :
    IsRun status (first ++ second) ↔
      IsRun status first ∧ IsRun (statusAfterAll status first) second := by
  induction first generalizing status with
  | nil => simp [IsRun, statusAfterAll]
  | cons call rest ih =>
      rw [List.cons_append, IsRun, IsRun, ih, and_assoc]
      rfl

/-- A whole run keeps the status true to the calls. -/
theorem Tells.run {done rest : List PlanCall} {status : Option ClusterStatus}
    (tells : Tells done status) (run : IsRun (status.map ClusterStatus.encode) rest)
    (clock : (done ++ rest).Pairwise fun earlier later =>
      later.now.isBefore earlier.now = false) :
    ∃ last, statusAfterAll (status.map ClusterStatus.encode) rest =
        last.map ClusterStatus.encode ∧ Tells (done ++ rest) last := by
  induction rest generalizing done status with
  | nil => exact ⟨status, rfl, by rwa [List.append_nil]⟩
  | cons call rest ih =>
      have notBefore : ∀ earlier ∈ done, call.now.isBefore earlier.now = false :=
        fun earlier member => (List.pairwise_append.1 clock).2.2 earlier member call
          List.mem_cons_self
      have regrouped : done ++ call :: rest = done ++ [call] ++ rest := by simp
      obtain ⟨next, nextEq, nextTells, -⟩ := tells.step run.1 notBefore
      have runAfter := run.2
      rw [nextEq] at runAfter
      rw [regrouped] at clock ⊢
      obtain ⟨last, lastEq, lastTells⟩ := ih nextTells runAfter clock
      rw [← nextEq] at lastEq
      exact ⟨last, lastEq, lastTells⟩

end Run

section Interleaving

end Interleaving
end PlanCall
end PoolPlanner
