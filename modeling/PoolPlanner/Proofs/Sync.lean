import PoolPlanner.Hook.Sync
import PoolPlanner.Proofs.LedgerPrograms

/-!
# What answers come from

Attachments are only ever emitted for a round that applies them, or by the clean-up of a storage
set.
-/

namespace PoolPlanner
namespace Hook

/-- An answer applies the attachments of its round, or emits none and says so. -/
theorem answer_cases (hook : Hook) (request : HookRequest) (settings : OperatorConfig)
    (now : Instant) (result : Except Fault RoundResult) :
    (∃ attachments, result = .ok (.apply attachments) ∧
      (hook.answer request settings now result).1.attachments = attachments ∧
      (hook.answer request settings now result).2 = .applied) ∨
    ((hook.answer request settings now result).1.attachments = [] ∧
      (hook.answer request settings now result).2 ≠ .applied) := by
  rcases result with fault | (attachments | reason)
  · refine .inr ?_
    simp only [answer]
    split <;> simp [HookResponse.skip, HookResponse.retryAfter]
  · exact .inl ⟨attachments, rfl, rfl, rfl⟩
  · exact .inr ⟨rfl, by simp [answer]⟩

theorem attachments_answer {hook : Hook} {request : HookRequest} {settings : OperatorConfig}
    {now : Instant} {result : Except Fault RoundResult} {holds : List Json → Prop}
    (none : holds []) (applied : ∀ attachments, result = .ok (.apply attachments) →
      holds attachments) : holds (hook.answer request settings now result).1.attachments := by
  rcases answer_cases hook request settings now result with
    ⟨attachments, isApplied, emitted, -⟩ | ⟨emitted, -⟩
  · rw [emitted]
    exact applied attachments isApplied
  · rw [emitted]
    exact none

theorem run_sync {hook : Hook} {request : HookRequest} (going : request.finalizing = false)
    (settings : OperatorConfig) (now : Instant) (ledger : Ledger) :
    (hook.sync request settings now).run ledger =
      (hook.answer request settings now ((hook.reconcile request settings).run ledger).1,
        ((hook.reconcile request settings).run ledger).2) := by
  simp only [sync, going, Bool.false_eq_true, if_false]
  exact LedgerProgram.run_bind _ _ ledger

theorem run_sync_of_apply {hook : Hook} {request : HookRequest} {settings : OperatorConfig}
    {ledger after : Ledger} {attachments : List Json} (going : request.finalizing = false)
    (ran : (hook.reconcile request settings).run ledger = (.ok (.apply attachments), after))
    (now : Instant) :
    (hook.sync request settings now).run ledger =
      (({ attachments, status := request.resolvedStatus hook.conditionType now }, .applied),
        after) := by
  rw [run_sync going, ran]
  rfl

/-- A call that applies attachments carried out a round that came to them. -/
theorem run_reconcile_of_applied {hook : Hook} {request : HookRequest} {settings : OperatorConfig}
    {now : Instant} {ledger after : Ledger} {response : HookResponse}
    (going : request.finalizing = false)
    (ran : (hook.sync request settings now).run ledger = ((response, .applied), after)) :
    (hook.reconcile request settings).run ledger =
      (.ok (.apply response.attachments), after) := by
  rw [run_sync going] at ran
  obtain ⟨answered, rfl⟩ := Prod.mk.inj ran
  rcases answer_cases hook request settings now ((hook.reconcile request settings).run ledger).1
    with ⟨attachments, applied, emitted, -⟩ | ⟨-, notApplied⟩
  · rw [answered] at emitted
    rw [emitted, ← applied]
  · rw [answered] at notApplied
    exact absurd rfl notApplied

theorem run_sync_finalizing {hook : Hook} {request : HookRequest}
    (finalizing : request.finalizing = true) (settings : OperatorConfig) (now : Instant)
    (ledger : Ledger) :
    (hook.sync request settings now).run ledger =
      (({ attachments := ((hook.finalize request).run ledger).1.toOption.getD [] }, .finalized),
        ((hook.finalize request).run ledger).2) := by
  simp only [sync, finalizing, if_true]
  rw [LedgerProgram.run_bind]
  cases ((hook.finalize request).run ledger).1 <;> rfl

/-- Only a call that does not clean up applies attachments. -/
theorem going_of_applied {hook : Hook} {request : HookRequest} {settings : OperatorConfig}
    {now : Instant} {ledger : Ledger}
    (applied : ((hook.sync request settings now).run ledger).1.2 = .applied) :
    request.finalizing = false := by
  cases finalizing : request.finalizing with
  | false => rfl
  | true =>
      rw [run_sync_finalizing finalizing] at applied
      cases applied

theorem sync_claimsGranted {hook : Hook} {request : HookRequest} {settings : OperatorConfig}
    {ledger : Ledger} (now : Instant) (going : request.finalizing = false)
    (granted : (hook.reconcile request settings).ClaimsGranted ledger) :
    (hook.sync request settings now).ClaimsGranted ledger := by
  simp only [sync, going, Bool.false_eq_true, if_false]
  exact granted.bind fun result after => trivial

theorem sync_claimsGranted_of_finalizing {hook : Hook} {request : HookRequest}
    {ledger : Ledger} (settings : OperatorConfig) (now : Instant)
    (finalizing : request.finalizing = true)
    (granted : (hook.finalize request).ClaimsGranted ledger) :
    (hook.sync request settings now).ClaimsGranted ledger := by
  simp only [sync, finalizing, if_true]
  refine granted.bind fun result after => ?_
  cases result <;> trivial

theorem run_sync_poolCluster (request : HookRequest) (settings : OperatorConfig) (now : Instant)
    (ledger : Ledger) :
    (poolCluster.sync request settings now).run ledger =
      (if request.finalizing then ({}, .finalized)
        else poolCluster.answer request settings now (PoolClusterRound.run request), ledger) := by
  unfold sync
  split <;> rfl

end Hook
end PoolPlanner
