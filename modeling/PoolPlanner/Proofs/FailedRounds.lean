import PoolPlanner.Proofs.ChangedEntries
import PoolPlanner.Proofs.DiskClaims

/-!
# What a failed round leaves in the ledger

A round of the storage set hook can fail before it comes to the ledger, or at its disk claims, when
it is through with the ledger.  The disk claims fail for a storage set that has a provisioner and no
name.  What such a round was granted stays granted, and what it gave back stays given back, although
nothing of it is emitted.
-/

namespace PoolPlanner
namespace StorageSetRound

variable {request : HookRequest} {work : Work} {ledger after : Ledger} {fault : Fault}

theorem notMem_reserved_of_prepare (prepared : prepare request = .ok work) :
    ∀ name ∈ work.reservations.release, name ∉ work.reservations.reserved := by
  obtain ⟨storageSet, owner, plan, config, devices, minBytes, reservations, -, -, -, -, -, -,
    planned, rfl⟩ := prepare_eq_ok_iff.1 prepared
  intro name released
  exact ((ReservationRequest.mem_release_iff planned).1 released).2

theorem uid_of_prepare (prepared : prepare request = .ok work) :
    work.storageSet.metadata.uid = some work.owner := by
  obtain ⟨storageSet, owner, plan, config, devices, minBytes, reservations, -, identified, -, -, -,
    -, -, rfl⟩ := prepare_eq_ok_iff.1 prepared
  exact identified

theorem eq_missingIdentity_of_diskClaims {storageSet : StorageSet} {owner uid : String}
    (identified : storageSet.metadata.uid = some uid)
    (failed : diskClaims storageSet owner = .error fault) :
    storageSet.metadata.name = none ∧ storageSet.spec.externalProvision ≠ none ∧
      fault = .validation (.missingIdentity .storageSet) := by
  cases named : storageSet.metadata.name with
  | some name =>
      obtain ⟨claims, claimed⟩ := exists_diskClaims named identified owner
      rw [claimed] at failed
      cases failed
  | none =>
      have unnamed : Resource.ownerReference .storageSet storageSet =
          .error (.validation (.missingIdentity .storageSet)) := by
        have noName : (Resource.metadata storageSet).name = none := named
        simp [Resource.ownerReference, Resource.ownerReference?, noName]
      unfold diskClaims at failed
      split at failed
      next => cases failed
      next provision provided =>
        rw [unnamed] at failed
        exact ⟨rfl, by simp [provided], (Except.error.inj failed).symm⟩

theorem diskClaims_of_failed (failed : (perform work).run ledger = (.error fault, after)) :
    diskClaims work.storageSet work.owner = .error fault := by
  obtain ⟨written, -, result⟩ := run_perform_fst work ledger
  rw [failed] at result
  cases claimed : diskClaims work.storageSet work.owner with
  | ok claims =>
      rw [claimed] at result
      cases result
  | error cause =>
      rw [claimed] at result
      rw [Except.error.inj result]

end StorageSetRound

/-- A failed round leaves every entry of the ledger as it was, if and only if it did not come to the
ledger, or changed nothing there; and it came to the ledger only if the storage set has a
provisioner and no name. -/
theorem Hook.failed_storageSet_entries_iff {request : HookRequest} {settings : OperatorConfig}
    {ledger after : Ledger} {fault : Fault}
    (failed : (storageSet.reconcile request settings).run ledger = (.error fault, after)) :
    ((∀ device, after.entry device = ledger.entry device) ↔
      ∀ work, StorageSetRound.prepare request = .ok work →
        ∀ device, ¬ work.Changes ledger device) ∧
    ∀ work, StorageSetRound.prepare request = .ok work →
      work.storageSet.metadata.name = none ∧ work.storageSet.spec.externalProvision ≠ none ∧
        fault = .validation (.missingIdentity .storageSet) := by
  rw [reconcile, StorageSetRound.run] at failed
  cases prepared : StorageSetRound.prepare request with
  | error cause =>
      rw [prepared] at failed
      obtain ⟨-, rfl⟩ := Prod.mk.inj failed
      constructor
      · refine iff_of_true (fun device => rfl) ?_
        intro work impossible
        cases impossible
      · intro work impossible
        cases impossible
  | ok work =>
      rw [prepared] at failed
      have performed : (StorageSetRound.perform work).run ledger = (.error fault, after) := failed
      have entries (device : String) :
          after.entry device = ledger.entry device ↔ ¬ work.Changes ledger device := by
        rw [← StorageSetRound.Work.entry_run_perform_eq_iff
          (StorageSetRound.notMem_reserved_of_prepare prepared), performed]
      have nameless := StorageSetRound.eq_missingIdentity_of_diskClaims
        (StorageSetRound.uid_of_prepare prepared) (StorageSetRound.diskClaims_of_failed performed)
      constructor
      · constructor
        · rintro same work' ⟨⟩ device
          exact (entries device).1 (same device)
        · intro unchanged device
          exact (entries device).2 (unchanged work rfl device)
      · rintro work' ⟨⟩
        exact nameless

namespace StorageSetRound

/-- A storage set without name that has a provisioner, and is shown the only device as free. -/
def namelessRequest : HookRequest :=
  let storageSet : StorageSet :=
    { metadata := ObjectMeta.mark { uid := some "first" } MarkerKey.clusterPlan "plan"
      spec :=
        { node := ⟨"node-1", "node-1"⟩
          disk := ⟨"1Gi", 1⟩
          externalProvision := some ⟨"attacher", "class"⟩ } }
  { shownFree "node-1" with watch := Resource.encode storageSet }

/-- The ledger after a round for the storage set without name. -/
def afterNameless (ledger : Ledger) : Ledger :=
  ((Hook.storageSet.reconcile namelessRequest {}).run ledger).2

theorem exists_fault_of_not_isOk {α : Type} {answered : Except Fault α × Ledger}
    (failed : answered.1.isOk = false) : ∃ fault, answered = (.error fault, answered.2) := by
  obtain ⟨fault | result, after⟩ := answered
  · exact ⟨fault, rfl⟩
  · cases failed

/-- The second failed round finds the device as its own, and so leaves the ledger alone. -/
theorem namelessRound_again :
    ∃ fault,
      (Hook.storageSet.reconcile namelessRequest {}).run (afterNameless .empty) =
        (.error fault, afterNameless (afterNameless .empty)) ∧
      ∀ device, (afterNameless (afterNameless .empty)).entry device =
        (afterNameless .empty).entry device := by
  obtain ⟨failed, planned, held⟩ :
      ((Hook.storageSet.reconcile namelessRequest {}).run (afterNameless .empty)).1.isOk = false ∧
        ((prepare namelessRequest).toOption.map fun work => (work.owner, work.reservations)) =
          some ("first", ⟨["disk-1"], ["disk-1"], [], 0⟩) ∧
        (afterNameless .empty).holder? "disk-1" = some "first" := by
    decide +kernel
  obtain ⟨fault, ran⟩ := exists_fault_of_not_isOk failed
  refine ⟨fault, ran, (Hook.failed_storageSet_entries_iff ran).1.2 fun work prepared device => ?_⟩
  exact not_changes_of_plan planned rfl (by simpa using held) prepared

/-- The first failed round is granted the device, and the ledger keeps it. -/
theorem namelessRound_changes :
    ∃ fault,
      (Hook.storageSet.reconcile namelessRequest {}).run .empty =
        (.error fault, afterNameless .empty) ∧
      (afterNameless .empty).entry "disk-1" ≠ Ledger.empty.entry "disk-1" := by
  obtain ⟨failed, changed⟩ :
      ((Hook.storageSet.reconcile namelessRequest {}).run .empty).1.isOk = false ∧
        (afterNameless .empty).entry "disk-1" ≠ Ledger.empty.entry "disk-1" := by
    decide +kernel
  obtain ⟨fault, ran⟩ := exists_fault_of_not_isOk failed
  exact ⟨fault, ran, changed⟩

end StorageSetRound
end PoolPlanner
