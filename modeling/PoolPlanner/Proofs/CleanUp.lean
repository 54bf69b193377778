import PoolPlanner.Proofs.LedgerHoldings

/-!
# What a storage set holds after its clean-up

The clean-up walks the devices that are attached, once all of them are read, and the call ends as
finalized even if one of them can not be.  So a device that the storage set holds in the ledger is
given back if and only if it is attached and the attached devices can be read.
-/

namespace PoolPlanner

/-- The attached block devices can be read, and one of them has a name. -/
def HookRequest.AttachesDevice (request : HookRequest) (name : String) : Prop :=
  ∃ devices, request.attachments.ofKind BlockDevice = .ok devices ∧
    name ∈ devices.map BlockDevice.name

namespace StorageSetRound

variable {request : HookRequest} {owner : String} {ledger : Ledger}

theorem exists_watched_of_uid (identified : request.storageSetUid? = some owner) :
    ∃ storageSet, request.watchAs StorageSet = .ok storageSet ∧
      storageSet.metadata.uid = some owner := by
  unfold HookRequest.storageSetUid? at identified
  split at identified
  next storageSet watched => exact ⟨storageSet, watched, identified⟩
  next => cases identified

theorem finalize_of_unreadable (identified : request.storageSetUid? = some owner)
    {fault : Fault} (unreadable : request.attachments.ofKind BlockDevice = .error fault) :
    finalize request = .done (.error fault) := by
  obtain ⟨storageSet, watched, isOwner⟩ := exists_watched_of_uid identified
  simp [finalize, watched, isOwner, unreadable]

/-- After a clean-up every device is with its holder of before, unless the storage set held it and
it is attached. -/
theorem holder?_run_finalize (identified : request.storageSetUid? = some owner)
    (ledger : Ledger) (name holder : String) :
    ((finalize request).run ledger).2.holder? name = some holder ↔
      ledger.holder? name = some holder ∧ ¬ (holder = owner ∧ request.AttachesDevice name) := by
  cases found : request.attachments.ofKind BlockDevice with
  | error fault =>
      have unattached : ¬ request.AttachesDevice name := by
        rintro ⟨devices, read, -⟩
        rw [found] at read
        cases read
      rw [finalize_of_unreadable identified found]
      simp [LedgerProgram.run, unattached]
  | ok devices =>
      obtain ⟨storageSet, watched, isOwner⟩ := exists_watched_of_uid identified
      obtain ⟨after, ran, givenBack⟩ := run_finalize watched isOwner found ledger
      have attached : request.AttachesDevice name ↔ name ∈ devices.map BlockDevice.name := by
        simp [HookRequest.AttachesDevice, found]
      rw [ran, givenBack, attached]
      split
      next freed =>
        constructor
        · intro impossible
          cases impossible
        · rintro ⟨held, kept⟩
          have own : holder = owner := Option.some.inj (held.symm.trans freed.2)
          exact absurd ⟨own, freed.1⟩ kept
      next kept =>
        constructor
        · intro held
          refine ⟨held, ?_⟩
          rintro ⟨rfl, isAttached⟩
          exact kept ⟨isAttached, held⟩
        · exact fun held => held.1

end StorageSetRound

/-- A storage set that was finalized holds nothing any more, if and only if every device that it had
is attached and the attached devices can be read.  Whatever else is held stays with its holder. -/
theorem Hook.sync_finalized_unheld_iff {request : HookRequest} {owner : String}
    (settings : OperatorConfig) (now : Instant) (ledger : Ledger)
    (finalizing : request.finalizing = true)
    (identified : request.storageSetUid? = some owner) :
    ∃ response after,
      (storageSet.sync request settings now).run ledger = ((response, .finalized), after) ∧
      (∀ device holder, after.holder? device = some holder ↔
        ledger.holder? device = some holder ∧
          ¬ (holder = owner ∧ request.AttachesDevice device)) ∧
      ((∀ device, after.holder? device ≠ some owner) ↔
        ∀ device, ledger.holder? device = some owner → request.AttachesDevice device) := by
  have holders := StorageSetRound.holder?_run_finalize identified ledger
  refine ⟨_, _, run_sync_finalizing finalizing settings now ledger, holders, ?_⟩
  rw [finalize]
  constructor
  · intro unheld device held
    by_contra unattached
    exact unheld device ((holders device owner).2 ⟨held, fun freed => unattached freed.2⟩)
  · intro attached device stillHeld
    obtain ⟨held, kept⟩ := (holders device owner).1 stillHeld
    exact kept ⟨rfl, attached device held⟩

namespace StorageSetRound

def oneHolding : Ledger :=
  (Ledger.empty.claim { device := "disk-1", owner := "first" }).2

theorem eq_of_oneHolding {name holder : String} (held : oneHolding.holder? name = some holder) :
    name = "disk-1" := by
  by_contra different
  have unknown : oneHolding.holder? name = none := Ledger.holder?_claim_of_ne different
  rw [unknown] at held
  cases held

def cleanUpOf (devices : Table Json) : HookRequest :=
  (DeviceStore.mk devices .empty).shown (DeviceStore.requestFor "first" "node-1" true)

theorem cleanUpOf_attaches :
    (cleanUpOf DeviceStore.onlyDocument).AttachesDevice "disk-1" :=
  ⟨[SharedLedger.onlyDevice], DeviceStore.ofKind_showing _ DeviceStore.onlyDevice_fits, by decide⟩

theorem attachedHolding_freed :
    oneHolding.holder? "disk-1" = some "first" ∧
      ∃ response after,
        (Hook.storageSet.sync (cleanUpOf DeviceStore.onlyDocument) {} .epoch).run oneHolding =
            ((response, .finalized), after) ∧
          ∀ device, after.holder? device ≠ some "first" := by
  obtain ⟨held, identified⟩ :
      oneHolding.holder? "disk-1" = some "first" ∧
        (cleanUpOf DeviceStore.onlyDocument).storageSetUid? = some "first" := by
    decide +kernel
  obtain ⟨response, after, ran, -, unheld⟩ :=
    Hook.sync_finalized_unheld_iff {} .epoch oneHolding rfl identified
  refine ⟨held, response, after, ran, unheld.2 fun device isHeld => ?_⟩
  rw [eq_of_oneHolding isHeld]
  exact cleanUpOf_attaches

/-- The device that is held is not attached any more: the call ends as finalized, and the ledger
still has the device for the storage set. -/
theorem detachedHolding_stays :
    (cleanUpOf .empty).storageSetUid? = some "first" ∧
      ∃ response after,
        (Hook.storageSet.sync (cleanUpOf .empty) {} .epoch).run oneHolding =
            ((response, .finalized), after) ∧
          after.holder? "disk-1" = some "first" := by
  obtain ⟨identified, finalized, held⟩ :
      (cleanUpOf .empty).storageSetUid? = some "first" ∧
        ((Hook.storageSet.sync (cleanUpOf .empty) {} .epoch).run oneHolding).1.2 = .finalized ∧
        ((Hook.storageSet.sync (cleanUpOf .empty) {} .epoch).run oneHolding).2.holder? "disk-1" =
          some "first" := by
    decide +kernel
  exact ⟨identified, _, _, eq_of_outcome _ finalized, held⟩

end StorageSetRound
end PoolPlanner
