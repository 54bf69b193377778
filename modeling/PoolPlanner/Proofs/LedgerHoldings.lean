import PoolPlanner.Proofs.MarkerAgreement

/-!
# What a storage set holds after its round

A round gives back the devices that it was shown as its own.  A holding whose marker it was not
shown, because the marker was not stored or not read yet, is not among them: unless the round plans
the device again, it stays in the ledger and is not emitted.
-/

namespace PoolPlanner
namespace StorageSetRound

variable {work : Work} {ledger : Ledger} {name : String}

namespace Work

/-- An attached device that the ledger has for the storage set, while the round was not shown its
marker and does not plan it. -/
structure Leaks (work : Work) (ledger : Ledger) (name : String) : Prop where
  attached : name ∈ work.devices.map BlockDevice.name
  held : ledger.holder? name = some work.owner
  unmarked : ∀ device ∈ work.devices, device.name = name → device.owner? ≠ some work.owner
  unplanned : name ∉ work.reservations.reserved

theorem WellPlanned.leaks_iff (planned : work.WellPlanned) :
    work.Leaks ledger name ↔
      name ∈ work.devices.map BlockDevice.name ∧ ledger.holder? name = some work.owner ∧
        name ∉ work.reservations.reserved ∧ name ∉ work.reservations.release := by
  constructor
  · rintro ⟨attached, held, unmarked, unplanned⟩
    refine ⟨attached, held, unplanned, fun released => ?_⟩
    obtain ⟨⟨device, deviceMem, marked, named⟩, -⟩ := (planned.release_iff name).1 released
    exact unmarked device deviceMem named marked
  · rintro ⟨attached, held, unplanned, notReleased⟩
    refine ⟨attached, held, fun device deviceMem named marked => notReleased ?_, unplanned⟩
    exact (planned.release_iff name).2 ⟨⟨device, deviceMem, marked, named⟩, unplanned⟩

/-- A storage set holds what it was granted, and what it held and neither planned nor gave back. -/
theorem holderAfter?_eq_owner_iff :
    work.holderAfter? ledger name = some work.owner ↔
      name ∈ work.grantedNames ledger ∨ (ledger.holder? name = some work.owner ∧
        name ∉ work.reservations.reserved ∧ name ∉ work.reservations.release) := by
  unfold holderAfter?
  by_cases granted : name ∈ work.grantedNames ledger
  · simp [granted]
  · rw [if_neg granted]
    constructor
    · intro held
      split at held
      next => cases held
      next kept =>
        refine .inr ⟨held, fun reserved => granted ?_, fun released => kept ⟨released, held⟩⟩
        have isOpen : ledger.isOpenTo work.owner name = true := by
          simp [Ledger.isOpenTo, held]
        exact mem_grantedNames.2 ⟨reserved, isOpen⟩
    · rintro (isGranted | ⟨held, -, notReleased⟩)
      · exact absurd isGranted granted
      · rw [if_neg fun freed => notReleased freed.1]
        exact held

theorem WellPlanned.exists_reserves_iff (planned : work.WellPlanned) (identified : work.owner ≠ "")
    (claims : List DiskClaim) :
    (∃ document ∈ (work.written ledger).map Resource.encode ++ claims.map Resource.encode,
        document.Reserves name work.owner) ↔
      name ∈ work.grantedNames ledger := by
  constructor
  · rintro ⟨document, member, reserves⟩
    rcases List.mem_append.1 member with isWritten | isClaim
    · obtain ⟨device, deviceMem, rfl⟩ := List.mem_map.1 isWritten
      rcases planned.mem_written.1 deviceMem with
        ⟨original, attached, granted, rfl⟩ | ⟨original, attached, -, rfl⟩
      · exact (reserves_reserve (planned.fits original attached) reserves).2 ▸ granted
      · exact absurd reserves (not_reserves_release (planned.fits original attached) _ _)
    · obtain ⟨claim, -, rfl⟩ := List.mem_map.1 isClaim
      exact absurd reserves (not_reserves_diskClaim claim _ _)
  · intro granted
    obtain ⟨device, attached, rfl, -⟩ := planned.exists_device (mem_grantedNames.1 granted).1
    refine ⟨Resource.encode (device.reserve work.owner), List.mem_append_left _
      (List.mem_map_of_mem (planned.mem_written.2 (.inl ⟨device, attached, granted, rfl⟩))), rfl,
      _, BlockDevice.decode_encode (planned.fits device attached).reserve, rfl, ?_⟩
    rw [BlockDevice.owner?_whole, BlockDevice.owner?_reserve, if_neg identified]

end Work

theorem exists_work_of_applied {request : HookRequest} (distinct : request.DistinctDevices)
    {attachments : List Json} {after : Ledger}
    (ran : (run request).run ledger = (.ok (.apply attachments), after)) :
    ∃ (work : Work) (claims : List DiskClaim), prepare request = .ok work ∧
      attachments = (work.written ledger).map Resource.encode ++ claims.map Resource.encode ∧
      ∀ name, after.holder? name = work.holderAfter? ledger name := by
  unfold run at ran
  cases prepared : prepare request with
  | error fault =>
      rw [prepared] at ran
      cases ran
  | ok work =>
      rw [prepared] at ran
      obtain ⟨last, performed, holders⟩ :=
        run_perform (wellPlanned_of_prepare distinct prepared) ledger
      rw [performed] at ran
      obtain ⟨result, rfl⟩ := Prod.mk.inj ran
      obtain ⟨claims, -, applied⟩ := map_eq_ok_iff.1 result
      exact ⟨work, claims, rfl, (RoundResult.apply.inj applied).symm, holders⟩

end StorageSetRound

def HookResponse.Reserves (response : HookResponse) (device owner : String) : Prop :=
  ∃ document ∈ response.attachments, document.Reserves device owner

/-- After a round that applies attachments, its storage set holds those attached devices that are
emitted with its reservation, and those that leak.  So both are the same if and only if none
leaks. -/
theorem Hook.sync_storageSet_holdings_iff {request : HookRequest} {settings : OperatorConfig}
    {now : Instant} {ledger after : Ledger} {response : HookResponse}
    (distinct : request.DistinctDevices) (nonempty : request.storageSetUid? ≠ some "")
    (going : request.finalizing = false)
    (ran : (storageSet.sync request settings now).run ledger = ((response, .applied), after)) :
    ∃ work, StorageSetRound.prepare request = .ok work ∧
      request.storageSetUid? = some work.owner ∧
      (∀ name, (name ∈ work.devices.map BlockDevice.name ∧
          after.holder? name = some work.owner) ↔
        response.Reserves name work.owner ∨ work.Leaks ledger name) ∧
      ((∀ name, (name ∈ work.devices.map BlockDevice.name ∧
          after.holder? name = some work.owner) ↔ response.Reserves name work.owner) ↔
        ∀ name, ¬ work.Leaks ledger name) := by
  obtain ⟨work, claims, prepared, emitted, holders⟩ :=
    StorageSetRound.exists_work_of_applied distinct (run_reconcile_of_applied going ran)
  have planned := StorageSetRound.wellPlanned_of_prepare distinct prepared
  have identified := (StorageSetRound.acts_of_prepare distinct prepared).1
  have ownerNonempty : work.owner ≠ "" := by
    intro empty
    rw [identified, empty] at nonempty
    exact nonempty rfl
  have reserves (name : String) :
      response.Reserves name work.owner ↔ name ∈ work.grantedNames ledger := by
    rw [HookResponse.Reserves, emitted]
    exact planned.exists_reserves_iff ownerNonempty claims
  have held (name : String) : (name ∈ work.devices.map BlockDevice.name ∧
      after.holder? name = some work.owner) ↔
        response.Reserves name work.owner ∨ work.Leaks ledger name := by
    rw [holders, StorageSetRound.Work.holderAfter?_eq_owner_iff, reserves, planned.leaks_iff,
      and_or_left]
    refine or_congr_left (and_iff_right_of_imp fun granted => ?_)
    obtain ⟨device, attached, rfl, -⟩ :=
      planned.exists_device (StorageSetRound.Work.mem_grantedNames.1 granted).1
    exact List.mem_map_of_mem attached
  have apart (name : String) (leaks : work.Leaks ledger name) :
      ¬ response.Reserves name work.owner := fun reserved =>
    leaks.unplanned (StorageSetRound.Work.mem_grantedNames.1 ((reserves name).1 reserved)).1
  refine ⟨work, prepared, identified, held, ?_⟩
  constructor
  · intro same name leaks
    exact apart name leaks ((same name).1 ((held name).2 (.inr leaks)))
  · intro noLeaks name
    rw [held, or_iff_left (noLeaks name)]

/-- It takes a marker that was lost, or comes late, for a device to leak. -/
theorem DeviceStore.Agrees.not_leaks {store : DeviceStore} {work : StorageSetRound.Work}
    (agrees : store.Agrees work.devices) (name : String) : ¬ work.Leaks store.ledger name := by
  intro leaks
  obtain ⟨device, attached, named, marked⟩ := agrees.marked name work.owner leaks.held
  exact leaks.unmarked device attached named marked

namespace StorageSetRound

def shownFree (node : String) : HookRequest :=
  (DeviceStore.mk DeviceStore.onlyDocument .empty).shown
    (DeviceStore.requestFor "first" node false)

theorem ofKind_shownFree (node : String) :
    (shownFree node).attachments.ofKind BlockDevice = .ok [SharedLedger.onlyDevice] :=
  DeviceStore.ofKind_showing _ DeviceStore.onlyDevice_fits

theorem shownFree_distinct (node : String) : (shownFree node).DistinctDevices :=
  DeviceStore.showing_distinct _ DeviceStore.onlyDevice_fits

def afterFirstRound : Ledger :=
  ((Hook.storageSet.sync (shownFree "node-1") {} .epoch).run .empty).2

theorem eq_of_outcome (answered : (HookResponse × Outcome) × Ledger) {outcome : Outcome}
    (ended : answered.1.2 = outcome) : answered = ((answered.1.1, outcome), answered.2) := by
  rw [← ended]

/-- A first round holds what it emits: on an empty ledger nothing leaks. -/
theorem firstRound_holds :
    (shownFree "node-1").DistinctDevices ∧ (shownFree "node-1").storageSetUid? = some "first" ∧
      ∃ response work,
        (Hook.storageSet.sync (shownFree "node-1") {} .epoch).run .empty =
            ((response, .applied), afterFirstRound) ∧
          afterFirstRound.holder? "disk-1" = some "first" ∧
          prepare (shownFree "node-1") = .ok work ∧
          ∀ name, (name ∈ work.devices.map BlockDevice.name ∧
            afterFirstRound.holder? name = some work.owner) ↔
              response.Reserves name work.owner := by
  have distinct := shownFree_distinct "node-1"
  obtain ⟨identified, applied, held⟩ :
      (shownFree "node-1").storageSetUid? = some "first" ∧
        ((Hook.storageSet.sync (shownFree "node-1") {} .epoch).run .empty).1.2 = .applied ∧
        afterFirstRound.holder? "disk-1" = some "first" := by
    decide +kernel
  have ran := eq_of_outcome _ applied
  obtain ⟨work, prepared, -, -, same⟩ :=
    Hook.sync_storageSet_holdings_iff distinct (by simp [identified]) rfl ran
  refine ⟨distinct, identified, _, work, ran, held, prepared, same.2 fun name leaks => ?_⟩
  have unheld := leaks.held
  simp [Ledger.holder?, Ledger.entry, Ledger.empty] at unheld

/-- The storage set has moved to another node before its marker was stored: its round applies
nothing, and the ledger still has the device for it. -/
theorem movedRound_leaks :
    (shownFree "node-1").DistinctDevices ∧ (shownFree "node-2").DistinctDevices ∧
      ∃ response after,
        (Hook.storageSet.sync (shownFree "node-2") {} .epoch).run afterFirstRound =
            ((response, .applied), after) ∧
          (shownFree "node-2").attachments.ofKind BlockDevice = .ok [SharedLedger.onlyDevice] ∧
          after.holder? SharedLedger.onlyDevice.name = some "first" ∧
          response.attachments = [] := by
  obtain ⟨applied, silent, held⟩ :
      ((Hook.storageSet.sync (shownFree "node-2") {} .epoch).run afterFirstRound).1.2 = .applied ∧
        ((Hook.storageSet.sync (shownFree "node-2") {} .epoch).run
          afterFirstRound).1.1.attachments.length = 0 ∧
        ((Hook.storageSet.sync (shownFree "node-2") {} .epoch).run
          afterFirstRound).2.holder? "disk-1" = some "first" := by
    decide +kernel
  exact ⟨shownFree_distinct _, shownFree_distinct _, _, _, eq_of_outcome _ applied,
    ofKind_shownFree _, held, List.length_eq_zero_iff.1 silent⟩

end StorageSetRound
end PoolPlanner
