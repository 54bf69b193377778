import PoolPlanner.Proofs.CleanUp
import PoolPlanner.Proofs.FailedRounds

/-!
# How one storage set's round shows in the answer to another

The ledger knows a device by its bare name, in whatever namespace the device is.  So two rounds that
are shown devices of different namespaces share the entries of those that have one name.  The
earlier round shows in the answer to the later one if and only if it changes the entry of a device
that the later one plans to reserve.
-/

namespace PoolPlanner
namespace StorageSetRound

variable {work : Work} {ledger after : Ledger} {name other : String}

namespace Work

theorem WellPlanned.changes_iff (planned : work.WellPlanned) :
    work.Changes ledger name ↔
      (name ∈ work.reservations.reserved ∧ ledger.holder? name = none) ∨
        (name ∈ work.reservations.release ∧ ledger.holder? name = some work.owner) := by
  constructor
  · rintro (⟨reserved, unheld, device, found, accepted⟩ | ⟨released, held⟩)
    · refine .inl ⟨reserved, ?_⟩
      obtain ⟨seen, seenFound, unowned⟩ := planned.available name reserved
      obtain rfl := Option.some.inj (found.symm.trans seenFound)
      have available := (LedgerEntry.refusal?_eq_none_iff unowned).1 accepted
      rw [Option.eq_none_iff_forall_ne_some]
      intro holder held
      exact unheld (held.trans (congrArg some (available holder held)))
    · exact .inr ⟨released, held⟩
  · rintro (⟨reserved, free⟩ | ⟨released, held⟩)
    · obtain ⟨device, found, -⟩ := planned.available name reserved
      have accepted : (ledger.entry name).refusal? (claimFor work.owner name device) = none := by
        rw [Ledger.holder?] at free
        simp [LedgerEntry.refusal?, free]
      exact .granted reserved (by simp [free]) ⟨device, found, accepted⟩
    · exact .givenBack released held

/-- Another storage set finds a device as open after some work as before, if and only if the work
did not change its entry. -/
theorem WellPlanned.isOpenTo_run_perform_eq_iff (planned : work.WellPlanned)
    (elsewhere : other ≠ work.owner) :
    ((perform work).run ledger).2.isOpenTo other name = ledger.isOpenTo other name ↔
      ¬ work.Changes ledger name := by
  constructor
  · intro same changes
    obtain ⟨last, ran, holders⟩ := run_perform planned ledger
    rw [ran] at same
    rcases planned.changes_iff.1 changes with ⟨reserved, free⟩ | ⟨released, held⟩
    · have isOpen : ledger.isOpenTo work.owner name = true := by
        simp [Ledger.isOpenTo, free]
      have taken : last.holder? name = some work.owner := by
        rw [holders, holderAfter?, if_pos (mem_grantedNames.2 ⟨reserved, isOpen⟩)]
      simp [Ledger.isOpenTo, free, taken, elsewhere.symm] at same
    · have ungranted : name ∉ work.grantedNames ledger := fun granted =>
        planned.apart name released (mem_grantedNames.1 granted).1
      have freed : last.holder? name = none := by
        rw [holders, holderAfter?, if_neg ungranted, if_pos ⟨released, held⟩]
      simp [Ledger.isOpenTo, held, freed, elsewhere.symm] at same
  · -- The whole entry is the same then, and with it the holder.
    intro unchanged
    have sameEntry := (entry_run_perform_eq_iff planned.apart).2 unchanged
    simp only [Ledger.isOpenTo, Ledger.holder?, sameEntry]

theorem WellPlanned.exists_isDevice_iff (planned : work.WellPlanned) (claims : List DiskClaim) :
    (∃ document ∈ (work.written ledger).map Resource.encode ++ claims.map Resource.encode,
        document.isDevice name = true) ↔
      name ∈ work.grantedNames ledger ∨ name ∈ work.reservations.release := by
  rw [← planned.mem_names_written]
  constructor
  · rintro ⟨document, member, isDevice⟩
    rcases List.mem_append.1 member with isWritten | isClaim
    · obtain ⟨device, deviceMem, rfl⟩ := List.mem_map.1 isWritten
      rw [Json.isDevice_encode (planned.fits_written ledger device deviceMem)] at isDevice
      exact List.mem_map.2 ⟨device, deviceMem, isDevice⟩
    · obtain ⟨claim, -, rfl⟩ := List.mem_map.1 isClaim
      rw [Json.isDevice_diskClaim] at isDevice
      cases isDevice
  · intro member
    obtain ⟨device, deviceMem, rfl⟩ := List.mem_map.1 member
    refine ⟨_, List.mem_append_left _ (List.mem_map_of_mem deviceMem), ?_⟩
    rw [Json.isDevice_encode (planned.fits_written ledger device deviceMem)]

/-- Some work emits the same on two ledgers, if and only if these agree on what of its wishes is
open to it. -/
theorem WellPlanned.written_eq_iff (planned : work.WellPlanned) (claims : List DiskClaim) :
    (work.written after).map Resource.encode ++ claims.map Resource.encode =
        (work.written ledger).map Resource.encode ++ claims.map Resource.encode ↔
      ∀ name ∈ work.reservations.reserved,
        after.isOpenTo work.owner name = ledger.isOpenTo work.owner name := by
  constructor
  · intro same name reserved
    have kept : name ∉ work.reservations.release := fun released =>
      planned.apart name released reserved
    -- A wish is emitted only if it was granted: what is given back is never wished for.
    have granted (state : Ledger) :
        state.isOpenTo work.owner name = true ↔
          ∃ document ∈ (work.written state).map Resource.encode ++ claims.map Resource.encode,
            document.isDevice name = true := by
      rw [planned.exists_isDevice_iff, mem_grantedNames]
      simp [reserved, kept]
    rw [Bool.eq_iff_iff, granted, granted, same]
  · intro same
    have sameNames : work.grantedNames after = work.grantedNames ledger :=
      List.filter_congr same
    simp only [written, sameNames]

end Work

/-- A call is answered the same on two ledgers, if and only if its round fails on both or these
agree on what of its wishes is open to it. -/
theorem sync_fst_eq_iff {request : HookRequest} (distinct : request.DistinctDevices)
    (going : request.finalizing = false) (settings : OperatorConfig) (now : Instant) :
    ((Hook.storageSet.sync request settings now).run after).1 =
        ((Hook.storageSet.sync request settings now).run ledger).1 ↔
      ∀ work claims, prepare request = .ok work →
        diskClaims work.storageSet work.owner = .ok claims →
          ∀ name ∈ work.reservations.reserved,
            after.isOpenTo work.owner name = ledger.isOpenTo work.owner name := by
  rw [Hook.run_sync going, Hook.run_sync going, Hook.reconcile, run]
  cases prepared : prepare request with
  | error fault => exact iff_of_true rfl fun work claims impossible => by cases impossible
  | ok work =>
      have planned := wellPlanned_of_prepare distinct prepared
      obtain ⟨afterLast, afterRan, -⟩ := run_perform planned after
      obtain ⟨ledgerLast, ledgerRan, -⟩ := run_perform planned ledger
      simp only [afterRan, ledgerRan]
      cases claimed : diskClaims work.storageSet work.owner with
      | error fault =>
          refine iff_of_true rfl ?_
          rintro same claims ⟨⟩ impossible
          rw [claimed] at impossible
          cases impossible
      | ok claims =>
          constructor
          · rintro same planned' others ⟨⟩ othersClaimed
            refine (planned.written_eq_iff claims).1 ?_
            exact congrArg (fun answered => answered.1.attachments) same
          · intro same
            have emitted := (planned.written_eq_iff claims).2 (same work claims rfl claimed)
            exact congrArg (fun attachments =>
              Hook.storageSet.answer request settings now (.ok (.apply attachments))) emitted

/-- After a call, another storage set finds a device as open as before, if and only if the round of
the call did not change the entry of the device. -/
theorem isOpenTo_run_sync_eq_iff {request : HookRequest} (distinct : request.DistinctDevices)
    (going : request.finalizing = false) (elsewhere : request.storageSetUid? ≠ some other)
    (settings : OperatorConfig) (now : Instant) :
    ((Hook.storageSet.sync request settings now).run ledger).2.isOpenTo other name =
        ledger.isOpenTo other name ↔
      ∀ work, prepare request = .ok work → ¬ work.Changes ledger name := by
  rw [Hook.run_sync going, Hook.reconcile, run]
  cases prepared : prepare request with
  | error fault => exact iff_of_true rfl fun work impossible => by cases impossible
  | ok work =>
      have identified := (acts_of_prepare distinct prepared).1
      have notOwner : other ≠ work.owner := fun same =>
        elsewhere (identified.trans (congrArg some same.symm))
      refine ((wellPlanned_of_prepare distinct prepared).isOpenTo_run_perform_eq_iff
        notOwner).trans ?_
      constructor
      · rintro unchanged planned ⟨⟩
        exact unchanged
      · exact fun unchanged => unchanged work rfl

theorem attachesDevice_of_planned {request : HookRequest} (distinct : request.DistinctDevices)
    (prepared : prepare request = .ok work)
    (concerned : name ∈ work.reservations.reserved ∨ name ∈ work.reservations.release) :
    request.AttachesDevice name := by
  have planned := wellPlanned_of_prepare distinct prepared
  refine ⟨work.devices, attached_of_prepare prepared, ?_⟩
  rcases concerned with reserved | released
  · obtain ⟨device, attached, rfl, -⟩ := planned.exists_device reserved
    exact List.mem_map_of_mem attached
  · obtain ⟨⟨device, attached, -, rfl⟩, -⟩ := (planned.release_iff name).1 released
    exact List.mem_map_of_mem attached

theorem Work.Changes.concerned (changes : work.Changes ledger name) :
    name ∈ work.reservations.reserved ∨ name ∈ work.reservations.release := by
  rcases changes with ⟨reserved, -, -⟩ | ⟨released, -⟩
  · exact .inl reserved
  · exact .inr released

/-- The round of one request changes the entry of a device that the round of another request plans
to reserve, and that other round does not fail. -/
structure Disturbs (first second : HookRequest) (ledger : Ledger) (work other : Work)
    (name : String) : Prop where
  prepared : prepare first = .ok work
  otherPrepared : prepare second = .ok other
  otherClaims : ∃ claims, diskClaims other.storageSet other.owner = .ok claims
  reserved : name ∈ other.reservations.reserved
  changes : work.Changes ledger name

theorem Disturbs.attached {first second : HookRequest} {other : Work}
    (disturbs : Disturbs first second ledger work other name)
    (firstDistinct : first.DistinctDevices) (secondDistinct : second.DistinctDevices) :
    first.AttachesDevice name ∧ second.AttachesDevice name :=
  ⟨attachesDevice_of_planned firstDistinct disturbs.prepared disturbs.changes.concerned,
    attachesDevice_of_planned secondDistinct disturbs.otherPrepared (.inl disturbs.reserved)⟩

end StorageSetRound

/-- The answer to a call of one storage set is the same with and without the call of another one
before it, if and only if the round of that one does not disturb its own.  It is, in particular, if
the two are shown devices of different names. -/
theorem Hook.sync_storageSet_after_other_iff {first second : HookRequest}
    (settings : OperatorConfig) (earlier now : Instant) (ledger : Ledger)
    (firstDistinct : first.DistinctDevices) (secondDistinct : second.DistinctDevices)
    (apart : ∀ uid, first.storageSetUid? = some uid → second.storageSetUid? ≠ some uid)
    (firstGoing : first.finalizing = false) (secondGoing : second.finalizing = false) :
    let between := ((storageSet.sync first settings earlier).run ledger).2
    (((storageSet.sync second settings now).run between).1 =
        ((storageSet.sync second settings now).run ledger).1 ↔
      ∀ work other name, ¬ StorageSetRound.Disturbs first second ledger work other name) ∧
    ((∀ name, first.AttachesDevice name → ¬ second.AttachesDevice name) →
      ((storageSet.sync second settings now).run between).1 =
        ((storageSet.sync second settings now).run ledger).1) := by
  intro between
  have sameOpen {other : StorageSetRound.Work}
      (prepared : StorageSetRound.prepare second = .ok other) (name : String) :
      between.isOpenTo other.owner name = ledger.isOpenTo other.owner name ↔
        ∀ work, StorageSetRound.prepare first = .ok work → ¬ work.Changes ledger name := by
    have identified := (StorageSetRound.acts_of_prepare secondDistinct prepared).1
    exact StorageSetRound.isOpenTo_run_sync_eq_iff firstDistinct firstGoing
      (fun same => apart other.owner same identified) settings earlier
  have sameAnswer :
      ((storageSet.sync second settings now).run between).1 =
          ((storageSet.sync second settings now).run ledger).1 ↔
        ∀ work other name, ¬ StorageSetRound.Disturbs first second ledger work other name := by
    rw [StorageSetRound.sync_fst_eq_iff secondDistinct secondGoing]
    constructor
    · rintro same work other name ⟨prepared, otherPrepared, ⟨claims, claimed⟩, reserved, changes⟩
      have isOpen := same other claims otherPrepared claimed name reserved
      exact (sameOpen otherPrepared name).1 isOpen work prepared changes
    · intro undisturbed other claims otherPrepared claimed name reserved
      refine (sameOpen otherPrepared name).2 fun work prepared changes => ?_
      exact undisturbed work other name
        ⟨prepared, otherPrepared, ⟨claims, claimed⟩, reserved, changes⟩
  refine ⟨sameAnswer, fun namesApart => sameAnswer.2 fun work other name disturbs => ?_⟩
  obtain ⟨attached, otherAttached⟩ := disturbs.attached firstDistinct secondDistinct
  exact namesApart name attached otherAttached

/-- A request is about a storage set of a namespace, and is shown only devices of that one. -/
structure HookRequest.Within (request : HookRequest) (space : String) : Prop where
  watched : ∃ storageSet, request.watchAs StorageSet = .ok storageSet ∧
    storageSet.metadata.objectNamespace = some space
  attached : ∀ devices, request.attachments.ofKind BlockDevice = .ok devices →
    ∀ device ∈ devices, device.metadata.objectNamespace = some space

namespace StorageSetRound

def deviceOf (space : String) : BlockDevice :=
  { SharedLedger.onlyDevice with
    metadata := { name := some "disk-1", objectNamespace := some space } }

def requestWithin (space uid : String) : HookRequest :=
  let storageSet : StorageSet :=
    { metadata :=
        ObjectMeta.mark { name := some uid, objectNamespace := some space, uid := some uid }
          MarkerKey.clusterPlan "plan"
      spec := { node := ⟨"node-1", "node-1"⟩, disk := ⟨"1Gi", 1⟩ } }
  DeviceStore.showing
    { DeviceStore.requestFor uid "node-1" false with watch := Resource.encode storageSet }
    (deviceOf space)

theorem deviceOf_fits (space : String) : (deviceOf space).Fits :=
  ⟨ObjectMeta.fits_new (some "disk-1") (some space) none, DeviceStore.onlyDevice_fits.capacity⟩

theorem requestWithin_distinct (space uid : String) :
    (requestWithin space uid).DistinctDevices :=
  DeviceStore.showing_distinct _ (deviceOf_fits space)

theorem requestWithin_within (space uid : String) :
    (requestWithin space uid).Within space := by
  constructor
  · have fits : (ObjectMeta.mark
        { name := some uid, objectNamespace := some space, uid := some uid }
        MarkerKey.clusterPlan "plan").Fits :=
      ((ObjectMeta.fits_new (some uid) (some space) none).withUid uid).mark
    have oneFits : Json.FitsInt64 1 := ⟨by decide, by decide⟩
    exact ⟨_, HookRequest.watchAs_eq_ok rfl (StorageSet.decode_encode fits oneFits rfl), rfl⟩
  · intro devices found device member
    obtain rfl := Except.ok.inj
      ((DeviceStore.ofKind_showing _ (deviceOf_fits space)).symm.trans found)
    obtain rfl := List.mem_singleton.1 member
    rfl

theorem requestWithin_apart :
    ∀ uid, (requestWithin "east" "first").storageSetUid? = some uid →
      (requestWithin "west" "second").storageSetUid? ≠ some uid := by
  have first : (requestWithin "east" "first").storageSetUid? = some "first" := by decide +kernel
  have second : (requestWithin "west" "second").storageSetUid? = some "second" := by
    decide +kernel
  rw [first, second]
  rintro uid ⟨⟩ same
  exact absurd (Option.some.inj same) (by decide)

/-- The first storage set has its device already, so its round does not show in the other
namespace. -/
theorem settledRound_unseen :
    (requestWithin "east" "first").DistinctDevices ∧
      (requestWithin "west" "second").DistinctDevices ∧
      let between :=
        ((Hook.storageSet.sync (requestWithin "east" "first") {} .epoch).run oneHolding).2
      ((Hook.storageSet.sync (requestWithin "west" "second") {} .epoch).run between).1 =
        ((Hook.storageSet.sync (requestWithin "west" "second") {} .epoch).run oneHolding).1 := by
  have firstDistinct := requestWithin_distinct "east" "first"
  have secondDistinct := requestWithin_distinct "west" "second"
  obtain ⟨planned, held⟩ :
      ((prepare (requestWithin "east" "first")).toOption.map fun work =>
          (work.owner, work.reservations)) = some ("first", ⟨["disk-1"], ["disk-1"], [], 0⟩) ∧
        oneHolding.holder? "disk-1" = some "first" := by
    decide +kernel
  refine ⟨firstDistinct, secondDistinct, (Hook.sync_storageSet_after_other_iff {} .epoch .epoch
    oneHolding firstDistinct secondDistinct requestWithin_apart rfl rfl).1.2 ?_⟩
  intro work other name disturbs
  exact not_changes_of_plan planned rfl (by simpa using held) disturbs.prepared disturbs.changes

/-- Storage sets of two namespaces, each of which is shown the device of its own: the claim of the
first one keeps the second from the device of that name. -/
theorem claimedName_shows :
    (requestWithin "east" "first").Within "east" ∧ (requestWithin "west" "second").Within "west" ∧
      (requestWithin "east" "first").DistinctDevices ∧
      (requestWithin "west" "second").DistinctDevices ∧
      (∀ uid, (requestWithin "east" "first").storageSetUid? = some uid →
        (requestWithin "west" "second").storageSetUid? ≠ some uid) ∧
      let between :=
        ((Hook.storageSet.sync (requestWithin "east" "first") {} .epoch).run .empty).2
      ((Hook.storageSet.sync (requestWithin "west" "second") {} .epoch).run between).1 ≠
        ((Hook.storageSet.sync (requestWithin "west" "second") {} .epoch).run .empty).1 := by
  refine ⟨requestWithin_within _ _, requestWithin_within _ _, requestWithin_distinct _ _,
    requestWithin_distinct _ _, requestWithin_apart, fun same => ?_⟩
  obtain ⟨refused, reserved⟩ :
      ((Hook.storageSet.sync (requestWithin "west" "second") {} .epoch).run
          ((Hook.storageSet.sync (requestWithin "east" "first") {} .epoch).run
            .empty).2).1.1.attachments.length = 0 ∧
        ((Hook.storageSet.sync (requestWithin "west" "second") {} .epoch).run
          .empty).1.1.attachments.length = 1 := by
    decide +kernel
  rw [same, reserved] at refused
  cases refused

end StorageSetRound
end PoolPlanner
