import PoolPlanner.Proofs.Attachments
import PoolPlanner.Proofs.LedgerPrograms
import PoolPlanner.Proofs.Reservations
import PoolPlanner.Proofs.ResourceCodec
import PoolPlanner.Proofs.Sync

/-!
# What a call of the storage set hook does in the ledger

A call acts for the storage set that it is about, and every reservation that it emits is for a
device that the ledger granted to it.
-/

namespace PoolPlanner

namespace HookRequest

/-- The uid of the storage set that a request is about. -/
def storageSetUid? (request : HookRequest) : Option String :=
  match request.watchAs StorageSet with
  | .ok storageSet => storageSet.metadata.uid
  | .error _ => none

/-- The attached block devices have distinct names. -/
def DistinctDevices (request : HookRequest) : Prop :=
  ∀ devices, request.attachments.ofKind BlockDevice = .ok devices →
    (devices.map BlockDevice.name).Nodup

end HookRequest

/-- A document is a block device that is reserved for a storage set. -/
def Json.Reserves (document : Json) (device owner : String) : Prop :=
  document.member? "kind" = some (.string (Resource.kind BlockDevice)) ∧
    ∃ found : BlockDevice, Resource.decode document = .ok found ∧ found.name = device ∧
      found.owner? = some owner

/-- Every reservation among some documents is for one storage set and was granted. -/
def Backed (owner : Option String) (granted : List String) (documents : List Json) : Prop :=
  ∀ document ∈ documents, ∀ device holder, document.Reserves device holder →
    owner = some holder ∧ device ∈ granted

section Documents

variable {owner : Option String} {granted : List String}

theorem backed_nil : Backed owner granted [] := by
  simp [Backed]

theorem backed_cons_iff {document : Json} {documents : List Json} :
    Backed owner granted (document :: documents) ↔
      (∀ device holder, document.Reserves device holder →
        owner = some holder ∧ device ∈ granted) ∧ Backed owner granted documents :=
  List.forall_mem_cons

theorem Backed.append {first second : List Json} (firstBacked : Backed owner granted first)
    (secondBacked : Backed owner granted second) : Backed owner granted (first ++ second) := by
  intro document member
  rcases List.mem_append.1 member with inFirst | inSecond
  · exact firstBacked document inFirst
  · exact secondBacked document inSecond

/-- The document of a reserved device reserves that device for its new owner only. -/
theorem reserves_reserve {device : BlockDevice} (fits : device.Fits) {uid name holder : String}
    (reserves : (Resource.encode (device.reserve uid)).Reserves name holder) :
    uid = holder ∧ device.name = name := by
  obtain ⟨-, found, decoded, named, owned⟩ := reserves
  rw [BlockDevice.decode_encode fits.reserve] at decoded
  obtain rfl := Except.ok.inj decoded
  refine ⟨?_, named⟩
  rw [BlockDevice.owner?_whole, BlockDevice.owner?_reserve] at owned
  split at owned
  next => simp at owned
  next => exact Option.some.inj owned

theorem not_reserves_release {device : BlockDevice} (fits : device.Fits) (name holder : String) :
    ¬ (Resource.encode device.release).Reserves name holder := by
  rintro ⟨-, found, decoded, -, owned⟩
  rw [BlockDevice.decode_encode fits.release] at decoded
  obtain rfl := Except.ok.inj decoded
  simp at owned

theorem not_reserves_diskClaim (claim : DiskClaim) (name holder : String) :
    ¬ (Resource.encode claim).Reserves name holder := by
  rintro ⟨kind, -⟩
  have kindEq : (Resource.encode claim).member? "kind" =
      some (.string "PersistentVolumeClaim") := rfl
  rw [kindEq] at kind
  have different : "PersistentVolumeClaim" ≠ Resource.kind BlockDevice := by decide
  exact different (by simpa using kind)

end Documents

theorem Attachments.fits_of_ofKind {attachments : Attachments} {devices : List BlockDevice}
    (attached : attachments.ofKind BlockDevice = .ok devices) :
    ∀ device ∈ devices, device.Fits := by
  intro device member
  obtain ⟨document, -, decoded⟩ := exists_document_of_mem attached member
  exact BlockDevice.fits_of_decode decoded

namespace StorageSetRound

variable {owner : String} {devices : List BlockDevice}

/-- Claiming devices that are free or the storage set's own acts for it, and each emitted
reservation was granted. -/
theorem claimAll_actsFor (fits : ∀ device ∈ devices, device.Fits) {names : List String}
    (available : ∀ name ∈ names, ∀ device, BlockDevice.lastNamed? devices name = some device →
      ∀ holder ∈ device.owner?, holder = owner) (granted : List String) :
    (claimAll owner devices names).ActsFor (some owner)
      (fun final documents => granted ⊆ final ∧ Backed (some owner) final documents) granted := by
  induction names generalizing granted with
  | nil => exact ⟨List.Subset.refl _, backed_nil⟩
  | cons name rest ih =>
      obtain ⟨headAvailable, restAvailable⟩ := List.forall_mem_cons.1 available
      unfold claimAll
      split
      next => exact ih restAvailable granted
      next device found =>
        refine ⟨rfl, headAvailable device found, fun _ => ih restAvailable granted, fun _ => ?_⟩
        refine (ih restAvailable (name :: granted)).bind fun final documents => ?_
        rintro ⟨included, backed⟩
        refine ⟨fun other member => included (List.mem_cons_of_mem name member),
          backed_cons_iff.2 ⟨fun reservedName holder reserves => ?_, backed⟩⟩
        have deviceMem := List.mem_reverse.1 (List.mem_of_find?_eq_some found)
        have named : device.name = name := by simpa using List.find?_some found
        obtain ⟨rfl, rfl⟩ := reserves_reserve (fits device deviceMem) reserves
        exact ⟨rfl, named ▸ included List.mem_cons_self⟩

/-- Giving devices back acts for the storage set and emits no reservation. -/
theorem releaseAll_actsFor (fits : ∀ device ∈ devices, device.Fits) (names granted : List String) :
    (releaseAll owner devices names).ActsFor (some owner)
      (fun final documents => final = granted ∧ Backed (some owner) final documents) granted := by
  induction names with
  | nil => exact ⟨rfl, backed_nil⟩
  | cons name rest ih =>
      refine ⟨rfl, ih.bind ?_⟩
      rintro final documents ⟨rfl, backed⟩
      split
      next => exact ⟨rfl, backed⟩
      next device found =>
        have deviceMem := List.mem_reverse.1 (List.mem_of_find?_eq_some found)
        exact ⟨rfl, backed_cons_iff.2 ⟨fun name holder reserves =>
          absurd reserves (not_reserves_release (fits device deviceMem) name holder), backed⟩⟩

theorem releaseHeld_actsFor (fits : ∀ device ∈ devices, device.Fits) (granted : List String) :
    (releaseHeld owner devices).ActsFor (some owner) (Backed (some owner)) granted := by
  induction devices with
  | nil => exact backed_nil
  | cons device rest ih =>
      obtain ⟨headFits, restFits⟩ := List.forall_mem_cons.1 fits
      have goOn : (do
          let documents ← releaseHeld owner rest
          if device.isOwnedBy owner then
            pure (Resource.encode device.release :: documents)
          else
            pure documents).ActsFor (some owner) (Backed (some owner)) granted := by
        refine (ih restFits).bind fun final documents backed => ?_
        split
        next => exact backed_cons_iff.2 ⟨fun name holder reserves =>
            absurd reserves (not_reserves_release headFits name holder), backed⟩
        next => exact backed
      unfold releaseHeld
      revert goOn
      generalize (do
          let documents ← releaseHeld owner rest
          if device.isOwnedBy owner then
            pure (Resource.encode device.release :: documents)
          else
            pure documents) = program
      intro goOn answer
      show (if _ then LedgerProgram.release device.name owner program else program).ActsFor _ _ _
      split
      next => exact ⟨rfl, goOn⟩
      next => exact goOn

/-- What a storage set asks of the devices. -/
def requestOf (storageSet : StorageSet) (owner : String) (config : ClusterConfig)
    (minBytes : Nat) : ReservationRequest where
  owner := owner
  node := storageSet.spec.node.name
  selector := config.spec.disk.localDiskSelector
  minBytes := minBytes
  desiredCount := storageSet.desiredDiskCount

theorem prepare_eq_ok_iff {request : HookRequest} {work : Work} :
    prepare request = .ok work ↔
      ∃ storageSet owner plan config devices minBytes reservations,
        request.watchAs StorageSet = .ok storageSet ∧ storageSet.metadata.uid = some owner ∧
        request.planOf storageSet = .ok plan ∧ request.configOf plan = .ok config ∧
        request.attachments.ofKind BlockDevice = .ok devices ∧
        Capacity.bytes storageSet.spec.disk.capacity = .ok minBytes ∧
        (requestOf storageSet owner config minBytes).plan devices = .ok reservations ∧
        { storageSet, owner, devices, reservations } = work := by
  simp only [prepare, bind_eq_ok_iff, pure_eq_ok_iff, Resource.uid_eq_ok_iff]
  constructor
  · rintro ⟨storageSet, watched, owner, identified, plan, planFound, config, configFound, devices,
      devicesFound, minBytes, capacity, reservations, planned, rfl⟩
    exact ⟨storageSet, owner, plan, config, devices, minBytes, reservations, watched, identified,
      planFound, configFound, devicesFound, capacity, planned, rfl⟩
  · rintro ⟨storageSet, owner, plan, config, devices, minBytes, reservations, watched, identified,
      planFound, configFound, devicesFound, capacity, planned, rfl⟩
    exact ⟨storageSet, watched, owner, identified, plan, planFound, config, configFound, devices,
      devicesFound, minBytes, capacity, reservations, planned, rfl⟩

theorem attached_of_prepare {request : HookRequest} {work : Work}
    (prepared : prepare request = .ok work) :
    request.attachments.ofKind BlockDevice = .ok work.devices := by
  obtain ⟨storageSet, owner, plan, config, devices, minBytes, reservations, -, -, -, -, attached, -,
    -, rfl⟩ := prepare_eq_ok_iff.1 prepared
  exact attached

/-- What was worked out for a request is worked out for its storage set, from devices that were
decoded, and takes nothing from another storage set. -/
theorem acts_of_prepare {request : HookRequest} (distinct : request.DistinctDevices) {work : Work}
    (prepared : prepare request = .ok work) :
    request.storageSetUid? = some work.owner ∧ (∀ device ∈ work.devices, device.Fits) ∧
      ∀ name ∈ work.reservations.reserved, ∀ device,
        BlockDevice.lastNamed? work.devices name = some device →
          ∀ holder ∈ device.owner?, holder = work.owner := by
  obtain ⟨storageSet, owner, plan, config, devices, minBytes, reservations, watched, identified, -,
    -, devicesFound, -, planned, rfl⟩ := prepare_eq_ok_iff.1 prepared
  refine ⟨by simp [HookRequest.storageSetUid?, watched, identified],
    Attachments.fits_of_ofKind devicesFound, fun name member device found => ?_⟩
  exact ReservationRequest.owner?_of_mem_reserved (distinct devices devicesFound) planned member
    found

/-- A round that applies attachments has been granted every reservation among them. -/
def AppliesBacked (owner : Option String) (granted : List String)
    (result : Except Fault RoundResult) : Prop :=
  ∀ attachments, result = .ok (.apply attachments) → Backed owner granted attachments

theorem perform_actsFor {work : Work} (fits : ∀ device ∈ work.devices, device.Fits)
    (available : ∀ name ∈ work.reservations.reserved, ∀ device,
      BlockDevice.lastNamed? work.devices name = some device →
        ∀ holder ∈ device.owner?, holder = work.owner) :
    (perform work).ActsFor (some work.owner) (AppliesBacked (some work.owner)) [] := by
  refine (claimAll_actsFor fits available []).bind fun granted reserved => ?_
  rintro ⟨-, reservedBacked⟩
  refine (releaseAll_actsFor fits _ granted).bind fun final released => ?_
  rintro ⟨rfl, releasedBacked⟩
  intro attachments applied
  obtain ⟨claims, -, same⟩ := map_eq_ok_iff.1 applied
  obtain rfl := RoundResult.apply.inj same
  refine (reservedBacked.append releasedBacked).append fun document member => ?_
  obtain ⟨claim, -, rfl⟩ := List.mem_map.1 member
  exact fun name holder reserves => absurd reserves (not_reserves_diskClaim claim name holder)

theorem run_actsFor {request : HookRequest} (distinct : request.DistinctDevices) :
    (run request).ActsFor request.storageSetUid? (AppliesBacked request.storageSetUid?) [] := by
  unfold run
  cases prepared : prepare request with
  | error fault =>
      intro attachments applied
      simp at applied
  | ok work =>
      obtain ⟨owned, fits, available⟩ := acts_of_prepare distinct prepared
      rw [owned]
      exact perform_actsFor fits available

theorem finalize_actsFor (request : HookRequest) :
    (finalize request).ActsFor request.storageSetUid?
      (fun granted result => ∀ documents, result = .ok documents →
        Backed request.storageSetUid? granted documents) [] := by
  unfold finalize HookRequest.storageSetUid?
  cases request.watchAs StorageSet with
  | error fault =>
      intro documents finished
      simp at finished
  | ok storageSet =>
      simp only
      cases storageSet.metadata.uid with
      | none =>
          intro documents finished
          obtain rfl := Except.ok.inj finished
          exact backed_nil
      | some owner =>
          cases found : request.attachments.ofKind BlockDevice with
          | error fault =>
              intro documents finished
              simp at finished
          | ok devices =>
              have fits := Attachments.fits_of_ofKind found
              refine (releaseHeld_actsFor fits []).bind fun granted documents backed => ?_
              intro others finished
              obtain rfl := Except.ok.inj finished
              exact backed

end StorageSetRound

/-- A call of the storage set hook acts for its storage set, and each reservation that it answers
with was granted. -/
theorem Hook.sync_storageSet_actsFor {request : HookRequest} (settings : OperatorConfig)
    (now : Instant) (distinct : request.DistinctDevices) :
    (storageSet.sync request settings now).ActsFor request.storageSetUid?
      (fun granted answered =>
        Backed request.storageSetUid? granted answered.1.attachments) [] := by
  unfold sync
  split
  next =>
    refine (StorageSetRound.finalize_actsFor request).bind fun granted result backed => ?_
    cases result with
    | error fault => exact backed_nil
    | ok attachments => exact backed attachments rfl
  next =>
    refine (StorageSetRound.run_actsFor distinct).bind fun granted result backed => ?_
    exact attachments_answer backed_nil backed

end PoolPlanner
