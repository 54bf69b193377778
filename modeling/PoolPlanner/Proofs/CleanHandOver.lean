import PoolPlanner.Proofs.ChangedEntries
import PoolPlanner.Proofs.CleanUp

/-!
# How a clean-up hands the devices over

A clean-up looks at two things for each attached device, which need not agree: who holds it in the
ledger, and whom its marker names.  What the storage set holds is freed, and what is marked for it
is emitted without the marker; nothing else changes, neither in the ledger nor on the devices.  A
device that is free after this goes to whoever claims it first.
-/

namespace PoolPlanner

structure Table.LosesKey (key : String) (before after : Option (Table String)) : Prop where
  present : after.isSome = before.isSome
  lookUps : ∀ other, (after.bind fun table => table.find? other) =
    if other = key then none else before.bind fun table => table.find? other

theorem Table.losesKey_iff {key : String} {before after : Option (Table String)} :
    Table.LosesKey key before after ↔ after = before.map fun table => table.erase key := by
  constructor
  · rintro ⟨present, lookUps⟩
    cases before with
    | none => simpa using present
    | some table =>
        obtain ⟨left, rfl⟩ := Option.isSome_iff_exists.1 present
        refine congrArg some (Table.ext_find? fun other => ?_)
        rw [Table.find?_erase]
        exact lookUps other
  · rintro rfl
    cases before <;> exact ⟨rfl, by simp⟩

namespace BlockDevice

/-- A device is another one without the marker of a storage set, in everything else the same. -/
structure ClearedFrom (cleared device : BlockDevice) : Prop where
  annotations : Table.LosesKey MarkerKey.storageSet device.metadata.annotations
    cleared.metadata.annotations
  labels : Table.LosesKey MarkerKey.storageSet device.metadata.labels cleared.metadata.labels
  otherMetadata : { cleared.metadata with
    annotations := device.metadata.annotations
    labels := device.metadata.labels } = device.metadata
  spec : cleared.spec = device.spec
  status : cleared.status = device.status

/-- There is one device that has lost its marker and nothing else. -/
theorem clearedFrom_iff {cleared device : BlockDevice} :
    cleared.ClearedFrom device ↔ cleared = device.release := by
  constructor
  · rintro ⟨annotations, labels, otherMetadata, spec, status⟩
    rw [Table.losesKey_iff] at annotations labels
    obtain ⟨clearedMetadata, clearedSpec, clearedStatus⟩ := cleared
    obtain rfl : clearedSpec = device.spec := spec
    obtain rfl : clearedStatus = device.status := status
    have metadata : clearedMetadata = device.metadata.unmark MarkerKey.storageSet := by
      rw [ObjectMeta.unmark, ← annotations, ← labels, ← otherMetadata]
    rw [metadata, release]
  · rintro rfl
    exact ⟨Table.losesKey_iff.2 rfl, Table.losesKey_iff.2 rfl, rfl, rfl, rfl⟩

end BlockDevice

namespace Json

/-- A document is that of a device without its marker, and is read back as that but for fractions
of seconds. -/
def IsClearedOf (document : Json) (device : BlockDevice) : Prop :=
  ∃ cleared : BlockDevice, cleared.ClearedFrom device ∧ document = Resource.encode cleared ∧
    Resource.decode document = .ok cleared.whole

theorem isClearedOf_encode {device : BlockDevice} (fits : device.Fits) :
    (Resource.encode device.release).IsClearedOf device :=
  ⟨device.release, BlockDevice.clearedFrom_iff.2 rfl, rfl, BlockDevice.decode_encode fits.release⟩

end Json

namespace Ledger

variable {ledger : Ledger} {device owner : String}

/-- Whoever claims a device is granted it, whatever the claimant saw. -/
def GrantsAnyone (ledger : Ledger) (device : String) : Prop :=
  ∀ request : ClaimRequest, request.device = device →
    ∃ reservation after, ledger.claim request = (.ok reservation, after) ∧
      after.holder? device = some request.owner

theorem grantsAnyone_iff : ledger.GrantsAnyone device ↔ ledger.holder? device = none := by
  constructor
  · intro grants
    rw [Option.eq_none_iff_forall_ne_some]
    intro holder held
    have elsewhere : holder ≠ holder ++ "-" := fun same => by
      simpa using congrArg String.length same
    obtain ⟨reservation, after, granted, -⟩ := grants { device, owner := holder ++ "-" } rfl
    rw [claim_of_held_elsewhere held elsewhere (by simp)] at granted
    cases granted
  · rintro free request rfl
    have available : ∀ holder ∈ ledger.holder? request.device, holder = request.owner := by
      simp [free]
    obtain ⟨reservation, after, granted, holders⟩ := exists_claim_of_available request available
    exact ⟨reservation, after, granted, by rw [holders, if_pos rfl]⟩

def releaseEach (ledger : Ledger) (owner : String) (names : List String) : Ledger :=
  names.foldl (fun current name => current.release name owner) ledger

theorem find?_releaseEach (ledger : Ledger) (owner : String) (names : List String)
    (name : String) :
    (ledger.releaseEach owner names).entries.find? name =
      if name ∈ names then (ledger.entries.find? name).map fun entry => entry.releasedBy owner
      else ledger.entries.find? name := by
  induction names generalizing ledger with
  | nil => rfl
  | cons first rest ih =>
      rw [releaseEach, List.foldl_cons, ← releaseEach, ih, find?_release]
      -- A name that comes again finds its device released, which changes nothing more.
      by_cases same : name = first
      · subst same
        simp [Function.comp_def, LedgerEntry.releasedBy_releasedBy]
      · simp [same]

theorem map_releasedBy_of_held (held : ledger.holder? device = some owner) :
    ((ledger.entries.find? device).map fun entry => entry.releasedBy owner) =
      (ledger.entries.find? device).map LedgerEntry.freed := by
  unfold holder? entry at held
  cases found : ledger.entries.find? device with
  | none => rfl
  | some entry =>
      rw [found] at held
      exact congrArg some (LedgerEntry.releasedBy_of_held held)

theorem map_releasedBy_of_unheld (unheld : ledger.holder? device ≠ some owner) :
    ((ledger.entries.find? device).map fun entry => entry.releasedBy owner) =
      ledger.entries.find? device := by
  unfold holder? entry at unheld
  cases found : ledger.entries.find? device with
  | none => rfl
  | some entry =>
      rw [found] at unheld
      exact congrArg some (LedgerEntry.releasedBy_of_unheld unheld)

end Ledger

namespace StorageSetRound

variable {owner : String} {devices : List BlockDevice} {request : HookRequest}
  {storageSet : StorageSet}

/-- To look whether a device is held before giving it back comes to giving it back. -/
theorem snd_run_releaseHeld (owner : String) (devices : List BlockDevice) (ledger : Ledger) :
    ((releaseHeld owner devices).run ledger).2 =
      ledger.releaseEach owner (devices.map BlockDevice.name) := by
  induction devices generalizing ledger with
  | nil => rfl
  | cons device rest ih =>
      rw [releaseHeld, LedgerProgram.run, run_release_of_lookUp, LedgerProgram.run_bind]
      rw [List.map_cons, Ledger.releaseEach, List.foldl_cons, ← Ledger.releaseEach, ← ih]
      split <;> rfl

theorem snd_run_finalize (watched : request.watchAs StorageSet = .ok storageSet)
    (identified : storageSet.metadata.uid = some owner)
    (devicesFound : request.attachments.ofKind BlockDevice = .ok devices) (ledger : Ledger) :
    ((finalize request).run ledger).2 =
      ledger.releaseEach owner (devices.map BlockDevice.name) := by
  simp only [finalize, watched, identified, devicesFound]
  rw [LedgerProgram.run_bind]
  exact snd_run_releaseHeld owner devices ledger

/-- What a clean-up comes to for the storage set `owner`, to which some devices are attached. -/
structure HandsOver (owner : String) (devices : List BlockDevice) (before after : Ledger)
    (documents : List Json) : Prop where
  /-- The devices that are marked for the storage set are emitted in their order, without the
  marker. -/
  emitted : List.Forall₂ Json.IsClearedOf documents
    (devices.filter fun device => device.owner? = some owner)
  /-- The entries of the attached devices that the storage set holds become free. -/
  freed : ∀ device ∈ devices, before.holder? device.name = some owner →
    after.holder? device.name = none ∧
      after.entries.find? device.name =
        (before.entries.find? device.name).map LedgerEntry.freed
  /-- Every other entry is as before. -/
  unchanged : ∀ name, (name ∈ devices.map BlockDevice.name → before.holder? name ≠ some owner) →
    after.entries.find? name = before.entries.find? name
  /-- An attached device goes to anyone exactly if nobody but the storage set held it. -/
  open_iff : ∀ device ∈ devices, after.GrantsAnyone device.name ↔
    before.holder? device.name = none ∨ before.holder? device.name = some owner

theorem handsOver_of_releaseEach {before : Ledger} (fits : ∀ device ∈ devices, device.Fits)
    (givenBack : GivenBack owner (devices.map BlockDevice.name) before
      (before.releaseEach owner (devices.map BlockDevice.name))) :
    HandsOver owner devices before (before.releaseEach owner (devices.map BlockDevice.name))
      ((devices.filter fun device => device.isOwnedBy owner).map fun device =>
        Resource.encode device.release) where
  emitted := by
    refine List.forall₂_map_left_iff.2 (List.forall₂_same.2 fun device member => ?_)
    exact Json.isClearedOf_encode (fits device (List.mem_filter.1 member).1)
  freed device attached held := by
    have isAttached : device.name ∈ devices.map BlockDevice.name := List.mem_map_of_mem attached
    refine ⟨by rw [givenBack, if_pos ⟨isAttached, held⟩], ?_⟩
    rw [Ledger.find?_releaseEach, if_pos isAttached, Ledger.map_releasedBy_of_held held]
  unchanged name unheld := by
    rw [Ledger.find?_releaseEach]
    split
    next isAttached => rw [Ledger.map_releasedBy_of_unheld (unheld isAttached)]
    next => rfl
  open_iff device attached := by
    have isAttached : device.name ∈ devices.map BlockDevice.name := List.mem_map_of_mem attached
    rw [Ledger.grantsAnyone_iff, givenBack]
    by_cases held : before.holder? device.name = some owner
    · simp [isAttached, held]
    · simp [held]

end StorageSetRound

/-- A clean-up hands the devices over.  It needs only that the storage set and the attached devices
can be read, and that the storage set has a uid. -/
theorem Hook.sync_finalizing_handsOver {request : HookRequest} {storageSet : StorageSet}
    {owner : String} {devices : List BlockDevice} (finalizing : request.finalizing = true)
    (watched : request.watchAs StorageSet = .ok storageSet)
    (identified : storageSet.metadata.uid = some owner)
    (devicesFound : request.attachments.ofKind BlockDevice = .ok devices)
    (settings : OperatorConfig) (now : Instant) (ledger : Ledger) :
    ∃ documents after,
      (Hook.storageSet.sync request settings now).run ledger =
        (({ attachments := documents }, .finalized), after) ∧
      StorageSetRound.HandsOver owner devices ledger after documents := by
  obtain ⟨after, ran, givenBack⟩ :=
    StorageSetRound.run_finalize watched identified devicesFound ledger
  have released := StorageSetRound.snd_run_finalize watched identified devicesFound ledger
  rw [ran] at released
  obtain rfl : after = _ := released
  refine ⟨_, _, run_sync_finalizing finalizing settings now ledger, ?_⟩
  have finished : Hook.storageSet.finalize request = StorageSetRound.finalize request := rfl
  rw [finished, ran]
  exact StorageSetRound.handsOver_of_releaseEach (Attachments.fits_of_ofKind devicesFound)
    givenBack

namespace StorageSetRound

def markedDevice : BlockDevice :=
  { SharedLedger.onlyDevice with
    metadata := ObjectMeta.mark { name := some "disk-2" } MarkerKey.storageSet "first" }

def heldAndMarked : Table Json :=
  Attachments.stored BlockDevice
    [Resource.encode SharedLedger.onlyDevice, Resource.encode markedDevice]

theorem ofKind_heldAndMarked : (cleanUpOf heldAndMarked).attachments.ofKind BlockDevice =
    .ok [SharedLedger.onlyDevice, markedDevice] := by
  have markedFits : markedDevice.Fits :=
    ⟨(ObjectMeta.fits_new (some "disk-2") none none).mark, by decide⟩
  have stored : heldAndMarked.values =
      [Resource.encode SharedLedger.onlyDevice, Resource.encode markedDevice] := by
    cbv
  rw [cleanUpOf, DeviceStore.ofKind_shown, Attachments.decodeAll_eq_ok_iff, stored]
  exact .cons (BlockDevice.decode_encode DeviceStore.onlyDevice_fits)
    (.cons (BlockDevice.decode_encode markedFits) .nil)

/-- The ledger and the markers disagree about both devices: one of them is freed, the other one is
emitted, and then both are anyone's. -/
theorem heldAndMarked_handedOver :
    (cleanUpOf heldAndMarked).storageSetUid? = some "first" ∧
      oneHolding.holder? "disk-1" = some "first" ∧ oneHolding.holder? "disk-2" = none ∧
      ∃ document after,
        (Hook.storageSet.sync (cleanUpOf heldAndMarked) {} .epoch).run oneHolding =
            (({ attachments := [document] }, .finalized), after) ∧
          document.IsClearedOf markedDevice ∧
          after.GrantsAnyone "disk-1" ∧ after.GrantsAnyone "disk-2" := by
  obtain ⟨identified, held, free⟩ :
      (cleanUpOf heldAndMarked).storageSetUid? = some "first" ∧
        oneHolding.holder? "disk-1" = some "first" ∧ oneHolding.holder? "disk-2" = none := by
    decide +kernel
  obtain ⟨storageSet, watched, isOwner⟩ := exists_watched_of_uid identified
  obtain ⟨documents, after, ran, handedOver⟩ :=
    Hook.sync_finalizing_handsOver rfl watched isOwner ofKind_heldAndMarked {} .epoch oneHolding
  have marked : ([SharedLedger.onlyDevice, markedDevice].filter fun device =>
      device.owner? = some "first") = [markedDevice] := by
    rw [List.filter_cons_of_neg (by decide), List.filter_cons_of_pos (by decide), List.filter_nil]
  have emitted := handedOver.emitted
  rw [marked] at emitted
  obtain ⟨document, isCleared, rfl⟩ : ∃ document, document.IsClearedOf markedDevice ∧
      documents = [document] := by
    cases emitted with
    | cons isCleared rest =>
        cases rest
        exact ⟨_, isCleared, rfl⟩
  refine ⟨identified, held, free, document, after, ran, isCleared, ?_, ?_⟩
  · exact (handedOver.open_iff SharedLedger.onlyDevice (by simp)).2 (.inr held)
  · exact (handedOver.open_iff markedDevice (by simp)).2 (.inl free)

end StorageSetRound
end PoolPlanner
