import Mathlib
import PoolPlanner.Proofs.ExclusiveReservation
import PoolPlanner.Proofs.Orchestration
import PoolPlanner.Proofs.StorageSetEffect
import PoolPlanner.Proofs.StorageSetRun

/-!
# Ledger and markers agree

Storage sets are served one call after the other.  Every call is shown the stored devices, and what
it emits of them is stored before the next.  The operator may start anew in between, which empties
the ledger.  Then whatever the ledger knows of a device is marked on it, and no claim is refused.
-/

namespace PoolPlanner

/-- A storage set is called, or the operator starts anew. -/
inductive Turn
  | call (request : HookRequest) (settings : OperatorConfig) (now : Instant)
  | restart

/-- A call is about a storage set that has a name, and no empty uid. -/
def Turn.Named : Turn → Prop
  | .call request _ _ => ∀ storageSet, request.watchAs StorageSet = .ok storageSet →
      (∃ name, storageSet.metadata.name = some name) ∧ storageSet.metadata.uid ≠ some ""
  | .restart => True

@[simp]
theorem Turn.named_restart : Turn.restart.Named :=
  trivial

/-- The documents of all devices, and the ledger. -/
structure DeviceStore where
  documents : Table Json
  ledger : Ledger := .empty

namespace DeviceStore

/-- A request in which the stored devices are attached. -/
def shown (store : DeviceStore) (request : HookRequest) : HookRequest :=
  { request with
    attachments := request.attachments.insert (Resource.groupKey BlockDevice) store.documents }

/-- What a call does that is shown the stored devices. -/
def program (store : DeviceStore) (request : HookRequest) (settings : OperatorConfig)
    (now : Instant) : LedgerProgram (HookResponse × Outcome) :=
  Hook.storageSet.sync (store.shown request) settings now

/-- What a turn leads to; the devices that a call emits are stored. -/
def step (store : DeviceStore) : Turn → DeviceStore
  | .call request settings now =>
      let called := (store.program request settings now).run store.ledger
      { documents := store.documents.mapValues (Json.replacedFrom called.1.1.attachments)
        ledger := called.2 }
  | .restart => { store with ledger := .empty }

/-- The store at a moment of a run that starts from some documents and an empty ledger: after that
many of its turns. -/
def storeAt (documents : Table Json) (turns : List Turn) (moment : Nat) : DeviceStore :=
  (turns.take moment).foldl step { documents }

/-- What the ledger knows of a device is marked on it. -/
structure Agrees (store : DeviceStore) (devices : List BlockDevice) : Prop where
  stored : Attachments.decodeAll BlockDevice store.documents.values = .ok devices
  distinct : (devices.map BlockDevice.name).Nodup
  marked : ∀ name holder, store.ledger.holder? name = some holder →
    ∃ device ∈ devices, device.name = name ∧ device.owner? = some holder

variable {store : DeviceStore} {devices : List BlockDevice} {request : HookRequest}

theorem Agrees.holder?_cases (agrees : store.Agrees devices) {device : BlockDevice}
    (member : device ∈ devices) {owner : String} (owned : device.owner? = some owner) :
    store.ledger.holder? device.name = some owner ∨ store.ledger.holder? device.name = none := by
  cases held : store.ledger.holder? device.name with
  | none => exact .inr rfl
  | some holder =>
      obtain ⟨other, otherMem, sameName, marked⟩ := agrees.marked device.name holder held
      obtain rfl : other = device :=
        List.inj_on_of_nodup_map agrees.distinct otherMem member sameName
      exact .inl (marked.symm.trans owned)

theorem Agrees.isOpenTo {work : StorageSetRound.Work} (agrees : store.Agrees work.devices)
    (planned : work.WellPlanned) :
    ∀ name ∈ work.reservations.reserved, store.ledger.isOpenTo work.owner name = true := by
  intro name reserved
  obtain ⟨device, attached, rfl, unowned⟩ := planned.exists_device reserved
  refine Ledger.isOpenTo_iff.2 fun holder held => ?_
  obtain ⟨other, otherMem, sameName, marked⟩ := agrees.marked device.name holder held
  obtain rfl : other = device :=
    List.inj_on_of_nodup_map planned.distinct otherMem attached sameName
  exact unowned holder marked

/-- Whoever holds a device after some work was carried out is marked on it as written. -/
theorem Agrees.marked_after_work {work : StorageSetRound.Work} (agrees : store.Agrees work.devices)
    (planned : work.WellPlanned) (identified : work.owner ≠ "") {name holder : String}
    (held : work.holderAfter? store.ledger name = some holder) :
    ∃ device ∈ work.devices, device.name = name ∧
      (device.replacedBy (work.written store.ledger)).owner? = some holder := by
  unfold StorageSetRound.Work.holderAfter? at held
  split at held
  next granted =>
    obtain rfl := Option.some.inj held
    have reserved := (StorageSetRound.Work.mem_grantedNames.1 granted).1
    obtain ⟨device, attached, rfl, -⟩ := planned.exists_device reserved
    obtain ⟨other, otherMem, sameName, replaced⟩ :=
      BlockDevice.exists_replacedBy (planned.mem_names_written.2 (.inl granted))
    refine ⟨device, attached, rfl, ?_⟩
    rw [replaced, BlockDevice.owner?_whole]
    rcases planned.mem_written.1 otherMem with
      ⟨original, -, -, rfl⟩ | ⟨original, -, released, rfl⟩
    · rw [BlockDevice.owner?_reserve, if_neg identified]
    · rw [BlockDevice.name_release] at sameName
      exact absurd reserved ((planned.release_iff device.name).1 (sameName ▸ released)).2
  next notGranted =>
    split at held
    next => cases held
    next notFreed =>
      obtain ⟨device, attached, rfl, marked⟩ := agrees.marked name holder held
      refine ⟨device, attached, rfl, ?_⟩
      rw [BlockDevice.replacedBy_of_notMem]
      · exact marked
      · rw [planned.mem_names_written]
        rintro (granted | released)
        · exact notGranted granted
        · obtain ⟨⟨other, otherMem, owned, sameName⟩, -⟩ :=
            (planned.release_iff device.name).1 released
          obtain rfl : other = device :=
            List.inj_on_of_nodup_map planned.distinct otherMem attached sameName
          obtain rfl := Option.some.inj (marked.symm.trans owned)
          exact notFreed ⟨released, held⟩

theorem Agrees.marked_after_finalize (agrees : store.Agrees devices) {owner : String}
    {after : Ledger}
    (givenBack : StorageSetRound.GivenBack owner (devices.map BlockDevice.name) store.ledger after)
    {name holder : String} (held : after.holder? name = some holder) :
    ∃ device ∈ devices, device.name = name ∧
      (device.replacedBy ((devices.filter fun device => device.isOwnedBy owner).map
        BlockDevice.release)).owner? = some holder := by
  rw [givenBack] at held
  split at held
  next => cases held
  next kept =>
    obtain ⟨device, attached, rfl, marked⟩ := agrees.marked name holder held
    refine ⟨device, attached, rfl, ?_⟩
    rw [BlockDevice.replacedBy_of_notMem]
    · exact marked
    · intro written
      obtain ⟨released, releasedMem, sameName⟩ := List.mem_map.1 written
      obtain ⟨other, otherMem, rfl⟩ := List.mem_map.1 releasedMem
      obtain ⟨otherAttached, owned⟩ := List.mem_filter.1 otherMem
      obtain rfl : other = device :=
        List.inj_on_of_nodup_map agrees.distinct otherAttached attached sameName
      have holderIsOwner := (of_decide_eq_true owned).symm.trans marked
      exact kept ⟨List.mem_map_of_mem attached, held.trans holderIsOwner.symm⟩

/-- A program that is granted all its claims.  It emits written devices and disk claims, and whoever
holds a device afterwards is marked on it as written. -/
structure Keeps (devices : List BlockDevice) (program : LedgerProgram (HookResponse × Outcome))
    (ledger : Ledger) : Prop where
  granted : program.ClaimsGranted ledger
  emits : ∃ (written : List BlockDevice) (claims : List DiskClaim),
    (program.run ledger).1.1.attachments =
      written.map Resource.encode ++ claims.map Resource.encode ∧
    (∀ device ∈ written, device.Fits) ∧
    ∀ name holder, (program.run ledger).2.holder? name = some holder →
      ∃ device ∈ devices, device.name = name ∧ (device.replacedBy written).owner? = some holder

theorem Agrees.keeps_of_idle (agrees : store.Agrees devices)
    {program : LedgerProgram (HookResponse × Outcome)}
    (granted : program.ClaimsGranted store.ledger)
    (silent : (program.run store.ledger).1.1.attachments = [])
    (unchanged : (program.run store.ledger).2 = store.ledger) :
    Keeps devices program store.ledger := by
  refine ⟨granted, [], [], silent, by simp, fun name holder held => ?_⟩
  rw [unchanged] at held
  exact agrees.marked name holder held

theorem ofKind_shown (store : DeviceStore) (request : HookRequest) :
    (store.shown request).attachments.ofKind BlockDevice =
      Attachments.decodeAll BlockDevice store.documents.values := by
  simp [shown, Attachments.ofKind]

theorem Agrees.eq_of_ofKind (agrees : store.Agrees devices) {attached : List BlockDevice}
    (found : (store.shown request).attachments.ofKind BlockDevice = .ok attached) :
    attached = devices := by
  rw [ofKind_shown, agrees.stored] at found
  exact (Except.ok.inj found).symm

theorem Agrees.keeps_finalize (agrees : store.Agrees devices) (settings : OperatorConfig)
    (now : Instant) (finalizing : (store.shown request).finalizing = true) :
    Keeps devices (store.program request settings now) store.ledger := by
  have granted : (store.program request settings now).ClaimsGranted store.ledger :=
    Hook.sync_claimsGranted_of_finalizing settings now finalizing
      (StorageSetRound.finalize_claimsGranted _ _)
  have ran : (store.program request settings now).run store.ledger = _ :=
    Hook.run_sync_finalizing finalizing settings now store.ledger
  rw [Hook.finalize] at ran
  rcases StorageSetRound.finalize_cases (store.shown request) with
    ⟨result, idle, silent⟩ | ⟨storageSet, owner, attached, watched, identified, found⟩
  · rw [idle] at ran
    exact agrees.keeps_of_idle granted (by rw [ran]; exact silent) (by rw [ran]; rfl)
  · obtain rfl := agrees.eq_of_ofKind found
    have fits : ∀ device ∈ attached, device.Fits := by
      intro device member
      obtain ⟨document, -, decoded⟩ := Attachments.exists_document_of_mem found member
      exact BlockDevice.fits_of_decode decoded
    obtain ⟨after, cleaned, givenBack⟩ :=
      StorageSetRound.run_finalize watched identified found store.ledger
    rw [cleaned] at ran
    refine ⟨granted, (attached.filter fun device => device.isOwnedBy owner).map
      BlockDevice.release, [], ?_, ?_, fun name holder held => ?_⟩
    · rw [ran]
      simp [Except.toOption]
    · exact List.forall_mem_map.2 fun device member =>
        (fits device (List.mem_of_mem_filter member)).release
    · rw [ran] at held
      exact agrees.marked_after_finalize givenBack held

theorem Agrees.keeps_reconcile (agrees : store.Agrees devices) (settings : OperatorConfig)
    (now : Instant) (going : (store.shown request).finalizing = false)
    (named : (Turn.call request settings now).Named) :
    Keeps devices (store.program request settings now) store.ledger := by
  have distinct : (store.shown request).DistinctDevices := fun attached found =>
    agrees.eq_of_ofKind found ▸ agrees.distinct
  have ran : (store.program request settings now).run store.ledger = _ :=
    Hook.run_sync going settings now store.ledger
  have granted (ofRun : (StorageSetRound.run (store.shown request)).ClaimsGranted store.ledger) :
      (store.program request settings now).ClaimsGranted store.ledger :=
    Hook.sync_claimsGranted now going ofRun
  rw [Hook.reconcile] at ran
  unfold StorageSetRound.run at ran granted
  cases prepared : StorageSetRound.prepare (store.shown request) with
  | error fault =>
      rw [prepared] at ran granted
      -- Such a fault comes up before the first claim.
      refine agrees.keeps_of_idle (granted trivial) ?_ (by rw [ran]; rfl)
      rw [ran]
      rcases Hook.answer_cases .storageSet (store.shown request) settings now (.error fault) with
        ⟨attachments, applied, -⟩ | ⟨silent, -⟩
      · cases applied
      · exact silent
  | ok work =>
      rw [prepared] at ran granted
      have planned := StorageSetRound.wellPlanned_of_prepare distinct prepared
      obtain ⟨storageSet, owner, plan, config, attached, minBytes, reservations, watched,
        identified, -, -, found, -, -, rfl⟩ := StorageSetRound.prepare_eq_ok_iff.1 prepared
      obtain rfl := agrees.eq_of_ofKind found
      obtain ⟨⟨name, isNamed⟩, nonempty⟩ := named storageSet watched
      have ownerNonempty : owner ≠ "" := by
        rintro rfl
        exact nonempty identified
      -- Only disk claims can still fail, and they do not, since the storage set has a name.
      obtain ⟨claims, claimed⟩ := StorageSetRound.exists_diskClaims isNamed identified owner
      obtain ⟨after, performed, holders⟩ := StorageSetRound.run_perform planned store.ledger
      rw [performed, claimed] at ran
      refine ⟨granted (StorageSetRound.perform_claimsGranted planned (agrees.isOpenTo planned)),
        _, claims, by rw [ran]; rfl, planned.fits_written store.ledger, fun name holder held => ?_⟩
      rw [ran] at held
      exact agrees.marked_after_work planned ownerNonempty ((holders name).symm.trans held)

theorem Agrees.keeps (agrees : store.Agrees devices) {settings : OperatorConfig} {now : Instant}
    (named : (Turn.call request settings now).Named) :
    Keeps devices (store.program request settings now) store.ledger := by
  cases finalizing : request.finalizing with
  | true => exact agrees.keeps_finalize settings now finalizing
  | false => exact agrees.keeps_reconcile settings now finalizing named

theorem Agrees.step (agrees : store.Agrees devices) {turn : Turn} (named : turn.Named) :
    ∃ next, (store.step turn).Agrees next ∧
      next.map BlockDevice.name = devices.map BlockDevice.name := by
  cases turn with
  | restart =>
      refine ⟨devices, ⟨agrees.stored, agrees.distinct, fun name holder held => ?_⟩, rfl⟩
      simp [DeviceStore.step, Ledger.holder?, Ledger.entry, Ledger.empty] at held
  | call request settings now =>
      obtain ⟨written, claims, emitted, fits, marked⟩ := (agrees.keeps named).emits
      have sameNames : (devices.map (BlockDevice.replacedBy written)).map BlockDevice.name =
          devices.map BlockDevice.name := by
        simp [Function.comp_def]
      refine ⟨devices.map (BlockDevice.replacedBy written), ⟨?_, ?_, ?_⟩, sameNames⟩
      · have decoded := Attachments.decodeAll_eq_ok_iff.1 agrees.stored
        simp only [DeviceStore.step, emitted]
        rw [Table.values_mapValues, Attachments.decodeAll_eq_ok_iff, List.forall₂_map_left_iff,
          List.forall₂_map_right_iff]
        exact decoded.imp fun document device =>
          Json.decode_replacedFrom_written fits claims
      · rw [sameNames]
        exact agrees.distinct
      · intro name holder held
        obtain ⟨device, attached, sameName, nowMarked⟩ := marked name holder held
        exact ⟨device.replacedBy written, List.mem_map_of_mem attached,
          BlockDevice.name_replacedBy.trans sameName, nowMarked⟩

theorem Agrees.foldl_step (agrees : store.Agrees devices) {turns : List Turn}
    (named : ∀ turn ∈ turns, turn.Named) :
    ∃ current, (turns.foldl DeviceStore.step store).Agrees current ∧
      current.map BlockDevice.name = devices.map BlockDevice.name := by
  induction turns generalizing store devices with
  | nil => exact ⟨devices, agrees, rfl⟩
  | cons turn rest ih =>
      obtain ⟨turnNamed, restNamed⟩ := List.forall_mem_cons.1 named
      obtain ⟨next, nextAgrees, nextNames⟩ := agrees.step turnNamed
      obtain ⟨current, currentAgrees, currentNames⟩ := ih nextAgrees restNamed
      exact ⟨current, currentAgrees, currentNames.trans nextNames⟩

/-- At every moment of a run with restarts: the ledger's holder of a device is the marked one, a
marked owner is the ledger's holder or the ledger has none, and a call made at that moment is
granted all its claims. -/
theorem ledger_agrees_with_markers (documents : Table Json) (devices : List BlockDevice)
    (stored : Attachments.decodeAll BlockDevice documents.values = .ok devices)
    (distinct : (devices.map BlockDevice.name).Nodup) (turns : List Turn)
    (named : ∀ turn ∈ turns, turn.Named) (moment : Nat) :
    ∃ current : List BlockDevice,
      Attachments.decodeAll BlockDevice (storeAt documents turns moment).documents.values =
        .ok current ∧
      current.map BlockDevice.name = devices.map BlockDevice.name ∧
      (∀ name holder, (storeAt documents turns moment).ledger.holder? name = some holder →
        ∃ device ∈ current, device.name = name ∧ device.owner? = some holder) ∧
      (∀ device ∈ current, ∀ owner, device.owner? = some owner →
        (storeAt documents turns moment).ledger.holder? device.name = some owner ∨
          (storeAt documents turns moment).ledger.holder? device.name = none) ∧
      ∀ request settings now, turns[moment]? = some (.call request settings now) →
        ((storeAt documents turns moment).program request settings now).ClaimsGranted
          (storeAt documents turns moment).ledger := by
  have initially : (DeviceStore.mk documents .empty).Agrees devices := by
    refine ⟨stored, distinct, fun name holder held => ?_⟩
    simp [Ledger.holder?, Ledger.entry, Ledger.empty] at held
  obtain ⟨current, agrees, names⟩ := initially.foldl_step fun turn member =>
    named turn (List.mem_of_mem_take member)
  refine ⟨current, agrees.stored, names, agrees.marked,
    fun device member owner => agrees.holder?_cases member, ?_⟩
  intro request settings now next
  exact (agrees.keeps (named _ (List.mem_of_getElem? next))).granted

/-- A request about a storage set with some uid that asks for one device of a node. -/
def requestFor (uid node : String) (finalizing : Bool) : HookRequest :=
  let storageSet : StorageSet :=
    { metadata := ObjectMeta.mark { name := some uid, uid := some uid } MarkerKey.clusterPlan "plan"
      spec := { node := ⟨node, node⟩, disk := ⟨"1Gi", 1⟩ } }
  let plan : ClusterPlan :=
    { metadata := ObjectMeta.mark { uid := some "plan" } MarkerKey.clusterConfig "config"
      spec := {} }
  let config : ClusterConfig := { metadata := { uid := some "config" }, spec := {} }
  { watch := Resource.encode storageSet
    attachments := (Attachments.attach .empty plan).attach config
    finalizing }

/-- A request that is shown one device. -/
def showing (request : HookRequest) (device : BlockDevice) : HookRequest :=
  (DeviceStore.mk (Attachments.stored BlockDevice [Resource.encode device]) .empty).shown request

theorem ofKind_showing (request : HookRequest) {device : BlockDevice} (fits : device.Fits) :
    (showing request device).attachments.ofKind BlockDevice = .ok [device.whole] := by
  have decoded : Resource.decode (Resource.encode device) = .ok device.whole :=
    BlockDevice.decode_encode fits
  rw [showing, ofKind_shown, Attachments.decodeAll_eq_ok_iff]
  exact .cons decoded .nil

theorem onlyDevice_fits : SharedLedger.onlyDevice.Fits :=
  ⟨ObjectMeta.fits_new (some "disk-1") none none, by decide⟩

theorem showing_distinct (request : HookRequest) {device : BlockDevice} (fits : device.Fits) :
    (showing request device).DistinctDevices := by
  intro devices found
  obtain rfl := Except.ok.inj ((ofKind_showing request fits).symm.trans found)
  simp

theorem requestFor_named {uid : String} (nonempty : uid ≠ "") (node : String)
    (finalizing : Bool) : (Turn.call (requestFor uid node finalizing) {} .epoch).Named := by
  intro storageSet watched
  have fits : (ObjectMeta.mark { name := some uid, uid := some uid } MarkerKey.clusterPlan
      "plan").Fits :=
    ((ObjectMeta.fits_new (some uid) none none).withUid uid).mark
  have oneFits : Json.FitsInt64 1 := ⟨by decide, by decide⟩
  have decoded : (requestFor uid node finalizing).watchAs StorageSet = .ok _ :=
    HookRequest.watchAs_eq_ok rfl (StorageSet.decode_encode fits oneFits rfl)
  obtain rfl := Except.ok.inj (decoded.symm.trans watched)
  exact ⟨⟨uid, rfl⟩, by simpa using nonempty⟩

/-- The only device is reserved, and its storage set is cleaned up after the operator has started
anew; then it goes to a second storage set. -/
def handedOver : List Turn :=
  [.call (requestFor "first" "node-1" false) {} .epoch, .restart,
    .call (requestFor "second" "node-1" false) {} .epoch,
    .call (requestFor "first" "node-1" true) {} .epoch,
    .call (requestFor "second" "node-1" false) {} .epoch]

def onlyDocument : Table Json :=
  Attachments.stored BlockDevice [Resource.encode SharedLedger.onlyDevice]

/-- In the end the device is with the second storage set, in the ledger and by its marker. -/
theorem handedOver_agrees :
    Attachments.decodeAll BlockDevice onlyDocument.values = .ok [SharedLedger.onlyDevice] ∧
      (∀ turn ∈ handedOver, turn.Named) ∧
      (storeAt onlyDocument handedOver 5).ledger.holder? "disk-1" = some "second" ∧
      ∃ current : List BlockDevice,
        Attachments.decodeAll BlockDevice (storeAt onlyDocument handedOver 5).documents.values =
          .ok current ∧
        ∃ device ∈ current, device.name = "disk-1" ∧ device.owner? = some "second" := by
  have stored : Attachments.decodeAll BlockDevice onlyDocument.values =
      .ok [SharedLedger.onlyDevice] := by
    cbv
  have named : ∀ turn ∈ handedOver, turn.Named := by
    have calls (uid : String) (nonempty : uid ≠ "") (finalizing : Bool) :=
      requestFor_named nonempty "node-1" finalizing
    simp [handedOver, calls]
  have secondHolds :
      (storeAt onlyDocument handedOver 5).ledger.holder? "disk-1" = some "second" := by
    decide +kernel
  obtain ⟨current, decoded, -, marked, -⟩ :=
    ledger_agrees_with_markers onlyDocument _ stored (by simp) handedOver named 5
  exact ⟨stored, named, secondHolds, current, decoded, marked "disk-1" "second" secondHolds⟩

end DeviceStore
end PoolPlanner
