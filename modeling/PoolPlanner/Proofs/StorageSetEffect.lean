import PoolPlanner.Proofs.StorageSetCalls

/-!
# The exact effect of a storage set call

What a call that runs alone does to the ledger and emits, whatever ledger it finds.  A claim for a
device that was seen free, or as the storage set's own, is granted if and only if nobody else holds
the device; and a release frees a device if and only if the storage set holds it.
-/

namespace PoolPlanner

namespace BlockDevice

variable {devices : List BlockDevice} {names : List String} {device : BlockDevice}

/-- The devices that have some names, in the order of the names. -/
def named (devices : List BlockDevice) (names : List String) : List BlockDevice :=
  names.filterMap (lastNamed? devices)

theorem named_cons_of_some {name : String} (found : lastNamed? devices name = some device) :
    named devices (name :: names) = device :: named devices names :=
  List.filterMap_cons_some found

theorem named_cons_of_none {name : String} (missing : lastNamed? devices name = none) :
    named devices (name :: names) = named devices names :=
  List.filterMap_cons_none missing

theorem mem_named (distinct : (devices.map BlockDevice.name).Nodup) :
    device ∈ named devices names ↔ device ∈ devices ∧ device.name ∈ names := by
  simp only [named, List.mem_filterMap, lastNamed?_eq_some_iff distinct]
  constructor
  · rintro ⟨_, member, attached, rfl⟩
    exact ⟨attached, member⟩
  · rintro ⟨attached, member⟩
    exact ⟨device.name, member, attached, rfl⟩

theorem named_map_name {chosen : List BlockDevice}
    (found : ∀ device ∈ chosen, lastNamed? devices device.name = some device) :
    named devices (chosen.map BlockDevice.name) = chosen := by
  rw [named, List.filterMap_map]
  exact (List.filterMap_congr found).trans List.filterMap_some

end BlockDevice

namespace Ledger

variable {ledger : Ledger} {owner device : String}

/-- Whether nobody but a storage set holds a device. -/
def isOpenTo (ledger : Ledger) (owner device : String) : Bool :=
  (ledger.holder? device).all fun holder => holder = owner

theorem isOpenTo_iff :
    ledger.isOpenTo owner device = true ↔ ∀ holder ∈ ledger.holder? device, holder = owner := by
  unfold isOpenTo
  cases ledger.holder? device <;> simp

end Ledger

namespace StorageSetRound

variable {owner : String} {devices : List BlockDevice} {names : List String}

/-- Between two ledgers, a storage set was granted some devices, and nothing else changed. -/
def Granted (owner : String) (names : List String) (before after : Ledger) : Prop :=
  ∀ name, after.holder? name = if name ∈ names then some owner else before.holder? name

/-- Between two ledgers, a storage set gave back those of some devices that it held, and nothing
else changed. -/
def GivenBack (owner : String) (names : List String) (before after : Ledger) : Prop :=
  ∀ name, after.holder? name =
    if name ∈ names ∧ before.holder? name = some owner then none else before.holder? name

section Ledgers

variable {before between after : Ledger} {device : String}

theorem Granted.isOpenTo_eq (granted : Granted owner names before after)
    (wereOpen : ∀ name ∈ names, before.isOpenTo owner name = true) (device : String) :
    after.isOpenTo owner device = before.isOpenTo owner device := by
  by_cases member : device ∈ names
  · have nowHeld : after.holder? device = some owner := by rw [granted, if_pos member]
    rw [wereOpen device member]
    simp [Ledger.isOpenTo, nowHeld]
  · rw [Ledger.isOpenTo, Ledger.isOpenTo, granted, if_neg member]

theorem GivenBack.cons (freed : between = before.release device owner)
    (rest : GivenBack owner names between after) :
    GivenBack owner (device :: names) before after := by
  intro name
  rw [rest name, freed, Ledger.holder?_release]
  by_cases held : before.holder? device = some owner
  · by_cases same : name = device
    · simp [same, held]
    · simp [same]
  · by_cases same : name = device
    · simp [same, held]
    · simp [same]

variable {ledger : Ledger} {name : String}

theorem exists_claim_of_isOpenTo (seen : BlockDevice)
    (isOpen : ledger.isOpenTo owner name = true) :
    ∃ reservation after, ledger.claim (claimFor owner name seen) = (.ok reservation, after) ∧
      Granted owner [name] ledger after := by
  obtain ⟨reservation, after, claimed, holders⟩ :=
    Ledger.exists_claim_of_available (claimFor owner name seen) (Ledger.isOpenTo_iff.1 isOpen)
  refine ⟨reservation, after, claimed, fun other => ?_⟩
  simp only [List.mem_singleton]
  exact holders other

theorem exists_claim_of_not_isOpenTo {seen : BlockDevice}
    (closed : ledger.isOpenTo owner name = false)
    (expected : ∀ holder ∈ seen.owner?, holder = owner) :
    ∃ refusal, ledger.claim (claimFor owner name seen) = (.error refusal, ledger) := by
  cases held : ledger.holder? name with
  | none => simp [Ledger.isOpenTo, held] at closed
  | some holder =>
      have elsewhere : holder ≠ owner := by simpa [Ledger.isOpenTo, held] using closed
      exact ⟨_, Ledger.claim_of_held_elsewhere held elsewhere expected⟩

end Ledgers

/-- Devices under some names are known, and are free or a storage set's own as far as it was
told. -/
def Available (owner : String) (devices : List BlockDevice) (names : List String) : Prop :=
  ∀ name ∈ names, ∃ device, BlockDevice.lastNamed? devices name = some device ∧
    ∀ holder ∈ device.owner?, holder = owner

/-- Of the devices that a storage set claims, it is granted those that are open to it. -/
theorem run_claimAll (available : Available owner devices names) (ledger : Ledger) :
    ∃ after,
      (claimAll owner devices names).run ledger =
        ((BlockDevice.named devices (names.filter (ledger.isOpenTo owner))).map fun device =>
          Resource.encode (device.reserve owner), after) ∧
      Granted owner (names.filter (ledger.isOpenTo owner)) ledger after := by
  induction names generalizing ledger with
  | nil => exact ⟨ledger, rfl, fun name => by simp⟩
  | cons name rest ih =>
      obtain ⟨⟨device, found, expected⟩, restAvailable⟩ := List.forall_mem_cons.1 available
      cases isOpen : ledger.isOpenTo owner name with
      | true =>
          obtain ⟨reservation, between, claimed, granted⟩ :=
            exists_claim_of_isOpenTo device isOpen
          -- The claims that follow are decided as by the first ledger.
          have sameOpen : between.isOpenTo owner = ledger.isOpenTo owner :=
            funext (granted.isOpenTo_eq (by simpa using isOpen))
          obtain ⟨after, restRun, restGranted⟩ := ih restAvailable between
          rw [sameOpen] at restRun restGranted
          rw [List.filter_cons_of_pos isOpen]
          refine ⟨after, ?_, fun other => ?_⟩
          · rw [claimAll, found]
            simp only [LedgerProgram.run, claimed]
            rw [LedgerProgram.run_bind, restRun, BlockDevice.named_cons_of_some found]
            rfl
          · rw [restGranted, granted]
            by_cases inRest : other ∈ rest.filter (ledger.isOpenTo owner)
            · rw [if_pos inRest, if_pos (List.mem_cons_of_mem name inRest)]
            · simp [inRest]
      | false =>
          obtain ⟨refusal, claimed⟩ := exists_claim_of_not_isOpenTo isOpen expected
          obtain ⟨after, restRun, restGranted⟩ := ih restAvailable ledger
          rw [List.filter_cons_of_neg (by simpa using isOpen)]
          refine ⟨after, ?_, restGranted⟩
          rw [claimAll, found]
          simp only [LedgerProgram.run, claimed]
          exact restRun

/-- Giving devices back frees those that the storage set holds, and emits all of them. -/
theorem run_releaseAll (owner : String) (devices : List BlockDevice) (names : List String)
    (ledger : Ledger) :
    ∃ after,
      (releaseAll owner devices names).run ledger =
        ((BlockDevice.named devices names).map fun device => Resource.encode device.release,
          after) ∧
      GivenBack owner names ledger after := by
  induction names generalizing ledger with
  | nil => exact ⟨ledger, rfl, fun name => by simp⟩
  | cons name rest ih =>
      obtain ⟨after, restRun, restBack⟩ := ih (ledger.release name owner)
      refine ⟨after, ?_, .cons rfl restBack⟩
      rw [releaseAll, LedgerProgram.run, LedgerProgram.run_bind, restRun]
      cases found : BlockDevice.lastNamed? devices name with
      | none =>
          rw [BlockDevice.named_cons_of_none found]
          rfl
      | some device =>
          rw [BlockDevice.named_cons_of_some found]
          rfl

theorem run_release_of_lookUp {α : Type} (name : String) (program : LedgerProgram α)
    (ledger : Ledger) :
    (if (ledger.reservation? name).any fun found => found.owner = owner then
        LedgerProgram.release name owner program else program).run ledger =
      program.run (ledger.release name owner) := by
  have held : (ledger.reservation? name).any (fun found => found.owner = owner) = true ↔
      ledger.holder? name = some owner := by
    rw [← Ledger.map_owner_reservation?]
    cases ledger.reservation? name <;> simp
  split
  next => rfl
  next unheld =>
    rw [held] at unheld
    rw [Ledger.release]
    exact congrArg program.run (if_neg unheld).symm

/-- Cleaning up frees the devices that the storage set holds, and emits those marked for it. -/
theorem run_releaseHeld (owner : String) (devices : List BlockDevice) (ledger : Ledger) :
    ∃ after,
      (releaseHeld owner devices).run ledger =
        ((devices.filter fun device => device.isOwnedBy owner).map fun device =>
          Resource.encode device.release, after) ∧
      GivenBack owner (devices.map BlockDevice.name) ledger after := by
  induction devices generalizing ledger with
  | nil => exact ⟨ledger, rfl, fun name => by simp⟩
  | cons device rest ih =>
      obtain ⟨after, restRun, restBack⟩ := ih (ledger.release device.name owner)
      refine ⟨after, ?_, .cons rfl restBack⟩
      -- A device that the storage set does not hold is not released, which changes as little.
      rw [releaseHeld, LedgerProgram.run, run_release_of_lookUp, LedgerProgram.run_bind, restRun]
      rw [List.filter_cons]
      by_cases owned : device.isOwnedBy owner = true
      · rw [if_pos owned, if_pos owned]
        rfl
      · rw [if_neg owned, if_neg owned]
        rfl

namespace Work

variable {work : Work}

/-- The devices that some work is granted on a ledger. -/
def grantedNames (work : Work) (ledger : Ledger) : List String :=
  work.reservations.reserved.filter (ledger.isOpenTo work.owner)

/-- The devices that some work emits: those it was granted, reserved, and those it gives back. -/
def written (work : Work) (ledger : Ledger) : List BlockDevice :=
  ((BlockDevice.named work.devices (work.grantedNames ledger)).map fun device =>
      device.reserve work.owner) ++
    (BlockDevice.named work.devices work.reservations.release).map BlockDevice.release

/-- Who holds a device after some work was carried out. -/
def holderAfter? (work : Work) (ledger : Ledger) (name : String) : Option String :=
  if name ∈ work.grantedNames ledger then some work.owner
  else if name ∈ work.reservations.release ∧ ledger.holder? name = some work.owner then none
  else ledger.holder? name

/-- What some work rests on: it reserves devices that it knows and that are free or its own as far
as it was told, and gives back all others that are marked as its own. -/
structure WellPlanned (work : Work) : Prop where
  distinct : (work.devices.map BlockDevice.name).Nodup
  fits : ∀ device ∈ work.devices, device.Fits
  available : Available work.owner work.devices work.reservations.reserved
  release_iff : ∀ name, name ∈ work.reservations.release ↔
    (∃ device ∈ work.devices, device.owner? = some work.owner ∧ device.name = name) ∧
      name ∉ work.reservations.reserved

theorem mem_grantedNames {ledger : Ledger} {name : String} :
    name ∈ work.grantedNames ledger ↔
      name ∈ work.reservations.reserved ∧ ledger.isOpenTo work.owner name = true :=
  List.mem_filter

theorem WellPlanned.apart (planned : work.WellPlanned) :
    ∀ name ∈ work.reservations.release, name ∉ work.reservations.reserved :=
  fun name released => ((planned.release_iff name).1 released).2

theorem WellPlanned.exists_device (planned : work.WellPlanned) {name : String}
    (reserved : name ∈ work.reservations.reserved) :
    ∃ device ∈ work.devices, device.name = name ∧
      ∀ holder ∈ device.owner?, holder = work.owner := by
  obtain ⟨device, found, unowned⟩ := planned.available name reserved
  obtain ⟨attached, named⟩ := (BlockDevice.lastNamed?_eq_some_iff planned.distinct).1 found
  exact ⟨device, attached, named, unowned⟩

theorem WellPlanned.mem_written (planned : work.WellPlanned) {ledger : Ledger}
    {device : BlockDevice} :
    device ∈ work.written ledger ↔
      (∃ original ∈ work.devices, original.name ∈ work.grantedNames ledger ∧
        original.reserve work.owner = device) ∨
      ∃ original ∈ work.devices, original.name ∈ work.reservations.release ∧
        original.release = device := by
  simp [written, BlockDevice.mem_named planned.distinct, and_assoc]

theorem WellPlanned.fits_written (planned : work.WellPlanned) (ledger : Ledger) :
    ∀ device ∈ work.written ledger, device.Fits := by
  intro device member
  rcases planned.mem_written.1 member with
    ⟨original, attached, -, rfl⟩ | ⟨original, attached, -, rfl⟩
  · exact (planned.fits original attached).reserve
  · exact (planned.fits original attached).release

theorem WellPlanned.mem_names_written (planned : work.WellPlanned) {ledger : Ledger}
    {name : String} :
    name ∈ (work.written ledger).map BlockDevice.name ↔
      name ∈ work.grantedNames ledger ∨ name ∈ work.reservations.release := by
  constructor
  · intro member
    obtain ⟨device, deviceMem, rfl⟩ := List.mem_map.1 member
    rcases planned.mem_written.1 deviceMem with
      ⟨original, -, granted, rfl⟩ | ⟨original, -, released, rfl⟩
    · exact .inl granted
    · exact .inr released
  · rintro (granted | released)
    · obtain ⟨device, attached, rfl, -⟩ := planned.exists_device (mem_grantedNames.1 granted).1
      exact List.mem_map.2 ⟨device.reserve work.owner,
        planned.mem_written.2 (.inl ⟨device, attached, granted, rfl⟩), rfl⟩
    · obtain ⟨⟨device, attached, -, rfl⟩, -⟩ := (planned.release_iff name).1 released
      exact List.mem_map.2 ⟨device.release,
        planned.mem_written.2 (.inr ⟨device, attached, released, rfl⟩), rfl⟩

end Work

theorem wellPlanned_of_prepare {request : HookRequest} (distinct : request.DistinctDevices)
    {work : Work} (prepared : prepare request = .ok work) : work.WellPlanned := by
  have fits := (acts_of_prepare distinct prepared).2.1
  obtain ⟨storageSet, owner, plan, config, devices, minBytes, reservations, -, -, -, -,
    devicesFound, -, planned, rfl⟩ := prepare_eq_ok_iff.1 prepared
  refine ⟨distinct devices devicesFound, fits, fun name member => ?_, fun name => ?_⟩
  · exact ReservationRequest.exists_device_of_mem_reserved (distinct devices devicesFound) planned
      member
  · rw [ReservationRequest.mem_release_iff planned, ReservationRequest.mem_held]
    simp only [BlockDevice.isOwnedBy, decide_eq_true_eq]
    rfl

/-- What carrying out some work emits, and who holds the devices afterwards. -/
theorem run_perform {work : Work} (planned : work.WellPlanned) (ledger : Ledger) :
    ∃ after,
      (perform work).run ledger =
        ((diskClaims work.storageSet work.owner).map fun claims =>
          .apply ((work.written ledger).map Resource.encode ++ claims.map Resource.encode),
          after) ∧
      ∀ name, after.holder? name = work.holderAfter? ledger name := by
  obtain ⟨between, claimsRun, granted⟩ := run_claimAll planned.available ledger
  obtain ⟨after, releaseRun, givenBack⟩ :=
    run_releaseAll work.owner work.devices work.reservations.release between
  refine ⟨after, ?_, fun name => ?_⟩
  · rw [perform, LedgerProgram.run_bind, claimsRun, LedgerProgram.run_bind, releaseRun]
    simp only [Work.written, Work.grantedNames, List.map_append, List.map_map]
    rfl
  · rw [givenBack, granted, Work.holderAfter?, Work.grantedNames]
    by_cases reserved : name ∈ work.reservations.reserved.filter (ledger.isOpenTo work.owner)
    · have kept : name ∉ work.reservations.release := fun released =>
        planned.apart name released (List.mem_filter.1 reserved).1
      simp only [if_pos reserved, kept, false_and, if_false]
    · simp only [if_neg reserved]

theorem finalize_cases (request : HookRequest) :
    (∃ result, finalize request = .done result ∧ result.toOption.getD [] = []) ∨
      ∃ storageSet owner devices, request.watchAs StorageSet = .ok storageSet ∧
        storageSet.metadata.uid = some owner ∧
        request.attachments.ofKind BlockDevice = .ok devices := by
  unfold finalize
  split
  next => exact .inl ⟨_, rfl, rfl⟩
  next storageSet watched =>
    split
    next => exact .inl ⟨_, rfl, rfl⟩
    next owner identified =>
      split
      next => exact .inl ⟨_, rfl, rfl⟩
      next devices found => exact .inr ⟨storageSet, owner, devices, watched, identified, found⟩

theorem run_finalize {request : HookRequest} {storageSet : StorageSet}
    (watched : request.watchAs StorageSet = .ok storageSet)
    (identified : storageSet.metadata.uid = some owner)
    (devicesFound : request.attachments.ofKind BlockDevice = .ok devices) (ledger : Ledger) :
    ∃ after,
      (finalize request).run ledger =
        (.ok ((devices.filter fun device => device.isOwnedBy owner).map fun device =>
          Resource.encode device.release), after) ∧
      GivenBack owner (devices.map BlockDevice.name) ledger after := by
  obtain ⟨after, ran, givenBack⟩ := run_releaseHeld owner devices ledger
  refine ⟨after, ?_, givenBack⟩
  simp only [finalize, watched, identified, devicesFound]
  rw [LedgerProgram.run_bind, ran]
  rfl

section ClaimsGranted

theorem claimAll_claimsGranted (available : Available owner devices names) {ledger : Ledger}
    (isOpen : ∀ name ∈ names, ledger.isOpenTo owner name = true) :
    (claimAll owner devices names).ClaimsGranted ledger := by
  induction names generalizing ledger with
  | nil => trivial
  | cons name rest ih =>
      obtain ⟨⟨device, found, -⟩, restAvailable⟩ := List.forall_mem_cons.1 available
      obtain ⟨nameOpen, restOpen⟩ := List.forall_mem_cons.1 isOpen
      obtain ⟨reservation, between, claimed, granted⟩ := exists_claim_of_isOpenTo device nameOpen
      have stillOpen : ∀ other ∈ rest, between.isOpenTo owner other = true := by
        intro other otherMem
        rw [granted.isOpenTo_eq (by simpa using nameOpen)]
        exact restOpen other otherMem
      rw [claimAll, found]
      refine ⟨⟨reservation, by rw [claimed]⟩, ?_⟩
      rw [claimed]
      exact (ih restAvailable stillOpen).bind fun _ _ => trivial

theorem releaseAll_claimsGranted (owner : String) (devices : List BlockDevice)
    (names : List String) (ledger : Ledger) :
    (releaseAll owner devices names).ClaimsGranted ledger := by
  induction names generalizing ledger with
  | nil => trivial
  | cons name rest ih =>
      have restGranted := ih (ledger.release name owner)
      refine restGranted.bind fun documents after => ?_
      split <;> trivial

theorem releaseHeld_claimsGranted (owner : String) (devices : List BlockDevice)
    (ledger : Ledger) : (releaseHeld owner devices).ClaimsGranted ledger := by
  induction devices generalizing ledger with
  | nil => trivial
  | cons device rest ih =>
      have goOn (after : Ledger) : (do
          let documents ← releaseHeld owner rest
          if device.isOwnedBy owner then
            pure (Resource.encode device.release :: documents)
          else
            pure documents).ClaimsGranted after := by
        refine (ih after).bind fun documents last => ?_
        split <;> trivial
      show (if _ then LedgerProgram.release device.name owner _ else _).ClaimsGranted ledger
      split
      next => exact goOn (ledger.release device.name owner)
      next => exact goOn ledger

theorem perform_claimsGranted {work : Work} (planned : work.WellPlanned) {ledger : Ledger}
    (isOpen : ∀ name ∈ work.reservations.reserved, ledger.isOpenTo work.owner name = true) :
    (perform work).ClaimsGranted ledger := by
  refine (claimAll_claimsGranted planned.available isOpen).bind fun reserved between => ?_
  refine (releaseAll_claimsGranted work.owner work.devices _ between).bind fun released after => ?_
  trivial

theorem finalize_claimsGranted (request : HookRequest) (ledger : Ledger) :
    (finalize request).ClaimsGranted ledger := by
  unfold finalize
  split
  next => trivial
  next =>
    split
    next => trivial
    next =>
      split
      next => trivial
      next => exact (releaseHeld_claimsGranted _ _ ledger).bind fun _ _ => trivial

end ClaimsGranted

end StorageSetRound
end PoolPlanner
