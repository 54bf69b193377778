import PoolPlanner.Proofs.StorageSetEffect

/-!
# A storage set that finds its devices free

A call that runs alone, for a storage set that holds nothing yet, reserves the first devices that it
may use: if the ledger has no other holder for them, each of its claims is granted.
-/

namespace PoolPlanner
namespace StorageSetRound

variable {owner : String} {devices chosen : List BlockDevice} {ledger : Ledger}

/-- Work that gives nothing back, on a ledger where nobody else holds what it wants. -/
theorem run_perform_of_open {work : Work} (planned : work.WellPlanned)
    (kept : work.reservations.release = [])
    (reserved : work.reservations.reserved = chosen.map BlockDevice.name)
    (found : ∀ device ∈ chosen, BlockDevice.lastNamed? work.devices device.name = some device)
    (available : ∀ device ∈ chosen, ledger.isOpenTo work.owner device.name = true)
    {claims : List DiskClaim} (claimed : diskClaims work.storageSet work.owner = .ok claims) :
    ∃ after,
      (perform work).run ledger =
        (.ok (.apply ((chosen.map fun device => Resource.encode (device.reserve work.owner)) ++
          claims.map Resource.encode)), after) ∧
      Granted work.owner (chosen.map BlockDevice.name) ledger after := by
  have granted : work.grantedNames ledger = chosen.map BlockDevice.name := by
    rw [Work.grantedNames, reserved, List.filter_eq_self]
    exact List.forall_mem_map.2 available
  have written : work.written ledger = chosen.map fun device => device.reserve work.owner := by
    rw [Work.written, granted, kept, BlockDevice.named_map_name found]
    exact List.append_nil _
  obtain ⟨after, ran, holders⟩ := run_perform planned ledger
  refine ⟨after, ?_, fun name => ?_⟩
  · rw [ran, claimed, written, List.map_map]
    rfl
  · rw [holders, Work.holderAfter?, granted, kept]
    simp

theorem diskClaims_eq_ok {storageSet : StorageSet} {name uid : String}
    {provision : ExternalProvision} (named : storageSet.metadata.name = some name)
    (identified : storageSet.metadata.uid = some uid)
    (provided : storageSet.spec.externalProvision = some provision) (owner : String) :
    diskClaims storageSet owner =
      .ok ((List.range storageSet.desiredDiskCount).map
        (diskClaim storageSet (Resource.controllerReference StorageSet name uid) owner
          provision)) := by
  have reference : Resource.ownerReference .storageSet storageSet =
      .ok (Resource.controllerReference StorageSet name uid) :=
    Resource.ownerReference_eq_ok_iff.2 ⟨name, uid, named, identified, rfl⟩
  rw [diskClaims, provided, reference]
  rfl

theorem exists_diskClaims {storageSet : StorageSet} {name uid : String}
    (named : storageSet.metadata.name = some name)
    (identified : storageSet.metadata.uid = some uid) (owner : String) :
    ∃ claims, diskClaims storageSet owner = .ok claims := by
  cases provided : storageSet.spec.externalProvision with
  | none => exact ⟨[], by rw [diskClaims, provided]⟩
  | some provision => exact ⟨_, diskClaims_eq_ok named identified provided owner⟩

/-- A round for a storage set that holds nothing yet, all of whose wishes the ledger has free. -/
theorem run_of_unheld {request : HookRequest} {storageSet : StorageSet} {plan : ClusterPlan}
    {config : ClusterConfig} {name uid : String} {minBytes : Nat}
    (watched : request.watchAs StorageSet = .ok storageSet)
    (named : storageSet.metadata.name = some name)
    (identified : storageSet.metadata.uid = some uid)
    (planFound : request.planOf storageSet = .ok plan)
    (configFound : request.configOf plan = .ok config)
    (devicesFound : request.attachments.ofKind BlockDevice = .ok devices)
    (capacity : Capacity.bytes storageSet.spec.disk.capacity = .ok minBytes)
    (valid : config.spec.disk.localDiskSelector.validate = .ok ())
    (distinct : (devices.map BlockDevice.name).Nodup)
    (unheld : ∀ device ∈ devices, device.owner? ≠ some uid)
    (available : ∀ name ∈ (requestOf storageSet uid config minBytes).firstNames devices,
      ∀ holder ∈ ledger.holder? name, holder = uid) :
    ∃ (chosen : List BlockDevice) (claims : List DiskClaim) (after : Ledger),
      (∀ device ∈ chosen, device ∈ devices) ∧
      chosen.map BlockDevice.name = (requestOf storageSet uid config minBytes).firstNames devices ∧
      (run request).run ledger =
        (.ok (.apply ((chosen.map fun device => Resource.encode (device.reserve uid)) ++
          claims.map Resource.encode)), after) ∧
      Granted uid (chosen.map BlockDevice.name) ledger after := by
  have noneHeld : ReservationRequest.held devices uid = [] := by
    refine List.eq_nil_iff_forall_not_mem.2 fun name member => ?_
    obtain ⟨device, deviceMem, owned, -⟩ := ReservationRequest.mem_held.1 member
    exact unheld device deviceMem (of_decide_eq_true owned)
  obtain ⟨reservations, planned, reserved, kept⟩ :=
    ReservationRequest.plan_of_unheld (requestOf storageSet uid config minBytes) distinct valid
      noneHeld
  obtain ⟨chosen, usable, names⟩ :=
    (requestOf storageSet uid config minBytes).exists_map_eq_firstNames devices
  have included : ∀ device ∈ chosen, device ∈ devices := fun device member =>
    List.mem_of_mem_filter (List.mem_of_mem_filter (usable device member))
  obtain ⟨claims, claimed⟩ := exists_diskClaims named identified uid
  have prepared : prepare request = .ok ⟨storageSet, uid, devices, reservations⟩ :=
    prepare_eq_ok_iff.2 ⟨storageSet, uid, plan, config, devices, minBytes, reservations, watched,
      identified, planFound, configFound, devicesFound, capacity, planned, rfl⟩
  have distinctDevices : request.DistinctDevices := fun attached attachedFound => by
    obtain rfl := Except.ok.inj (devicesFound.symm.trans attachedFound)
    exact distinct
  obtain ⟨after, performed, granted⟩ :=
    run_perform_of_open (wellPlanned_of_prepare distinctDevices prepared) kept
      (reserved.trans names.symm)
      (fun device member =>
        (BlockDevice.lastNamed?_eq_some_iff distinct).2 ⟨included device member, rfl⟩)
      (fun device member =>
        Ledger.isOpenTo_iff.2 (available device.name (names ▸ List.mem_map_of_mem member)))
      claimed
  refine ⟨chosen, claims, after, included, names, ?_, granted⟩
  rw [run, prepared]
  exact performed

end StorageSetRound
end PoolPlanner
