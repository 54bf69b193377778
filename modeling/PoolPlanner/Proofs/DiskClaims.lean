import PoolPlanner.Proofs.LedgerHoldings

/-!
# Disk claims

A round of a storage set that has a provisioner claims every disk once, by claims that say whose
they are, what they ask for and on which node.  They are the same whatever devices are attached and
whatever the ledger holds.  The name of a claim tells the storage set and the disk, so no two claims
get in each other's way.
-/

namespace PoolPlanner

section Codec

open RecordSource

@[simp]
theorem VolumeResources.decode_encode (resources : VolumeResources) :
    decode resources.encode = .ok resources := by
  simp [decode, encode, optional_named]

@[simp]
theorem DiskClaimSpec.decode_encode (spec : DiskClaimSpec) : decode spec.encode = .ok spec := by
  have resources (key : String) :
      readPresent key VolumeResources.decode (spec.resources.map VolumeResources.encode) =
        .read spec.resources :=
    readPresent_same spec.resources (fun _ _ => Json.ofMembers_ne_null _)
      fun resources _ => resources.decode_encode
  simp [decode, encode, optional_named, resources]

theorem DiskClaim.decode_encode {claim : DiskClaim} (fits : claim.metadata.Fits)
    (statusless : claim.status = none) :
    Resource.decode (Resource.encode claim) =
      .ok { claim with metadata := claim.metadata.whole } := by
  have spec (key : String) :
      readPresent key DiskClaimSpec.decode (claim.spec.map DiskClaimSpec.encode) =
        .read claim.spec :=
    readPresent_same claim.spec (fun _ _ => Json.ofMembers_ne_null _)
      fun spec _ => spec.decode_encode
  have status (key : String) :
      readPresent key DiskClaimStatus.decode none = .read none :=
    rfl
  simp [Resource.decode, Resource.encode, defaulted_named, optional_named, Json.asExactly,
    ObjectMeta.readPresent_some fits, spec, status, statusless]

end Codec

namespace DiskClaim

def annotation? (claim : DiskClaim) (key : String) : Option String :=
  claim.metadata.annotations.bind fun annotations => annotations.find? key

def label? (claim : DiskClaim) (key : String) : Option String :=
  claim.metadata.labels.bind fun labels => labels.find? key

/-- The capacity that a claim asks for. -/
def capacity? (claim : DiskClaim) : Option String :=
  ((claim.spec.bind DiskClaimSpec.resources).bind VolumeResources.requests).bind
    fun requests => requests.find? "storage"

def storageClass? (claim : DiskClaim) : Option String :=
  claim.spec.bind DiskClaimSpec.storageClassName

/-- A claim for one of the disks of a storage set that has a name, a uid and a provisioner.  An
empty uid is recorded like any other, but never found again. -/
structure IsFor (claim : DiskClaim) (storageSet : StorageSet) (name uid : String)
    (provision : ExternalProvision) (index : Nat) : Prop where
  named : claim.metadata.name = some (StorageSetRound.diskClaimName name index)
  inNamespace : claim.metadata.objectNamespace = storageSet.metadata.objectNamespace
  owned : claim.metadata.ownerReferences = some [Resource.controllerReference StorageSet name uid]
  annotated : claim.annotation? MarkerKey.storageSet = some uid
  labelled : claim.label? MarkerKey.storageSet = some uid
  correlated : uid ≠ "" → claim.metadata.pointsTo MarkerKey.storageSet uid = true
  capacity : claim.capacity? = some storageSet.spec.disk.capacity
  storageClass : claim.storageClass? = some provision.storageClassName
  attacher : claim.annotation? StorageSetRound.attacherKey = some provision.csiAttacherName
  onNode : claim.annotation? StorageSetRound.selectedNodeKey = some storageSet.spec.node.name

end DiskClaim

namespace Json

def isDiskClaim (document : Json) : Bool :=
  document.kind? = some (Resource.kind DiskClaim)

theorem isDiskClaim_encode (claim : DiskClaim) : (Resource.encode claim).isDiskClaim = true := by
  have kind : (Resource.encode claim).kind? = some (Resource.kind DiskClaim) := rfl
  simp [isDiskClaim, kind]

theorem isDiskClaim_device (device : BlockDevice) :
    (Resource.encode device).isDiskClaim = false := by
  have kind : (Resource.encode device).kind? = some (Resource.kind BlockDevice) := rfl
  have different : Resource.kind BlockDevice ≠ Resource.kind DiskClaim := by decide
  simp [isDiskClaim, kind, different]

end Json

namespace StorageSetRound

section Names

/-- The parts around a character that does not occur again behind it. -/
theorem append_cons_inj {α : Type} {mark : α} {front back ahead behind : List α}
    (lastMark : mark ∉ back) (alsoLast : mark ∉ behind)
    (same : front ++ mark :: back = ahead ++ mark :: behind) :
    front = ahead ∧ back = behind := by
  rcases List.append_eq_append_iff.1 same with
    ⟨between, rfl, split⟩ | ⟨between, rfl, split⟩
  · cases between with
    | nil => simpa using split
    | cons first rest =>
        obtain ⟨rfl, rfl⟩ := List.cons.inj split
        simp at lastMark
  · cases between with
    | nil => simpa [eq_comm] using split
    | cons first rest =>
        obtain ⟨rfl, rfl⟩ := List.cons.inj split
        simp at alsoLast

theorem toList_diskClaimName (name : String) (index : Nat) :
    (diskClaimName name index).toList =
      name.toList ++ ['-', 'd', 'i', 's', 'k'] ++ '-' :: Nat.toDigits 10 index := by
  simp [diskClaimName]
  rfl

theorem hyphen_notMem_toDigits (index : Nat) : '-' ∉ Nat.toDigits 10 index := by
  intro member
  have digit := Nat.isDigit_of_mem_toDigits (by decide) (by decide) member
  simp at digit

/-- The name of a disk claim tells its storage set and its disk. -/
theorem diskClaimName_inj {first second : String} {index place : Nat} :
    diskClaimName first index = diskClaimName second place ↔ first = second ∧ index = place := by
  constructor
  · intro same
    rw [← String.toList_inj, toList_diskClaimName, toList_diskClaimName] at same
    obtain ⟨fronts, digits⟩ :=
      append_cons_inj (hyphen_notMem_toDigits index) (hyphen_notMem_toDigits place) same
    refine ⟨String.toList_inj.1 (List.append_cancel_right fronts), ?_⟩
    calc
      index = Nat.ofDigitChars 10 (Nat.toDigits 10 index) 0 := Nat.ofDigitChars_ten_toDigits.symm
      _ = Nat.ofDigitChars 10 (Nat.toDigits 10 place) 0 := by rw [digits]
      _ = place := Nat.ofDigitChars_ten_toDigits
  · rintro ⟨rfl, rfl⟩
    rfl

end Names

section Claims

theorem isFor_diskClaim {storageSet : StorageSet} {name : String}
    (named : storageSet.metadata.name = some name) (uid : String)
    (provision : ExternalProvision) (index : Nat) :
    (diskClaim storageSet (Resource.controllerReference StorageSet name uid) uid provision
      index).IsFor storageSet name uid provision index := by
  have displayed : Resource.name storageSet = name := Resource.name_eq_of_metadata storageSet named
  have notAttacher : MarkerKey.storageSet ≠ attacherKey := by decide
  have notNode : MarkerKey.storageSet ≠ selectedNodeKey := by decide
  have apart : attacherKey ≠ selectedNodeKey := by decide
  refine
    { named := by rw [← displayed]; rfl
      inNamespace := rfl
      owned := rfl
      annotated := ?_
      labelled := ?_
      correlated := fun nonempty => ?_
      capacity := ?_
      storageClass := rfl
      attacher := ?_
      onNode := ?_ }
  · simp [DiskClaim.annotation?, diskClaim, ObjectMeta.mark, ObjectMeta.annotate, notAttacher,
      notNode]
  · simp [DiskClaim.label?, diskClaim, ObjectMeta.mark, ObjectMeta.annotate]
  · simp [ObjectMeta.pointsTo, diskClaim, ObjectMeta.marker?_annotate notAttacher,
      ObjectMeta.marker?_annotate notNode, ObjectMeta.marker?_mark, nonempty]
  · simp [DiskClaim.capacity?, diskClaim]
  · simp [DiskClaim.annotation?, diskClaim, ObjectMeta.mark, ObjectMeta.annotate, apart]
  · simp [DiskClaim.annotation?, diskClaim, ObjectMeta.annotate]

/-- A claim is read back as it was written. -/
theorem decode_encode_diskClaim (storageSet : StorageSet) (owner : OwnerReference) (uid : String)
    (provision : ExternalProvision) (index : Nat) :
    Resource.decode (Resource.encode (diskClaim storageSet owner uid provision index)) =
      .ok (diskClaim storageSet owner uid provision index) :=
  DiskClaim.decode_encode (ObjectMeta.fits_new _ _ _).mark.annotate.annotate rfl

end Claims

section Rounds

variable {owner : String} {devices : List BlockDevice}

/-- Every one of some documents is a block device. -/
def OnlyDevices (documents : List Json) : Prop :=
  ∀ document ∈ documents, ∃ device : BlockDevice, document = Resource.encode device

theorem OnlyDevices.cons {documents : List Json} (only : OnlyDevices documents)
    (device : BlockDevice) : OnlyDevices (Resource.encode device :: documents) :=
  List.forall_mem_cons.2 ⟨⟨device, rfl⟩, only⟩

theorem claimAll_onlyDevices (names : List String) (past : List LedgerProgram.Operation) :
    (claimAll owner devices names).EndsWith (fun _ => OnlyDevices) past := by
  induction names generalizing past with
  | nil => exact List.forall_mem_nil _
  | cons name rest ih =>
      unfold claimAll
      split
      next => exact ih past
      next device _ =>
        intro answer
        cases answer with
        | error refusal => exact ih _
        | ok reservation => exact (ih _).bind fun _ documents only => only.cons _

theorem releaseAll_onlyDevices (names : List String) (past : List LedgerProgram.Operation) :
    (releaseAll owner devices names).EndsWith (fun _ => OnlyDevices) past := by
  induction names generalizing past with
  | nil => exact List.forall_mem_nil _
  | cons name rest ih =>
      refine (ih (.release name owner :: past)).bind fun _ documents only => ?_
      split
      next => exact only
      next device _ => exact only.cons device.release

/-- Whatever is granted, a round emits its claims behind block devices. -/
theorem run_perform_fst (work : Work) (ledger : Ledger) :
    ∃ written, OnlyDevices written ∧
      ((perform work).run ledger).1 = (diskClaims work.storageSet work.owner).map fun claims =>
        .apply (written ++ claims.map Resource.encode) := by
  have endsWith : (perform work).EndsWith
      (fun _ result => ∃ written, OnlyDevices written ∧
        result = (diskClaims work.storageSet work.owner).map fun claims =>
          .apply (written ++ claims.map Resource.encode)) [] := by
    refine (claimAll_onlyDevices _ []).bind fun between reserved onlyReserved => ?_
    refine (releaseAll_onlyDevices _ between).bind fun _ released onlyReleased => ?_
    exact ⟨reserved ++ released, List.forall_mem_append.2 ⟨onlyReserved, onlyReleased⟩, rfl⟩
  obtain ⟨-, result⟩ := endsWith.run ledger
  exact result

theorem filter_isDiskClaim {written : List Json} (devices : OnlyDevices written)
    (claims : List DiskClaim) :
    (written ++ claims.map Resource.encode).filter Json.isDiskClaim =
      claims.map Resource.encode := by
  have noneWritten : written.filter Json.isDiskClaim = [] := by
    refine List.filter_eq_nil_iff.2 fun document member => ?_
    obtain ⟨device, rfl⟩ := devices document member
    simp [Json.isDiskClaim_device]
  have allClaims : (claims.map Resource.encode).filter Json.isDiskClaim =
      claims.map Resource.encode :=
    List.filter_eq_self.2 (List.forall_mem_map.2 fun claim _ => Json.isDiskClaim_encode claim)
  rw [List.filter_append, noneWritten, allClaims, List.nil_append]

theorem claims_of_run {request : HookRequest} {storageSet : StorageSet} {uid : String}
    {claims : List DiskClaim} {ledger after : Ledger} {result : RoundResult}
    (watched : request.watchAs StorageSet = .ok storageSet)
    (identified : storageSet.metadata.uid = some uid)
    (claimed : diskClaims storageSet uid = .ok claims)
    (ran : (run request).run ledger = (.ok result, after)) :
    ∃ attachments, result = .apply attachments ∧
      attachments.filter Json.isDiskClaim = claims.map Resource.encode := by
  rw [run] at ran
  cases prepared : prepare request with
  | error fault =>
      rw [prepared] at ran
      cases ran
  | ok work =>
      rw [prepared] at ran
      obtain ⟨written, onlyDevices, emitted⟩ := run_perform_fst work ledger
      obtain ⟨watchedSet, owner, _, _, _, _, _, alsoWatched, isOwner, -, -, -, -, -, rfl⟩ :=
        prepare_eq_ok_iff.1 prepared
      obtain rfl := Except.ok.inj (watched.symm.trans alsoWatched)
      obtain rfl := Option.some.inj (identified.symm.trans isOwner)
      rw [claimed] at emitted
      have same := (congrArg Prod.fst ran).symm.trans emitted
      exact ⟨_, Except.ok.inj same, filter_isDiskClaim onlyDevices claims⟩

/-- Some claims are those of a storage set, one for each of its disks in their order: every round
about the storage set that succeeds emits just these, whatever devices are attached and whatever
the ledger holds. -/
structure EmitsClaims (storageSet : StorageSet) (name uid : String)
    (provision : ExternalProvision) (claims : List DiskClaim) : Prop where
  count : claims.length = storageSet.desiredDiskCount
  each : ∀ (index : Nat) (claim : DiskClaim), claims[index]? = some claim →
    claim.IsFor storageSet name uid provision index
  readBack : ∀ claim ∈ claims, Resource.decode (Resource.encode claim) = .ok claim
  emitted : ∀ (request : HookRequest) (settings : OperatorConfig) (ledger after : Ledger)
    (result : RoundResult), request.watchAs StorageSet = .ok storageSet →
    (Hook.storageSet.reconcile request settings).run ledger = (.ok result, after) →
    ∃ attachments, result = .apply attachments ∧
      attachments.filter Json.isDiskClaim = claims.map Resource.encode

theorem exists_emitsClaims {storageSet : StorageSet} {name uid : String}
    {provision : ExternalProvision} (named : storageSet.metadata.name = some name)
    (identified : storageSet.metadata.uid = some uid)
    (provided : storageSet.spec.externalProvision = some provision) :
    ∃ claims, EmitsClaims storageSet name uid provision claims := by
  have claimed := diskClaims_eq_ok named identified provided uid
  refine
    ⟨(List.range storageSet.desiredDiskCount).map
      (diskClaim storageSet (Resource.controllerReference StorageSet name uid) uid provision),
    { count := by simp
      each := fun index claim found => ?_
      readBack := List.forall_mem_map.2 fun index _ => decode_encode_diskClaim _ _ _ _ index
      emitted := fun request settings ledger after result watched ran =>
        claims_of_run watched identified claimed ran }⟩
  rw [List.getElem?_map, Option.map_eq_some_iff] at found
  obtain ⟨place, isPlace, rfl⟩ := found
  obtain ⟨inRange, rfl⟩ := List.getElem?_eq_some_iff.1 isPlace
  rw [List.getElem_range]
  exact isFor_diskClaim named uid provision index

end Rounds
end StorageSetRound

/-- A round that succeeds claims every disk of a storage set that has a provisioner, and claims
share their name only if they are for the same disk of a storage set of the same name. -/
theorem Hook.storageSet_claims_everyDisk :
    (∀ (storageSet : StorageSet) (name uid : String) (provision : ExternalProvision),
      storageSet.metadata.name = some name → storageSet.metadata.uid = some uid →
      storageSet.spec.externalProvision = some provision →
      ∃ claims, StorageSetRound.EmitsClaims storageSet name uid provision claims) ∧
    (∀ (claim rival : DiskClaim) (first second : StorageSet)
      (firstName secondName firstUid secondUid : String)
      (firstProvision secondProvision : ExternalProvision) (index place : Nat),
      claim.IsFor first firstName firstUid firstProvision index →
      rival.IsFor second secondName secondUid secondProvision place →
      (firstName, index) ≠ (secondName, place) → claim.metadata.name ≠ rival.metadata.name) ∧
    ∀ (firstName secondName : String) (index place : Nat),
      (firstName, index) ≠ (secondName, place) →
      StorageSetRound.diskClaimName firstName index ≠
        StorageSetRound.diskClaimName secondName place := by
  have namesApart (firstName secondName : String) (index place : Nat)
      (different : (firstName, index) ≠ (secondName, place)) :
      StorageSetRound.diskClaimName firstName index ≠
        StorageSetRound.diskClaimName secondName place := fun same =>
    different (Prod.ext_iff.2 (StorageSetRound.diskClaimName_inj.1 same))
  refine ⟨fun storageSet name uid provision named identified provided =>
    StorageSetRound.exists_emitsClaims named identified provided, ?_, namesApart⟩
  intro claim rival first second firstName secondName _ _ _ _ index place isFor alsoFor different
  rw [isFor.named, alsoFor.named]
  exact fun same => namesApart _ _ _ _ different (Option.some.inj same)

namespace StorageSetRound

/-- A storage set that asks for two disks from a provisioner. -/
def provisionedSet (name : String) : StorageSet :=
  { metadata := ObjectMeta.mark { name := some name, uid := some name } MarkerKey.clusterPlan "plan"
    spec :=
      { node := ⟨"node-1", "node-1"⟩
        disk := ⟨"1Gi", 2⟩
        externalProvision := some ⟨"attacher", "class"⟩ } }

/-- The storage set with a provisioner is shown the only device as free. -/
def provisionedRequest : HookRequest :=
  { shownFree "node-1" with watch := Resource.encode (provisionedSet "first") }

theorem watchAs_provisionedRequest :
    provisionedRequest.watchAs StorageSet = .ok (provisionedSet "first") := by
  have fits : (provisionedSet "first").metadata.Fits :=
    ((ObjectMeta.fits_new (some "first") none none).withUid "first").mark
  have twoFits : Json.FitsInt64 2 := ⟨by decide, by decide⟩
  exact HookRequest.watchAs_eq_ok rfl (StorageSet.decode_encode fits twoFits rfl)

theorem exists_result_of_isOk {α : Type} {answered : Except Fault α × Ledger}
    (succeeded : answered.1.isOk = true) : ∃ result, answered = (.ok result, answered.2) := by
  obtain ⟨fault | result, after⟩ := answered
  · cases succeeded
  · exact ⟨result, rfl⟩

/-- Both disks are claimed, although the only device is reserved as well, by other names than those
of a storage set that is named like one of the claims. -/
theorem provisionedRound_claims :
    ∃ claims others : List DiskClaim,
      EmitsClaims (provisionedSet "first") "first" "first" ⟨"attacher", "class"⟩ claims ∧
      EmitsClaims (provisionedSet "first-disk-1") "first-disk-1" "first-disk-1"
        ⟨"attacher", "class"⟩ others ∧
      (∀ claim ∈ claims, ∀ other ∈ others, claim.metadata.name ≠ other.metadata.name) ∧
      ∃ attachments after,
        (Hook.storageSet.reconcile provisionedRequest {}).run .empty =
            (.ok (.apply attachments), after) ∧
          after.holder? "disk-1" = some "first" ∧
          (attachments.filter Json.isDiskClaim).length = 2 := by
  obtain ⟨everyDisk, apart, -⟩ := Hook.storageSet_claims_everyDisk
  obtain ⟨claims, emits⟩ := everyDisk (provisionedSet "first") "first" "first"
    ⟨"attacher", "class"⟩ rfl rfl rfl
  obtain ⟨others, alsoEmits⟩ := everyDisk (provisionedSet "first-disk-1") "first-disk-1"
    "first-disk-1" ⟨"attacher", "class"⟩ rfl rfl rfl
  have different (index place : Nat) : ("first", index) ≠ ("first-disk-1", place) := by simp
  refine ⟨claims, others, emits, alsoEmits, fun claim member other alsoMember => ?_, ?_⟩
  · obtain ⟨index, isClaim⟩ := List.mem_iff_getElem?.1 member
    obtain ⟨place, isOther⟩ := List.mem_iff_getElem?.1 alsoMember
    exact apart _ _ _ _ _ _ _ _ _ _ index place (emits.each index claim isClaim)
      (alsoEmits.each place other isOther) (different index place)
  · obtain ⟨succeeded, held⟩ :
        ((Hook.storageSet.reconcile provisionedRequest {}).run .empty).1.isOk = true ∧
          ((Hook.storageSet.reconcile provisionedRequest {}).run .empty).2.holder? "disk-1" =
            some "first" := by
      decide +kernel
    obtain ⟨result, ran⟩ := exists_result_of_isOk succeeded
    obtain ⟨attachments, rfl, same⟩ := emits.emitted provisionedRequest {} .empty _ result
      watchAs_provisionedRequest ran
    refine ⟨attachments, _, ran, held, ?_⟩
    rw [same, List.length_map, emits.count]
    rfl

end StorageSetRound
end PoolPlanner
