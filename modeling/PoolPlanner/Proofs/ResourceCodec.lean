import PoolPlanner.Proofs.ObjectCodec
import PoolPlanner.Resource.BlockDevice
import PoolPlanner.Resource.PoolCluster
import PoolPlanner.Resource.StorageSet

/-!
# Objects survive being written

Block devices that were decoded, and the plans, storage sets and pool clusters that are planned, are
read back from their documents; so are the specs of configs.
-/

namespace PoolPlanner

section Fields

open RecordSource

@[simp]
theorem DeviceCapacity.decode_encode {capacity : DeviceCapacity} (fits : capacity.bytes < 2 ^ 64) :
    decode capacity.encode = .ok capacity := by
  simp [decode, encode, defaulted_named, Json.asUnsigned_integer fits]

@[simp]
theorem NodeAttributes.decode_encode (attributes : NodeAttributes) :
    decode attributes.encode = .ok attributes := by
  simp [decode, encode, defaulted_named]

@[simp]
theorem BlockDeviceSpec.decode_encode {spec : BlockDeviceSpec}
    (fits : spec.capacity.bytes < 2 ^ 64) : decode spec.encode = .ok spec := by
  simp [decode, encode, defaulted_named, optional_named, DeviceCapacity.decode_encode fits]

@[simp]
theorem BlockDeviceStatus.decode_encode (status : BlockDeviceStatus) :
    decode status.encode = .ok status := by
  have claimState : Json.asVariant ClaimState.named (.string status.claimState.name) =
      .ok status.claimState := by
    cases status.claimState <;> rfl
  have state : Json.asVariant DeviceState.named (.string status.state.name) =
      .ok status.state := by
    cases status.state <;> rfl
  simp [decode, encode, defaulted_named, claimState, state]

theorem DeviceCapacity.lt_of_decode {document : Json} {capacity : DeviceCapacity}
    (decoded : decode document = .ok capacity) : capacity.bytes < 2 ^ 64 := by
  obtain ⟨source, wasRead⟩ := Json.exists_source_of_asRecord decoded
  obtain ⟨bytes, bytesRead, rfl⟩ := Reading.map_eq_read_iff.1 wasRead
  rcases exists_document_of_defaulted bytesRead with rfl | ⟨origin, bytesDecoded⟩
  · decide
  · exact Json.lt_of_asUnsigned bytesDecoded

theorem BlockDeviceSpec.lt_of_decode {document : Json} {spec : BlockDeviceSpec}
    (decoded : decode document = .ok spec) : spec.capacity.bytes < 2 ^ 64 := by
  obtain ⟨source, wasRead⟩ := Json.exists_source_of_asRecord decoded
  simp only [Reading.seq_eq_read_iff, Reading.map_eq_read_iff, and_assoc, exists_and_left,
    ↓existsAndEq, true_and] at wasRead
  obtain ⟨capacity, capacityRead, _, -, _, -, rfl⟩ := wasRead
  rcases exists_document_of_defaulted capacityRead with rfl | ⟨origin, capacityDecoded⟩
  · exact Nat.two_pow_pos 64
  · exact DeviceCapacity.lt_of_decode capacityDecoded

end Fields

namespace BlockDevice

/-- What a device has to meet to be read back. -/
structure Fits (device : BlockDevice) : Prop where
  metadata : device.metadata.Fits
  capacity : device.spec.capacity.bytes < 2 ^ 64

/-- The device without fractions of seconds. -/
def whole (device : BlockDevice) : BlockDevice :=
  { device with metadata := device.metadata.whole }

theorem decode_encode {device : BlockDevice} (fits : device.Fits) :
    Resource.decode (Resource.encode device) = .ok device.whole := by
  have status (key : String) :
      RecordSource.readPresent key BlockDeviceStatus.decode
        (device.status.map BlockDeviceStatus.encode) = .read device.status :=
    RecordSource.readPresent_same device.status (fun _ _ => Json.ofMembers_ne_null _)
      fun status _ => status.decode_encode
  simp [Resource.decode, Resource.encode, RecordSource.required_named, RecordSource.nullable_named,
    ObjectMeta.decode_encode fits.metadata, BlockDeviceSpec.decode_encode fits.capacity, status,
    whole]

theorem fits_of_decode {document : Json} {device : BlockDevice}
    (decoded : Resource.decode document = .ok device) : device.Fits := by
  obtain ⟨source, wasRead⟩ := Json.exists_source_of_asRecord decoded
  simp only [Reading.seq_eq_read_iff, Reading.map_eq_read_iff, and_assoc, exists_and_left,
    ↓existsAndEq, true_and] at wasRead
  obtain ⟨metadata, metadataRead, spec, specRead, _, -, rfl⟩ := wasRead
  obtain ⟨metadataOrigin, metadataDecoded⟩ :=
    RecordSource.exists_document_of_required metadataRead
  obtain ⟨specOrigin, specDecoded⟩ := RecordSource.exists_document_of_required specRead
  exact ⟨ObjectMeta.fits_of_decode metadataDecoded, BlockDeviceSpec.lt_of_decode specDecoded⟩

section Reserving

variable {device : BlockDevice} {owner : String}

theorem Fits.reserve (fits : device.Fits) : (device.reserve owner).Fits :=
  ⟨fits.metadata.mark, fits.capacity⟩

theorem Fits.release (fits : device.Fits) : device.release.Fits :=
  ⟨fits.metadata.unmark, fits.capacity⟩

@[simp]
theorem name_whole : device.whole.name = device.name :=
  rfl

@[simp]
theorem name_reserve : (device.reserve owner).name = device.name :=
  rfl

@[simp]
theorem name_release : device.release.name = device.name :=
  rfl

@[simp]
theorem owner?_whole : device.whole.owner? = device.owner? :=
  rfl

theorem owner?_reserve :
    (device.reserve owner).owner? = if owner = "" then none else some owner :=
  ObjectMeta.marker?_mark

@[simp]
theorem owner?_release : device.release.owner? = none :=
  ObjectMeta.marker?_unmark

@[simp]
theorem host?_whole : device.whole.host? = device.host? :=
  rfl

/-- A reservation does not touch the hostname label. -/
@[simp]
theorem host?_reserve : (device.reserve owner).host? = device.host? := by
  have different : hostnameLabel ≠ MarkerKey.storageSet := by decide
  have label : (device.reserve owner).metadata.labels.bind
      (fun labels => labels.find? hostnameLabel) =
        device.metadata.labels.bind fun labels => labels.find? hostnameLabel := by
    cases labels : device.metadata.labels <;> simp [reserve, ObjectMeta.mark, labels, different]
  rw [host?, label]
  rfl

@[simp]
theorem host?_release : device.release.host? = device.host? := by
  have different : hostnameLabel ≠ MarkerKey.storageSet := by decide
  have label : device.release.metadata.labels.bind
      (fun labels => labels.find? hostnameLabel) =
        device.metadata.labels.bind fun labels => labels.find? hostnameLabel := by
    cases labels : device.metadata.labels <;> simp [release, ObjectMeta.unmark, labels, different]
  rw [host?, label]
  rfl

@[simp]
theorem isActive_whole : device.whole.isActive = device.isActive :=
  rfl

@[simp]
theorem isActive_reserve : (device.reserve owner).isActive = device.isActive :=
  rfl

end Reserving
end BlockDevice

section Planned

open RecordSource

@[simp]
theorem PlannedNode.decode_encode (node : PlannedNode) : decode node.encode = .ok node := by
  simp [decode, encode, required_named]

@[simp]
theorem ClusterPlanSpec.decode_encode (spec : ClusterPlanSpec) : decode spec.encode = .ok spec := by
  have nodes : Json.asList PlannedNode.decode (.array (spec.nodes.map PlannedNode.encode)) =
      .ok (spec.nodes.map id) := Json.asList_map fun node _ => node.decode_encode
  simp [decode, encode, defaulted_named, nodes]

theorem ClusterPlan.decode_encode {plan : ClusterPlan} (fits : plan.metadata.Fits)
    (statusless : plan.status = none) :
    Resource.decode (Resource.encode plan) =
      .ok { plan with metadata := plan.metadata.whole } := by
  simp [Resource.decode, Resource.encode, required_named, nullable_named, statusless, readPresent,
    ObjectMeta.decode_encode fits]

@[simp]
theorem ExternalProvision.decode_encode (provision : ExternalProvision) :
    decode provision.encode = .ok provision := by
  simp [decode, encode, defaulted_named]

@[simp]
theorem DiskRequest.decode_encode {request : DiskRequest} (fits : Json.FitsInt64 request.count) :
    decode request.encode = .ok request := by
  simp [decode, encode, required_named, Json.asInt64_integer fits]

@[simp]
theorem RecordSource.readPresent_provisions {key : String} (value : Option ExternalProvision) :
    readPresent key ExternalProvision.decode (value.map ExternalProvision.encode) = .read value :=
  readPresent_same value (fun _ _ => Json.ofMembers_ne_null _)
    fun provision _ => provision.decode_encode

theorem StorageSetSpec.decode_encode {spec : StorageSetSpec}
    (fits : Json.FitsInt64 spec.disk.count) : decode spec.encode = .ok spec := by
  simp [decode, encode, required_named, optional_named, DiskRequest.decode_encode fits]

theorem DiskRequest.fits_of_decode {document : Json} {request : DiskRequest}
    (decoded : decode document = .ok request) : Json.FitsInt64 request.count := by
  obtain ⟨source, wasRead⟩ := Json.exists_source_of_asRecord decoded
  simp only [Reading.seq_eq_read_iff, Reading.map_eq_read_iff, and_assoc,
    ↓existsAndEq, true_and] at wasRead
  obtain ⟨_, -, count, countRead, rfl⟩ := wasRead
  obtain ⟨origin, countDecoded⟩ := exists_document_of_required countRead
  exact Json.fitsInt64_of_asInt64 countDecoded

theorem StorageSetSpec.fits_of_decode {document : Json} {spec : StorageSetSpec}
    (decoded : decode document = .ok spec) : Json.FitsInt64 spec.disk.count := by
  obtain ⟨source, wasRead⟩ := Json.exists_source_of_asRecord decoded
  simp only [Reading.seq_eq_read_iff, Reading.map_eq_read_iff, and_assoc, exists_and_left,
    ↓existsAndEq, true_and] at wasRead
  obtain ⟨_, -, disk, diskRead, _, -, rfl⟩ := wasRead
  obtain ⟨origin, diskDecoded⟩ := exists_document_of_required diskRead
  exact DiskRequest.fits_of_decode diskDecoded

theorem StorageSet.decode_encode {storageSet : StorageSet} (fits : storageSet.metadata.Fits)
    (countFits : Json.FitsInt64 storageSet.spec.disk.count)
    (statusless : storageSet.status = none) :
    Resource.decode (Resource.encode storageSet) =
      .ok { storageSet with metadata := storageSet.metadata.whole } := by
  simp [Resource.decode, Resource.encode, required_named, nullable_named, statusless, readPresent,
    ObjectMeta.decode_encode fits, StorageSetSpec.decode_encode countFits]

end Planned

section Selectors

open RecordSource

/-- A list that is left out when it is empty is read back. -/
theorem RecordSource.readMember_nonemptyArray {α : Type} {key : String} {decode : Decoder α}
    {encode : α → Json} {items : List α}
    (each : ∀ item ∈ items, decode (encode item) = .ok item) :
    readMember key (Json.asList decode) (.read []) (Json.nonemptyArray encode items) =
      .read items := by
  have decoded : Json.asList decode (.array (items.map encode)) = .ok (items.map id) :=
    Json.asList_map each
  unfold Json.nonemptyArray
  split
  next empty =>
    rw [List.isEmpty_iff.1 empty]
    rfl
  next =>
    rw [readMember_some, decoded, List.map_id]
    rfl

@[simp]
theorem RecordSource.readMember_nonemptyStrings {key : String} (texts : List String) :
    readMember key (Json.asList Json.asString) (.read []) (Json.nonemptyArray .string texts) =
      .read texts :=
  readMember_nonemptyArray fun _ _ => rfl

@[simp]
theorem RecordSource.readMember_nonemptyObject {key : String} (table : Table String) :
    readMember key (Json.asTable Json.asString) (.read .empty)
      (SelectorTerm.nonemptyObject table) = .read table := by
  unfold SelectorTerm.nonemptyObject
  split
  next empty =>
    obtain ⟨entries, ascending⟩ := table
    obtain rfl : entries = [] := List.isEmpty_iff.1 empty
    rfl
  next =>
    have decoded := Json.asTable_encode table
    rw [Table.encode] at decoded
    rw [readMember_some, decoded]
    rfl

@[simp]
theorem Requirement.decode_encode (requirement : Requirement) :
    decode requirement.encode = .ok requirement := by
  have operator : Json.asVariant Operator.named (.string requirement.operator.name) =
      .ok requirement.operator := by
    cases requirement.operator <;> rfl
  simp [decode, encode, required_named, defaulted_named, operator]

@[simp]
theorem SliceRequirement.decode_encode (requirement : SliceRequirement) :
    decode requirement.encode = .ok requirement := by
  have operator : Json.asVariant SliceOperator.named (.string requirement.operator.name) =
      .ok requirement.operator := by
    cases requirement.operator <;> rfl
  simp [decode, encode, required_named, defaulted_named, operator]

@[simp]
theorem SelectorTerm.decode_encode (term : SelectorTerm) : decode term.encode = .ok term := by
  have expressions (key : String) (items : List Requirement) :
      readMember key (Json.asList Requirement.decode) (.read [])
        (Json.nonemptyArray Requirement.encode items) = .read items :=
    readMember_nonemptyArray fun item _ => item.decode_encode
  have slices (key : String) :
      readMember key (Json.asList SliceRequirement.decode) (.read [])
        (Json.nonemptyArray SliceRequirement.encode term.slices) = .read term.slices :=
    readMember_nonemptyArray fun item _ => item.decode_encode
  simp [decode, encode, defaulted_named, expressions, slices]

@[simp]
theorem Selector.decode_encode (selector : Selector) : decode selector.encode = .ok selector := by
  have terms : Json.asList SelectorTerm.decode (.array (selector.terms.map SelectorTerm.encode)) =
      .ok (selector.terms.map id) := Json.asList_map fun term _ => term.decode_encode
  simp [decode, encode, terms, Except.map]

end Selectors

section Configs

open RecordSource

/-- What an intent has to meet to be read back: its counts have sixty-four bits. -/
structure ClusterIntent.Fits (intent : ClusterIntent) : Prop where
  minPoolCount : ∀ count ∈ intent.minPoolCount, Json.FitsInt64 count
  maxPoolCount : ∀ count ∈ intent.maxPoolCount, Json.FitsInt64 count
  minDiskCount : ∀ count ∈ intent.disk.minCount, Json.FitsInt64 count

@[simp]
theorem PoolIntent.decode_encode (intent : PoolIntent) : decode intent.encode = .ok intent := by
  simp [decode, encode, optional_named]

theorem DiskIntent.decode_encode {intent : DiskIntent}
    (fits : ∀ count ∈ intent.minCount, Json.FitsInt64 count) :
    decode intent.encode = .ok intent := by
  simp [decode, encode, optional_named, defaulted_named, readPresent_integers fits]

theorem ClusterIntent.decode_encode {intent : ClusterIntent} (fits : intent.Fits) :
    decode intent.encode = .ok intent := by
  simp [decode, encode, optional_named, defaulted_named, readPresent_integers fits.minPoolCount,
    readPresent_integers fits.maxPoolCount, DiskIntent.decode_encode fits.minDiskCount]

theorem RecordSource.fits_of_optional {source : RecordSource} {place : Nat} {key : String}
    {found : Option Int} (wasRead : source.optional place key Json.asInt64 = .read found) :
    ∀ count ∈ found, Json.FitsInt64 count := by
  rintro count rfl
  obtain ⟨origin, -, decoded⟩ := exists_document_of_optional wasRead
  exact Json.fitsInt64_of_asInt64 decoded

theorem DiskIntent.fits_of_decode {document : Json} {intent : DiskIntent}
    (decoded : decode document = .ok intent) : ∀ count ∈ intent.minCount, Json.FitsInt64 count := by
  obtain ⟨source, wasRead⟩ := Json.exists_source_of_asRecord decoded
  simp only [Reading.seq_eq_read_iff, Reading.map_eq_read_iff, and_assoc, exists_and_left,
    ↓existsAndEq, true_and] at wasRead
  obtain ⟨count, countRead, _, -, _, -, _, -, rfl⟩ := wasRead
  exact fits_of_optional countRead

/-- The counts that a decoded intent gives have sixty-four bits. -/
theorem ClusterIntent.fits_of_decode {document : Json} {intent : ClusterIntent}
    (decoded : decode document = .ok intent) : intent.Fits := by
  obtain ⟨source, wasRead⟩ := Json.exists_source_of_asRecord decoded
  simp only [Reading.seq_eq_read_iff, Reading.map_eq_read_iff, and_assoc, exists_and_left,
    ↓existsAndEq, true_and] at wasRead
  obtain ⟨_, -, minimum, minimumRead, maximum, maximumRead, _, -, disk, diskRead, rfl⟩ := wasRead
  refine ⟨fits_of_optional minimumRead, fits_of_optional maximumRead, ?_⟩
  rcases exists_document_of_defaulted diskRead with rfl | ⟨origin, diskDecoded⟩
  · simp
  · exact DiskIntent.fits_of_decode diskDecoded

theorem ClusterConfig.isNull_of_decode {document : Json} {config : ClusterConfig}
    (decoded : Resource.decode document = .ok config) : document.isNull = false := by
  cases document with
  | null => cases decoded
  | _ => rfl

theorem ClusterConfig.fits_of_decode {document : Json} {config : ClusterConfig}
    (decoded : Resource.decode document = .ok config) : config.spec.Fits := by
  obtain ⟨source, wasRead⟩ := Json.exists_source_of_asRecord decoded
  simp only [Reading.seq_eq_read_iff, Reading.map_eq_read_iff, and_assoc, exists_and_left,
    ↓existsAndEq, true_and] at wasRead
  obtain ⟨_, -, spec, specRead, _, -, rfl⟩ := wasRead
  obtain ⟨origin, specDecoded⟩ := exists_document_of_required specRead
  exact ClusterIntent.fits_of_decode specDecoded

end Configs

section Pools

open RecordSource

@[simp]
theorem RaidLayout.asVariant_name (layout : RaidLayout) :
    Json.asVariant named (.string layout.name) = .ok layout := by
  cases layout <;> rfl

@[simp]
theorem DeviceReference.decode_encode (reference : DeviceReference) :
    decode reference.encode = .ok reference := by
  simp [decode, encode, required_named]

@[simp]
theorem RaidGroupSpec.decode_encode (group : RaidGroupSpec) :
    decode group.encode = .ok group := by
  have devices : Json.asList DeviceReference.decode
      (.array (group.blockDevices.map DeviceReference.encode)) = .ok (group.blockDevices.map id) :=
    Json.asList_map fun reference _ => reference.decode_encode
  simp [decode, encode, required_named, defaulted_named, devices]

@[simp]
theorem PoolSettings.decode_encode (settings : PoolSettings) :
    decode settings.encode = .ok settings := by
  have overProvisioning : Json.asBool (.bool settings.overProvisioning) =
      .ok settings.overProvisioning := rfl
  simp [decode, encode, required_named, defaulted_named, overProvisioning]

@[simp]
theorem PoolSpec.decode_encode (pool : PoolSpec) : decode pool.encode = .ok pool := by
  have groups : Json.asList RaidGroupSpec.decode
      (.array (pool.raidGroups.map RaidGroupSpec.encode)) = .ok (pool.raidGroups.map id) :=
    Json.asList_map fun group _ => group.decode_encode
  simp [decode, encode, required_named, defaulted_named, groups]

@[simp]
theorem PoolClusterSpec.decode_encode (spec : PoolClusterSpec) :
    decode spec.encode = .ok spec := by
  have pools : Json.asList PoolSpec.decode (.array (spec.pools.map PoolSpec.encode)) =
      .ok (spec.pools.map id) := Json.asList_map fun pool _ => pool.decode_encode
  simp [decode, encode, defaulted_named, pools]

theorem PoolCluster.decode_encode {cluster : PoolCluster} (fits : cluster.metadata.Fits) :
    Resource.decode (Resource.encode cluster) =
      .ok { cluster with metadata := cluster.metadata.whole } := by
  simp [Resource.decode, Resource.encode, required_named, ObjectMeta.decode_encode fits]

end Pools
end PoolPlanner
