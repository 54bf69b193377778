import PoolPlanner.Proofs.ResourceCodec
import PoolPlanner.Resource.Node

/-!
# Nodes survive being written

A node that was decoded is read back from its document with all that it is set to and all that it
reports, but for fractions of seconds.
-/

namespace PoolPlanner

open RecordSource

section Settings

@[simp]
theorem ConfigMapSource.decode_encode (origin : ConfigMapSource) :
    decode origin.encode = .ok origin := by
  simp [decode, encode, text_named, optional_named]

@[simp]
theorem NodeConfigSource.decode_encode (origin : NodeConfigSource) :
    decode origin.encode = .ok origin := by
  have configMap (key : String) :
      readPresent key ConfigMapSource.decode (origin.configMap.map ConfigMapSource.encode) =
        .read origin.configMap :=
    readPresent_same origin.configMap (fun _ _ => Json.ofMembers_ne_null _)
      fun present _ => present.decode_encode
  simp [decode, encode, optional_named, configMap]

@[simp]
theorem RecordSource.readPresent_configSources {key : String} (value : Option NodeConfigSource) :
    readPresent key NodeConfigSource.decode (value.map NodeConfigSource.encode) = .read value :=
  readPresent_same value (fun _ _ => Json.ofMembers_ne_null _) fun origin _ => origin.decode_encode

def Taint.whole (taint : Taint) : Taint :=
  { taint with timeAdded := taint.timeAdded.map Instant.whole }

theorem Taint.decode_encode (taint : Taint) : decode taint.encode = .ok taint.whole := by
  simp [decode, encode, text_named, optional_named, readPresent_instants, whole]

def NodeSpec.whole (spec : NodeSpec) : NodeSpec :=
  { spec with taints := spec.taints.map fun taints => taints.map Taint.whole }

theorem NodeSpec.decode_encode (spec : NodeSpec) : decode spec.encode = .ok spec.whole := by
  have taints (key : String) :
      readPresent key (Json.asList Taint.decode)
          (spec.taints.map fun taints => .array (taints.map Taint.encode)) =
        .read (spec.taints.map fun taints => taints.map Taint.whole) :=
    readPresent_lists fun _ _ taint _ => taint.decode_encode
  simp [decode, encode, optional_named, taints, whole]

end Settings

section Reports

@[simp]
theorem NodeConfigStatus.decode_encode (status : NodeConfigStatus) :
    decode status.encode = .ok status := by
  simp [decode, encode, optional_named]

@[simp]
theorem NodeAddress.decode_encode (address : NodeAddress) :
    decode address.encode = .ok address := by
  simp [decode, encode, text_named]

def NodeCondition.whole (condition : NodeCondition) : NodeCondition :=
  { condition with
    lastHeartbeatTime := condition.lastHeartbeatTime.map Instant.whole
    lastTransitionTime := condition.lastTransitionTime.map Instant.whole }

theorem NodeCondition.decode_encode (condition : NodeCondition) :
    decode condition.encode = .ok condition.whole := by
  simp [decode, encode, text_named, optional_named, readPresent_instants, whole]

/-- What a port has to meet to be read back: it has thirty-two bits. -/
def DaemonEndpoint.Fits (endpoint : DaemonEndpoint) : Prop :=
  -(2 ^ 31) ≤ endpoint.port ∧ endpoint.port ≤ 2 ^ 31 - 1

theorem DaemonEndpoint.decode_encode {endpoint : DaemonEndpoint} (fits : endpoint.Fits) :
    decode endpoint.encode = .ok endpoint := by
  have port (key : String) :
      (readPresent key Json.asInt32 (some (Json.integer endpoint.port))).map
        (fun found => found.getD 0) = .read endpoint.port := by
    have present : readPresent key Json.asInt32 ((some endpoint.port).map Json.integer) =
        .read (some endpoint.port) :=
      readPresent_same _ (by simp [Json.integer]) <| by
        rintro _ ⟨⟩
        exact Json.asBounded_integer fits
    rw [← Option.map_some, present]
    rfl
  simp [decode, encode, orElse_named, port]

theorem DaemonEndpoint.fits_of_decode {document : Json} {endpoint : DaemonEndpoint}
    (decoded : decode document = .ok endpoint) : endpoint.Fits := by
  obtain ⟨source, wasRead⟩ := Json.exists_source_of_asObject decoded
  obtain ⟨port, portRead, rfl⟩ := Reading.map_eq_read_iff.1 wasRead
  obtain ⟨found, foundRead, rfl⟩ := Reading.map_eq_read_iff.1 portRead
  cases found with
  | none => exact ⟨by decide, by decide⟩
  | some port =>
      obtain ⟨origin, -, portDecoded⟩ := exists_document_of_optional foundRead
      exact Json.bounds_of_asBounded portDecoded

theorem NodeDaemonEndpoints.decode_encode {endpoints : NodeDaemonEndpoints}
    (fits : ∀ endpoint ∈ endpoints.kubeletEndpoint, endpoint.Fits) :
    decode endpoints.encode = .ok endpoints := by
  have kubelet (key : String) :
      readPresent key DaemonEndpoint.decode
        (endpoints.kubeletEndpoint.map DaemonEndpoint.encode) = .read endpoints.kubeletEndpoint :=
    readPresent_same _ (fun _ _ => Json.ofMembers_ne_null _)
      fun endpoint present => DaemonEndpoint.decode_encode (fits endpoint present)
  simp [decode, encode, optional_named, kubelet]

theorem NodeDaemonEndpoints.fits_of_decode {document : Json} {endpoints : NodeDaemonEndpoints}
    (decoded : decode document = .ok endpoints) :
    ∀ endpoint ∈ endpoints.kubeletEndpoint, endpoint.Fits := by
  obtain ⟨source, wasRead⟩ := Json.exists_source_of_asObject decoded
  obtain ⟨found, foundRead, rfl⟩ := Reading.map_eq_read_iff.1 wasRead
  rintro endpoint rfl
  obtain ⟨origin, -, endpointDecoded⟩ := exists_document_of_optional foundRead
  exact DaemonEndpoint.fits_of_decode endpointDecoded

theorem ContainerImage.decode_encode {image : ContainerImage}
    (fits : ∀ bytes ∈ image.sizeBytes, Json.FitsInt64 bytes) :
    decode image.encode = .ok image := by
  simp [decode, encode, optional_named, readPresent_integers fits]

theorem ContainerImage.fits_of_decode {document : Json} {image : ContainerImage}
    (decoded : decode document = .ok image) :
    ∀ bytes ∈ image.sizeBytes, Json.FitsInt64 bytes := by
  obtain ⟨source, wasRead⟩ := Json.exists_source_of_asObject decoded
  simp only [Reading.seq_eq_read_iff, Reading.map_eq_read_iff, and_assoc, ↓existsAndEq,
    true_and] at wasRead
  obtain ⟨_, -, size, sizeRead, rfl⟩ := wasRead
  exact fits_of_optional sizeRead

@[simp]
theorem NodeSystemInfo.decode_encode (info : NodeSystemInfo) : decode info.encode = .ok info := by
  simp [decode, encode, text_named]

@[simp]
theorem AttachedVolume.decode_encode (volume : AttachedVolume) :
    decode volume.encode = .ok volume := by
  simp [decode, encode, text_named]

namespace NodeStatus

/-- What a report has to meet to be read back: its numbers have as many bits as they may have. -/
structure Fits (status : NodeStatus) : Prop where
  endpoints : ∀ endpoints ∈ status.daemonEndpoints,
    ∀ endpoint ∈ endpoints.kubeletEndpoint, endpoint.Fits
  images : ∀ images ∈ status.images, ∀ image ∈ images,
    ∀ bytes ∈ image.sizeBytes, Json.FitsInt64 bytes

def whole (status : NodeStatus) : NodeStatus :=
  { status with
    conditions := status.conditions.map fun conditions => conditions.map NodeCondition.whole }

theorem decode_encode {status : NodeStatus} (fits : status.Fits) :
    decode status.encode = .ok status.whole := by
  have addresses (key : String) :
      readPresent key (Json.asList NodeAddress.decode)
          (status.addresses.map fun found => .array (found.map NodeAddress.encode)) =
        .read (status.addresses.map fun found => found.map id) :=
    readPresent_lists fun _ _ address _ => address.decode_encode
  have conditions (key : String) :
      readPresent key (Json.asList NodeCondition.decode)
          (status.conditions.map fun found => .array (found.map NodeCondition.encode)) =
        .read (status.conditions.map fun found => found.map NodeCondition.whole) :=
    readPresent_lists fun _ _ condition _ => condition.decode_encode
  have config (key : String) :
      readPresent key NodeConfigStatus.decode (status.config.map NodeConfigStatus.encode) =
        .read status.config :=
    readPresent_same _ (fun _ _ => Json.ofMembers_ne_null _) fun config _ => config.decode_encode
  have endpoints (key : String) :
      readPresent key NodeDaemonEndpoints.decode
        (status.daemonEndpoints.map NodeDaemonEndpoints.encode) = .read status.daemonEndpoints :=
    readPresent_same _ (fun _ _ => Json.ofMembers_ne_null _) fun endpoints present =>
      NodeDaemonEndpoints.decode_encode (fits.endpoints endpoints present)
  have images (key : String) :
      readPresent key (Json.asList ContainerImage.decode)
          (status.images.map fun found => .array (found.map ContainerImage.encode)) =
        .read (status.images.map fun found => found.map id) :=
    readPresent_lists fun images present image member =>
      ContainerImage.decode_encode (fits.images images present image member)
  have nodeInfo (key : String) :
      readPresent key NodeSystemInfo.decode (status.nodeInfo.map NodeSystemInfo.encode) =
        .read status.nodeInfo :=
    readPresent_same _ (fun _ _ => Json.ofMembers_ne_null _) fun info _ => info.decode_encode
  have volumes (key : String) :
      readPresent key (Json.asList AttachedVolume.decode)
          (status.volumesAttached.map fun found => .array (found.map AttachedVolume.encode)) =
        .read (status.volumesAttached.map fun found => found.map id) :=
    readPresent_lists fun _ _ volume _ => volume.decode_encode
  simp [decode, encode, optional_named, addresses, conditions, config, endpoints, images, nodeInfo,
    volumes, whole]

theorem fits_of_decode {document : Json} {status : NodeStatus}
    (decoded : decode document = .ok status) : status.Fits := by
  obtain ⟨source, wasRead⟩ := Json.exists_source_of_asObject decoded
  simp only [Reading.seq_eq_read_iff, Reading.map_eq_read_iff, and_assoc, exists_and_left,
    ↓existsAndEq, true_and] at wasRead
  obtain ⟨_, -, _, -, _, -, _, -, _, -, endpoints, endpointsRead, images, imagesRead, _, -, _, -,
    _, -, _, -, rfl⟩ := wasRead
  constructor
  · rintro found rfl
    obtain ⟨origin, -, foundDecoded⟩ := exists_document_of_optional endpointsRead
    exact NodeDaemonEndpoints.fits_of_decode foundDecoded
  · rintro found rfl
    obtain ⟨origin, -, foundDecoded⟩ := exists_document_of_optional imagesRead
    exact Json.forall_of_asList ContainerImage.fits_of_decode foundDecoded

end NodeStatus
end Reports

namespace Node

/-- What a node has to meet to be read back. -/
structure Fits (node : Node) : Prop where
  metadata : node.metadata.Fits
  status : ∀ status ∈ node.status, status.Fits

/-- The node without fractions of seconds. -/
def whole (node : Node) : Node :=
  { metadata := node.metadata.whole
    spec := node.spec.map NodeSpec.whole
    status := node.status.map NodeStatus.whole }

theorem decode_encode {node : Node} (fits : node.Fits) :
    Resource.decode (Resource.encode node) = .ok node.whole := by
  have spec (key : String) :
      readPresent key NodeSpec.decode (node.spec.map NodeSpec.encode) =
        .read (node.spec.map NodeSpec.whole) :=
    readPresent_map _ (fun _ _ => Json.ofMembers_ne_null _) fun spec _ => spec.decode_encode
  have status (key : String) :
      readPresent key NodeStatus.decode (node.status.map NodeStatus.encode) =
        .read (node.status.map NodeStatus.whole) :=
    readPresent_map _ (fun _ _ => Json.ofMembers_ne_null _) fun status present =>
      NodeStatus.decode_encode (fits.status status present)
  simp [Resource.decode, Resource.encode, defaulted_named, optional_named, Json.asExactly,
    ObjectMeta.readPresent_some fits.metadata, spec, status, whole]

theorem fits_of_decode {document : Json} {node : Node}
    (decoded : Resource.decode document = .ok node) : node.Fits := by
  obtain ⟨source, wasRead⟩ := Json.exists_source_of_asObject decoded
  simp only [Reading.seq_eq_read_iff, Reading.map_eq_read_iff, and_assoc, exists_and_left,
    ↓existsAndEq, true_and] at wasRead
  obtain ⟨_, -, _, -, metadata, metadataRead, _, -, status, statusRead, rfl⟩ := wasRead
  constructor
  · cases metadata with
    | none => exact ObjectMeta.fits_new none none none
    | some metadata =>
        obtain ⟨origin, -, metadataDecoded⟩ := exists_document_of_optional metadataRead
        exact ObjectMeta.fits_of_decode metadataDecoded
  · rintro found rfl
    obtain ⟨origin, -, foundDecoded⟩ := exists_document_of_optional statusRead
    exact NodeStatus.fits_of_decode foundDecoded

end Node
end PoolPlanner
