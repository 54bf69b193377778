import PoolPlanner.Proofs.NodeCodec
import PoolPlanner.Proofs.NodeSelection
import PoolPlanner.Proofs.StatusMerging

/-!
# Objects have a normal form

One object can be decoded from many documents: fields by name or by place, members that are absent,
`null` or given their default, times with any offset.  It is written in one way.  The written
document is decoded to an object of the same spec and status, and that one is written alike, so
decoding and writing once more changes no document that was written.  Since selectors are evaluated
on documents, nodes stay as eligible as they were.
-/

namespace PoolPlanner

section WholeSeconds

/-- The fractions of seconds that an instant loses are not written anyway. -/
theorem Instant.map_whole (given : Option Instant) :
    (given.map whole).map (fun time => Json.string time.wholeText) =
      given.map fun time => .string time.wholeText := by
  rw [Option.map_map]
  rfl

/-- Items that are written alike make up lists that are written alike. -/
theorem map_array_congr {α : Type} {encode : α → Json} {whole : α → α}
    (alike : ∀ item, encode (whole item) = encode item) (given : Option (List α)) :
    (given.map fun items => items.map whole).map (fun items => Json.array (items.map encode)) =
      given.map fun items => .array (items.map encode) := by
  simp [Option.map_map, Function.comp_def, alike]

theorem ManagedFields.encode_whole (fields : ManagedFields) :
    fields.whole.encode = fields.encode := by
  simp only [encode, whole, Instant.map_whole]

theorem ObjectMeta.encode_whole (metadata : ObjectMeta) :
    metadata.whole.encode = metadata.encode := by
  simp only [encode, whole, Instant.map_whole, map_array_congr ManagedFields.encode_whole]

theorem Taint.encode_whole (taint : Taint) : taint.whole.encode = taint.encode := by
  simp only [encode, whole, Instant.map_whole]

theorem NodeSpec.encode_whole (spec : NodeSpec) : spec.whole.encode = spec.encode := by
  simp only [encode, whole, map_array_congr Taint.encode_whole]

theorem NodeCondition.encode_whole (condition : NodeCondition) :
    condition.whole.encode = condition.encode := by
  simp only [encode, whole, Instant.map_whole]

theorem NodeStatus.encode_whole (status : NodeStatus) : status.whole.encode = status.encode := by
  simp only [encode, whole, map_array_congr NodeCondition.encode_whole]

theorem Node.encode_whole (node : Node) : Resource.encode node.whole = Resource.encode node := by
  have spec : (node.spec.map NodeSpec.whole).map NodeSpec.encode =
      node.spec.map NodeSpec.encode := by
    simp [Option.map_map, Function.comp_def, NodeSpec.encode_whole]
  have status : (node.status.map NodeStatus.whole).map NodeStatus.encode =
      node.status.map NodeStatus.encode := by
    simp [Option.map_map, Function.comp_def, NodeStatus.encode_whole]
  simp only [Resource.encode, whole, ObjectMeta.encode_whole, spec, status]

theorem Node.isUnschedulable_whole (node : Node) :
    node.whole.isUnschedulable = node.isUnschedulable := by
  cases spec : node.spec <;> simp [isUnschedulable, whole, spec, NodeSpec.whole]

end WholeSeconds

/-- A value that was decoded from any document is decoded from its own one, too. -/
def ReadsBack {α : Type} (decode : Decoder α) (encode : α → Json) : Prop :=
  ∀ document value, decode document = .ok value → decode (encode value) = .ok value

namespace Resource

/-- An object of a kind that was decoded from any document is decoded from its own one with the same
content, and with its metadata but for fractions of seconds; what is decoded has that document
again. -/
def HasNormalForm (R : Type) [Resource R] {α : Type} (content : R → α) : Prop :=
  ∀ (document : Json) (resource : R), decode document = .ok resource →
    ∃ again : R, decode (encode resource) = .ok again ∧ content again = content resource ∧
      metadata again = (metadata resource).whole ∧ encode again = encode resource

section Kinds

variable {R Spec Status : Type} [Resource R]

/-- Kinds of objects that are made of metadata, a spec and maybe a status. -/
theorem hasNormalForm_of_fields {name apiVersion kind : String}
    {make : ObjectMeta → Spec → Option Status → R} {content : R → Spec × Option Status}
    {decodeSpec : Decoder Spec} {encodeSpec : Spec → Json} {decodeStatus : Decoder Status}
    {encodeStatus : Status → Json}
    (decodes : ∀ document, decode document =
      Json.asRecord name 3 (fun source =>
        make <$> source.required 0 "metadata" ObjectMeta.decode <*>
          source.required 1 "spec" decodeSpec <*>
          source.nullable 2 "status" decodeStatus) document)
    (encodes : ∀ metadata spec status, encode (make metadata spec status) =
      .ofMembers
        [("apiVersion", some (.string apiVersion)), ("kind", some (.string kind)),
          ("metadata", some metadata.encode), ("spec", some (encodeSpec spec)),
          ("status", status.map encodeStatus)])
    (has : ∀ given spec status, metadata (make given spec status) = given ∧
      content (make given spec status) = (spec, status))
    (specs : ReadsBack decodeSpec encodeSpec) (statuses : ReadsBack decodeStatus encodeStatus)
    (statusNotNull : ∀ status, encodeStatus status ≠ .null) : HasNormalForm R content := by
  intro document resource decoded
  rw [decodes] at decoded
  obtain ⟨source, wasRead⟩ := Json.exists_source_of_asRecord decoded
  simp only [Reading.seq_eq_read_iff, Reading.map_eq_read_iff, and_assoc, exists_and_left,
    ↓existsAndEq, true_and] at wasRead
  obtain ⟨given, givenRead, spec, specRead, status, statusRead, rfl⟩ := wasRead
  obtain ⟨metadataOrigin, metadataDecoded⟩ :=
    RecordSource.exists_document_of_required givenRead
  obtain ⟨specOrigin, specDecoded⟩ := RecordSource.exists_document_of_required specRead
  have statusAgain (key : String) :
      RecordSource.readPresent key decodeStatus (status.map encodeStatus) = .read status :=
    RecordSource.readPresent_same status (fun present _ => statusNotNull present) <| by
      rintro present rfl
      obtain ⟨origin, -, statusDecoded⟩ := RecordSource.exists_document_of_nullable statusRead
      exact statuses _ _ statusDecoded
  have decodedAgain : decode (encode (make given spec status)) =
      .ok (make given.whole spec status) := by
    rw [decodes, encodes]
    simp [RecordSource.required_named, RecordSource.nullable_named,
      ObjectMeta.decode_encode (ObjectMeta.fits_of_decode metadataDecoded),
      specs _ _ specDecoded, statusAgain]
  refine ⟨make given.whole spec status, decodedAgain, ?_, ?_, ?_⟩
  · rw [(has _ _ _).2, (has _ _ _).2]
  · rw [(has _ _ _).1, (has _ _ _).1]
  · rw [encodes, encodes, ObjectMeta.encode_whole]

theorem readsBack_clusterStatus : ReadsBack ClusterStatus.decode ClusterStatus.encode :=
  fun _ status _ => status.decode_encode

theorem clusterConfig_hasNormalForm :
    HasNormalForm ClusterConfig fun config => (config.spec, config.status) :=
  hasNormalForm_of_fields (fun _ => rfl) (fun _ _ _ => rfl) (fun _ _ _ => ⟨rfl, rfl⟩)
    (fun _ _ decoded => ClusterIntent.decode_encode (ClusterIntent.fits_of_decode decoded))
    readsBack_clusterStatus fun _ => Json.ofMembers_ne_null _

theorem clusterPlan_hasNormalForm :
    HasNormalForm ClusterPlan fun plan => (plan.spec, plan.status) :=
  hasNormalForm_of_fields (fun _ => rfl) (fun _ _ _ => rfl) (fun _ _ _ => ⟨rfl, rfl⟩)
    (fun _ spec _ => spec.decode_encode)
    readsBack_clusterStatus fun _ => Json.ofMembers_ne_null _

theorem storageSet_hasNormalForm :
    HasNormalForm StorageSet fun storageSet => (storageSet.spec, storageSet.status) :=
  hasNormalForm_of_fields (fun _ => rfl) (fun _ _ _ => rfl) (fun _ _ _ => ⟨rfl, rfl⟩)
    (fun _ _ decoded => StorageSetSpec.decode_encode (StorageSetSpec.fits_of_decode decoded))
    readsBack_clusterStatus fun _ => Json.ofMembers_ne_null _

theorem blockDevice_hasNormalForm :
    HasNormalForm BlockDevice fun device => (device.spec, device.status) :=
  hasNormalForm_of_fields (fun _ => rfl) (fun _ _ _ => rfl) (fun _ _ _ => ⟨rfl, rfl⟩)
    (fun _ _ decoded => BlockDeviceSpec.decode_encode (BlockDeviceSpec.lt_of_decode decoded))
    (fun _ status _ => status.decode_encode) fun _ => Json.ofMembers_ne_null _

theorem poolCluster_hasNormalForm : HasNormalForm PoolCluster PoolCluster.spec := by
  intro document cluster decoded
  obtain ⟨source, wasRead⟩ := Json.exists_source_of_asRecord decoded
  simp only [Reading.seq_eq_read_iff, Reading.map_eq_read_iff, and_assoc,
    ↓existsAndEq, true_and] at wasRead
  obtain ⟨given, givenRead, spec, -, rfl⟩ := wasRead
  obtain ⟨origin, metadataDecoded⟩ := RecordSource.exists_document_of_required givenRead
  refine ⟨⟨given.whole, spec⟩, ?_, rfl, rfl, ?_⟩
  · exact PoolCluster.decode_encode (ObjectMeta.fits_of_decode metadataDecoded)
  · simp [encode, ObjectMeta.encode_whole]

theorem node_hasNormalForm : HasNormalForm Node Node.isUnschedulable := fun _ node decoded =>
  ⟨node.whole, Node.decode_encode (Node.fits_of_decode decoded), node.isUnschedulable_whole, rfl,
    node.encode_whole⟩

end Kinds

/-- Decoding and writing an object settles its document, whichever kind it is of: from then on, both
the spec and the status are what they were, and so is the document. -/
theorem objects_haveNormalForm :
    HasNormalForm ClusterConfig (fun config => (config.spec, config.status)) ∧
      HasNormalForm ClusterPlan (fun plan => (plan.spec, plan.status)) ∧
      HasNormalForm StorageSet (fun storageSet => (storageSet.spec, storageSet.status)) ∧
      HasNormalForm BlockDevice (fun device => (device.spec, device.status)) ∧
      HasNormalForm PoolCluster PoolCluster.spec :=
  ⟨clusterConfig_hasNormalForm, clusterPlan_hasNormalForm, storageSet_hasNormalForm,
    blockDevice_hasNormalForm, poolCluster_hasNormalForm⟩

/-- A config whose fields are given by place, with `null` and empty members, and with a time that
has an offset and a fraction. -/
def placedConfig : Json :=
  let metadata : Json :=
    .object [("annotations", .object []), ("labels", .null), ("name", .string "cluster-a")]
  let spec : Json :=
    .array
      [.array [.object [("matchLabels", .object []), ("matchSlice", .array [])]], .null,
        Json.integer 3, .object [("raidType", .null)]]
  let ready : Json :=
    .array
      [.string "Ready", .object [("True", .null)], .null, .null,
        .string "2024-05-01t01:30:00.250000+02:00"]
  .array [metadata, spec, .array [.null, .array [ready]]]

/-- The normal form of the config that is given by place. -/
def namedConfig : Json :=
  let spec : Json :=
    .object
      [("allowedNodes", .array [.object []]),
        ("diskConfig", .object [("localDiskSelector", .array [])]),
        ("maxPoolCount", Json.integer 3), ("poolConfig", .object [])]
  let ready : Json :=
    .object
      [("lastObservedTime", .string "2024-04-30T23:30:00.250Z"), ("status", .string "True"),
        ("type", .string "Ready")]
  .object
    [("apiVersion", .string "dao.mayadata.io/v1alpha1"),
      ("kind", .string "CStorClusterConfig"),
      ("metadata", .object [("annotations", .object []), ("name", .string "cluster-a")]),
      ("spec", spec), ("status", .object [("conditions", .array [ready])])]

/-- The config that is given by place is written with names, and stays as it is from then on. -/
theorem placedConfig_normalForm :
    ∃ config again : ClusterConfig,
      decode placedConfig = .ok config ∧ encode config = namedConfig ∧
        decode namedConfig = .ok again ∧
        (again.spec, again.status) = (config.spec, config.status) ∧
        encode again = namedConfig := by
  have written : (decode placedConfig : Except DecodeFailure ClusterConfig).map encode =
      .ok namedConfig := rfl
  obtain ⟨config, decoded, encoded⟩ := map_eq_ok_iff.1 written
  obtain ⟨again, decodedAgain, content, -, encodedAgain⟩ :=
    objects_haveNormalForm.1 placedConfig config decoded
  rw [encoded] at decodedAgain encodedAgain
  exact ⟨config, again, decoded, encoded, decodedAgain, content, encodedAgain⟩

end Resource

namespace NodeSelection

theorem candidate?_whole (node : Node) : candidate? node.whole = candidate? node := by
  have unschedulable : node.whole.isUnschedulable = node.isUnschedulable :=
    node.isUnschedulable_whole
  rw [candidate?, candidate?, unschedulable]
  rfl

/-- Nodes that were stored as they are written, and decoded again, are eligible as they were: a
selector sees all that it saw. -/
theorem eligible_readBack (nodes : List Node) (selector : Selector) :
    eligible (nodes.map Node.whole) selector = eligible nodes selector := by
  have selects (node : Node) : selector.selects node.whole = selector.selects node := by
    rw [Selector.selects, Selector.selects, Node.encode_whole]
  have sameAllowed : allowed selector (nodes.map Node.whole) = allowed selector nodes := by
    induction nodes with
    | nil => rfl
    | cons node rest ih => rw [List.map_cons, allowed, allowed, candidate?_whole, selects, ih]
  rw [eligible, eligible, sameAllowed]

end NodeSelection
end PoolPlanner
