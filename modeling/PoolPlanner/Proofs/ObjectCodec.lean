import PoolPlanner.Proofs.DateTimeText
import PoolPlanner.Proofs.Decoding
import PoolPlanner.Resource.Metadata

/-!
# Metadata survives being written

Metadata that was decoded, and marked since, is read back from its document as it was, but for
fractions of seconds, which no document keeps.
-/

namespace PoolPlanner

theorem Instant.decode_wholeText (instant : Instant) :
    Instant.decode (.string instant.wholeText) = .ok instant.whole := by
  simp [decode, read_wholeText]

theorem RecordSource.readPresent_instants {key : String} (value : Option Instant) :
    readPresent key Instant.decode (value.map fun time => .string time.wholeText) =
      .read (value.map Instant.whole) :=
  readPresent_map value (by simp) fun present _ => present.decode_wholeText

namespace OwnerReference

@[simp]
theorem decode_encode (reference : OwnerReference) : decode reference.encode = .ok reference := by
  simp [decode, encode, RecordSource.optional_named, RecordSource.text_named]

end OwnerReference

namespace ManagedFields

/-- What managed fields have to meet to be read back: their value is not `null`. -/
def Fits (fields : ManagedFields) : Prop :=
  ∀ document ∈ fields.fieldsV1, document ≠ Json.null

/-- Managed fields without the fraction of a second. -/
def whole (fields : ManagedFields) : ManagedFields :=
  { fields with time := fields.time.map Instant.whole }

theorem decode_encode {fields : ManagedFields} (fits : fields.Fits) :
    decode fields.encode = .ok fields.whole := by
  have document (key : String) :
      RecordSource.readPresent key .ok fields.fieldsV1 = .read fields.fieldsV1 := by
    have kept : RecordSource.readPresent key .ok (fields.fieldsV1.map id) =
        .read fields.fieldsV1 :=
      RecordSource.readPresent_same fields.fieldsV1 fits fun _ _ => rfl
    rwa [Option.map_id] at kept
  simp [decode, encode, RecordSource.optional_named, RecordSource.readPresent_instants, document,
    whole]

/-- Decoded managed fields are read back. -/
theorem fits_of_decode {document : Json} {fields : ManagedFields}
    (decoded : decode document = .ok fields) : fields.Fits := by
  obtain ⟨source, wasRead⟩ := Json.exists_source_of_asObject decoded
  simp only [Reading.seq_eq_read_iff, Reading.map_eq_read_iff, and_assoc, exists_and_left,
    ↓existsAndEq, true_and] at wasRead
  obtain ⟨_, -, _, -, content, contentRead, _, -, _, -, _, -, _, -, rfl⟩ := wasRead
  rintro found rfl
  obtain ⟨origin, notNull, same⟩ := RecordSource.exists_document_of_optional contentRead
  exact Except.ok.inj same ▸ notNull

end ManagedFields

namespace ObjectMeta

/-- What metadata has to meet to be read back: its numbers have sixty-four bits. -/
structure Fits (metadata : ObjectMeta) : Prop where
  gracePeriod : ∀ seconds ∈ metadata.deletionGracePeriodSeconds, Json.FitsInt64 seconds
  generation : ∀ generation ∈ metadata.generation, Json.FitsInt64 generation
  managedFields : ∀ records ∈ metadata.managedFields, ∀ fields ∈ records, fields.Fits

/-- Metadata without fractions of seconds. -/
def whole (metadata : ObjectMeta) : ObjectMeta :=
  { metadata with
    creationTimestamp := metadata.creationTimestamp.map Instant.whole
    deletionTimestamp := metadata.deletionTimestamp.map Instant.whole
    managedFields := metadata.managedFields.map fun records => records.map ManagedFields.whole }

theorem decode_encode {metadata : ObjectMeta} (fits : metadata.Fits) :
    decode metadata.encode = .ok metadata.whole := by
  have managedFields (key : String) :
      RecordSource.readPresent key (Json.asList ManagedFields.decode)
          (metadata.managedFields.map fun fields => .array (fields.map ManagedFields.encode)) =
        .read (metadata.managedFields.map fun records => records.map ManagedFields.whole) :=
    RecordSource.readPresent_lists fun records given fields member =>
      ManagedFields.decode_encode (fits.managedFields records given fields member)
  have ownerReferences (key : String) :
      RecordSource.readPresent key (Json.asList OwnerReference.decode)
          (metadata.ownerReferences.map fun owners => .array (owners.map OwnerReference.encode)) =
        .read (metadata.ownerReferences.map fun owners => owners.map id) :=
    RecordSource.readPresent_lists fun _ _ owner _ => owner.decode_encode
  simp [decode, encode, RecordSource.optional_named, RecordSource.readPresent_instants,
    RecordSource.readPresent_integers fits.gracePeriod,
    RecordSource.readPresent_integers fits.generation, managedFields, ownerReferences, whole]

/-- Decoded metadata is read back. -/
theorem fits_of_decode {document : Json} {metadata : ObjectMeta}
    (decoded : decode document = .ok metadata) : metadata.Fits := by
  obtain ⟨source, wasRead⟩ := Json.exists_source_of_asObject decoded
  simp only [Reading.seq_eq_read_iff, Reading.map_eq_read_iff, and_assoc, exists_and_left,
    ↓existsAndEq, true_and] at wasRead
  obtain ⟨_, -, _, -, grace, graceRead, _, -, _, -, _, -, generation, generationRead, _, -, managed,
    managedRead, _, -, _, -, _, -, _, -, _, -, _, -, rfl⟩ := wasRead
  refine ⟨?_, ?_, ?_⟩
  · rintro seconds rfl
    obtain ⟨origin, -, decodedSeconds⟩ := RecordSource.exists_document_of_optional graceRead
    exact Json.fitsInt64_of_asInt64 decodedSeconds
  · rintro count rfl
    obtain ⟨origin, -, decodedCount⟩ := RecordSource.exists_document_of_optional generationRead
    exact Json.fitsInt64_of_asInt64 decodedCount
  · rintro records rfl
    obtain ⟨origin, -, decodedRecords⟩ := RecordSource.exists_document_of_optional managedRead
    exact Json.forall_of_asList ManagedFields.fits_of_decode decodedRecords

theorem readPresent_some {metadata : ObjectMeta} (fits : metadata.Fits) (key : String) :
    RecordSource.readPresent key decode (some metadata.encode) = .read (some metadata.whole) :=
  RecordSource.readPresent_map (some metadata) (fun _ _ => Json.ofMembers_ne_null _) <| by
    rintro present ⟨⟩
    exact decode_encode fits

/-- Metadata of a new object is read back. -/
theorem fits_new (name objectNamespace : Option String)
    (ownerReferences : Option (List OwnerReference)) :
    ObjectMeta.Fits { name, objectNamespace, ownerReferences } := by
  refine ⟨?_, ?_, ?_⟩ <;> simp

section Markers

variable {metadata : ObjectMeta} {key other uid : String}

theorem Fits.mark (fits : metadata.Fits) : (metadata.mark key uid).Fits :=
  ⟨fits.gracePeriod, fits.generation, fits.managedFields⟩

theorem Fits.unmark (fits : metadata.Fits) : (metadata.unmark key).Fits :=
  ⟨fits.gracePeriod, fits.generation, fits.managedFields⟩

@[simp]
theorem marker?_whole : metadata.whole.marker? key = metadata.marker? key :=
  rfl

@[simp]
theorem name_whole : metadata.whole.name = metadata.name :=
  rfl

@[simp]
theorem uid_whole : metadata.whole.uid = metadata.uid :=
  rfl

@[simp]
theorem name_mark : (metadata.mark key uid).name = metadata.name :=
  rfl

@[simp]
theorem uid_mark : (metadata.mark key uid).uid = metadata.uid :=
  rfl

@[simp]
theorem name_unmark : (metadata.unmark key).name = metadata.name :=
  rfl

/-- A recorded uid is found again unless it is empty. -/
theorem marker?_mark :
    (metadata.mark key uid).marker? key = if uid = "" then none else some uid := by
  by_cases empty : uid = "" <;> simp [mark, marker?, nonemptyAt, empty]

theorem marker?_unmark : (metadata.unmark key).marker? key = none := by
  have absent (map : Option (Table String)) :
      nonemptyAt (map.map fun table => table.erase key) key = none := by
    cases map <;> simp [nonemptyAt]
  simp [unmark, marker?, absent]

theorem Fits.annotate {text : String} (fits : metadata.Fits) : (metadata.annotate key text).Fits :=
  ⟨fits.gracePeriod, fits.generation, fits.managedFields⟩

/-- An annotation under another key leaves a marker as it is. -/
theorem marker?_annotate {text : String} (different : key ≠ other) :
    (metadata.annotate other text).marker? key = metadata.marker? key := by
  cases annotations : metadata.annotations <;>
    simp [annotate, marker?, nonemptyAt, annotations, different]

end Markers
end ObjectMeta
end PoolPlanner
