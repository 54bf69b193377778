import PoolPlanner.Json.Decoding
import PoolPlanner.Proofs.Fallible
import PoolPlanner.Proofs.Table

/-!
# Decoding what was encoded

A record that is written member by member is read back field by field.  The other way round, a
decoded record had each of its fields decoded, so what a decoder ensures of a field holds of the
record.
-/

namespace PoolPlanner

section Readings

variable {α β : Type}

namespace Reading

@[simp]
theorem map_read (function : α → β) (value : α) :
    (function <$> Reading.read value) = .read (function value) :=
  rfl

@[simp]
theorem seq_read (function : α → β) (value : α) :
    (Reading.read function <*> Reading.read value) = .read (function value) :=
  rfl

@[simp]
theorem result_read (value : α) : (Reading.read value).result = .ok value :=
  rfl

theorem map_eq_read_iff {function : α → β} {reading : Reading α} {result : β} :
    (function <$> reading) = .read result ↔ ∃ value, reading = .read value ∧
      function value = result := by
  cases reading <;> simp [Functor.map, map]

theorem seq_eq_read_iff {functions : Reading (α → β)} {reading : Reading α} {result : β} :
    (functions <*> reading) = .read result ↔ ∃ function, functions = .read function ∧
      ∃ value, reading = .read value ∧ function value = result := by
  cases functions <;> cases reading <;> simp [Seq.seq, apply]

theorem result_eq_ok_iff {reading : Reading α} {value : α} :
    reading.result = .ok value ↔ reading = .read value := by
  cases reading <;> simp [result]

@[simp]
theorem ofExcept_ok (fault : DecodeFailure → RecordFault) (value : α) :
    ofExcept fault (.ok value) = .read value :=
  rfl

theorem ofExcept_eq_read_iff {fault : DecodeFailure → RecordFault}
    {outcome : Except DecodeFailure α} {value : α} :
    ofExcept fault outcome = .read value ↔ outcome = .ok value := by
  cases outcome <;> simp [ofExcept]

end Reading
end Readings

namespace Json

section Values

variable {α β : Type}

/-- The members of an object that are present. -/
def presentMembers (members : List (String × Option Json)) : List (String × Json) :=
  members.filterMap fun entry => entry.2.map fun value => (entry.1, value)

theorem ofMembers_eq (members : List (String × Option Json)) :
    ofMembers members = .object (presentMembers members) :=
  rfl

theorem ofMembers_ne_null (members : List (String × Option Json)) : ofMembers members ≠ .null := by
  simp [ofMembers_eq]

@[simp]
theorem lookup_presentMembers_nil (key : String) : (presentMembers []).lookup key = none :=
  rfl

@[simp]
theorem lookup_presentMembers_cons (key name : String) (value : Option Json)
    (rest : List (String × Option Json)) :
    (presentMembers ((name, value) :: rest)).lookup key =
      if key = name then value.or ((presentMembers rest).lookup key)
      else (presentMembers rest).lookup key := by
  cases value with
  | none => simp [presentMembers]
  | some document =>
      simp only [presentMembers, List.filterMap_cons, Option.map_some]
      rw [lookup_entry_cons]
      simp

@[simp]
theorem asString_string (text : String) : asString (.string text) = .ok text :=
  rfl

theorem asBounded_integer {kind : String} {least greatest value : Int}
    (bounds : least ≤ value ∧ value ≤ greatest) :
    asBounded kind least greatest (integer value) = .ok value := by
  simp only [asBounded, integer, if_pos bounds]

theorem bounds_of_asBounded {kind : String} {least greatest value : Int} {document : Json}
    (decoded : asBounded kind least greatest document = .ok value) :
    least ≤ value ∧ value ≤ greatest := by
  unfold asBounded at decoded
  split at decoded
  next =>
    split at decoded
    next bounds => exact Except.ok.inj decoded ▸ bounds
    next => simp at decoded
  next => simp [unexpected] at decoded

/-- The integers that fit into sixty-four bits with a sign. -/
def FitsInt64 (value : Int) : Prop :=
  -(2 ^ 63) ≤ value ∧ value ≤ 2 ^ 63 - 1

theorem asInt64_integer {value : Int} (fits : FitsInt64 value) :
    asInt64 (integer value) = .ok value :=
  asBounded_integer fits

theorem fitsInt64_of_asInt64 {document : Json} {value : Int}
    (decoded : asInt64 document = .ok value) : FitsInt64 value :=
  bounds_of_asBounded decoded

theorem asUnsigned_integer {kind : String} {value : Nat} (fits : value < 2 ^ 64) :
    asUnsigned kind (integer value) = .ok value := by
  have bounds : (0 : Int) ≤ value ∧ (value : Int) ≤ 2 ^ 64 - 1 := by omega
  rw [asUnsigned, asBounded_integer bounds]
  rfl

theorem lt_of_asUnsigned {kind : String} {document : Json} {value : Nat}
    (decoded : asUnsigned kind document = .ok value) : value < 2 ^ 64 := by
  obtain ⟨bounded, boundedDecoded, rfl⟩ := map_eq_ok_iff.1 decoded
  have bounds := bounds_of_asBounded boundedDecoded
  omega

/-- A list is read back if each of its items is. -/
theorem asList_map {decode : Decoder β} {encode : α → Json} {readBack : α → β} {values : List α}
    (each : ∀ value ∈ values, decode (encode value) = .ok (readBack value)) :
    asList decode (.array (values.map encode)) = .ok (values.map readBack) := by
  rw [asList]
  induction values with
  | nil => rfl
  | cons value rest ih =>
      obtain ⟨first, others⟩ := List.forall_mem_cons.1 each
      rw [List.map_cons, List.map_cons, decodeItems, first]
      simp [ih others]

theorem forall_of_asList {decode : Decoder α} {good : α → Prop}
    (each : ∀ {document value}, decode document = .ok value → good value) {document : Json}
    {values : List α} (decoded : asList decode document = .ok values) :
    ∀ value ∈ values, good value := by
  unfold asList at decoded
  split at decoded
  next items =>
    induction items generalizing values with
    | nil =>
        obtain rfl := Except.ok.inj decoded
        simp
    | cons item rest ih =>
        rw [decodeItems] at decoded
        cases first : decode item with
        | error failure => simp [first] at decoded
        | ok value =>
            rw [first] at decoded
            obtain ⟨others, othersDecoded, rfl⟩ := map_eq_ok_iff.1 decoded
            exact List.forall_mem_cons.2 ⟨each first, ih othersDecoded⟩
  next => simp [unexpected] at decoded

@[simp]
theorem asList_ofStrings (texts : List String) : asList asString (ofStrings texts) = .ok texts := by
  have decoded : asList asString (.array (texts.map Json.string)) = .ok (texts.map id) :=
    asList_map fun _ _ => rfl
  simpa [ofStrings] using decoded

@[simp]
theorem asTable_encode (table : Table String) : asTable asString table.encode = .ok table := by
  have members : ∀ entries : List (String × String),
      decodeMembers asString (entries.map fun entry => (entry.1, Json.string entry.2)) =
        .ok entries := by
    intro entries
    induction entries with
    | nil => rfl
    | cons entry rest ih => simp [decodeMembers, asString, ih, Except.map]
  simp [asTable, Table.encode, members, Except.map]

theorem asNullable_of_ne_null {decode : Decoder α} {document : Json}
    (notNull : document ≠ .null) : asNullable decode document = (decode document).map some := by
  cases document <;> simp_all [asNullable]

theorem asNullable_eq_ok_some_iff {decode : Decoder α} {document : Json} {value : α} :
    asNullable decode document = .ok (some value) ↔
      document ≠ .null ∧ decode document = .ok value := by
  cases document <;> simp [asNullable]

end Values

section Records

variable {α : Type} {name : String} {size : Nat} {reading : RecordSource → Reading α}

@[simp]
theorem asRecord_ofMembers (members : List (String × Option Json)) :
    asRecord name size reading (ofMembers members) =
      (reading (.named (presentMembers members))).result :=
  rfl

@[simp]
theorem asObject_ofMembers (members : List (String × Option Json)) :
    asObject name reading (ofMembers members) =
      (reading (.named (presentMembers members))).result :=
  rfl

/-- A decoded record was read from some source. -/
theorem exists_source_of_asRecord {document : Json} {value : α}
    (decoded : asRecord name size reading document = .ok value) :
    ∃ source, reading source = .read value := by
  unfold asRecord at decoded
  split at decoded
  next members => exact ⟨_, Reading.result_eq_ok_iff.1 decoded⟩
  next items =>
    simp only at decoded
    split at decoded
    next => simp at decoded
    next found wasRead =>
      split at decoded
      next => simp at decoded
      next => exact ⟨_, Reading.result_eq_ok_iff.1 (Except.ok.inj decoded ▸ wasRead)⟩
  next => simp [unexpected] at decoded

theorem exists_source_of_asObject {document : Json} {value : α}
    (decoded : asObject name reading document = .ok value) :
    ∃ source, reading source = .read value := by
  unfold asObject at decoded
  split at decoded
  next members => exact ⟨_, Reading.result_eq_ok_iff.1 decoded⟩
  next => simp [unexpected] at decoded

end Records
end Json

namespace RecordSource

variable {α β : Type} {members : List (String × Json)} {place : Nat} {key : String}
  {decode : Decoder α} {source : RecordSource}

/-- Read a member, or take what stands in for it. -/
def readMember (key : String) (decode : Decoder α) (absent : Reading α) : Option Json → Reading α
  | some document => .ofExcept (.visited key) (decode document)
  | none => absent

@[simp]
theorem readMember_some (absent : Reading α) (document : Json) :
    readMember key decode absent (some document) = .ofExcept (.visited key) (decode document) :=
  rfl

theorem required_named :
    (named members).required place key decode =
      readMember key decode (.faulty (.declared (.missingField key))) (members.lookup key) := by
  cases found : members.lookup key <;>
    simp [required, field, found, readMember, absence, Reading.ofExcept]

theorem defaulted_named {fallback : α} :
    (named members).defaulted place key fallback decode =
      readMember key decode (.read fallback) (members.lookup key) := by
  cases found : members.lookup key <;> simp [defaulted, field, found, readMember, Reading.ofExcept]

/-- Read a member that may be missing. -/
def readPresent (key : String) (decode : Decoder α) : Option Json → Reading (Option α)
  | some document => .ofExcept (.visited key) (Json.asNullable decode document)
  | none => .read none

theorem optional_named :
    (named members).optional place key decode = readPresent key decode (members.lookup key) := by
  cases found : members.lookup key <;> simp [optional, field, found, readPresent, Reading.ofExcept]

theorem orElse_named {fallback : α} :
    (named members).orElse place key fallback decode =
      (readPresent key decode (members.lookup key)).map fun found => found.getD fallback := by
  rw [orElse, optional_named]

theorem text_named :
    (named members).text place key =
      (readPresent key Json.asString (members.lookup key)).map fun found => found.getD "" :=
  orElse_named

@[simp]
theorem readPresent_string (value fallback : String) :
    (readPresent key Json.asString (some (.string value))).map
      (fun found => found.getD fallback) = .read value :=
  rfl

theorem nullable_named :
    (named members).nullable place key decode = readPresent key decode (members.lookup key) := by
  cases found : members.lookup key <;> simp [nullable, field, found, readPresent, Reading.ofExcept]

/-- A member that may be missing is read back if its value is. -/
theorem readPresent_map {encode : β → Json} {readBack : β → α} (value : Option β)
    (notNull : ∀ present ∈ value, encode present ≠ .null)
    (each : ∀ present ∈ value, decode (encode present) = .ok (readBack present)) :
    readPresent key decode (value.map encode) = .read (value.map readBack) := by
  cases value with
  | none => rfl
  | some present =>
      have decoded : Json.asNullable decode (encode present) = .ok (some (readBack present)) := by
        rw [Json.asNullable_of_ne_null (notNull present rfl), each present rfl]
        rfl
      simp [readPresent, decoded, Reading.ofExcept]

theorem readPresent_same {encode : α → Json} (value : Option α)
    (notNull : ∀ present ∈ value, encode present ≠ .null)
    (each : ∀ present ∈ value, decode (encode present) = .ok present) :
    readPresent key decode (value.map encode) = .read value := by
  have kept : readPresent key decode (value.map encode) = .read (value.map id) :=
    readPresent_map value notNull each
  rwa [Option.map_id] at kept

/-- A list that may be missing is read back if its items are. -/
theorem readPresent_lists {encode : β → Json} {readBack : β → α} {value : Option (List β)}
    (each : ∀ items ∈ value, ∀ item ∈ items, decode (encode item) = .ok (readBack item)) :
    readPresent key (Json.asList decode) (value.map fun items => .array (items.map encode)) =
      .read (value.map fun items => items.map readBack) :=
  readPresent_map value (by simp) fun items present => Json.asList_map (each items present)

@[simp]
theorem readPresent_strings (value : Option String) :
    readPresent key Json.asString (value.map .string) = .read value := by
  cases value <;> rfl

@[simp]
theorem readPresent_bools (value : Option Bool) :
    readPresent key Json.asBool (value.map .bool) = .read value := by
  cases value <;> rfl

@[simp]
theorem readPresent_stringLists (value : Option (List String)) :
    readPresent key (Json.asList Json.asString) (value.map Json.ofStrings) = .read value :=
  readPresent_same value (by simp [Json.ofStrings]) fun texts _ => Json.asList_ofStrings texts

@[simp]
theorem readPresent_tables (value : Option (Table String)) :
    readPresent key (Json.asTable Json.asString) (value.map Table.encode) = .read value :=
  readPresent_same value (by simp [Table.encode]) fun table _ => Json.asTable_encode table

theorem readPresent_integers {value : Option Int}
    (fits : ∀ present ∈ value, Json.FitsInt64 present) :
    readPresent key Json.asInt64 (value.map Json.integer) = .read value :=
  readPresent_same value (by simp [Json.integer]) fun present given =>
    Json.asInt64_integer (fits present given)

theorem exists_document_of_field {absent : Except DecodeFailure α} {value : α}
    (wasRead : source.field place key absent decode = .read value) :
    absent = .ok value ∨ ∃ document, decode document = .ok value := by
  unfold field at wasRead
  split at wasRead
  all_goals
    split at wasRead
    next document _ => exact .inr ⟨document, Reading.ofExcept_eq_read_iff.1 wasRead⟩
    next => exact .inl (Reading.ofExcept_eq_read_iff.1 wasRead)

theorem exists_document_of_required {value : α}
    (wasRead : source.required place key decode = .read value) :
    ∃ document, decode document = .ok value := by
  rcases exists_document_of_field wasRead with absent | found
  · simp at absent
  · exact found

theorem exists_document_of_defaulted {fallback value : α}
    (wasRead : source.defaulted place key fallback decode = .read value) :
    fallback = value ∨ ∃ document, decode document = .ok value := by
  rcases exists_document_of_field wasRead with absent | found
  · exact .inl (Except.ok.inj absent)
  · exact .inr found

theorem exists_document_of_optional {value : α}
    (wasRead : source.optional place key decode = .read (some value)) :
    ∃ document, document ≠ .null ∧ decode document = .ok value := by
  rcases exists_document_of_field wasRead with absent | ⟨document, found⟩
  · simp at absent
  · exact ⟨document, Json.asNullable_eq_ok_some_iff.1 found⟩

theorem exists_document_of_nullable {value : α}
    (wasRead : source.nullable place key decode = .read (some value)) :
    ∃ document, document ≠ .null ∧ decode document = .ok value := by
  rcases exists_document_of_field wasRead with absent | ⟨document, found⟩
  · cases source <;> simp at absent
  · exact ⟨document, Json.asNullable_eq_ok_some_iff.1 found⟩

end RecordSource
end PoolPlanner
