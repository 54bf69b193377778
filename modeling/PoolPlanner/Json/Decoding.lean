import PoolPlanner.Json.Value
import PoolPlanner.Table
import PoolPlanner.Text.Quoted

/-!
# Reading values out of documents

A decoder takes a document to a typed value or says why it has none.  A record is decoded from an
object, by member names, or from an array, by the places of its fields.

Of several faults in one record the reported one is fixed.  Members are visited in key order, so
the malformed member with the least key comes first; a missing member is noticed only after all
those present were read, in the order in which the record declares its fields.
-/

namespace PoolPlanner

inductive DecodeFailure
  | wrongType (found expected : String)
  | wrongValue (found expected : String)
  | wrongLength (length : Nat) (expected : String)
  | missingField (name : String)
  | unknownVariant (name : String) (known : List String)
  | stated (reason : String)
deriving DecidableEq, Repr

namespace DecodeFailure

def alternatives : List String → String
  | [] => "there are no variants"
  | [only] => s!"expected `{only}`"
  | [first, second] => s!"expected `{first}` or `{second}`"
  | names => "expected one of " ++ ", ".intercalate (names.map fun name => s!"`{name}`")

def message : DecodeFailure → String
  | .wrongType found expected => s!"invalid type: {found}, expected {expected}"
  | .wrongValue found expected => s!"invalid value: {found}, expected {expected}"
  | .wrongLength length expected => s!"invalid length {length}, expected {expected}"
  | .missingField name => s!"missing field `{name}`"
  | .unknownVariant name known => s!"unknown variant `{name}`, {alternatives known}"
  | .stated reason => reason

end DecodeFailure

abbrev Decoder (α : Type) :=
  Json → Except DecodeFailure α

namespace Json

/-- A document as a failure message names it. -/
def description : Json → String
  | .null => "null"
  | .bool value => if value then "boolean `true`" else "boolean `false`"
  | .number (.integer value) => s!"integer `{value}`"
  | .number double => s!"floating point `{double.text}`"
  | .string value => "string " ++ Text.quote value
  | .array _ => "sequence"
  | .object _ => "map"

def unexpected {α : Type} (document : Json) (expected : String) : Except DecodeFailure α :=
  .error (.wrongType document.description expected)

def asString : Decoder String
  | .string value => .ok value
  | other => other.unexpected "a string"

def asBool : Decoder Bool
  | .bool value => .ok value
  | other => other.unexpected "a boolean"

/-- Decode an integer between bounds; `kind` names the range in messages. -/
def asBounded (kind : String) (least greatest : Int) : Decoder Int
  | .number (.integer value) =>
      if least ≤ value ∧ value ≤ greatest then .ok value
      else .error (.wrongValue (Json.integer value).description kind)
  | other => other.unexpected kind

def asInt32 : Decoder Int :=
  asBounded "i32" (-(2 ^ 31)) (2 ^ 31 - 1)

def asInt64 : Decoder Int :=
  asBounded "i64" (-(2 ^ 63)) (2 ^ 63 - 1)

def asUnsigned (kind : String) : Decoder Nat := fun document =>
  (asBounded kind 0 (2 ^ 64 - 1) document).map Int.toNat

def decodeItems {α : Type} (decode : Decoder α) : List Json → Except DecodeFailure (List α)
  | [] => .ok []
  | item :: rest =>
      match decode item with
      | .error failure => .error failure
      | .ok value => (decodeItems decode rest).map (value :: ·)

def asList {α : Type} (decode : Decoder α) : Decoder (List α)
  | .array items => decodeItems decode items
  | other => other.unexpected "a sequence"

def decodeMembers {α : Type} (decode : Decoder α) :
    List (String × Json) → Except DecodeFailure (List (String × α))
  | [] => .ok []
  | (key, member) :: rest =>
      match decode member with
      | .error failure => .error failure
      | .ok value => (decodeMembers decode rest).map ((key, value) :: ·)

def asTable {α : Type} (decode : Decoder α) : Decoder (Table α)
  | .object members => (decodeMembers decode members).map Table.ofList
  | other => other.unexpected "a map"

def asNullable {α : Type} (decode : Decoder α) : Decoder (Option α)
  | .null => .ok none
  | document => (decode document).map some

def variantNamed {α : Type} (variants : List (String × α)) (name : String) :
    Except DecodeFailure α :=
  match variants.lookup name with
  | some value => .ok value
  | none => .error (.unknownVariant name (variants.map Prod.fst))

/-- Decode one of some named variants: its name, or an object with its name as only key and
nothing under it. -/
def asVariant {α : Type} (variants : List (String × α)) : Decoder α
  | .string name => variantNamed variants name
  | .object [(name, content)] =>
      match variantNamed variants name with
      | .error failure => .error failure
      | .ok value => if content.isNull then .ok value else content.unexpected "unit"
  | .object members =>
      .error (.wrongValue (Json.object members).description "map with a single key")
  | other => other.unexpected "string or map"

end Json

/-- A fault met while a record is read: in a member on the visit in key order, or after it, in the
order of declaration. -/
inductive RecordFault
  | visited (key : String) (failure : DecodeFailure)
  | declared (failure : DecodeFailure)

namespace RecordFault

def failure : RecordFault → DecodeFailure
  | .visited _ failure => failure
  | .declared failure => failure

/-- Which of two faults is reported, when the field of the first is declared before that of the
second. -/
def reported : RecordFault → RecordFault → RecordFault
  | .visited key failure, .visited laterKey laterFailure =>
      if laterKey < key then .visited laterKey laterFailure else .visited key failure
  | .visited key failure, .declared _ => .visited key failure
  | .declared _, .visited key failure => .visited key failure
  | .declared failure, .declared _ => .declared failure

end RecordFault

/-- What became of reading some fields of a record. -/
inductive Reading (α : Type)
  | read (value : α)
  | faulty (fault : RecordFault)

namespace Reading

variable {α β : Type}

/-- A field that was read or had a fault. -/
def ofExcept (fault : DecodeFailure → RecordFault) : Except DecodeFailure α → Reading α
  | .ok value => .read value
  | .error failure => .faulty (fault failure)

def map (function : α → β) : Reading α → Reading β
  | .read value => .read (function value)
  | .faulty fault => .faulty fault

/-- Add a field to those read before it, with the fault to report if there is one. -/
def apply : Reading (α → β) → Reading α → Reading β
  | .read function, .read value => .read (function value)
  | .read _, .faulty fault => .faulty fault
  | .faulty fault, .read _ => .faulty fault
  | .faulty earlier, .faulty later => .faulty (earlier.reported later)

instance : Functor Reading where
  map := map

instance : Seq Reading where
  seq fields field := apply fields (field ())

/-- The record read, or the failure to report. -/
def result : Reading α → Except DecodeFailure α
  | .read value => .ok value
  | .faulty fault => .error fault.failure

end Reading

/-- What a record is read from: named members, or items in the order of the fields. -/
inductive RecordSource
  | named (members : List (String × Json))
  | placed (items : List Json) (expected : String)

namespace RecordSource

variable {α : Type}

/-- Read a field; `absent` says what stands in for one that is not there. -/
def field (source : RecordSource) (place : Nat) (key : String)
    (absent : Except DecodeFailure α) (decode : Decoder α) : Reading α :=
  match source with
  | .named members =>
      match members.lookup key with
      | some value => .ofExcept (.visited key) (decode value)
      | none => .ofExcept .declared absent
  | .placed items _ =>
      match items[place]? with
      | some value => .ofExcept .declared (decode value)
      | none => .ofExcept .declared absent

/-- The failure of a field that has to be there. -/
def absence (source : RecordSource) (place : Nat) (key : String) : DecodeFailure :=
  match source with
  | .named _ => .missingField key
  | .placed _ expected => .wrongLength place expected

def required (source : RecordSource) (place : Nat) (key : String) (decode : Decoder α) :
    Reading α :=
  source.field place key (.error (source.absence place key)) decode

/-- Read a field that has a value of its own when it is not there. -/
def defaulted (source : RecordSource) (place : Nat) (key : String) (fallback : α)
    (decode : Decoder α) : Reading α :=
  source.field place key (.ok fallback) decode

/-- Read a field that may be absent or `null`. -/
def optional (source : RecordSource) (place : Nat) (key : String) (decode : Decoder α) :
    Reading (Option α) :=
  source.field place key (.ok none) (Json.asNullable decode)

/-- Read a field that has a value of its own when it is absent or `null`. -/
def orElse (source : RecordSource) (place : Nat) (key : String) (fallback : α)
    (decode : Decoder α) : Reading α :=
  (source.optional place key decode).map fun found => found.getD fallback

/-- Read a text that is empty when it is absent or `null`. -/
def text (source : RecordSource) (place : Nat) (key : String) : Reading String :=
  source.orElse place key "" Json.asString

/-- Read a field that may be absent or `null` among named members, but needs its place among
items. -/
def nullable (source : RecordSource) (place : Nat) (key : String) (decode : Decoder α) :
    Reading (Option α) :=
  let absent : Except DecodeFailure (Option α) :=
    match source with
    | .named _ => .ok none
    | .placed _ expected => .error (.wrongLength place expected)
  source.field place key absent (Json.asNullable decode)

end RecordSource

namespace Json

/-- Decode a record of `size` fields from an object or an array; `name` names it in messages. -/
def asRecord {α : Type} (name : String) (size : Nat) (read : RecordSource → Reading α) :
    Decoder α
  | .object members => (read (.named members)).result
  | .array items =>
      let elements := if size = 1 then "1 element" else s!"{size} elements"
      match (read (.placed items s!"{name} with {elements}")).result with
      | .error failure => .error failure
      | .ok value =>
          if size < items.length then
            .error (.wrongLength items.length "fewer elements in array")
          else
            .ok value
  | other => other.unexpected name

def asObject {α : Type} (name : String) (read : RecordSource → Reading α) : Decoder α
  | .object members => (read (.named members)).result
  | other => other.unexpected name

end Json
end PoolPlanner
