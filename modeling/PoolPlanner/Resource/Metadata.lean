import PoolPlanner.Json.Decoding
import PoolPlanner.Time.DateTime

/-!
# Object metadata

The metadata that every object of the cluster carries, how it is read and written, and the
correlation markers on it: a marker is a uid kept under one key as an annotation and as a label, of
which the annotation counts first.
-/

namespace PoolPlanner

def Instant.decode : Decoder Instant
  | .string text =>
      match Instant.read text with
      | .ok instant => .ok instant
      | .error fault => .error (.stated fault.message)
  | other => other.unexpected "an RFC 3339 formatted date and time string"

structure OwnerReference where
  apiVersion : String
  blockOwnerDeletion : Option Bool
  controller : Option Bool
  kind : String
  name : String
  uid : String
deriving DecidableEq

namespace OwnerReference

def decode : Decoder OwnerReference :=
  Json.asObject "OwnerReference" fun source =>
    OwnerReference.mk <$> source.text 0 "apiVersion" <*>
      source.optional 1 "blockOwnerDeletion" Json.asBool <*>
      source.optional 2 "controller" Json.asBool <*>
      source.text 3 "kind" <*> source.text 4 "name" <*> source.text 5 "uid"

def encode (reference : OwnerReference) : Json :=
  .ofMembers
    [("apiVersion", some (.string reference.apiVersion)),
      ("blockOwnerDeletion", reference.blockOwnerDeletion.map .bool),
      ("controller", reference.controller.map .bool),
      ("kind", some (.string reference.kind)),
      ("name", some (.string reference.name)),
      ("uid", some (.string reference.uid))]

end OwnerReference

/-- A record of who manages which fields of an object. -/
structure ManagedFields where
  apiVersion : Option String
  fieldsType : Option String
  fieldsV1 : Option Json
  manager : Option String
  operation : Option String
  subresource : Option String
  time : Option Instant

namespace ManagedFields

def decode : Decoder ManagedFields :=
  Json.asObject "ManagedFieldsEntry" fun source =>
    ManagedFields.mk <$> source.optional 0 "apiVersion" Json.asString <*>
      source.optional 1 "fieldsType" Json.asString <*>
      source.optional 2 "fieldsV1" .ok <*>
      source.optional 3 "manager" Json.asString <*>
      source.optional 4 "operation" Json.asString <*>
      source.optional 5 "subresource" Json.asString <*>
      source.optional 6 "time" Instant.decode

def encode (fields : ManagedFields) : Json :=
  .ofMembers
    [("apiVersion", fields.apiVersion.map .string),
      ("fieldsType", fields.fieldsType.map .string),
      ("fieldsV1", fields.fieldsV1),
      ("manager", fields.manager.map .string),
      ("operation", fields.operation.map .string),
      ("subresource", fields.subresource.map .string),
      ("time", fields.time.map fun time => .string time.wholeText)]

end ManagedFields

structure ObjectMeta where
  annotations : Option (Table String) := none
  creationTimestamp : Option Instant := none
  deletionGracePeriodSeconds : Option Int := none
  deletionTimestamp : Option Instant := none
  finalizers : Option (List String) := none
  generateName : Option String := none
  generation : Option Int := none
  labels : Option (Table String) := none
  managedFields : Option (List ManagedFields) := none
  name : Option String := none
  objectNamespace : Option String := none
  ownerReferences : Option (List OwnerReference) := none
  resourceVersion : Option String := none
  selfLink : Option String := none
  uid : Option String := none
deriving Inhabited

def Table.encode (table : Table String) : Json :=
  .object (table.entries.map fun entry => (entry.1, .string entry.2))

namespace ObjectMeta

def decode : Decoder ObjectMeta :=
  Json.asObject "ObjectMeta" fun source =>
    ObjectMeta.mk <$> source.optional 0 "annotations" (Json.asTable Json.asString) <*>
      source.optional 1 "creationTimestamp" Instant.decode <*>
      source.optional 2 "deletionGracePeriodSeconds" Json.asInt64 <*>
      source.optional 3 "deletionTimestamp" Instant.decode <*>
      source.optional 4 "finalizers" (Json.asList Json.asString) <*>
      source.optional 5 "generateName" Json.asString <*>
      source.optional 6 "generation" Json.asInt64 <*>
      source.optional 7 "labels" (Json.asTable Json.asString) <*>
      source.optional 8 "managedFields" (Json.asList ManagedFields.decode) <*>
      source.optional 9 "name" Json.asString <*>
      source.optional 10 "namespace" Json.asString <*>
      source.optional 11 "ownerReferences" (Json.asList OwnerReference.decode) <*>
      source.optional 12 "resourceVersion" Json.asString <*>
      source.optional 13 "selfLink" Json.asString <*>
      source.optional 14 "uid" Json.asString

def encode (metadata : ObjectMeta) : Json :=
  .ofMembers
    [("annotations", metadata.annotations.map Table.encode),
      ("creationTimestamp", metadata.creationTimestamp.map fun time => .string time.wholeText),
      ("deletionGracePeriodSeconds", metadata.deletionGracePeriodSeconds.map Json.integer),
      ("deletionTimestamp", metadata.deletionTimestamp.map fun time => .string time.wholeText),
      ("finalizers", metadata.finalizers.map Json.ofStrings),
      ("generateName", metadata.generateName.map .string),
      ("generation", metadata.generation.map Json.integer),
      ("labels", metadata.labels.map Table.encode),
      ("managedFields",
        metadata.managedFields.map fun fields => .array (fields.map ManagedFields.encode)),
      ("name", metadata.name.map .string),
      ("namespace", metadata.objectNamespace.map .string),
      ("ownerReferences",
        metadata.ownerReferences.map fun owners => .array (owners.map OwnerReference.encode)),
      ("resourceVersion", metadata.resourceVersion.map .string),
      ("selfLink", metadata.selfLink.map .string),
      ("uid", metadata.uid.map .string)]

/-- The name of an object, or what a name will be generated from, or nothing. -/
def displayName (metadata : ObjectMeta) : String :=
  (metadata.name.or metadata.generateName).getD ""

/-- A text under a key of a map that may be absent, unless it is empty. -/
def nonemptyAt (map : Option (Table String)) (key : String) : Option String :=
  (map.bind fun table => table.find? key).filter fun text => text ≠ ""

/-- The uid that metadata carries under a key: the annotation counts first, then the label. -/
def marker? (metadata : ObjectMeta) (key : String) : Option String :=
  (nonemptyAt metadata.annotations key).or (nonemptyAt metadata.labels key)

def pointsTo (metadata : ObjectMeta) (key uid : String) : Bool :=
  metadata.marker? key = some uid

/-- Record a uid under a key, as an annotation and as a label. -/
def mark (metadata : ObjectMeta) (key uid : String) : ObjectMeta :=
  { metadata with
    annotations := some ((metadata.annotations.getD .empty).insert key uid)
    labels := some ((metadata.labels.getD .empty).insert key uid) }

/-- Drop what is recorded under a key, as an annotation and as a label. -/
def unmark (metadata : ObjectMeta) (key : String) : ObjectMeta :=
  { metadata with
    annotations := metadata.annotations.map fun table => table.erase key
    labels := metadata.labels.map fun table => table.erase key }

def annotate (metadata : ObjectMeta) (key text : String) : ObjectMeta :=
  { metadata with annotations := some ((metadata.annotations.getD .empty).insert key text) }

end ObjectMeta

namespace MarkerKey

/-- On plans and pool clusters: the config they come from. -/
def clusterConfig : String :=
  "dao.mayadata.io/cstorclusterconfig-uid"

/-- On storage sets and pool clusters: the plan they come from. -/
def clusterPlan : String :=
  "dao.mayadata.io/cstorclusterplan-uid"

/-- On block devices and disk claims: the storage set that reserves them. -/
def storageSet : String :=
  "dao.mayadata.io/cstorclusterstorageset-uid"

end MarkerKey

/-- The label that names the node of a device, and by which a pool is pinned to its node. -/
def hostnameLabel : String :=
  "kubernetes.io/hostname"

end PoolPlanner
