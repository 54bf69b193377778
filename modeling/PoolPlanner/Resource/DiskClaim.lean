import PoolPlanner.Resource.Node

/-!
# Disk claims

Claims for volumes, by which a storage set asks an external driver for its disks.
-/

namespace PoolPlanner

/-- The resources that a claim asks for. -/
structure VolumeResources where
  limits : Option (Table String) := none
  requests : Option (Table String) := none

namespace VolumeResources

def decode : Decoder VolumeResources :=
  Json.asObject "VolumeResourceRequirements" fun source =>
    VolumeResources.mk <$> source.optional 0 "limits" (Json.asTable Json.asString) <*>
      source.optional 1 "requests" (Json.asTable Json.asString)

def encode (resources : VolumeResources) : Json :=
  .ofMembers
    [("limits", resources.limits.map Table.encode),
      ("requests", resources.requests.map Table.encode)]

end VolumeResources

/-- What a claim asks for. -/
structure DiskClaimSpec where
  accessModes : Option (List String) := none
  resources : Option VolumeResources := none
  storageClassName : Option String := none
  volumeMode : Option String := none
  volumeName : Option String := none

namespace DiskClaimSpec

def decode : Decoder DiskClaimSpec :=
  Json.asObject "PersistentVolumeClaimSpec" fun source =>
    DiskClaimSpec.mk <$> source.optional 0 "accessModes" (Json.asList Json.asString) <*>
      source.optional 1 "resources" VolumeResources.decode <*>
      source.optional 2 "storageClassName" Json.asString <*>
      source.optional 3 "volumeMode" Json.asString <*>
      source.optional 4 "volumeName" Json.asString

def encode (spec : DiskClaimSpec) : Json :=
  .ofMembers
    [("accessModes", spec.accessModes.map Json.ofStrings),
      ("resources", spec.resources.map VolumeResources.encode),
      ("storageClassName", spec.storageClassName.map .string),
      ("volumeMode", spec.volumeMode.map .string),
      ("volumeName", spec.volumeName.map .string)]

end DiskClaimSpec

/-- A condition that a claim is in. -/
structure DiskClaimCondition where
  lastProbeTime : Option Instant
  lastTransitionTime : Option Instant
  message : Option String
  reason : Option String
  state : String
  conditionType : String

namespace DiskClaimCondition

def decode : Decoder DiskClaimCondition :=
  Json.asObject "PersistentVolumeClaimCondition" fun source =>
    DiskClaimCondition.mk <$> source.optional 0 "lastProbeTime" Instant.decode <*>
      source.optional 1 "lastTransitionTime" Instant.decode <*>
      source.optional 2 "message" Json.asString <*>
      source.optional 3 "reason" Json.asString <*>
      source.text 4 "status" <*> source.text 5 "type"

def encode (condition : DiskClaimCondition) : Json :=
  .ofMembers
    [("lastProbeTime", condition.lastProbeTime.map fun time => .string time.wholeText),
      ("lastTransitionTime",
        condition.lastTransitionTime.map fun time => .string time.wholeText),
      ("message", condition.message.map .string),
      ("reason", condition.reason.map .string),
      ("status", some (.string condition.state)),
      ("type", some (.string condition.conditionType))]

end DiskClaimCondition

/-- How far a change to the class of a volume has come. -/
structure VolumeChange where
  state : String
  targetClassName : Option String

namespace VolumeChange

def decode : Decoder VolumeChange :=
  Json.asObject "ModifyVolumeStatus" fun source =>
    VolumeChange.mk <$> source.text 0 "status" <*>
      source.optional 1 "targetVolumeAttributesClassName" Json.asString

def encode (change : VolumeChange) : Json :=
  .ofMembers
    [("status", some (.string change.state)),
      ("targetVolumeAttributesClassName", change.targetClassName.map .string)]

end VolumeChange

/-- The state of a claim. -/
structure DiskClaimStatus where
  accessModes : Option (List String) := none
  allocatedResourceStatuses : Option (Table String) := none
  allocatedResources : Option (Table String) := none
  capacity : Option (Table String) := none
  conditions : Option (List DiskClaimCondition) := none
  currentClassName : Option String := none
  change : Option VolumeChange := none
  phase : Option String := none

namespace DiskClaimStatus

def decode : Decoder DiskClaimStatus :=
  Json.asObject "PersistentVolumeClaimStatus" fun source =>
    DiskClaimStatus.mk <$> source.optional 0 "accessModes" (Json.asList Json.asString) <*>
      source.optional 1 "allocatedResourceStatuses" (Json.asTable Json.asString) <*>
      source.optional 2 "allocatedResources" (Json.asTable Json.asString) <*>
      source.optional 3 "capacity" (Json.asTable Json.asString) <*>
      source.optional 4 "conditions" (Json.asList DiskClaimCondition.decode) <*>
      source.optional 5 "currentVolumeAttributesClassName" Json.asString <*>
      source.optional 6 "modifyVolumeStatus" VolumeChange.decode <*>
      source.optional 7 "phase" Json.asString

def encode (status : DiskClaimStatus) : Json :=
  .ofMembers
    [("accessModes", status.accessModes.map Json.ofStrings),
      ("allocatedResourceStatuses", status.allocatedResourceStatuses.map Table.encode),
      ("allocatedResources", status.allocatedResources.map Table.encode),
      ("capacity", status.capacity.map Table.encode),
      ("conditions",
        status.conditions.map fun found => .array (found.map DiskClaimCondition.encode)),
      ("currentVolumeAttributesClassName", status.currentClassName.map .string),
      ("modifyVolumeStatus", status.change.map VolumeChange.encode),
      ("phase", status.phase.map .string)]

end DiskClaimStatus

/-- A claim for a volume. -/
structure DiskClaim where
  metadata : ObjectMeta
  spec : Option DiskClaimSpec := none
  status : Option DiskClaimStatus := none

instance : Resource DiskClaim where
  kind := "PersistentVolumeClaim"
  apiVersion := "v1"
  metadata := DiskClaim.metadata
  decode :=
    Json.asObject "PersistentVolumeClaim" fun source =>
      (fun _ _ metadata spec status =>
          { metadata := metadata.getD {}, spec, status : DiskClaim }) <$>
        source.defaulted 0 "apiVersion" "v1" (Json.asExactly "v1") <*>
        source.defaulted 1 "kind" "PersistentVolumeClaim"
          (Json.asExactly "PersistentVolumeClaim") <*>
        source.optional 2 "metadata" ObjectMeta.decode <*>
        source.optional 3 "spec" DiskClaimSpec.decode <*>
        source.optional 4 "status" DiskClaimStatus.decode
  encode claim :=
    .ofMembers
      [("apiVersion", some (.string "v1")),
        ("kind", some (.string "PersistentVolumeClaim")),
        ("metadata", some claim.metadata.encode),
        ("spec", claim.spec.map DiskClaimSpec.encode),
        ("status", claim.status.map DiskClaimStatus.encode)]

end PoolPlanner
