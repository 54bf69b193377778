import PoolPlanner.Resource.Kind

/-!
# Block devices

Disks that were found on nodes.  The planner reads them and keeps one thing on them: the marker of
the storage set that reserves a device.
-/

namespace PoolPlanner

/-- How far a device is bound to a claim. -/
inductive ClaimState
  | unclaimed
  | claimed
  | released
deriving DecidableEq, Repr

/-- Whether a device can be used. -/
inductive DeviceState
  | active
  | inactive
  | unknown
deriving DecidableEq, Repr

namespace ClaimState

def named : List (String × ClaimState) :=
  [("Unclaimed", .unclaimed), ("Claimed", .claimed), ("Released", .released)]

def name : ClaimState → String
  | .unclaimed => "Unclaimed"
  | .claimed => "Claimed"
  | .released => "Released"

end ClaimState

namespace DeviceState

def named : List (String × DeviceState) :=
  [("Active", .active), ("Inactive", .inactive), ("Unknown", .unknown)]

def name : DeviceState → String
  | .active => "Active"
  | .inactive => "Inactive"
  | .unknown => "Unknown"

end DeviceState

/-- The size of a device. -/
structure DeviceCapacity where
  bytes : Nat := 0
deriving DecidableEq, Inhabited

namespace DeviceCapacity

def decode : Decoder DeviceCapacity :=
  Json.asRecord "struct DeviceCapacity" 1 fun source =>
    DeviceCapacity.mk <$> source.defaulted 0 "storage" 0 (Json.asUnsigned "u64")

def encode (capacity : DeviceCapacity) : Json :=
  .ofMembers [("storage", some (Json.integer capacity.bytes))]

end DeviceCapacity

/-- The node on which a device was found. -/
structure NodeAttributes where
  nodeName : String := ""
deriving DecidableEq, Inhabited

namespace NodeAttributes

def decode : Decoder NodeAttributes :=
  Json.asRecord "struct NodeAttributes" 1 fun source =>
    NodeAttributes.mk <$> source.defaulted 0 "nodeName" "" Json.asString

def encode (attributes : NodeAttributes) : Json :=
  .ofMembers [("nodeName", some (.string attributes.nodeName))]

end NodeAttributes

/-- What is known of a device. -/
structure BlockDeviceSpec where
  capacity : DeviceCapacity := {}
  nodeAttributes : NodeAttributes := {}
  path : Option String := none
deriving DecidableEq, Inhabited

namespace BlockDeviceSpec

def decode : Decoder BlockDeviceSpec :=
  Json.asRecord "struct BlockDeviceSpec" 3 fun source =>
    BlockDeviceSpec.mk <$> source.defaulted 0 "capacity" {} DeviceCapacity.decode <*>
      source.defaulted 1 "nodeAttributes" {} NodeAttributes.decode <*>
      source.optional 2 "path" Json.asString

def encode (spec : BlockDeviceSpec) : Json :=
  .ofMembers
    [("capacity", some spec.capacity.encode),
      ("nodeAttributes", some spec.nodeAttributes.encode),
      ("path", spec.path.map .string)]

end BlockDeviceSpec

/-- The state of a device. -/
structure BlockDeviceStatus where
  claimState : ClaimState := .unclaimed
  state : DeviceState := .unknown
deriving DecidableEq

namespace BlockDeviceStatus

def decode : Decoder BlockDeviceStatus :=
  Json.asRecord "struct BlockDeviceStatus" 2 fun source =>
    BlockDeviceStatus.mk <$>
      source.defaulted 0 "claimState" .unclaimed (Json.asVariant ClaimState.named) <*>
      source.defaulted 1 "state" .unknown (Json.asVariant DeviceState.named)

def encode (status : BlockDeviceStatus) : Json :=
  .ofMembers
    [("claimState", some (.string status.claimState.name)),
      ("state", some (.string status.state.name))]

end BlockDeviceStatus

/-- A disk that was found on a node. -/
structure BlockDevice where
  metadata : ObjectMeta
  spec : BlockDeviceSpec
  status : Option BlockDeviceStatus := none

namespace BlockDevice

/-- The name of a device, empty if it has none. -/
def name (device : BlockDevice) : String :=
  device.metadata.name.getD ""

/-- The host of a device: its hostname label, or the node on which it was found. -/
def host? (device : BlockDevice) : Option String :=
  let label := device.metadata.labels.bind fun labels => labels.find? hostnameLabel
  let node := device.spec.nodeAttributes.nodeName
  label.or (if node = "" then none else some node)

/-- The size of a device in bytes. -/
def capacity (device : BlockDevice) : Nat :=
  device.spec.capacity.bytes

/-- How far a device is bound to a claim; a device without status is not. -/
def claimState (device : BlockDevice) : ClaimState :=
  match device.status with
  | some status => status.claimState
  | none => .unclaimed

/-- Whether a device can be used. -/
def isActive (device : BlockDevice) : Bool :=
  device.status.any fun status => status.state = .active

/-- The uid of the storage set that a device is reserved for. -/
def owner? (device : BlockDevice) : Option String :=
  device.metadata.marker? MarkerKey.storageSet

def isOwnedBy (device : BlockDevice) (owner : String) : Bool :=
  device.owner? = some owner

def reserve (device : BlockDevice) (owner : String) : BlockDevice :=
  { device with metadata := device.metadata.mark MarkerKey.storageSet owner }

/-- The device without any reservation. -/
def release (device : BlockDevice) : BlockDevice :=
  { device with metadata := device.metadata.unmark MarkerKey.storageSet }

/-- The last of some devices that has a name. -/
def lastNamed? (devices : List BlockDevice) (wanted : String) : Option BlockDevice :=
  devices.reverse.find? fun device => device.name = wanted

end BlockDevice

instance : Resource BlockDevice where
  kind := "BlockDevice"
  apiVersion := "openebs.io/v1alpha1"
  metadata := BlockDevice.metadata
  decode :=
    Json.asRecord "struct BlockDevice" 3 fun source =>
      BlockDevice.mk <$> source.required 0 "metadata" ObjectMeta.decode <*>
        source.required 1 "spec" BlockDeviceSpec.decode <*>
        source.nullable 2 "status" BlockDeviceStatus.decode
  encode device :=
    .ofMembers
      [("apiVersion", some (.string "openebs.io/v1alpha1")),
        ("kind", some (.string "BlockDevice")),
        ("metadata", some device.metadata.encode),
        ("spec", some device.spec.encode),
        ("status", device.status.map BlockDeviceStatus.encode)]

end PoolPlanner
