import PoolPlanner.Resource.Metadata

/-!
# What nodes report

The state that a machine of the cluster reports about itself.  Planning asks for none of it by name,
but a selector may, since it is evaluated against the whole node.
-/

namespace PoolPlanner

/-- A stored object that a node takes its settings from. -/
structure ConfigMapSource where
  kubeletConfigKey : String
  name : String
  objectNamespace : String
  resourceVersion : Option String
  uid : Option String

namespace ConfigMapSource

def decode : Decoder ConfigMapSource :=
  Json.asObject "ConfigMapNodeConfigSource" fun source =>
    ConfigMapSource.mk <$> source.text 0 "kubeletConfigKey" <*> source.text 1 "name" <*>
      source.text 2 "namespace" <*>
      source.optional 3 "resourceVersion" Json.asString <*>
      source.optional 4 "uid" Json.asString

def encode (origin : ConfigMapSource) : Json :=
  .ofMembers
    [("kubeletConfigKey", some (.string origin.kubeletConfigKey)),
      ("name", some (.string origin.name)),
      ("namespace", some (.string origin.objectNamespace)),
      ("resourceVersion", origin.resourceVersion.map .string),
      ("uid", origin.uid.map .string)]

end ConfigMapSource

/-- Where a node takes its settings from. -/
structure NodeConfigSource where
  configMap : Option ConfigMapSource := none

namespace NodeConfigSource

def decode : Decoder NodeConfigSource :=
  Json.asObject "NodeConfigSource" fun source =>
    NodeConfigSource.mk <$> source.optional 0 "configMap" ConfigMapSource.decode

def encode (origin : NodeConfigSource) : Json :=
  .ofMembers [("configMap", origin.configMap.map ConfigMapSource.encode)]

end NodeConfigSource

/-- The settings that a node runs with, and those that it was told to use. -/
structure NodeConfigStatus where
  active : Option NodeConfigSource := none
  assigned : Option NodeConfigSource := none
  error : Option String := none
  lastKnownGood : Option NodeConfigSource := none

namespace NodeConfigStatus

def decode : Decoder NodeConfigStatus :=
  Json.asObject "NodeConfigStatus" fun source =>
    NodeConfigStatus.mk <$> source.optional 0 "active" NodeConfigSource.decode <*>
      source.optional 1 "assigned" NodeConfigSource.decode <*>
      source.optional 2 "error" Json.asString <*>
      source.optional 3 "lastKnownGood" NodeConfigSource.decode

def encode (status : NodeConfigStatus) : Json :=
  .ofMembers
    [("active", status.active.map NodeConfigSource.encode),
      ("assigned", status.assigned.map NodeConfigSource.encode),
      ("error", status.error.map .string),
      ("lastKnownGood", status.lastKnownGood.map NodeConfigSource.encode)]

end NodeConfigStatus

/-- An address of a node. -/
structure NodeAddress where
  address : String
  addressType : String

namespace NodeAddress

def decode : Decoder NodeAddress :=
  Json.asObject "NodeAddress" fun source =>
    NodeAddress.mk <$> source.text 0 "address" <*> source.text 1 "type"

def encode (address : NodeAddress) : Json :=
  .ofMembers
    [("address", some (.string address.address)), ("type", some (.string address.addressType))]

end NodeAddress

/-- A condition that a node is in. -/
structure NodeCondition where
  lastHeartbeatTime : Option Instant
  lastTransitionTime : Option Instant
  message : Option String
  reason : Option String
  state : String
  conditionType : String

namespace NodeCondition

def decode : Decoder NodeCondition :=
  Json.asObject "NodeCondition" fun source =>
    NodeCondition.mk <$> source.optional 0 "lastHeartbeatTime" Instant.decode <*>
      source.optional 1 "lastTransitionTime" Instant.decode <*>
      source.optional 2 "message" Json.asString <*>
      source.optional 3 "reason" Json.asString <*>
      source.text 4 "status" <*> source.text 5 "type"

def encode (condition : NodeCondition) : Json :=
  .ofMembers
    [("lastHeartbeatTime",
        condition.lastHeartbeatTime.map fun time => .string time.wholeText),
      ("lastTransitionTime",
        condition.lastTransitionTime.map fun time => .string time.wholeText),
      ("message", condition.message.map .string),
      ("reason", condition.reason.map .string),
      ("status", some (.string condition.state)),
      ("type", some (.string condition.conditionType))]

end NodeCondition

/-- A port on which a node is served. -/
structure DaemonEndpoint where
  port : Int

namespace DaemonEndpoint

/-- Decode a port; one that is absent or `null` is zero. -/
def decode : Decoder DaemonEndpoint :=
  Json.asObject "DaemonEndpoint" fun source =>
    DaemonEndpoint.mk <$> source.orElse 0 "Port" 0 Json.asInt32

def encode (endpoint : DaemonEndpoint) : Json :=
  .ofMembers [("Port", some (Json.integer endpoint.port))]

end DaemonEndpoint

/-- The ports on which the services of a node listen. -/
structure NodeDaemonEndpoints where
  kubeletEndpoint : Option DaemonEndpoint := none

namespace NodeDaemonEndpoints

def decode : Decoder NodeDaemonEndpoints :=
  Json.asObject "NodeDaemonEndpoints" fun source =>
    NodeDaemonEndpoints.mk <$> source.optional 0 "kubeletEndpoint" DaemonEndpoint.decode

def encode (endpoints : NodeDaemonEndpoints) : Json :=
  .ofMembers [("kubeletEndpoint", endpoints.kubeletEndpoint.map DaemonEndpoint.encode)]

end NodeDaemonEndpoints

/-- An image that a node has. -/
structure ContainerImage where
  names : Option (List String)
  sizeBytes : Option Int

namespace ContainerImage

def decode : Decoder ContainerImage :=
  Json.asObject "ContainerImage" fun source =>
    ContainerImage.mk <$> source.optional 0 "names" (Json.asList Json.asString) <*>
      source.optional 1 "sizeBytes" Json.asInt64

def encode (image : ContainerImage) : Json :=
  .ofMembers
    [("names", image.names.map Json.ofStrings), ("sizeBytes", image.sizeBytes.map Json.integer)]

end ContainerImage

/-- The hardware and the software of a node. -/
structure NodeSystemInfo where
  architecture : String
  bootId : String
  containerRuntimeVersion : String
  kernelVersion : String
  kubeProxyVersion : String
  kubeletVersion : String
  machineId : String
  operatingSystem : String
  osImage : String
  systemUuid : String

namespace NodeSystemInfo

def decode : Decoder NodeSystemInfo :=
  Json.asObject "NodeSystemInfo" fun source =>
    NodeSystemInfo.mk <$> source.text 0 "architecture" <*> source.text 1 "bootID" <*>
      source.text 2 "containerRuntimeVersion" <*> source.text 3 "kernelVersion" <*>
      source.text 4 "kubeProxyVersion" <*> source.text 5 "kubeletVersion" <*>
      source.text 6 "machineID" <*> source.text 7 "operatingSystem" <*>
      source.text 8 "osImage" <*> source.text 9 "systemUUID"

def encode (info : NodeSystemInfo) : Json :=
  .ofMembers
    [("architecture", some (.string info.architecture)),
      ("bootID", some (.string info.bootId)),
      ("containerRuntimeVersion", some (.string info.containerRuntimeVersion)),
      ("kernelVersion", some (.string info.kernelVersion)),
      ("kubeProxyVersion", some (.string info.kubeProxyVersion)),
      ("kubeletVersion", some (.string info.kubeletVersion)),
      ("machineID", some (.string info.machineId)),
      ("operatingSystem", some (.string info.operatingSystem)),
      ("osImage", some (.string info.osImage)),
      ("systemUUID", some (.string info.systemUuid))]

end NodeSystemInfo

/-- A volume that is attached to a node. -/
structure AttachedVolume where
  devicePath : String
  name : String

namespace AttachedVolume

def decode : Decoder AttachedVolume :=
  Json.asObject "AttachedVolume" fun source =>
    AttachedVolume.mk <$> source.text 0 "devicePath" <*> source.text 1 "name"

def encode (volume : AttachedVolume) : Json :=
  .ofMembers
    [("devicePath", some (.string volume.devicePath)), ("name", some (.string volume.name))]

end AttachedVolume

/-- The state that a node reports. -/
structure NodeStatus where
  addresses : Option (List NodeAddress) := none
  allocatable : Option (Table String) := none
  capacity : Option (Table String) := none
  conditions : Option (List NodeCondition) := none
  config : Option NodeConfigStatus := none
  daemonEndpoints : Option NodeDaemonEndpoints := none
  images : Option (List ContainerImage) := none
  nodeInfo : Option NodeSystemInfo := none
  phase : Option String := none
  volumesAttached : Option (List AttachedVolume) := none
  volumesInUse : Option (List String) := none

namespace NodeStatus

def decode : Decoder NodeStatus :=
  Json.asObject "NodeStatus" fun source =>
    NodeStatus.mk <$> source.optional 0 "addresses" (Json.asList NodeAddress.decode) <*>
      source.optional 1 "allocatable" (Json.asTable Json.asString) <*>
      source.optional 2 "capacity" (Json.asTable Json.asString) <*>
      source.optional 3 "conditions" (Json.asList NodeCondition.decode) <*>
      source.optional 4 "config" NodeConfigStatus.decode <*>
      source.optional 5 "daemonEndpoints" NodeDaemonEndpoints.decode <*>
      source.optional 6 "images" (Json.asList ContainerImage.decode) <*>
      source.optional 7 "nodeInfo" NodeSystemInfo.decode <*>
      source.optional 8 "phase" Json.asString <*>
      source.optional 9 "volumesAttached" (Json.asList AttachedVolume.decode) <*>
      source.optional 10 "volumesInUse" (Json.asList Json.asString)

def encode (status : NodeStatus) : Json :=
  .ofMembers
    [("addresses", status.addresses.map fun found => .array (found.map NodeAddress.encode)),
      ("allocatable", status.allocatable.map Table.encode),
      ("capacity", status.capacity.map Table.encode),
      ("conditions", status.conditions.map fun found => .array (found.map NodeCondition.encode)),
      ("config", status.config.map NodeConfigStatus.encode),
      ("daemonEndpoints", status.daemonEndpoints.map NodeDaemonEndpoints.encode),
      ("images", status.images.map fun found => .array (found.map ContainerImage.encode)),
      ("nodeInfo", status.nodeInfo.map NodeSystemInfo.encode),
      ("phase", status.phase.map .string),
      ("volumesAttached",
        status.volumesAttached.map fun found => .array (found.map AttachedVolume.encode)),
      ("volumesInUse", status.volumesInUse.map Json.ofStrings)]

end NodeStatus
end PoolPlanner
