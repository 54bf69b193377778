import PoolPlanner.Resource.Kind
import PoolPlanner.Resource.NodeStatus

/-!
# Nodes

The machines of a cluster.  Planning takes their names, their uids and whether they take new work;
what a config demands of them may be about anything else in them.
-/

namespace PoolPlanner

/-- Decode a text that has to be a given one. -/
def Json.asExactly (expected : String) : Decoder String
  | .string text =>
      if text = expected then .ok text
      else .error (.wrongValue ("string " ++ Text.quote text) expected)
  | other => other.unexpected "a string"

/-- A mark that keeps work away from a node. -/
structure Taint where
  effect : String
  key : String
  timeAdded : Option Instant
  value : Option String

namespace Taint

def decode : Decoder Taint :=
  Json.asObject "Taint" fun source =>
    Taint.mk <$> source.text 0 "effect" <*> source.text 1 "key" <*>
      source.optional 2 "timeAdded" Instant.decode <*>
      source.optional 3 "value" Json.asString

def encode (taint : Taint) : Json :=
  .ofMembers
    [("effect", some (.string taint.effect)),
      ("key", some (.string taint.key)),
      ("timeAdded", taint.timeAdded.map fun time => .string time.wholeText),
      ("value", taint.value.map .string)]

end Taint

/-- What a node is set to. -/
structure NodeSpec where
  configSource : Option NodeConfigSource := none
  externalId : Option String := none
  podCidr : Option String := none
  podCidrs : Option (List String) := none
  providerId : Option String := none
  taints : Option (List Taint) := none
  unschedulable : Option Bool := none

namespace NodeSpec

def decode : Decoder NodeSpec :=
  Json.asObject "NodeSpec" fun source =>
    NodeSpec.mk <$> source.optional 0 "configSource" NodeConfigSource.decode <*>
      source.optional 1 "externalID" Json.asString <*>
      source.optional 2 "podCIDR" Json.asString <*>
      source.optional 3 "podCIDRs" (Json.asList Json.asString) <*>
      source.optional 4 "providerID" Json.asString <*>
      source.optional 5 "taints" (Json.asList Taint.decode) <*>
      source.optional 6 "unschedulable" Json.asBool

def encode (spec : NodeSpec) : Json :=
  .ofMembers
    [("configSource", spec.configSource.map NodeConfigSource.encode),
      ("externalID", spec.externalId.map .string),
      ("podCIDR", spec.podCidr.map .string),
      ("podCIDRs", spec.podCidrs.map Json.ofStrings),
      ("providerID", spec.providerId.map .string),
      ("taints", spec.taints.map fun taints => .array (taints.map Taint.encode)),
      ("unschedulable", spec.unschedulable.map .bool)]

end NodeSpec

/-- A machine of the cluster. -/
structure Node where
  metadata : ObjectMeta
  spec : Option NodeSpec := none
  status : Option NodeStatus := none

namespace Node

/-- Whether new work may not be put on a node. -/
def isUnschedulable (node : Node) : Bool :=
  (node.spec.bind NodeSpec.unschedulable).getD false

end Node

instance : Resource Node where
  kind := "Node"
  apiVersion := "v1"
  metadata := Node.metadata
  decode :=
    Json.asObject "Node" fun source =>
      (fun _ _ metadata spec status =>
          { metadata := metadata.getD {}, spec, status : Node }) <$>
        source.defaulted 0 "apiVersion" "v1" (Json.asExactly "v1") <*>
        source.defaulted 1 "kind" "Node" (Json.asExactly "Node") <*>
        source.optional 2 "metadata" ObjectMeta.decode <*>
        source.optional 3 "spec" NodeSpec.decode <*>
        source.optional 4 "status" NodeStatus.decode
  encode node :=
    .ofMembers
      [("apiVersion", some (.string "v1")),
        ("kind", some (.string "Node")),
        ("metadata", some node.metadata.encode),
        ("spec", node.spec.map NodeSpec.encode),
        ("status", node.status.map NodeStatus.encode)]

end PoolPlanner
