import PoolPlanner.Json.Decoding

/-!
# Faults

Everything that can go wrong while a plan is made, by its cause.  The words of a fault, the short
reason that a status condition shows for it and what a hook does about it are functions of the
cause.
-/

namespace PoolPlanner

/-- Why a capacity text names no number of bytes. -/
inductive CapacityIssue
  | blank
  | noNumber (text : String)
  | malformedNumber (number : String)
  | unknownUnit (unit : String)
  | stated (text : String)
deriving DecidableEq, Repr

def CapacityIssue.message : CapacityIssue → String
  | .blank => "empty capacity string"
  | .noNumber text => "invalid number in " ++ Text.quote text
  | .malformedNumber number => s!"invalid number: {number}"
  | .unknownUnit unit => s!"unknown unit: {unit}"
  | .stated text => text

/-- What makes a selector requirement malformed. -/
inductive SelectorIssue
  | emptyKey
  | emptySliceKey
  | valuesRequired (operator key : String)
  | valuesForbidden (operator key : String)
  | stated (text : String)
deriving DecidableEq, Repr

def SelectorIssue.message : SelectorIssue → String
  | .emptyKey => "requirement with empty key"
  | .emptySliceKey => "slice requirement with empty key"
  | .valuesRequired operator key => s!"{operator} on {Text.quote key} requires at least one value"
  | .valuesForbidden operator key => s!"{operator} on {Text.quote key} takes no values"
  | .stated text => text

/-- What is wrong with the settings of the operator. -/
inductive ConfigurationIssue
  | notPositive (setting : String)
  | diskCapacity (issue : CapacityIssue)
  | listenAddress (address : String)
  | stated (text : String)
deriving DecidableEq, Repr

def ConfigurationIssue.message : ConfigurationIssue → String
  | .notPositive setting => s!"{setting} must be positive"
  | .diskCapacity issue => s!"defaultMinDiskCapacity: Capacity parse error: {issue.message}"
  | .listenAddress address =>
      s!"invalid listen address {address}: invalid socket address syntax"
  | .stated text => text

/-- The objects whose identity a plan builds on. -/
inductive Subject
  | clusterConfig
  | clusterPlan
  | storageSet
deriving DecidableEq, Repr

def Subject.name : Subject → String
  | .clusterConfig => "cluster config"
  | .clusterPlan => "cluster plan"
  | .storageSet => "storage set"

/-- What makes an intent or a plan unacceptable. -/
inductive ValidationIssue
  | missingUid (subject : Subject)
  | missingIdentity (subject : Subject)
  | incompleteProvisioner
  | noEligibleNodes
  | negativeCount (setting : String) (count : Int)
  | crossedPoolCounts (maximum minimum : Int)
  | zeroCapacity (text : String)
  | tooFewNodes (eligible minimum : Nat)
  | emptyPool (storageSet node : String)
  | stated (text : String)
deriving DecidableEq, Repr

def ValidationIssue.message : ValidationIssue → String
  | .missingUid subject => s!"{subject.name} has no uid"
  | .missingIdentity subject => s!"{subject.name} has no name or uid for owner reference"
  | .incompleteProvisioner =>
      "externalProvision needs both csiAttacherName and storageClassName"
  | .noEligibleNodes => "no eligible nodes to derive minPoolCount from"
  | .negativeCount setting count => s!"{setting} must not be negative, got {count}"
  | .crossedPoolCounts maximum minimum =>
      s!"maxPoolCount {maximum} is less than minPoolCount {minimum}"
  | .zeroCapacity text => s!"diskConfig.minCapacity must be positive, got {text}"
  | .tooFewNodes eligible minimum => s!"only {eligible} eligible nodes for minPoolCount {minimum}"
  | .emptyPool storageSet node =>
      s!"storage set {storageSet} asks for no disks so node {node} would get an empty pool"
  | .stated text => text

/-- A reason to give up on a round of planning. -/
inductive Fault
  | internal (detail : String)
  | configuration (issue : ConfigurationIssue)
  | validation (issue : ValidationIssue)
  | unknownRaidLayout (name : String)
  | unevenGroups (node : String) (deviceCount groupSize : Nat)
  | selector (issue : SelectorIssue)
  | nilSelectorTarget
  | missingAttachment (kind : String)
  | undecodable (what : String) (failure : DecodeFailure)
  | reservedElsewhere (device owner : String)
  | staleObservation (device version : String)
  | capacity (issue : CapacityIssue)
  | malformedJson
  | malformedYaml
  | unreadable (detail : String)
deriving DecidableEq, Repr

/-- What a hook does about a fault. -/
inductive FaultAction
  /-- Record an error condition and skip the round. -/
  | report
  /-- Skip the round without touching the status. -/
  | skip
  /-- Skip the round and come back after the configured delay. -/
  | resync
  /-- Skip the round and come back after a delay of its own. -/
  | retryAfter (seconds : Nat)
deriving DecidableEq, Repr

namespace Fault

def message : Fault → String
  | .internal detail => s!"Internal error: {detail}"
  | .configuration issue => s!"Configuration error: {issue.message}"
  | .validation issue => s!"Validation failed: {issue.message}"
  | .unknownRaidLayout name => s!"Unsupported raid type: {name}"
  | .unevenGroups node deviceCount groupSize =>
      s!"Invalid disk distribution on node {node}: {deviceCount} devices is not a multiple of " ++
        s!"raid group size {groupSize}"
  | .selector issue => s!"Invalid selector: {issue.message}"
  | .nilSelectorTarget => "Selector requirements cannot be evaluated against a nil target"
  | .missingAttachment kind => s!"Required attachment missing: {kind}"
  | .undecodable what failure => s!"Failed to decode {what}: {failure.message}"
  | .reservedElsewhere device owner => s!"Block device {device} is reserved by {owner}"
  | .staleObservation device version =>
      s!"Device {device} changed since version {version} was observed"
  | .capacity issue => s!"Capacity parse error: {issue.message}"
  | .malformedJson => "JSON parse error"
  | .malformedYaml => "YAML parse error"
  | .unreadable detail => s!"IO error: {detail}"

/-- The reason shown in a status condition. -/
def reason : Fault → String
  | .internal _ | .unreadable _ => "InternalError"
  | .configuration _ => "InvalidConfiguration"
  | .validation _ | .capacity _ => "ValidationFailed"
  | .unknownRaidLayout _ => "InvalidRaidType"
  | .unevenGroups _ _ _ => "InvalidDiskDistribution"
  | .selector _ | .nilSelectorTarget => "InvalidSelector"
  | .missingAttachment _ => "MissingAttachment"
  | .undecodable _ _ | .malformedJson | .malformedYaml => "DecodeFailed"
  | .reservedElsewhere _ _ => "ReservationConflict"
  | .staleObservation _ _ => "StaleReservation"

/-- What a hook does about a fault: a sibling that is missing shows up by itself, a lost race is
settled in the next round, and malformed intent needs a person. -/
def action : Fault → FaultAction
  | .missingAttachment _ => .skip
  | .reservedElsewhere _ _ | .staleObservation _ _ => .resync
  | .internal _ | .unreadable _ => .retryAfter 10
  | _ => .report

end Fault
end PoolPlanner
