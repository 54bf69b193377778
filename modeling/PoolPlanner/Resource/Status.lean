import PoolPlanner.Resource.Metadata

/-!
# Status of owned resources

A status is a phase and a list of conditions, one per type.  Merging keeps, for each type, the
condition that was observed last; the phase follows from the conditions.
-/

namespace PoolPlanner

/-- Overall state of an owned resource. -/
inductive Phase
  | online
  | error
deriving DecidableEq, Repr

/-- Truth value of a condition. -/
inductive ConditionState
  | isTrue
  | isFalse
  | unknown
deriving DecidableEq, Repr

namespace Phase

def named : List (String × Phase) :=
  [("Online", .online), ("Error", .error)]

def name : Phase → String
  | .online => "Online"
  | .error => "Error"

end Phase

namespace ConditionState

def named : List (String × ConditionState) :=
  [("True", .isTrue), ("False", .isFalse), ("Unknown", .unknown)]

def name : ConditionState → String
  | .isTrue => "True"
  | .isFalse => "False"
  | .unknown => "Unknown"

end ConditionState

/-- A condition; its type is what it is merged by. -/
structure Condition where
  type : String
  state : ConditionState
  reason : Option String
  message : Option String
  observed : Option Instant
deriving DecidableEq

namespace Condition

/-- The condition type of a failed round; hooks that share a resource put their own name before
it. -/
def reconcileError : String :=
  "ReconcileError"

/-- Whether a condition reports a failure that is still there. -/
def isFailure (condition : Condition) : Bool :=
  reconcileError.toList.isSuffixOf condition.type.toList && condition.state = .isTrue

/-- Whether one time of observation is later than another; no time counts as the earliest. -/
def isLater : Option Instant → Option Instant → Bool
  | some left, some right => right.isBefore left
  | some _, none => true
  | none, _ => false

/-- Whether two conditions say the same, whenever they were observed. -/
def saysSame (left right : Condition) : Bool :=
  left.state = right.state && left.reason = right.reason && left.message = right.message

def decode : Decoder Condition :=
  Json.asRecord "struct Condition" 5 fun source =>
    Condition.mk <$> source.required 0 "type" Json.asString <*>
      source.required 1 "status" (Json.asVariant ConditionState.named) <*>
      source.optional 2 "reason" Json.asString <*>
      source.optional 3 "message" Json.asString <*>
      source.optional 4 "lastObservedTime" Instant.decode

def encode (condition : Condition) : Json :=
  .ofMembers
    [("lastObservedTime", condition.observed.map fun time => .string time.text),
      ("message", condition.message.map .string),
      ("reason", condition.reason.map .string),
      ("status", some (.string condition.state.name)),
      ("type", some (.string condition.type))]

end Condition

/-- The status of an owned resource. -/
structure ClusterStatus where
  phase : Option Phase := none
  conditions : List Condition := []
deriving DecidableEq, Inhabited

namespace ClusterStatus

/-- Put a condition among others: in the place of the first of its type, unless that one was
observed later, or at the end. -/
def mergeCondition (incoming : Condition) : List Condition → List Condition
  | [] => [incoming]
  | existing :: rest =>
      if existing.type = incoming.type then
        if Condition.isLater existing.observed incoming.observed then existing :: rest
        else incoming :: rest
      else
        existing :: mergeCondition incoming rest

def phaseOf (conditions : List Condition) : Phase :=
  if conditions.any Condition.isFailure then .error else .online

/-- The phase that the conditions of a status amount to. -/
def derivedPhase (status : ClusterStatus) : Phase :=
  phaseOf status.conditions

/-- Merge conditions into a status one after the other. -/
def merge (status : ClusterStatus) (incoming : List Condition) : ClusterStatus :=
  let conditions :=
    incoming.foldl (fun merged condition => mergeCondition condition merged) status.conditions
  { phase := some (phaseOf conditions), conditions }

def condition? (status : ClusterStatus) (type : String) : Option Condition :=
  status.conditions.find? fun condition => condition.type = type

def decode : Decoder ClusterStatus :=
  Json.asRecord "struct ClusterStatus" 2 fun source =>
    ClusterStatus.mk <$> source.optional 0 "phase" (Json.asVariant Phase.named) <*>
      source.defaulted 1 "conditions" [] (Json.asList Condition.decode)

def encode (status : ClusterStatus) : Json :=
  .ofMembers
    [("conditions",
        if status.conditions.isEmpty then none
        else some (.array (status.conditions.map Condition.encode))),
      ("phase", status.phase.map fun phase => .string phase.name)]

end ClusterStatus
end PoolPlanner
