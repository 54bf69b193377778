import PoolPlanner.Capacity
import PoolPlanner.Planning.Intent

/-!
# Operator settings

The knobs of the hook server.  Each has a value of its own when it is left out.
-/

namespace PoolPlanner

/-- The settings of the hook server. -/
structure OperatorConfig where
  /-- Seconds before a round that was not ready is tried again. -/
  resyncAfterSeconds : Nat := 3
  /-- The least number of pools when an intent does not say. -/
  defaultMinPoolCount : Int := 3
  /-- The capacity of disks when an intent does not say. -/
  defaultMinDiskCapacity : String := Capacity.standardText
  /-- The longest request body that is accepted. -/
  maxBodyBytes : Nat := 16 * 1024 * 1024
deriving DecidableEq, Inhabited

namespace OperatorConfig

def decode : Decoder OperatorConfig :=
  Json.asRecord "struct OperatorConfig" 4 fun source =>
    OperatorConfig.mk <$>
      source.defaulted 0 "resyncAfterSeconds" 3 (Json.asUnsigned "u64") <*>
      source.defaulted 1 "defaultMinPoolCount" 3 Json.asInt64 <*>
      source.defaulted 2 "defaultMinDiskCapacity" Capacity.standardText Json.asString <*>
      source.defaulted 3 "maxBodyBytes" (16 * 1024 * 1024) (Json.asUnsigned "usize")

def encode (config : OperatorConfig) : Json :=
  .ofMembers
    [("defaultMinDiskCapacity", some (.string config.defaultMinDiskCapacity)),
      ("defaultMinPoolCount", some (Json.integer config.defaultMinPoolCount)),
      ("maxBodyBytes", some (Json.integer config.maxBodyBytes)),
      ("resyncAfterSeconds", some (Json.integer config.resyncAfterSeconds))]

/-- Whether settings can be worked with, or the first issue. -/
def validate (config : OperatorConfig) : Except ConfigurationIssue Unit :=
  if config.resyncAfterSeconds = 0 then .error (.notPositive "resyncAfterSeconds")
  else if config.defaultMinPoolCount ≤ 0 then .error (.notPositive "defaultMinPoolCount")
  else
    match Capacity.read config.defaultMinDiskCapacity with
    | .error issue => .error (.diskCapacity issue)
    | .ok bytes =>
        if bytes = 0 then .error (.notPositive "defaultMinDiskCapacity")
        else if config.maxBodyBytes = 0 then .error (.notPositive "maxBodyBytes")
        else .ok ()

/-- The values that settings give to what an intent leaves out. -/
def plannerDefaults (config : OperatorConfig) : PlannerDefaults :=
  ⟨config.defaultMinPoolCount, config.defaultMinDiskCapacity⟩

end OperatorConfig
end PoolPlanner
