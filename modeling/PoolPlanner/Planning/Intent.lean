import PoolPlanner.Capacity
import PoolPlanner.RaidLayout
import PoolPlanner.Resource.ClusterConfig

/-!
# Resolved intents

A resolved intent has a value for everything that the user may leave out.  The fields are resolved
in a fixed order and the first fault is reported.  A resolved intent written out as an intent again
resolves to itself, whatever nodes there are and whatever the settings say.
-/

namespace PoolPlanner

/-- The values that the operator's settings give to what an intent leaves out. -/
structure PlannerDefaults where
  minPoolCount : Int
  minDiskCapacity : String
deriving DecidableEq

namespace PlannerDefaults

def standard : PlannerDefaults :=
  ⟨3, Capacity.standardText⟩

instance : Inhabited PlannerDefaults :=
  ⟨standard⟩

end PlannerDefaults

structure NodeInventory where
  available : Nat
  /-- Those that the intent's selector allows. -/
  eligible : Nat
deriving DecidableEq

/-- An intent without gaps. -/
structure ResolvedIntent where
  minPoolCount : Nat
  maxPoolCount : Nat
  layout : RaidLayout
  minDiskCount : Nat
  minDiskCapacity : String
  minDiskBytes : Nat
  externalProvision : Option ExternalProvision
  allowedNodes : Selector
  localDiskSelector : Selector
deriving DecidableEq

namespace ResolvedIntent

/-- A resolved intent with every value written out. -/
def toIntent (resolved : ResolvedIntent) : ClusterIntent where
  allowedNodes := resolved.allowedNodes
  minPoolCount := some resolved.minPoolCount
  maxPoolCount := some resolved.maxPoolCount
  pool := { raidType := some resolved.layout.name }
  disk :=
    { minCount := some resolved.minDiskCount
      minCapacity := some resolved.minDiskCapacity
      externalProvision := resolved.externalProvision
      localDiskSelector := resolved.localDiskSelector }

end ResolvedIntent

namespace ClusterIntent

/-- How many pools above the least number are allowed when an intent does not say. -/
def poolHeadroom : Int :=
  2

def checkProvision : Option ExternalProvision → Except Fault Unit
  | none => .ok ()
  | some provision =>
      if provision.isComplete then .ok () else .error (.validation .incompleteProvisioner)

def checkCount (setting : String) (count : Int) : Except Fault Int :=
  if count < 0 then .error (.validation (.negativeCount setting count)) else .ok count

/-- A number of nodes as a signed integer of sixty-four bits; one that is too large wraps. -/
def signedCount (count : Nat) : Int :=
  (count : Int).bmod (2 ^ 64)

/-- The least number of pools: as many as the settings say, but no more than there are nodes. -/
def resolveMinPoolCount (given : Option Int) (inventory : NodeInventory)
    (defaults : PlannerDefaults) : Except Fault Int :=
  match given with
  | some count => checkCount "minPoolCount" count
  | none =>
      let count :=
        min (min defaults.minPoolCount (signedCount inventory.available))
          (signedCount inventory.eligible)
      if count ≤ 0 then .error (.validation .noEligibleNodes) else .ok count

/-- The greatest number of pools: a little more than the least. -/
def resolveMaxPoolCount (given : Option Int) (minimum : Int) : Except Fault Int :=
  match given with
  | none => .ok (minimum + poolHeadroom)
  | some count =>
      if count < minimum then .error (.validation (.crossedPoolCounts count minimum))
      else .ok count

/-- The number of disks: one full raid group. -/
def resolveDiskCount (given : Option Int) (layout : RaidLayout) : Except Fault Int :=
  match given with
  | none => .ok layout.defaultDiskCount
  | some count => checkCount "diskConfig.minCount" count

/-- The capacity text of disks: that of the settings in place of one that is blank. -/
def resolveCapacity (given : Option String) (defaults : PlannerDefaults) : String :=
  (given.filter fun text => !Text.isBlankText text).getD defaults.minDiskCapacity

def positiveBytes (text : String) : Except Fault Nat := do
  let bytes ← Capacity.bytes text
  if bytes = 0 then throw (.validation (.zeroCapacity text))
  pure bytes

def resolve (intent : ClusterIntent) (inventory : NodeInventory) (defaults : PlannerDefaults) :
    Except Fault ResolvedIntent := do
  checkProvision intent.disk.externalProvision
  let minPoolCount ← resolveMinPoolCount intent.minPoolCount inventory defaults
  let maxPoolCount ← resolveMaxPoolCount intent.maxPoolCount minPoolCount
  let layout ← RaidLayout.ofRequest intent.pool.raidType
  let minDiskCount ← resolveDiskCount intent.disk.minCount layout
  let minDiskCapacity := resolveCapacity intent.disk.minCapacity defaults
  let minDiskBytes ← positiveBytes minDiskCapacity
  intent.allowedNodes.validate
  intent.disk.localDiskSelector.validate
  pure
    { minPoolCount := minPoolCount.toNat
      maxPoolCount := maxPoolCount.toNat
      layout
      minDiskCount := minDiskCount.toNat
      minDiskCapacity
      minDiskBytes
      externalProvision := intent.disk.externalProvision
      allowedNodes := intent.allowedNodes
      localDiskSelector := intent.disk.localDiskSelector }

end ClusterIntent
end PoolPlanner
