import PoolPlanner.Ordering
import PoolPlanner.Planning.SlotMerge
import PoolPlanner.Resource.BlockDevice
import PoolPlanner.Selector.Evaluation

/-!
# Reserving devices

Which devices a storage set reserves on its node.  Devices that it holds and may still use are kept
first; then come free ones by name, until it has as many as it asks for.  Held devices beyond that,
or no longer of use, are given back.
-/

namespace PoolPlanner

/-- What a storage set asks for. -/
structure ReservationRequest where
  owner : String
  node : String
  selector : Selector
  minBytes : Nat
  desiredCount : Nat

/-- The reservations of a storage set after a round. -/
structure ReservationPlan where
  /-- The devices held from now on, in slot order. -/
  reserved : List String
  /-- Those of them that were not held before. -/
  acquire : List String
  /-- The devices to give back. -/
  release : List String
  /-- How many devices are still missing. -/
  shortfall : Nat
deriving DecidableEq

namespace BlockDevice

def isClaimableBy (device : BlockDevice) (owner : String) : Bool :=
  match device.claimState with
  | .unclaimed => true
  | .claimed => device.isOwnedBy owner
  | .released => false

/-- Whether a storage set may use a device: it is active, large enough, and nobody else's. -/
def isEligibleFor (device : BlockDevice) (minBytes : Nat) (owner : String) : Bool :=
  device.isActive && device.isClaimableBy owner &&
    (device.owner?.all fun holder => holder = owner) && minBytes ≤ device.capacity

def eligible (selector : Selector) (minBytes : Nat) (owner : String) :
    List BlockDevice → Except Fault (List BlockDevice)
  | [] => .ok []
  | device :: rest =>
      match selector.selects device with
      | .error fault => .error fault
      | .ok selected =>
          let kept := eligible selector minBytes owner rest
          if selected && device.isEligibleFor minBytes owner then kept.map (device :: ·) else kept

end BlockDevice

namespace ReservationRequest

/-- The names of the devices that a storage set holds, in order. -/
def held (devices : List BlockDevice) (owner : String) : List String :=
  inTextOrder ((devices.filter fun device => device.isOwnedBy owner).map BlockDevice.name)

def usable (request : ReservationRequest) (devices : List BlockDevice) :
    Except Fault (List String) :=
  let onNode := devices.filter fun device => device.host? = some request.node
  (BlockDevice.eligible request.selector request.minBytes request.owner onNode).map fun eligible =>
    inTextOrder (eligible.map BlockDevice.name)

def plan (request : ReservationRequest) (devices : List BlockDevice) :
    Except Fault ReservationPlan :=
  (request.usable devices).map fun usable =>
    let held := held devices request.owner
    let kept := (held.filter fun name => name ∈ usable).take request.desiredCount
    let reserved := slotMerge held (fillUpTo request.desiredCount kept usable)
    { reserved
      acquire := reserved.filter fun name => name ∉ held
      release := held.filter fun name => name ∉ reserved
      shortfall := request.desiredCount - reserved.length }

end ReservationRequest
end PoolPlanner
