import PoolPlanner.RaidLayout

/-!
# Raid groups

The device list of a node, cut into raid groups of the size of its layout.  A remainder is a fault:
no pool is ever built with a group that is not full.
-/

namespace PoolPlanner

/-- Devices in the order in which they make one raid group. -/
structure RaidGroup where
  layout : RaidLayout
  devices : List String
deriving DecidableEq

namespace RaidGroup

/-- The consecutive parts of a list with `size` items each. -/
def parts {α : Type} (size : Nat) (items : List α) : List (List α) :=
  (List.range (items.length / size)).map fun index => (items.drop (index * size)).take size

/-- Cut the devices of a node into raid groups. -/
def distribute (node : String) (devices : List String) (layout : RaidLayout) :
    Except Fault (List RaidGroup) :=
  if devices.length % layout.groupSize ≠ 0 then
    .error (.unevenGroups node devices.length layout.groupSize)
  else
    .ok ((parts layout.groupSize devices).map fun part => ⟨layout, part⟩)

end RaidGroup
end PoolPlanner
