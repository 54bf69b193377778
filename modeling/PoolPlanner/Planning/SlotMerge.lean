import PoolPlanner.Ordering

/-!
# Merging into slots

An observed layout is a list of items in slots.  Merging a desired list into it leaves each item
that stays in its slot, gives the slots of items that leave to new items in turn, drops the slots
for which there is no new item, and appends the new items for which there is no slot.  Moving an
item that stays could set off a rebuild of its raid group, so every list that is planned again goes
through this merge.
-/

namespace PoolPlanner

variable {α : Type} [DecidableEq α]

/-- How a desired list differs from an observed one. -/
structure Difference (α : Type) where
  /-- Items of both, in observed order. -/
  unchanged : List α
  /-- Desired items that are not observed, in desired order. -/
  additions : List α
  /-- Observed items that are not desired, in observed order. -/
  removals : List α
deriving DecidableEq

def Difference.isEmpty (difference : Difference α) : Bool :=
  difference.additions.isEmpty && difference.removals.isEmpty

def difference (observed desired : List α) : Difference α where
  unchanged := (firstOccurrences observed).filter fun item => item ∈ desired
  additions := (firstOccurrences desired).filter fun item => item ∉ observed
  removals := (firstOccurrences observed).filter fun item => item ∉ desired

/-- Whether two lists hold different sets of items. -/
def isDifferent (observed desired : List α) : Bool :=
  (firstOccurrences observed).length ≠ (firstOccurrences desired).length ||
    !observed.all fun item => item ∈ desired

/-- Walk over observed slots and refill those of items that are not desired from `fresh`. -/
def fillSlots (desired : List α) : (observed fresh : List α) → List α
  | [], fresh => fresh
  | item :: rest, fresh =>
      if item ∈ desired then item :: fillSlots desired rest fresh
      else
        match fresh with
        | [] => fillSlots desired rest []
        | replacement :: fresh => replacement :: fillSlots desired rest fresh

/-- Merge a desired list into the layout of an observed one. -/
def slotMerge (observed desired : List α) : List α :=
  fillSlots desired (firstOccurrences observed) (difference observed desired).additions

end PoolPlanner
