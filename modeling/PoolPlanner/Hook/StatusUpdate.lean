import PoolPlanner.Hook.Request

/-!
# Status updates

The status to write back after a round.  Nothing is written if the present status cannot be read, if
only a time would change, or if there is nothing to clear on an object that never failed.
-/

namespace PoolPlanner

namespace Condition

def ofFault (type : String) (fault : Fault) (now : Instant) : Condition where
  type := type
  state := .isTrue
  reason := some fault.reason
  message := some fault.message
  observed := some now

/-- The condition of a type that no longer fails. -/
def resolved (type : String) (now : Instant) : Condition where
  type := type
  state := .isFalse
  reason := none
  message := none
  observed := some now

end Condition

namespace HookRequest

/-- The status after a condition is merged into the present one, if there is a change to write. -/
def updatedStatus? (request : HookRequest) (condition : Condition) : Option ClusterStatus :=
  match request.watchStatus with
  | .error _ => none
  | .ok none =>
      if condition.state = .isTrue then some (ClusterStatus.merge {} [condition]) else none
  | .ok (some current) =>
      let unchanged := (current.condition? condition.type).any fun existing =>
        existing.saysSame condition
      if unchanged then none else some (current.merge [condition])

/-- The document to write back after a condition is merged into the present status. -/
def statusUpdate (request : HookRequest) (condition : Condition) : Option Json :=
  (request.updatedStatus? condition).map ClusterStatus.encode

def resolvedStatus (request : HookRequest) (type : String) (now : Instant) : Option Json :=
  request.statusUpdate (.resolved type now)

def faultStatus (request : HookRequest) (type : String) (fault : Fault) (now : Instant) :
    Option Json :=
  request.statusUpdate (.ofFault type fault now)

end HookRequest
end PoolPlanner
