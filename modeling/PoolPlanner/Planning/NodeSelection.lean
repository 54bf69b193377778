import PoolPlanner.Ordering
import PoolPlanner.Planning.SlotMerge
import PoolPlanner.Resource.ClusterPlan
import PoolPlanner.Resource.Node
import PoolPlanner.Selector.Evaluation

/-!
# Selecting nodes

Which nodes host a pool.  Nodes of the previous plan stay, in their order, as long as they are
eligible; new ones are added only to reach the least number of pools.
-/

namespace PoolPlanner
namespace NodeSelection

/-- The node as a plan lists it, if it has a name and a uid and takes new work. -/
def candidate? (node : Node) : Option PlannedNode :=
  match node.metadata.name, node.metadata.uid with
  | some name, some uid => if node.isUnschedulable then none else some ⟨name, uid⟩
  | _, _ => none

def allowed (selector : Selector) : List Node → Except Fault (List PlannedNode)
  | [] => .ok []
  | node :: rest =>
      match candidate? node with
      | none => allowed selector rest
      | some planned =>
          match selector.selects node with
          | .error fault => .error fault
          | .ok false => allowed selector rest
          | .ok true => (allowed selector rest).map (planned :: ·)

/-- The nodes that can host a pool, by name and then by uid. -/
def eligible (nodes : List Node) (selector : Selector) : Except Fault (List PlannedNode) :=
  (allowed selector nodes).map (inOrder PlannedNode.isAtMost)

def lastWithUid? (nodes : List PlannedNode) (uid : String) : Option PlannedNode :=
  nodes.reverse.find? fun node => node.uid = uid

def uids (nodes : List PlannedNode) : List String :=
  nodes.map PlannedNode.uid

/-- The uids to plan with: those of the previous plan that are eligible, at most `maximum`, and
further eligible ones up to `minimum`. -/
def chosenUids (eligible previous : List PlannedNode) (minimum maximum : Nat) : List String :=
  let kept := ((uids previous).filter fun uid => uid ∈ uids eligible).take maximum
  fillUpTo minimum kept (uids eligible)

/-- Select the nodes of a plan; their names are those of now. -/
def select (eligible previous : List PlannedNode) (minimum maximum : Nat) :
    Except Fault (List PlannedNode) :=
  if eligible.length < minimum then
    .error (.validation (.tooFewNodes eligible.length minimum))
  else
    .ok ((slotMerge (uids previous) (chosenUids eligible previous minimum maximum)).filterMap
      (lastWithUid? eligible))

end NodeSelection
end PoolPlanner
