import PoolPlanner.Resource.Kind
import PoolPlanner.Resource.Status

/-!
# Hook requests

The orchestrator sends the object that a hook watches, with the objects attached to it, grouped by
kind and then by namespace and name.  Documents become typed objects here and nowhere else.
-/

namespace PoolPlanner

/-- Attached objects by the key of their kind and then by their own key. -/
abbrev Attachments :=
  Table (Table Json)

namespace Attachments

def decode : Decoder Attachments :=
  Json.asTable (Json.asTable .ok)

def decodeAll (R : Type) [Resource R] : List Json → Except Fault (List R)
  | [] => .ok []
  | document :: rest =>
      match Resource.decode (R := R) document with
      | .error failure => .error (.undecodable (Resource.groupKey R) failure)
      | .ok resource => (decodeAll R rest).map (resource :: ·)

/-- The attached objects of a kind, in key order; a kind that is not there has none. -/
def ofKind (R : Type) [Resource R] (attachments : Attachments) : Except Fault (List R) :=
  match attachments.find? (Resource.groupKey R) with
  | some group => decodeAll R group.values
  | none => .ok []

/-- The attached objects of a kind that point back at a uid under a key. -/
def correlated (R : Type) [Resource R] (attachments : Attachments) (key uid : String) :
    Except Fault (List R) :=
  (ofKind R attachments).map fun resources =>
    resources.filter fun resource => (Resource.metadata resource).pointsTo key uid

/-- The attached object of a kind that points back at a uid; of several the first by name. -/
def requireOne (R : Type) [Resource R] (attachments : Attachments) (key uid : String) :
    Except Fault R :=
  match correlated R attachments key uid with
  | .error fault => .error fault
  | .ok resources =>
      match (Resource.sortedByName resources).head? with
      | some resource => .ok resource
      | none => .error (.missingAttachment (Resource.kind R))

/-- The key of an object among those of its kind: its namespace, if it has one, and its name. -/
def objectKey {R : Type} [Resource R] (resource : R) : String :=
  match (Resource.metadata resource).objectNamespace with
  | some objectNamespace => s!"{objectNamespace}/{Resource.name resource}"
  | none => Resource.name resource

def attach {R : Type} [Resource R] (attachments : Attachments) (resource : R) : Attachments :=
  let group := (attachments.find? (Resource.groupKey R)).getD .empty
  attachments.insert (Resource.groupKey R)
    (group.insert (objectKey resource) (Resource.encode resource))

end Attachments

structure HookRequest where
  /-- The watched object. -/
  watch : Json
  attachments : Attachments := .empty
  /-- Whether the watched object is being deleted. -/
  finalizing : Bool := false

namespace HookRequest

def decode : Decoder HookRequest :=
  Json.asRecord "struct HookRequest" 3 fun source =>
    HookRequest.mk <$> source.required 0 "watch" .ok <*>
      source.defaulted 1 "attachments" .empty Attachments.decode <*>
      source.defaulted 2 "finalizing" false Json.asBool

def watchAs (R : Type) [Resource R] (request : HookRequest) : Except Fault R :=
  if request.watch.isNull then
    .error (.undecodable (Resource.kind R) (.stated "watch is empty"))
  else
    (Resource.decode request.watch).mapError (.undecodable (Resource.kind R))

/-- The status of the watched object; none if it has no status yet. -/
def watchStatus (request : HookRequest) : Except Fault (Option ClusterStatus) :=
  match request.watch.member? "status" with
  | none => .ok none
  | some .null => .ok none
  | some document =>
      match ClusterStatus.decode document with
      | .ok status => .ok (some status)
      | .error failure => .error (.undecodable "status" failure)

end HookRequest
end PoolPlanner
