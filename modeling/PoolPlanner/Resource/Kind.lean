import PoolPlanner.Fault
import PoolPlanner.Ordering
import PoolPlanner.Resource.Metadata

/-!
# Kinds of resources

What the hooks need to know of a kind of object: its name and API version, its metadata, and how it
is read from and written to a document.
-/

namespace PoolPlanner

def OwnedKind.group : String :=
  "dao.mayadata.io"

def OwnedKind.version : String :=
  "v1alpha1"

def OwnedKind.apiVersion : String :=
  group ++ "/" ++ version

/-- A kind of object that is exchanged as a document. -/
class Resource (R : Type) where
  kind : String
  apiVersion : String
  metadata : R → ObjectMeta
  decode : Decoder R
  encode : R → Json

namespace Resource

variable {R : Type} [Resource R]

/-- The key under which attachments of a kind are grouped. -/
def groupKey (R : Type) [Resource R] : String :=
  s!"{kind R}.{apiVersion R}"

def name (resource : R) : String :=
  (metadata resource).displayName

/-- A reference that makes an object the controller of another; it needs a name and a uid. -/
def ownerReference? (resource : R) : Option OwnerReference :=
  match (metadata resource).name, (metadata resource).uid with
  | some name, some uid =>
      some
        { apiVersion := apiVersion R, blockOwnerDeletion := none, controller := some true
          kind := kind R, name, uid }
  | _, _ => none

/-- The controller reference to an object, or the fault of one without identity. -/
def ownerReference (subject : Subject) (resource : R) : Except Fault OwnerReference :=
  match ownerReference? resource with
  | some reference => .ok reference
  | none => .error (.validation (.missingIdentity subject))

/-- The uid of an object, or the fault of one without. -/
def uid (subject : Subject) (resource : R) : Except Fault String :=
  match (metadata resource).uid with
  | some uid => .ok uid
  | none => .error (.validation (.missingUid subject))

/-- Objects in the order of their names; those of one name keep their order. -/
def sortedByName (resources : List R) : List R :=
  inOrder (fun left right => textAtMost (name left) (name right)) resources

end Resource
end PoolPlanner
