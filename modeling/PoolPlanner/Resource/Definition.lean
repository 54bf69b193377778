import PoolPlanner.Resource.ClusterConfig
import PoolPlanner.Resource.ClusterPlan
import PoolPlanner.Resource.StorageSet

/-!
# Definitions of the owned kinds

What an API server is told about the kinds of objects that belong to the planner: how they are named
and which of their fields a listing shows.
-/

namespace PoolPlanner

/-- A column of the listing of a kind. -/
structure ListingColumn where
  name : String
  type : String
  path : String
deriving DecidableEq, Repr

/-- The definition of a kind that lives in namespaces and has a status of its own. -/
structure ResourceDefinition where
  kind : String
  group : String
  version : String
  shortName : String
  columns : List ListingColumn
deriving DecidableEq, Repr

namespace ListingColumn

def age : ListingColumn :=
  ⟨"Age", "date", ".metadata.creationTimestamp"⟩

def phase : ListingColumn :=
  ⟨"Phase", "string", ".status.phase"⟩

def encode (column : ListingColumn) : Json :=
  .ofMembers
    [("jsonPath", some (.string column.path)), ("name", some (.string column.name)),
      ("type", some (.string column.type))]

end ListingColumn

namespace ResourceDefinition

def owned (R : Type) [Resource R] (shortName : String) (columns : List ListingColumn) :
    ResourceDefinition where
  kind := Resource.kind R
  group := OwnedKind.group
  version := OwnedKind.version
  shortName
  columns

/-- The definitions of all owned kinds. -/
def all : List ResourceDefinition :=
  [owned ClusterConfig "cscc"
      [⟨"MinPools", "integer", ".spec.minPoolCount"⟩,
        ⟨"Raid", "string", ".spec.poolConfig.raidType"⟩, .phase, .age],
    owned ClusterPlan "cscp" [.phase, .age],
    owned StorageSet "cscss"
      [⟨"Node", "string", ".spec.node.name"⟩, ⟨"Disks", "integer", ".spec.disk.count"⟩,
        ⟨"Capacity", "string", ".spec.disk.capacity"⟩, .age]]

/-- The kind in lower case, for one object. -/
def singular (definition : ResourceDefinition) : String :=
  definition.kind.toLower

/-- The kind in lower case, for any number of objects. -/
def plural (definition : ResourceDefinition) : String :=
  definition.singular ++ "s"

def name (definition : ResourceDefinition) : String :=
  s!"{definition.plural}.{definition.group}"

def encode (definition : ResourceDefinition) : Json :=
  let names :=
    [("categories", some (.array [])), ("kind", some (.string definition.kind)),
      ("plural", some (.string definition.plural)),
      ("shortNames", some (.ofStrings [definition.shortName])),
      ("singular", some (.string definition.singular))]
  .ofMembers
    [("columns", some (.array (definition.columns.map ListingColumn.encode))),
      ("group", some (.string definition.group)), ("name", some (.string definition.name)),
      ("names", some (.ofMembers names)), ("scope", some (.string "Namespaced")),
      ("subresources", some (.ofMembers [("status", some (.object []))])),
      ("version", some (.string definition.version))]

end ResourceDefinition
end PoolPlanner
