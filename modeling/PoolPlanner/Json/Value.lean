import PoolPlanner.Json.Number

/-!
# JSON documents

The tree form of a document and the look-ups on it.  Members of an object stand in ascending key
order, one per key, in every document that is read from a text or written by an encoder.
-/

namespace PoolPlanner

inductive Json
  | null
  | bool (value : Bool)
  | number (value : JsonNumber)
  | string (value : String)
  | array (items : List Json)
  | object (members : List (String × Json))
deriving Inhabited, Repr

namespace Json

def integer (value : Int) : Json :=
  .number (.integer value)

def isNull : Json → Bool
  | .null => true
  | _ => false

/-- The member of an object under a key. -/
def member? (document : Json) (key : String) : Option Json :=
  match document with
  | .object members => members.lookup key
  | _ => none

/-- The text of a string, a number or a truth value. -/
def scalarText? : Json → Option String
  | .string value => some value
  | .bool value => some (if value then "true" else "false")
  | .number value => some value.text
  | _ => none

def follow? (document : Json) : List String → Option Json
  | [] => some document
  | key :: rest =>
      match document.member? key with
      | some next => follow? next rest
      | none => none

/-- An object of those members that are present, in the order given. -/
def ofMembers (members : List (String × Option Json)) : Json :=
  .object (members.filterMap fun entry => entry.2.map fun value => (entry.1, value))

def ofStrings (texts : List String) : Json :=
  .array (texts.map .string)

end Json
end PoolPlanner
