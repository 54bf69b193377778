import PoolPlanner.Resource.Kind
import PoolPlanner.Selector.Basic

/-!
# Evaluating selectors

Whether a document satisfies a selector.  Labels and annotations are looked up by key, fields by a
path of keys with points between them; a value counts by its text if it is a string, a number or a
truth value, and as absent otherwise.
-/

namespace PoolPlanner

def pathSegments (path : String) : List String :=
  (path.splitOn ".").filter fun segment => segment ≠ ""

/-- The value at a path of a document, unless it is `null`. -/
def Json.atPath? (document : Json) (path : String) : Option Json :=
  (document.follow? (pathSegments path)).filter fun value => !value.isNull

def Json.fieldText? (document : Json) (path : String) : Option String :=
  (document.atPath? path).bind Json.scalarText?

def Json.labelText? (document : Json) (key : String) : Option String :=
  (document.follow? ["metadata", "labels", key]).bind Json.scalarText?

def Json.annotationText? (document : Json) (key : String) : Option String :=
  (document.follow? ["metadata", "annotations", key]).bind Json.scalarText?

/-- The texts of the list at a path of a document; a single value is a list of one. -/
def Json.sliceTexts (document : Json) (path : String) : List String :=
  match document.atPath? path with
  | some (.array items) => items.filterMap Json.scalarText?
  | some value => value.scalarText?.toList
  | none => []

/-- Whether a value, absent or not, meets a requirement. -/
def Requirement.accepts (requirement : Requirement) (actual : Option String) : Bool :=
  match requirement.operator with
  | .exists => actual.isSome
  | .doesNotExist => actual.isNone
  | .isIn => actual.any fun value => requirement.values.contains value
  | .isNotIn => actual.all fun value => !requirement.values.contains value

def SliceRequirement.accepts (requirement : SliceRequirement) (actual : List String) : Bool :=
  let wanted := requirement.values
  let holdsAll := wanted.all fun value => actual.contains value
  let holdsOnly := actual.all fun value => wanted.contains value
  match requirement.operator with
  | .equals => holdsAll && holdsOnly
  | .notEquals => !(holdsAll && holdsOnly)
  | .contains => holdsAll
  | .excludes => !wanted.any fun value => actual.contains value

namespace SelectorTerm

def accepts (term : SelectorTerm) (document : Json) : Bool :=
  (term.labels.entries.all fun entry => document.labelText? entry.1 = some entry.2) &&
    (term.annotations.entries.all fun entry => document.annotationText? entry.1 = some entry.2) &&
    (term.labelExpressions.all fun requirement =>
      requirement.accepts (document.labelText? requirement.key)) &&
    (term.annotationExpressions.all fun requirement =>
      requirement.accepts (document.annotationText? requirement.key)) &&
    (term.fields.entries.all fun entry => document.fieldText? entry.1 = some entry.2) &&
    (term.fieldExpressions.all fun requirement =>
      requirement.accepts (document.fieldText? requirement.key)) &&
    (term.slices.all fun requirement =>
      requirement.accepts (document.sliceTexts requirement.key))

end SelectorTerm

namespace Selector

/-- Whether a well-formed selector holds of a document: one of its terms does, or it has none. -/
def holds (selector : Selector) (document : Json) : Bool :=
  selector.terms.isEmpty || selector.terms.any fun term => term.accepts document

/-- The document to evaluate against, unless the target is nil. -/
def target? : Option Json → Option Json
  | some document => if document.isNull then none else some document
  | none => none

/-- Evaluate a selector against a target that may be nil.  A malformed requirement is a fault
whatever the target; a nil target is one as soon as a term requires something. -/
def matchesTarget (selector : Selector) (target : Option Json) : Except Fault Bool :=
  match selector.validate with
  | .error fault => .error fault
  | .ok () =>
      match target? target with
      | some document => .ok (selector.holds document)
      | none => if selector.isEmpty then .ok true else .error .nilSelectorTarget

/-- Evaluate a selector against an object, by the document that it is written as. -/
def selects {R : Type} [Resource R] (selector : Selector) (resource : R) : Except Fault Bool :=
  selector.matchesTarget (some (Resource.encode resource))

end Selector
end PoolPlanner
