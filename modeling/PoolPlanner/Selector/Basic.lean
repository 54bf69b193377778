import PoolPlanner.Fault
import PoolPlanner.Table

/-!
# Selectors

A selector is a list of terms of which one has to hold; a term is a set of requirements that all
have to hold.  This module has the terms, how they are read and written, and when they are well
formed.
-/

namespace PoolPlanner

/-- How a requirement on a single value compares. -/
inductive Operator
  | isIn
  | isNotIn
  | exists
  | doesNotExist
deriving DecidableEq, Repr

namespace Operator

def named : List (String × Operator) :=
  [("In", .isIn), ("NotIn", .isNotIn), ("Exists", .exists), ("DoesNotExist", .doesNotExist)]

def name : Operator → String
  | .isIn => "In"
  | .isNotIn => "NotIn"
  | .exists => "Exists"
  | .doesNotExist => "DoesNotExist"

end Operator

/-- How a requirement on a list of values compares. -/
inductive SliceOperator
  | equals
  | notEquals
  | contains
  | excludes
deriving DecidableEq, Repr

namespace SliceOperator

def named : List (String × SliceOperator) :=
  [("Equals", .equals), ("NotEquals", .notEquals), ("In", .contains), ("NotIn", .excludes)]

def name : SliceOperator → String
  | .equals => "Equals"
  | .notEquals => "NotEquals"
  | .contains => "In"
  | .excludes => "NotIn"

end SliceOperator

/-- A requirement on the value under a key. -/
structure Requirement where
  key : String
  operator : Operator
  values : List String
deriving DecidableEq

/-- A requirement on the list under a key. -/
structure SliceRequirement where
  key : String
  operator : SliceOperator
  values : List String
deriving DecidableEq

/-- One alternative of a selector. -/
structure SelectorTerm where
  labels : Table String := .empty
  labelExpressions : List Requirement := []
  annotations : Table String := .empty
  annotationExpressions : List Requirement := []
  fields : Table String := .empty
  fieldExpressions : List Requirement := []
  slices : List SliceRequirement := []
deriving DecidableEq

/-- Alternatives of which one has to hold; without any, everything is selected. -/
structure Selector where
  terms : List SelectorTerm
deriving DecidableEq

instance : Inhabited Selector :=
  ⟨⟨[]⟩⟩

/-- Write a list that is left out when it is empty. -/
def Json.nonemptyArray {α : Type} (encode : α → Json) (items : List α) : Option Json :=
  if items.isEmpty then none else some (.array (items.map encode))

namespace Requirement

/-- Whether a requirement is well formed, or what is wrong with it. -/
def validate (requirement : Requirement) : Except SelectorIssue Unit :=
  if requirement.key = "" then .error .emptyKey
  else
    match requirement.operator with
    | .isIn | .isNotIn =>
        if requirement.values.isEmpty then
          .error (.valuesRequired requirement.operator.name requirement.key)
        else .ok ()
    | .exists | .doesNotExist =>
        if requirement.values.isEmpty then .ok ()
        else .error (.valuesForbidden requirement.operator.name requirement.key)

def decode : Decoder Requirement :=
  Json.asRecord "struct Requirement" 3 fun source =>
    Requirement.mk <$> source.required 0 "key" Json.asString <*>
      source.required 1 "operator" (Json.asVariant Operator.named) <*>
      source.defaulted 2 "values" [] (Json.asList Json.asString)

def encode (requirement : Requirement) : Json :=
  .ofMembers
    [("key", some (.string requirement.key)),
      ("operator", some (.string requirement.operator.name)),
      ("values", Json.nonemptyArray .string requirement.values)]

end Requirement

namespace SliceRequirement

/-- Whether a requirement on a list is well formed, or what is wrong with it. -/
def validate (requirement : SliceRequirement) : Except SelectorIssue Unit :=
  if requirement.key = "" then .error .emptySliceKey
  else
    match requirement.operator with
    | .contains | .excludes =>
        if requirement.values.isEmpty then
          .error (.valuesRequired requirement.operator.name requirement.key)
        else .ok ()
    | .equals | .notEquals => .ok ()

def decode : Decoder SliceRequirement :=
  Json.asRecord "struct SliceRequirement" 3 fun source =>
    SliceRequirement.mk <$> source.required 0 "key" Json.asString <*>
      source.required 1 "operator" (Json.asVariant SliceOperator.named) <*>
      source.defaulted 2 "values" [] (Json.asList Json.asString)

def encode (requirement : SliceRequirement) : Json :=
  .ofMembers
    [("key", some (.string requirement.key)),
      ("operator", some (.string requirement.operator.name)),
      ("values", Json.nonemptyArray .string requirement.values)]

end SliceRequirement

/-- The first issue among some things that are validated one after the other. -/
def validateAll {α : Type} (validate : α → Except SelectorIssue Unit) :
    List α → Except SelectorIssue Unit
  | [] => .ok ()
  | item :: rest =>
      match validate item with
      | .error issue => .error issue
      | .ok () => validateAll validate rest

namespace SelectorTerm

/-- The requirements on single values, in the order in which they are validated. -/
def expressions (term : SelectorTerm) : List Requirement :=
  term.labelExpressions ++ term.annotationExpressions ++ term.fieldExpressions

def isEmpty (term : SelectorTerm) : Bool :=
  term.labels.isEmpty && term.labelExpressions.isEmpty && term.annotations.isEmpty &&
    term.annotationExpressions.isEmpty && term.fields.isEmpty &&
    term.fieldExpressions.isEmpty && term.slices.isEmpty

/-- Whether every requirement of a term is well formed, or the first issue. -/
def validate (term : SelectorTerm) : Except SelectorIssue Unit :=
  match validateAll Requirement.validate term.expressions with
  | .error issue => .error issue
  | .ok () => validateAll SliceRequirement.validate term.slices

def decode : Decoder SelectorTerm :=
  Json.asRecord "struct SelectorTerm" 7 fun source =>
    let texts := Json.asTable Json.asString
    SelectorTerm.mk <$> source.defaulted 0 "matchLabels" .empty texts <*>
      source.defaulted 1 "matchLabelExpressions" [] (Json.asList Requirement.decode) <*>
      source.defaulted 2 "matchAnnotations" .empty texts <*>
      source.defaulted 3 "matchAnnotationExpressions" [] (Json.asList Requirement.decode) <*>
      source.defaulted 4 "matchFields" .empty texts <*>
      source.defaulted 5 "matchFieldExpressions" [] (Json.asList Requirement.decode) <*>
      source.defaulted 6 "matchSlice" [] (Json.asList SliceRequirement.decode)

/-- Write a table of texts that is left out when it is empty. -/
def nonemptyObject (table : Table String) : Option Json :=
  if table.isEmpty then none
  else some (.object (table.entries.map fun entry => (entry.1, .string entry.2)))

def encode (term : SelectorTerm) : Json :=
  .ofMembers
    [("matchAnnotationExpressions",
        Json.nonemptyArray Requirement.encode term.annotationExpressions),
      ("matchAnnotations", nonemptyObject term.annotations),
      ("matchFieldExpressions", Json.nonemptyArray Requirement.encode term.fieldExpressions),
      ("matchFields", nonemptyObject term.fields),
      ("matchLabelExpressions", Json.nonemptyArray Requirement.encode term.labelExpressions),
      ("matchLabels", nonemptyObject term.labels),
      ("matchSlice", Json.nonemptyArray SliceRequirement.encode term.slices)]

end SelectorTerm

namespace Selector

def isEmpty (selector : Selector) : Bool :=
  selector.terms.all SelectorTerm.isEmpty

/-- Whether every requirement of a selector is well formed, or the first issue. -/
def findIssue (selector : Selector) : Except SelectorIssue Unit :=
  validateAll SelectorTerm.validate selector.terms

/-- Refuse a selector with a malformed requirement. -/
def validate (selector : Selector) : Except Fault Unit :=
  selector.findIssue.mapError .selector

def decode : Decoder Selector := fun document =>
  (Json.asList SelectorTerm.decode document).map Selector.mk

def encode (selector : Selector) : Json :=
  .array (selector.terms.map SelectorTerm.encode)

end Selector
end PoolPlanner
