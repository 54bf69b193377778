import Mathlib.Tactic.ByContra
import Mathlib.Tactic.Tauto
import PoolPlanner.Proofs.Fallible
import PoolPlanner.Selector.Evaluation

/-!
# What selectors demand

A term is a list of demands of seven kinds, which a document has to meet all.  A selector with a
malformed demand in any of its terms can not be evaluated.  Any other one can, unless the target is
nil and a term demands something; and it selects a document if it has no terms, or a term whose
demands are all met.
-/

namespace PoolPlanner

/-- A key is given, and values are given exactly if the operator compares with some. -/
def Requirement.WellFormed (requirement : Requirement) : Prop :=
  requirement.key ≠ "" ∧
    (requirement.values = [] ↔
      requirement.operator = .exists ∨ requirement.operator = .doesNotExist)

/-- A key is given, and a list that has to hold, or not to hold, some values is given some. -/
def SliceRequirement.WellFormed (requirement : SliceRequirement) : Prop :=
  requirement.key ≠ "" ∧
    (requirement.operator = .contains ∨ requirement.operator = .excludes →
      requirement.values ≠ [])

theorem Requirement.validate_eq_ok_iff {requirement : Requirement} :
    requirement.validate = .ok () ↔ requirement.WellFormed := by
  obtain ⟨key, operator, values⟩ := requirement
  by_cases empty : key = ""
  · simp [validate, WellFormed, empty]
  · cases operator <;> simp [validate, WellFormed, empty]

theorem SliceRequirement.validate_eq_ok_iff {requirement : SliceRequirement} :
    requirement.validate = .ok () ↔ requirement.WellFormed := by
  obtain ⟨key, operator, values⟩ := requirement
  by_cases empty : key = ""
  · simp [validate, WellFormed, empty]
  · cases operator <;> simp [validate, WellFormed, empty]

theorem validateAll_eq_ok_iff {α : Type} {validate : α → Except SelectorIssue Unit}
    {items : List α} :
    validateAll validate items = .ok () ↔ ∀ item ∈ items, validate item = .ok () := by
  induction items with
  | nil => simp [validateAll]
  | cons first rest ih =>
      rw [validateAll, List.forall_mem_cons]
      cases validate first with
      | error issue => simp
      | ok => simpa using ih

/-- One thing that a term demands of a document. -/
inductive Demand
  | labelText (key value : String)
  | annotationText (key value : String)
  | labelExpression (requirement : Requirement)
  | annotationExpression (requirement : Requirement)
  | fieldText (path value : String)
  | fieldExpression (requirement : Requirement)
  | slice (requirement : SliceRequirement)
deriving DecidableEq

namespace Demand

/-- Whether a document meets a demand. -/
def accepts (document : Json) : Demand → Bool
  | .labelText key value => document.labelText? key = some value
  | .annotationText key value => document.annotationText? key = some value
  | .labelExpression requirement => requirement.accepts (document.labelText? requirement.key)
  | .annotationExpression requirement =>
      requirement.accepts (document.annotationText? requirement.key)
  | .fieldText path value => document.fieldText? path = some value
  | .fieldExpression requirement => requirement.accepts (document.fieldText? requirement.key)
  | .slice requirement => requirement.accepts (document.sliceTexts requirement.key)

/-- Only demands with an operator can be malformed. -/
def WellFormed : Demand → Prop
  | .labelExpression requirement => requirement.WellFormed
  | .annotationExpression requirement => requirement.WellFormed
  | .fieldExpression requirement => requirement.WellFormed
  | .slice requirement => requirement.WellFormed
  | _ => True

end Demand

namespace SelectorTerm

variable {term : SelectorTerm}

def demands (term : SelectorTerm) : List Demand :=
  term.labels.entries.map (fun entry => .labelText entry.1 entry.2) ++
    term.annotations.entries.map (fun entry => .annotationText entry.1 entry.2) ++
    term.labelExpressions.map .labelExpression ++
    term.annotationExpressions.map .annotationExpression ++
    term.fields.entries.map (fun entry => .fieldText entry.1 entry.2) ++
    term.fieldExpressions.map .fieldExpression ++ term.slices.map .slice

theorem accepts_eq_all (term : SelectorTerm) (document : Json) :
    term.accepts document = term.demands.all fun demand => demand.accepts document := by
  simp [accepts, demands, List.all_map, Function.comp_def, Demand.accepts, Bool.and_assoc]

theorem accepts_iff {document : Json} :
    term.accepts document = true ↔ ∀ demand ∈ term.demands, demand.accepts document = true := by
  rw [accepts_eq_all, List.all_eq_true]

theorem isEmpty_iff : term.isEmpty = true ↔ term.demands = [] := by
  simp only [isEmpty, demands, Table.isEmpty, Bool.and_eq_true, List.isEmpty_iff,
    List.append_eq_nil_iff, List.map_eq_nil_iff]
  tauto

theorem validate_eq_ok_iff :
    term.validate = .ok () ↔ ∀ demand ∈ term.demands, demand.WellFormed := by
  have parts : term.validate = .ok () ↔
      (∀ requirement ∈ term.expressions, requirement.WellFormed) ∧
        ∀ requirement ∈ term.slices, requirement.WellFormed := by
    simp only [← Requirement.validate_eq_ok_iff, ← SliceRequirement.validate_eq_ok_iff,
      ← validateAll_eq_ok_iff, validate]
    cases validateAll Requirement.validate term.expressions <;> simp
  rw [parts]
  simp only [expressions, demands, List.forall_mem_append, List.forall_mem_map, Demand.WellFormed]
  tauto

end SelectorTerm

namespace Selector

variable {selector : Selector} {target : Option Json} {document : Json}

/-- No term has a malformed demand. -/
def WellFormed (selector : Selector) : Prop :=
  ∀ term ∈ selector.terms, ∀ demand ∈ term.demands, demand.WellFormed

/-- There is no document to evaluate a selector against. -/
def IsNil (target : Option Json) : Prop :=
  target = none ∨ target = some .null

theorem findIssue_eq_ok_iff : selector.findIssue = .ok () ↔ selector.WellFormed := by
  simp only [findIssue, validateAll_eq_ok_iff, SelectorTerm.validate_eq_ok_iff, WellFormed]

theorem validate_eq_ok_iff : selector.validate = .ok () ↔ selector.WellFormed := by
  rw [validate, mapError_eq_ok_iff, findIssue_eq_ok_iff]

theorem exists_issue_of_malformed (malformed : ¬ selector.WellFormed) :
    ∃ issue, selector.validate = .error (.selector issue) := by
  rw [← findIssue_eq_ok_iff] at malformed
  unfold validate
  cases found : selector.findIssue with
  | error issue => exact ⟨issue, rfl⟩
  | ok => exact absurd found malformed

theorem target?_eq_none_iff : target? target = none ↔ IsNil target := by
  cases target with
  | none => simp [target?, IsNil]
  | some document => cases document <;> simp [target?, IsNil, Json.isNull]

theorem isEmpty_iff : selector.isEmpty = true ↔ ∀ term ∈ selector.terms, term.demands = [] := by
  simp [isEmpty, SelectorTerm.isEmpty_iff]

theorem holds_iff :
    selector.holds document = true ↔
      selector.terms = [] ∨ ∃ term ∈ selector.terms,
        ∀ demand ∈ term.demands, demand.accepts document = true := by
  simp [holds, SelectorTerm.accepts_iff]

theorem matchesTarget_of_wellFormed (wellFormed : selector.WellFormed) (target : Option Json) :
    selector.matchesTarget target =
      match target? target with
      | some document => .ok (selector.holds document)
      | none => if selector.isEmpty then .ok true else .error .nilSelectorTarget := by
  have valid := validate_eq_ok_iff.2 wellFormed
  cases found : target? target <;> simp only [matchesTarget, valid, found]

theorem matchesTarget_eq_holds (wellFormed : selector.WellFormed)
    (found : target? target = some document) :
    selector.matchesTarget target = .ok (selector.holds document) := by
  rw [matchesTarget_of_wellFormed wellFormed, found]

theorem exists_matchesTarget_of_malformed (malformed : ¬ selector.WellFormed)
    (target : Option Json) :
    ∃ issue, selector.matchesTarget target = .error (.selector issue) := by
  obtain ⟨issue, refused⟩ := exists_issue_of_malformed malformed
  exact ⟨issue, by rw [matchesTarget, refused]⟩

/-- A selector is well formed if it has an answer, or fails on account of its target. -/
theorem wellFormed_of_matchesTarget {result : Except Fault Bool}
    (came : selector.matchesTarget target = result)
    (blameless : ∀ issue, result ≠ .error (.selector issue)) : selector.WellFormed := by
  by_contra malformed
  obtain ⟨issue, refused⟩ := exists_matchesTarget_of_malformed malformed target
  exact blameless issue (came.symm.trans refused)

/-- A malformed demand is a fault whatever the target and the other terms. -/
theorem matchesTarget_invalid_iff :
    (∃ issue, selector.matchesTarget target = .error (.selector issue)) ↔
      ¬ selector.WellFormed := by
  constructor
  · rintro ⟨issue, refused⟩ wellFormed
    rw [matchesTarget_of_wellFormed wellFormed] at refused
    split at refused
    next => cases refused
    next => split at refused <;> cases refused
  · exact fun malformed => exists_matchesTarget_of_malformed malformed target

theorem matchesTarget_nil_iff :
    selector.matchesTarget target = .error .nilSelectorTarget ↔
      selector.WellFormed ∧ IsNil target ∧ ∃ term ∈ selector.terms, term.demands ≠ [] := by
  constructor
  · intro refused
    have wellFormed : selector.WellFormed := wellFormed_of_matchesTarget refused (by simp)
    rw [matchesTarget_of_wellFormed wellFormed] at refused
    split at refused
    next => cases refused
    next none =>
      split at refused
      next => cases refused
      next demanding =>
        rw [isEmpty_iff] at demanding
        push Not at demanding
        exact ⟨wellFormed, target?_eq_none_iff.1 none, demanding⟩
  · rintro ⟨wellFormed, isNil, term, termMem, demanding⟩
    have notEmpty : ¬ selector.isEmpty = true := fun empty =>
      demanding (isEmpty_iff.1 empty term termMem)
    rw [matchesTarget_of_wellFormed wellFormed, target?_eq_none_iff.2 isNil]
    exact if_neg notEmpty

theorem matchesTarget_answers_iff :
    (∃ answer, selector.matchesTarget target = .ok answer) ↔
      selector.WellFormed ∧ (IsNil target → ∀ term ∈ selector.terms, term.demands = []) := by
  constructor
  · rintro ⟨answer, answered⟩
    have wellFormed : selector.WellFormed := wellFormed_of_matchesTarget answered (by simp)
    refine ⟨wellFormed, fun isNil term termMem => ?_⟩
    by_contra demanding
    have refused := matchesTarget_nil_iff.2 ⟨wellFormed, isNil, term, termMem, demanding⟩
    rw [refused] at answered
    cases answered
  · rintro ⟨wellFormed, undemanding⟩
    rw [matchesTarget_of_wellFormed wellFormed]
    cases found : target? target with
    | some document => exact ⟨_, rfl⟩
    | none => exact ⟨true, if_pos (isEmpty_iff.2 (undemanding (target?_eq_none_iff.1 found)))⟩

end Selector
end PoolPlanner
