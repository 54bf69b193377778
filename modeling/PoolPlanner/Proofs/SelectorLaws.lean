import PoolPlanner.Proofs.SelectorDemands

/-!
# The laws of selectors

A selector is a disjunction of conjunctions and obeys their laws: order and repeats do not matter,
one more demand on a term can only select less, one more term can only select more, and a term with
a single demand is negated by the opposite operator.
-/

namespace PoolPlanner

/-- Two lists have the same items up to a relation, whatever their order and repeats. -/
def SameItems {α : Type} (related : α → α → Prop) (items others : List α) : Prop :=
  (∀ item ∈ items, ∃ other ∈ others, related item other) ∧
    ∀ other ∈ others, ∃ item ∈ items, related item other

namespace SameItems

variable {α : Type} {related : α → α → Prop} {items others : List α}

theorem forall_iff {holds : α → Prop} (same : SameItems related items others)
    (agree : ∀ item other, related item other → (holds item ↔ holds other)) :
    (∀ item ∈ items, holds item) ↔ ∀ other ∈ others, holds other := by
  constructor
  · intro all other otherMem
    obtain ⟨item, itemMem, isRelated⟩ := same.2 other otherMem
    exact (agree item other isRelated).1 (all item itemMem)
  · intro all item itemMem
    obtain ⟨other, otherMem, isRelated⟩ := same.1 item itemMem
    exact (agree item other isRelated).2 (all other otherMem)

theorem exists_iff {holds : α → Prop} (same : SameItems related items others)
    (agree : ∀ item other, related item other → (holds item ↔ holds other)) :
    (∃ item ∈ items, holds item) ↔ ∃ other ∈ others, holds other := by
  constructor
  · rintro ⟨item, itemMem, holdsItem⟩
    obtain ⟨other, otherMem, isRelated⟩ := same.1 item itemMem
    exact ⟨other, otherMem, (agree item other isRelated).1 holdsItem⟩
  · rintro ⟨other, otherMem, holdsOther⟩
    obtain ⟨item, itemMem, isRelated⟩ := same.2 other otherMem
    exact ⟨item, itemMem, (agree item other isRelated).2 holdsOther⟩

theorem eq_nil_iff (same : SameItems related items others) : items = [] ↔ others = [] := by
  have empty : (∀ item ∈ items, False) ↔ ∀ other ∈ others, False :=
    same.forall_iff fun _ _ _ => Iff.rfl
  simpa only [List.eq_nil_iff_forall_not_mem] using empty

end SameItems

section Alike

/-- Two requirements have the same values, in any order and with any repeats, and are else the
same. -/
structure Requirement.Alike (first second : Requirement) : Prop where
  key : first.key = second.key
  operator : first.operator = second.operator
  values : ∀ value, value ∈ first.values ↔ value ∈ second.values

/-- Two requirements on lists have the same values, in any order and with any repeats, and are else
the same. -/
structure SliceRequirement.Alike (first second : SliceRequirement) : Prop where
  key : first.key = second.key
  operator : first.operator = second.operator
  values : ∀ value, value ∈ first.values ↔ value ∈ second.values

/-- Two demands differ in the order and the repeats of their values at most. -/
inductive Demand.Alike : Demand → Demand → Prop
  | refl (demand : Demand) : Alike demand demand
  | labelExpression {first second : Requirement} (alike : first.Alike second) :
      Alike (.labelExpression first) (.labelExpression second)
  | annotationExpression {first second : Requirement} (alike : first.Alike second) :
      Alike (.annotationExpression first) (.annotationExpression second)
  | fieldExpression {first second : Requirement} (alike : first.Alike second) :
      Alike (.fieldExpression first) (.fieldExpression second)
  | slice {first second : SliceRequirement} (alike : first.Alike second) :
      Alike (.slice first) (.slice second)

/-- Two terms have the same demands, in any order and with any repeats. -/
def SelectorTerm.Alike (first second : SelectorTerm) : Prop :=
  SameItems Demand.Alike first.demands second.demands

/-- Two selectors have the same terms, in any order and with any repeats. -/
def Selector.Alike (first second : Selector) : Prop :=
  SameItems SelectorTerm.Alike first.terms second.terms

theorem eq_nil_iff_of_mem_iff {values others : List String}
    (same : ∀ value, value ∈ values ↔ value ∈ others) : values = [] ↔ others = [] := by
  simp only [List.eq_nil_iff_forall_not_mem, same]

theorem Requirement.Alike.accepts_eq {first second : Requirement} (alike : first.Alike second)
    (actual : Option String) : first.accepts actual = second.accepts actual := by
  simp only [accepts, alike.operator, List.contains_eq_mem, alike.values]

theorem Requirement.Alike.wellFormed_iff {first second : Requirement}
    (alike : first.Alike second) : first.WellFormed ↔ second.WellFormed := by
  simp only [WellFormed, alike.key, alike.operator, eq_nil_iff_of_mem_iff alike.values]

theorem SliceRequirement.Alike.accepts_eq {first second : SliceRequirement}
    (alike : first.Alike second) (actual : List String) :
    first.accepts actual = second.accepts actual := by
  have allSame (test : String → Bool) : first.values.all test = second.values.all test := by
    rw [Bool.eq_iff_iff, List.all_eq_true, List.all_eq_true]
    simp only [alike.values]
  have anySame (test : String → Bool) : first.values.any test = second.values.any test := by
    rw [Bool.eq_iff_iff, List.any_eq_true, List.any_eq_true]
    simp only [alike.values]
  simp only [accepts, alike.operator, List.contains_eq_mem, alike.values, allSame, anySame]

theorem SliceRequirement.Alike.wellFormed_iff {first second : SliceRequirement}
    (alike : first.Alike second) : first.WellFormed ↔ second.WellFormed := by
  simp only [WellFormed, alike.key, alike.operator, Ne, eq_nil_iff_of_mem_iff alike.values]

theorem Demand.Alike.accepts_eq {first second : Demand} (alike : first.Alike second)
    (document : Json) : first.accepts document = second.accepts document := by
  cases alike with
  | refl => rfl
  | labelExpression alike => simp only [accepts, alike.key, alike.accepts_eq]
  | annotationExpression alike => simp only [accepts, alike.key, alike.accepts_eq]
  | fieldExpression alike => simp only [accepts, alike.key, alike.accepts_eq]
  | slice alike => simp only [accepts, alike.key, alike.accepts_eq]

theorem Demand.Alike.wellFormed_iff {first second : Demand} (alike : first.Alike second) :
    first.WellFormed ↔ second.WellFormed := by
  cases alike with
  | refl => rfl
  | labelExpression alike => exact alike.wellFormed_iff
  | annotationExpression alike => exact alike.wellFormed_iff
  | fieldExpression alike => exact alike.wellFormed_iff
  | slice alike => exact alike.wellFormed_iff

variable {first second : Selector}

theorem Selector.Alike.wellFormed_iff (alike : first.Alike second) :
    first.WellFormed ↔ second.WellFormed :=
  alike.forall_iff fun _ _ terms => terms.forall_iff fun _ _ demands => demands.wellFormed_iff

theorem Selector.Alike.holds_eq (alike : first.Alike second) (document : Json) :
    first.holds document = second.holds document := by
  rw [Bool.eq_iff_iff, holds_iff, holds_iff, alike.eq_nil_iff]
  refine or_congr_right (alike.exists_iff fun _ _ terms => terms.forall_iff fun _ _ demands => ?_)
  rw [demands.accepts_eq]

theorem Selector.Alike.isEmpty_eq (alike : first.Alike second) :
    first.isEmpty = second.isEmpty := by
  rw [Bool.eq_iff_iff, isEmpty_iff, isEmpty_iff]
  exact alike.forall_iff fun _ _ terms => terms.eq_nil_iff

/-- Well-formed selectors that are alike come to the same for every target. -/
theorem Selector.Alike.matchesTarget_eq (alike : first.Alike second)
    (wellFormed : first.WellFormed) (target : Option Json) :
    second.matchesTarget target = first.matchesTarget target := by
  rw [matchesTarget_of_wellFormed wellFormed,
    matchesTarget_of_wellFormed (alike.wellFormed_iff.1 wellFormed), alike.isEmpty_eq]
  simp only [alike.holds_eq]

end Alike

section Opposites

def Operator.opposite : Operator → Operator
  | .isIn => .isNotIn
  | .isNotIn => .isIn
  | .exists => .doesNotExist
  | .doesNotExist => .exists

def Requirement.opposite (requirement : Requirement) : Requirement :=
  { requirement with operator := requirement.operator.opposite }

/-- Two demands have opposite operators, and are else the same.  To hold and not to hold some values
are not among them: a list can hold one value and lack another. -/
inductive Demand.Opposes : Demand → Demand → Prop
  | labelExpression (requirement : Requirement) :
      Opposes (.labelExpression requirement) (.labelExpression requirement.opposite)
  | annotationExpression (requirement : Requirement) :
      Opposes (.annotationExpression requirement) (.annotationExpression requirement.opposite)
  | fieldExpression (requirement : Requirement) :
      Opposes (.fieldExpression requirement) (.fieldExpression requirement.opposite)
  | equals (path : String) (values : List String) :
      Opposes (.slice ⟨path, .equals, values⟩) (.slice ⟨path, .notEquals, values⟩)
  | notEquals (path : String) (values : List String) :
      Opposes (.slice ⟨path, .notEquals, values⟩) (.slice ⟨path, .equals, values⟩)

theorem Requirement.accepts_opposite (requirement : Requirement) (actual : Option String) :
    requirement.opposite.accepts actual = !requirement.accepts actual := by
  obtain ⟨key, operator, values⟩ := requirement
  cases operator <;> cases actual <;> simp [opposite, Operator.opposite, accepts]

theorem Requirement.WellFormed.opposite {requirement : Requirement}
    (wellFormed : requirement.WellFormed) : requirement.opposite.WellFormed := by
  obtain ⟨key, operator, values⟩ := requirement
  refine ⟨wellFormed.1, wellFormed.2.trans ?_⟩
  cases operator <;> simp [Requirement.opposite, Operator.opposite]

variable {demand counter : Demand}

theorem Demand.Opposes.accepts_eq (opposes : demand.Opposes counter) (document : Json) :
    counter.accepts document = !demand.accepts document := by
  cases opposes with
  | labelExpression requirement => exact requirement.accepts_opposite _
  | annotationExpression requirement => exact requirement.accepts_opposite _
  | fieldExpression requirement => exact requirement.accepts_opposite _
  | equals path values => rfl
  | notEquals path values => simp [accepts, SliceRequirement.accepts]

theorem Demand.Opposes.wellFormed (opposes : demand.Opposes counter)
    (wellFormed : demand.WellFormed) : counter.WellFormed := by
  cases opposes with
  | labelExpression requirement => exact Requirement.WellFormed.opposite wellFormed
  | annotationExpression requirement => exact Requirement.WellFormed.opposite wellFormed
  | fieldExpression requirement => exact Requirement.WellFormed.opposite wellFormed
  | equals path values => exact ⟨wellFormed.1, by simp⟩
  | notEquals path values => exact ⟨wellFormed.1, by simp⟩

end Opposites

namespace Selector

variable {selector wider : Selector} {before after : List SelectorTerm}
  {term other : SelectorTerm} {demand counter : Demand} {document : Json}

theorem holds_of_demanding (demanding : term.demands ⊆ other.demands)
    (holdsMore : (Selector.mk (before ++ other :: after)).holds document = true) :
    (Selector.mk (before ++ term :: after)).holds document = true := by
  rw [holds_iff] at holdsMore ⊢
  refine .inr ?_
  rcases holdsMore with none | ⟨chosen, chosenMem, met⟩
  · simp at none
  · rcases List.mem_append.1 chosenMem with isBefore | rest
    · exact ⟨chosen, List.mem_append_left _ isBefore, met⟩
    · rcases List.mem_cons.1 rest with rfl | isAfter
      · exact ⟨term, by simp, fun demand demandMem => met demand (demanding demandMem)⟩
      · exact ⟨chosen, by simp [isAfter], met⟩

theorem holds_of_wider (hasTerm : selector.terms ≠ []) (included : selector.terms ⊆ wider.terms)
    (holdsHere : selector.holds document = true) : wider.holds document = true := by
  rw [holds_iff] at holdsHere ⊢
  obtain ⟨term, termMem, met⟩ := holdsHere.resolve_left hasTerm
  exact .inr ⟨term, included termMem, met⟩

theorem holds_singleton (only : term.demands = [demand]) (document : Json) :
    (Selector.mk [term]).holds document = demand.accepts document := by
  simp [holds, SelectorTerm.accepts_eq_all, only]

/-- How the answers of a selector for a target relate to those of others. -/
structure AnswersLawfully (selector : Selector) (target : Option Json) : Prop where
  /-- The order and the repeats of terms, of demands and of values do not matter. -/
  alike : ∀ {other : Selector}, selector.Alike other →
    other.matchesTarget target = selector.matchesTarget target
  /-- With more demands on one of its terms, a selector selects no more. -/
  demanding : ∀ before after {term other}, selector.terms = before ++ term :: after →
    term.demands ⊆ other.demands → (Selector.mk (before ++ other :: after)).WellFormed →
    selector.matchesTarget target = .ok false →
      (Selector.mk (before ++ other :: after)).matchesTarget target = .ok false
  /-- With more terms, a selector that has some selects no less. -/
  wider : ∀ {wider : Selector}, selector.terms ≠ [] → selector.terms ⊆ wider.terms →
    wider.WellFormed → selector.matchesTarget target = .ok true →
      wider.matchesTarget target = .ok true
  /-- A single demand is negated by the opposite one. -/
  opposite : ∀ {term other demand counter}, selector.terms = [term] → term.demands = [demand] →
    other.demands = [counter] → demand.Opposes counter →
    ∃ answer, selector.matchesTarget target = .ok answer ∧
      (Selector.mk [other]).matchesTarget target = .ok (!answer)

theorem answersLawfully (wellFormed : selector.WellFormed) {target : Option Json}
    (found : target? target = some document) : selector.AnswersLawfully target where
  alike isAlike := isAlike.matchesTarget_eq wellFormed target
  demanding := by
    intro before after term other terms included moreWellFormed rejected
    rw [matchesTarget_eq_holds wellFormed found] at rejected
    rw [matchesTarget_eq_holds moreWellFormed found]
    cases holdsMore : (Selector.mk (before ++ other :: after)).holds document with
    | false => rfl
    | true =>
        have holdsHere := holds_of_demanding included holdsMore
        rw [← terms] at holdsHere
        rw [holdsHere] at rejected
        cases rejected
  wider := by
    intro wider hasTerm included widerWellFormed accepted
    rw [matchesTarget_eq_holds wellFormed found] at accepted
    rw [matchesTarget_eq_holds widerWellFormed found,
      holds_of_wider hasTerm included (Except.ok.inj accepted)]
  opposite := by
    intro term other demand counter terms only otherOnly opposes
    obtain rfl : selector = ⟨[term]⟩ := by rw [← terms]
    have demandWellFormed : demand.WellFormed := wellFormed term (by simp) demand (by simp [only])
    have otherWellFormed : (Selector.mk [other]).WellFormed := by
      simpa [WellFormed, otherOnly] using opposes.wellFormed demandWellFormed
    refine ⟨demand.accepts document, ?_, ?_⟩
    · rw [matchesTarget_eq_holds wellFormed found, holds_singleton only]
    · rw [matchesTarget_eq_holds otherWellFormed found, holds_singleton otherOnly,
        opposes.accepts_eq]

/-- Whatever a selector demands of whatever target: a malformed demand is reported first, then a nil
target of which something is demanded, and else there is an answer, which obeys the laws. -/
theorem matchesTarget_lawful (selector : Selector) (target : Option Json) :
    ((∃ issue, selector.matchesTarget target = .error (.selector issue)) ↔
        ∃ term ∈ selector.terms, ∃ demand ∈ term.demands, ¬ demand.WellFormed) ∧
      (selector.matchesTarget target = .error .nilSelectorTarget ↔
        selector.WellFormed ∧ IsNil target ∧ ∃ term ∈ selector.terms, term.demands ≠ []) ∧
      ((∃ answer, selector.matchesTarget target = .ok answer) ↔
        selector.WellFormed ∧ (IsNil target → ∀ term ∈ selector.terms, term.demands = [])) ∧
      (selector.WellFormed → ¬ IsNil target → selector.AnswersLawfully target) := by
  refine ⟨?_, matchesTarget_nil_iff, matchesTarget_answers_iff, fun wellFormed present => ?_⟩
  · rw [matchesTarget_invalid_iff, WellFormed]
    push Not
    rfl
  · rw [← target?_eq_none_iff, ← ne_eq, Option.ne_none_iff_exists'] at present
    obtain ⟨document, found⟩ := present
    exact answersLawfully wellFormed found

section Zones

/-- The document of a disk of the zone `east`, with two finalizers. -/
def eastDisk : Json :=
  .object [("metadata", .object
    [("finalizers", .array [.string "protect", .string "cleanup"]),
      ("labels", .object [("zone", .string "east")])])]

def zoneDemand (operator : Operator) (zones : List String) : Demand :=
  .labelExpression ⟨"zone", operator, zones⟩

/-- The disks of some zones, or of all others. -/
def zoneTerm (operator : Operator) (zones : List String) : SelectorTerm :=
  { labelExpressions := [⟨"zone", operator, zones⟩] }

/-- The disks of a zone with a single finalizer. -/
def guardedTerm : SelectorTerm :=
  { zoneTerm .isNotIn ["west", "east"] with
    slices := [⟨"metadata.finalizers", .equals, ["protect"]⟩] }

theorem zoneTerm_alike :
    (zoneTerm .isIn ["west", "east"]).Alike (zoneTerm .isIn ["east", "west", "east"]) := by
  have demands (zones : List String) :
      (zoneTerm .isIn zones).demands = [zoneDemand .isIn zones] :=
    rfl
  have alike : (zoneDemand .isIn ["west", "east"]).Alike
      (zoneDemand .isIn ["east", "west", "east"]) :=
    .labelExpression ⟨rfl, rfl, fun value => by simp [or_comm]⟩
  simpa [SelectorTerm.Alike, SameItems, demands] using alike

/-- A choice of two zones selects the disk: with its values and its term given again in another
order, and next to another term.  The opposite choice does not select it, and with one more demand
neither. -/
theorem zoneTerm_lawful :
    ¬ IsNil (some eastDisk) ∧ (Selector.mk [zoneTerm .isIn ["west", "east"]]).WellFormed ∧
      (Selector.mk [zoneTerm .isIn ["west", "east"]]).matchesTarget (some eastDisk) = .ok true ∧
      (Selector.mk [zoneTerm .isIn ["east", "west", "east"],
        zoneTerm .isIn ["east", "west", "east"]]).matchesTarget (some eastDisk) = .ok true ∧
      (Selector.mk [guardedTerm, zoneTerm .isIn ["west", "east"]]).matchesTarget
        (some eastDisk) = .ok true ∧
      (Selector.mk [zoneTerm .isNotIn ["west", "east"]]).matchesTarget
        (some eastDisk) = .ok false ∧
      (Selector.mk [guardedTerm]).matchesTarget (some eastDisk) = .ok false := by
  have present : ¬ IsNil (some eastDisk) := by simp [IsNil, eastDisk]
  have wellFormed : (Selector.mk [zoneTerm .isIn ["west", "east"]]).WellFormed :=
    validate_eq_ok_iff.1 rfl
  have otherWellFormed : (Selector.mk [zoneTerm .isNotIn ["west", "east"]]).WellFormed :=
    validate_eq_ok_iff.1 rfl
  have accepted : (Selector.mk [zoneTerm .isIn ["west", "east"]]).matchesTarget
      (some eastDisk) = .ok true :=
    rfl
  have rejected : (Selector.mk [zoneTerm .isNotIn ["west", "east"]]).matchesTarget
      (some eastDisk) = .ok false :=
    rfl
  have lawful :=
    (matchesTarget_lawful ⟨[zoneTerm .isIn ["west", "east"]]⟩ (some eastDisk)).2.2.2 wellFormed
      present
  have otherLawful :=
    (matchesTarget_lawful ⟨[zoneTerm .isNotIn ["west", "east"]]⟩ (some eastDisk)).2.2.2
      otherWellFormed present
  have repeated : (Selector.mk [zoneTerm .isIn ["west", "east"]]).Alike
      ⟨[zoneTerm .isIn ["east", "west", "east"], zoneTerm .isIn ["east", "west", "east"]]⟩ := by
    simp [Selector.Alike, SameItems, zoneTerm_alike]
  have opposes : (zoneDemand .isIn ["west", "east"]).Opposes
      (zoneDemand .isNotIn ["west", "east"]) :=
    .labelExpression ⟨"zone", .isIn, ["west", "east"]⟩
  have only : (zoneTerm .isNotIn ["west", "east"]).demands =
      [zoneDemand .isNotIn ["west", "east"]] :=
    rfl
  obtain ⟨answer, answered, negated⟩ := lawful.opposite rfl rfl only opposes
  obtain rfl : answer = true := Except.ok.inj (answered.symm.trans accepted)
  have moreDemands : (zoneTerm .isNotIn ["west", "east"]).demands ⊆ guardedTerm.demands := by
    have guarded : guardedTerm.demands = zoneDemand .isNotIn ["west", "east"] ::
        [.slice ⟨"metadata.finalizers", .equals, ["protect"]⟩] :=
      rfl
    rw [only, guarded]
    simp
  have less := otherLawful.demanding [] [] rfl moreDemands (validate_eq_ok_iff.1 rfl) rejected
  exact ⟨present, wellFormed, accepted, (lawful.alike repeated).trans accepted,
    lawful.wider (by simp) (by simp) (validate_eq_ok_iff.1 rfl) accepted, negated, less⟩

end Zones

end Selector
end PoolPlanner
