import Mathlib.Data.List.Forall2
import Mathlib.Data.List.Nodup
import Mathlib.Data.List.Perm.Subperm
import PoolPlanner.Ordering

/-!
# Ordered, distinct and filled-up lists

Ordering a list only permutes it, dropping repeats keeps its items, and filling up chosen items
appends the first candidates that are not chosen yet.
-/

namespace PoolPlanner

variable {α : Type}

@[simp]
theorem mem_inOrder (atMost : α → α → Bool) (items : List α) (item : α) :
    item ∈ inOrder atMost items ↔ item ∈ items :=
  (inOrder_perm atMost items).mem_iff

@[simp]
theorem length_inOrder (atMost : α → α → Bool) (items : List α) :
    (inOrder atMost items).length = items.length :=
  (inOrder_perm atMost items).length_eq

@[simp]
theorem nodup_inOrder (atMost : α → α → Bool) (items : List α) :
    (inOrder atMost items).Nodup ↔ items.Nodup :=
  (inOrder_perm atMost items).nodup_iff

@[simp]
theorem mem_inTextOrder (texts : List String) (text : String) :
    text ∈ inTextOrder texts ↔ text ∈ texts :=
  mem_inOrder textAtMost texts text

@[simp]
theorem length_inTextOrder (texts : List String) :
    (inTextOrder texts).length = texts.length :=
  length_inOrder textAtMost texts

@[simp]
theorem nodup_inTextOrder (texts : List String) :
    (inTextOrder texts).Nodup ↔ texts.Nodup :=
  nodup_inOrder textAtMost texts

section Ordered

/-- Any two items can be compared, and comparisons go on from item to item. -/
structure IsOrder (atMost : α → α → Bool) : Prop where
  total : ∀ first second, atMost first second = true ∨ atMost second first = true
  trans : ∀ {first second third}, atMost first second = true → atMost second third = true →
    atMost first third = true

theorem isOrder_textAtMost : IsOrder textAtMost where
  total first second := by simpa [textAtMost] using String.le_total first second
  trans before after := by
    simp only [textAtMost, decide_eq_true_eq] at before after ⊢
    exact String.le_trans before after

theorem IsOrder.comap {β : Type} {atMost : β → β → Bool} (order : IsOrder atMost) (key : α → β) :
    IsOrder fun first second => atMost (key first) (key second) where
  total first second := order.total (key first) (key second)
  trans := order.trans

variable {atMost : α → α → Bool}

theorem insertOrdered_pairwise (order : IsOrder atMost) (item : α) {items : List α}
    (ordered : items.Pairwise fun first second => atMost first second = true) :
    (insertOrdered atMost item items).Pairwise fun first second =>
      atMost first second = true := by
  induction items with
  | nil => simp [insertOrdered]
  | cons head rest ih =>
      have parts := List.pairwise_cons.1 ordered
      rw [insertOrdered]
      split
      next before =>
        apply List.pairwise_cons.2 ⟨?_, ordered⟩
        intro other member
        rcases List.mem_cons.1 member with rfl | inRest
        · exact before
        · exact order.trans before (parts.1 other inRest)
      next notBefore =>
        apply List.pairwise_cons.2 ⟨?_, ih parts.2⟩
        intro other member
        have found := (insertOrdered_perm atMost item rest).mem_iff.1 member
        rcases List.mem_cons.1 found with rfl | inRest
        · exact (order.total other head).resolve_left notBefore
        · exact parts.1 other inRest

theorem inOrder_pairwise (order : IsOrder atMost) (items : List α) :
    (inOrder atMost items).Pairwise fun first second => atMost first second = true := by
  induction items with
  | nil => exact .nil
  | cons item rest ih => exact insertOrdered_pairwise order item ih

theorem inTextOrder_pairwise (texts : List String) :
    (inTextOrder texts).Pairwise fun first second => first ≤ second := by
  have ordered := inOrder_pairwise isOrder_textAtMost texts
  exact ordered.imp fun before => by simpa [textAtMost] using before

theorem inTextOrder_ascending {texts : List String} (distinct : texts.Nodup) :
    (inTextOrder texts).Pairwise fun first second => first < second := by
  have different : (inTextOrder texts).Nodup := (nodup_inTextOrder texts).2 distinct
  exact (inTextOrder_pairwise texts).imp₂ (fun _ _ => Std.lt_of_le_of_ne) different

/-- Texts in ascending order are determined by which texts there are. -/
theorem eq_of_ascending {texts others : List String}
    (ascending : texts.Pairwise fun first second => first < second)
    (othersAscending : others.Pairwise fun first second => first < second)
    (same : ∀ text, text ∈ texts ↔ text ∈ others) : texts = others := by
  have distinct : texts.Nodup := ascending.imp String.ne_of_lt
  have othersDistinct : others.Nodup := othersAscending.imp String.ne_of_lt
  have permuted := (List.perm_ext_iff_of_nodup distinct othersDistinct).2 same
  exact permuted.eq_of_pairwise (fun _ _ _ _ before after => absurd after (String.lt_asymm before))
    ascending othersAscending

end Ordered

theorem eq_of_nodup_filterMap {β : Type} {function : α → Option β} {items : List α}
    (distinct : (items.filterMap function).Nodup) {first second : α} (firstMem : first ∈ items)
    (secondMem : second ∈ items) {value : β} (firstValue : function first = some value)
    (secondValue : function second = some value) : first = second := by
  have apart : items.Pairwise fun earlier later =>
      ∀ earlierValue, function earlier = some earlierValue →
        ∀ laterValue, function later = some laterValue → earlierValue ≠ laterValue :=
    List.pairwise_filterMap.1 distinct
  refine List.Pairwise.forall_of_forall_of_flip
    (R := fun earlier later =>
      function earlier = some value → function later = some value → earlier = later)
    (fun _ _ _ _ => rfl) (apart.imp ?_) (apart.imp ?_) firstMem secondMem firstValue secondValue
  · intro earlier later different earlierValue laterValue
    exact absurd rfl (different value earlierValue value laterValue)
  · intro earlier later different laterValue earlierValue
    exact absurd rfl (different value earlierValue value laterValue)

theorem nodup_filterMap_of_imp {β : Type} {function other : α → Option β} {items : List α}
    (distinct : (items.filterMap other).Nodup)
    (agree : ∀ item value, function item = some value → other item = some value) :
    (items.filterMap function).Nodup := by
  refine List.pairwise_filterMap.2 ((List.pairwise_filterMap.1 distinct).imp ?_)
  intro earlier later different earlierValue earlierEq laterValue laterEq
  exact different earlierValue (agree earlier earlierValue earlierEq) laterValue
    (agree later laterValue laterEq)

/-- Among items with keys of their own, look-up by key finds every item. -/
theorem find?_key_eq_some_iff {β : Type} [DecidableEq β] (key : α → β) {items : List α}
    (distinct : (items.map key).Nodup) {wanted : β} {item : α} :
    (items.find? fun other => key other = wanted) = some item ↔
      item ∈ items ∧ key item = wanted := by
  constructor
  · intro found
    exact ⟨List.mem_of_find?_eq_some found, by simpa using List.find?_some found⟩
  · rintro ⟨member, rfl⟩
    cases found : items.find? fun other => key other = key item with
    | none =>
        have absent := List.find?_eq_none.1 found item member
        simp at absent
    | some other =>
        have sameKey : key other = key item := by simpa using List.find?_some found
        rw [List.inj_on_of_nodup_map distinct (List.mem_of_find?_eq_some found) member sameKey]

/-- To rearrange the values of items is to rearrange the items. -/
theorem exists_map_eq_of_perm_map {β : Type} (function : β → α) {items : List β} {values : List α}
    (permuted : values.Perm (items.map function)) :
    ∃ arranged : List β, values = arranged.map function ∧ arranged.Perm items :=
  (congrFun (congrFun (List.eq_map_comp_perm function) values) items).mpr permuted

/-- What holds between items of one list holds between their partners in another. -/
theorem pairwise_of_forall₂ {β : Type} {matched : α → β → Prop} {apart : α → α → Prop}
    {otherApart : β → β → Prop} {items : List α} {others : List β}
    (partners : List.Forall₂ matched items others) (pairwise : items.Pairwise apart)
    (carried : ∀ {first second firstOther secondOther}, apart first second →
      matched first firstOther → matched second secondOther → otherApart firstOther secondOther) :
    others.Pairwise otherApart := by
  have sameLength := partners.length_eq
  refine List.pairwise_iff_getElem.2 fun first second firstLt secondLt before => ?_
  have itemsApart :=
    List.pairwise_iff_getElem.1 pairwise first second (by omega) (by omega) before
  exact carried itemsApart (partners.get (by omega) firstLt) (partners.get (by omega) secondLt)

theorem forall₂_and_mem {β : Type} {matched : α → β → Prop} {items : List α} {others : List β}
    (partners : List.Forall₂ matched items others) :
    List.Forall₂ (fun item other => matched item other ∧ other ∈ others) items others := by
  refine List.forall₂_iff_get.2 ⟨partners.length_eq, fun index itemLt otherLt => ?_⟩
  exact ⟨partners.get itemLt otherLt, List.get_mem others _⟩

theorem exists_forall₂ {β : Type} {matched : α → β → Prop} {items : List α}
    (each : ∀ item ∈ items, ∃ other, matched item other) :
    ∃ others, List.Forall₂ matched items others := by
  induction items with
  | nil => exact ⟨[], .nil⟩
  | cons item rest ih =>
      obtain ⟨⟨other, itemMatched⟩, restEach⟩ := List.forall_mem_cons.1 each
      obtain ⟨others, restMatched⟩ := ih restEach
      exact ⟨other :: others, .cons itemMatched restMatched⟩

section Distinct

variable [DecidableEq α]

@[simp]
theorem mem_firstOccurrences (items : List α) (item : α) :
    item ∈ firstOccurrences items ↔ item ∈ items := by
  induction items with
  | nil => simp [firstOccurrences]
  | cons head rest ih =>
      by_cases same : item = head <;> simp [firstOccurrences, ih, same]

theorem firstOccurrences_nodup (items : List α) : (firstOccurrences items).Nodup := by
  induction items with
  | nil => simp [firstOccurrences]
  | cons head rest ih =>
      rw [firstOccurrences, List.nodup_cons]
      exact ⟨by simp, ih.filter _⟩

theorem length_firstOccurrences_le (items : List α) :
    (firstOccurrences items).length ≤ items.length := by
  have included : firstOccurrences items ⊆ items := fun item member =>
    (mem_firstOccurrences items item).1 member
  exact ((firstOccurrences_nodup items).subperm included).length_le

/-- Texts in order and without repeats are determined by which texts there are. -/
theorem eq_inTextOrder_of_mem_iff {texts others : List String} (distinct : texts.Nodup)
    (ordered : texts.Pairwise fun first second => first ≤ second)
    (same : ∀ text, text ∈ texts ↔ text ∈ others) :
    texts = inTextOrder (firstOccurrences others) := by
  have othersDistinct : (inTextOrder (firstOccurrences others)).Nodup :=
    (nodup_inTextOrder _).2 (firstOccurrences_nodup others)
  have permuted : texts.Perm (inTextOrder (firstOccurrences others)) := by
    apply (List.perm_ext_iff_of_nodup distinct othersDistinct).2
    intro text
    rw [mem_inTextOrder, mem_firstOccurrences, same]
  exact permuted.eq_of_pairwise (fun _ _ _ _ before after => String.le_antisymm before after)
    ordered (inTextOrder_pairwise _)

/-- A list without repeats is its own list of first occurrences. -/
theorem firstOccurrences_of_nodup {items : List α} (distinct : items.Nodup) :
    firstOccurrences items = items := by
  induction items with
  | nil => rfl
  | cons head rest ih =>
      obtain ⟨headNotMem, restDistinct⟩ := List.nodup_cons.1 distinct
      rw [firstOccurrences, ih restDistinct, List.filter_eq_self.2]
      intro other otherMem
      simpa using fun same : other = head => headNotMem (same ▸ otherMem)

/-- A list is as long without its repeats only if it has none. -/
theorem length_firstOccurrences_eq_iff {items : List α} :
    (firstOccurrences items).length = items.length ↔ items.Nodup := by
  constructor
  · intro sameLength
    have included : firstOccurrences items ⊆ items := fun item member =>
      (mem_firstOccurrences items item).1 member
    have permuted : (firstOccurrences items).Perm items := by
      apply ((firstOccurrences_nodup items).subperm included).perm_of_length_le
      omega
    exact permuted.nodup_iff.1 (firstOccurrences_nodup items)
  · intro distinct
    rw [firstOccurrences_of_nodup distinct]

theorem firstOccurrences_append {first second : List α} (distinct : second.Nodup)
    (apart : ∀ item ∈ second, item ∉ first) :
    firstOccurrences (first ++ second) = firstOccurrences first ++ second := by
  induction first with
  | nil => exact firstOccurrences_of_nodup distinct
  | cons head rest ih =>
      have headApart : ∀ item ∈ second, item ≠ head := fun item member =>
        List.ne_of_not_mem_cons (apart item member)
      have restApart : ∀ item ∈ second, item ∉ rest := fun item member =>
        List.not_mem_of_not_mem_cons (apart item member)
      have kept : (second.filter fun other => other ≠ head) = second :=
        List.filter_eq_self.2 fun item member => by simpa using headApart item member
      rw [List.cons_append, firstOccurrences, ih restApart, List.filter_append, kept,
        firstOccurrences, List.cons_append]

/-- Of a list without repeats, the items of one of its sublists are the sublist. -/
theorem filter_mem_of_sublist {kept items : List α} (distinct : items.Nodup)
    (included : kept.Sublist items) : (items.filter fun item => item ∈ kept) = kept := by
  have allKept : (kept.filter fun item => item ∈ kept) = kept :=
    List.filter_eq_self.2 fun item member => by simpa using member
  have inside := included.filter fun item => item ∈ kept
  rw [allKept] at inside
  have noOthers : (items.filter fun item => item ∈ kept) ⊆ kept := fun item member => by
    simpa using (List.mem_filter.1 member).2
  have fewer := ((distinct.filter _).subperm noOthers).length_le
  exact (inside.eq_of_length_le fewer).symm

/-- Filling up appends the first candidates that are not chosen yet, as many as are missing. -/
theorem fillUpTo_eq (count : Nat) (chosen candidates : List α) :
    fillUpTo count chosen candidates =
      chosen ++
        ((firstOccurrences candidates).filter fun item => item ∉ chosen).take
          (count - chosen.length) := by
  induction candidates generalizing chosen with
  | nil => simp [fillUpTo, firstOccurrences]
  | cons candidate rest ih =>
      rw [fillUpTo]
      split
      next full => simp [Nat.sub_eq_zero_of_le full]
      next missing =>
        rw [firstOccurrences]
        split
        next known =>
          rw [ih, List.filter_cons_of_neg (by simpa using known), List.filter_filter]
          congr 2
          refine List.filter_congr fun item _ => ?_
          have : item ∉ chosen → item ≠ candidate := fun unknown same => unknown (same ▸ known)
          by_cases itemKnown : item ∈ chosen <;> simp_all
        next unknown =>
          have oneMissing : count - chosen.length = count - (chosen.length + 1) + 1 := by omega
          rw [ih, List.filter_cons_of_pos (by simpa using unknown), oneMissing,
            List.take_succ_cons, List.filter_filter, List.append_assoc, List.singleton_append,
            List.length_append, List.length_singleton]
          congr 3
          refine List.filter_congr fun item _ => ?_
          by_cases itemKnown : item ∈ chosen <;> simp [itemKnown]

/-- Where nothing is chosen yet, the first candidates are. -/
theorem fillUpTo_nil {candidates : List α} (distinct : candidates.Nodup) (count : Nat) :
    fillUpTo count [] candidates = candidates.take count := by
  rw [fillUpTo_eq, firstOccurrences_of_nodup distinct]
  simp

/-- Where as many preferred items as may be are chosen, they are filled up with the others. -/
theorem fillUpTo_filter {items : List α} (distinct : items.Nodup) (count : Nat)
    (preferred : α → Bool) :
    fillUpTo count ((items.filter preferred).take count) items =
      (items.filter preferred).take count ++
        (items.filter fun item => !preferred item).take
          (count - (items.filter preferred).length) := by
  rw [fillUpTo_eq, firstOccurrences_of_nodup distinct]
  by_cases fits : (items.filter preferred).length ≤ count
  · have others : (items.filter fun item => item ∉ items.filter preferred) =
        items.filter fun item => !preferred item :=
      List.filter_congr fun item member => by simp [member]
    rw [List.take_of_length_le fits, others]
  · have full : count - ((items.filter preferred).take count).length = 0 := by
      rw [List.length_take]
      omega
    have none : count - (items.filter preferred).length = 0 := by omega
    rw [full, none, List.take_zero, List.take_zero]

theorem fillUpTo_nodup {count : Nat} {chosen candidates : List α} (distinct : chosen.Nodup) :
    (fillUpTo count chosen candidates).Nodup := by
  rw [fillUpTo_eq]
  refine List.nodup_append'.2 ⟨distinct, ?_, ?_⟩
  · exact ((firstOccurrences_nodup candidates).filter _).sublist (List.take_sublist _ _)
  · intro item itemChosen itemTaken
    simpa [itemChosen] using (List.mem_of_mem_take itemTaken)

theorem mem_of_mem_fillUpTo {count : Nat} {chosen candidates : List α} {item : α}
    (member : item ∈ fillUpTo count chosen candidates) : item ∈ chosen ∨ item ∈ candidates := by
  rw [fillUpTo_eq, List.mem_append] at member
  refine member.imp_right fun taken => ?_
  exact (mem_firstOccurrences candidates item).1
    (List.mem_of_mem_filter (List.mem_of_mem_take taken))

theorem length_filter_notMem {chosen candidates : List α} (chosenDistinct : chosen.Nodup)
    (candidatesDistinct : candidates.Nodup) (included : chosen ⊆ candidates) :
    (candidates.filter fun item => item ∉ chosen).length = candidates.length - chosen.length := by
  have known : (candidates.filter fun item => item ∈ chosen).Perm chosen := by
    refine (List.perm_ext_iff_of_nodup (candidatesDistinct.filter _) chosenDistinct).2 ?_
    intro item
    simpa using fun member => included member
  have parts := List.length_eq_length_filter_add (l := candidates) fun item => item ∈ chosen
  have others : (candidates.filter fun item => item ∉ chosen) =
      candidates.filter fun item => !decide (item ∈ chosen) :=
    List.filter_congr fun item _ => by simp
  rw [known.length_eq] at parts
  rw [others]
  omega

theorem length_sub_le_filter_notMem (chosen : List α) {candidates : List α}
    (distinct : candidates.Nodup) :
    candidates.length - chosen.length ≤
      (candidates.filter fun item => item ∉ chosen).length := by
  have known : (candidates.filter fun item => item ∈ chosen) ⊆ chosen := fun item member => by
    simpa using (List.mem_filter.1 member).2
  have fewer := ((distinct.filter _).subperm known).length_le
  have parts := List.length_eq_length_filter_add (l := candidates) fun item => item ∈ chosen
  simp only [decide_not]
  omega

/-- Filling up ends at the wanted count, or when the candidates are used up. -/
theorem fillUpTo_length {count : Nat} {chosen candidates : List α}
    (chosenDistinct : chosen.Nodup) (candidatesDistinct : candidates.Nodup)
    (included : chosen ⊆ candidates) (bounded : chosen.length ≤ count) :
    (fillUpTo count chosen candidates).length = min count candidates.length := by
  have chosenLe : chosen.length ≤ candidates.length :=
    (chosenDistinct.subperm included).length_le
  rw [fillUpTo_eq, firstOccurrences_of_nodup candidatesDistinct, List.length_append,
    List.length_take, length_filter_notMem chosenDistinct candidatesDistinct included]
  omega

end Distinct
end PoolPlanner
