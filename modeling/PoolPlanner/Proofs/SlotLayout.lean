import PoolPlanner.Proofs.SlotMerge

/-!
# The layout that a slot merge leaves

Which item is in which slot after a merge.  Freed slots go to the new items, the first one to the
first.  New items without a slot are appended; freed slots without a new item are dropped, and the
items behind them move up.
-/

namespace PoolPlanner

variable {α : Type}

/-- A kept item stands among the kept ones behind those in front of it. -/
theorem getElem?_filter_of_getElem? (isKept : α → Bool) {items : List α} {slot : Nat} {item : α}
    (found : items[slot]? = some item) (kept : isKept item = true) :
    (items.filter isKept)[((items.take slot).filter isKept).length]? = some item := by
  induction items generalizing slot with
  | nil => simp at found
  | cons head rest ih =>
      cases slot with
      | zero =>
          obtain rfl : head = item := Option.some.inj found
          rw [List.filter_cons_of_pos kept]
          rfl
      | succ slot =>
          have foundInRest : rest[slot]? = some item := found
          rw [List.take_succ_cons]
          by_cases headKept : isKept head = true
          · rw [List.filter_cons_of_pos headKept, List.filter_cons_of_pos headKept,
              List.length_cons, List.getElem?_cons_succ]
            exact ih foundInRest
          · rw [List.filter_cons_of_neg headKept, List.filter_cons_of_neg headKept]
            exact ih foundInRest

variable [DecidableEq α]

/-- Of the front of a list without repeats, the items behind the first `count` of the list. -/
theorem filter_mem_drop {front back : List α} (distinct : (front ++ back).Nodup) (count : Nat) :
    (front.filter fun item => item ∈ (front ++ back).drop count) = front.drop count := by
  induction front generalizing count with
  | nil => simp
  | cons head rest ih =>
      obtain ⟨headOnce, restDistinct⟩ := List.nodup_cons.1 distinct
      cases count with
      | zero =>
          refine List.filter_eq_self.2 fun item member => ?_
          simpa using List.mem_append_left back member
      | succ count =>
          have notDropped : head ∉ (rest ++ back).drop count := fun member =>
            headOnce (List.mem_of_mem_drop member)
          rw [List.cons_append, List.drop_succ_cons, List.drop_succ_cons,
            List.filter_cons_of_neg (by simpa using notDropped)]
          exact ih restDistinct count

namespace Difference

/-- The removed items whose slots no new item takes. -/
def dropped (change : Difference α) : List α :=
  change.removals.drop change.additions.length

/-- How many slots in front of a slot are dropped. -/
def droppedBefore (change : Difference α) (slots : List α) (slot : Nat) : Nat :=
  ((slots.take slot).filter fun item => item ∈ change.dropped).length

/-- Every slot is taken again, and what has no slot follows. -/
structure Refills (change : Difference α) (slots merged : List α) : Prop where
  keeps : ∀ (slot : Nat) (item : α), slots[slot]? = some item → item ∈ change.unchanged →
    merged[slot]? = some item
  replaces : ∀ (index slot : Nat) (item : α), change.removals[index]? = some item →
    slots[slot]? = some item →
    ∃ replacement, change.additions[index]? = some replacement ∧
      merged[slot]? = some replacement
  appends : merged.drop slots.length = change.additions.drop change.removals.length

/-- The new items take the first freed slots, and the other freed slots are gone. -/
structure Compacts (change : Difference α) (slots merged : List α) : Prop where
  keeps : ∀ (slot : Nat) (item : α), slots[slot]? = some item → item ∈ change.unchanged →
    change.droppedBefore slots slot ≤ slot ∧
      merged[slot - change.droppedBefore slots slot]? = some item
  replaces : ∀ (index slot : Nat) (item replacement : α), change.removals[index]? = some item →
    slots[slot]? = some item → change.additions[index]? = some replacement →
    merged[slot]? = some replacement
  drops : merged.length + change.dropped.length = slots.length

end Difference

variable {observed desired : List α}

theorem removals_difference (observed desired : List α) :
    (difference observed desired).removals =
      (firstOccurrences observed).filter fun item => item ∉ desired :=
  rfl

theorem removals_nodup : (difference observed desired).removals.Nodup :=
  (firstOccurrences_nodup observed).filter _

/-- The removed items are ranked by the freed slots. -/
theorem freedBefore_eq {index slot : Nat} {item : α}
    (removed : (difference observed desired).removals[index]? = some item)
    (found : (firstOccurrences observed)[slot]? = some item) :
    freedBefore desired (firstOccurrences observed) slot = index := by
  have leaves := (List.mem_filter.1 (List.mem_of_getElem? removed)).2
  have ranked := getElem?_filter_of_getElem? (fun other => other ∉ desired) found leaves
  obtain ⟨inRange, -⟩ := List.getElem?_eq_some_iff.1 ranked
  exact (List.getElem?_inj inRange removals_nodup).1 (ranked.trans removed.symm)

theorem droppedBefore_eq (slot : Nat) :
    (difference observed desired).droppedBefore (firstOccurrences observed) slot =
      freedBefore desired (firstOccurrences observed) slot -
        (difference observed desired).additions.length := by
  let slots := firstOccurrences observed
  let front := (slots.take slot).filter fun item => item ∉ desired
  let back := (slots.drop slot).filter fun item => item ∉ desired
  let count := (difference observed desired).additions.length
  have removed : (difference observed desired).removals = front ++ back := by
    rw [removals_difference, ← List.filter_append, List.take_append_drop]
  have distinct : (front ++ back).Nodup := removed ▸ removals_nodup
  have droppedEq : (difference observed desired).dropped = (front ++ back).drop count :=
    congrArg (List.drop count) removed
  -- Only items that leave are dropped, so the others in front of the slot do not count.
  have inFront : ((slots.take slot).filter fun item => item ∈ (front ++ back).drop count) =
      front.filter fun item => item ∈ (front ++ back).drop count := by
    rw [List.filter_filter]
    refine List.filter_congr fun item _ => ?_
    by_cases isDropped : item ∈ (front ++ back).drop count
    · have leaves : item ∈ (difference observed desired).removals := by
        rw [removed]
        exact List.mem_of_mem_drop isDropped
      simpa [isDropped] using (List.mem_filter.1 leaves).2
    · simp [isDropped]
  calc
    (difference observed desired).droppedBefore slots slot =
        ((slots.take slot).filter fun item => item ∈ (front ++ back).drop count).length := by
      rw [Difference.droppedBefore, droppedEq]
    _ = (front.drop count).length := by rw [inFront, filter_mem_drop distinct]
    _ = freedBefore desired slots slot - count := List.length_drop

theorem mem_of_mem_unchanged {item : α} (member : item ∈ (difference observed desired).unchanged) :
    item ∈ desired := by
  simpa using (List.mem_filter.1 member).2

theorem refills_slotMerge
    (enough : (difference observed desired).removals.length ≤
      (difference observed desired).additions.length) :
    (difference observed desired).Refills (firstOccurrences observed)
      (slotMerge observed desired) where
  keeps slot item found stays :=
    fillSlots_getElem?_of_mem enough found (mem_of_mem_unchanged stays)
  replaces index slot item removed found := by
    have rank := freedBefore_eq removed found
    have leaves : item ∉ desired := by
      simpa using (List.mem_filter.1 (List.mem_of_getElem? removed)).2
    obtain ⟨inRange, -⟩ := List.getElem?_eq_some_iff.1 removed
    have isLeft : index < (difference observed desired).additions.length :=
      Nat.lt_of_lt_of_le inRange enough
    have filled := fillSlots_getElem?_of_notMem found leaves (rank.symm ▸ isLeft)
    rw [rank] at filled
    exact ⟨_, List.getElem?_eq_getElem isLeft, filled.trans (List.getElem?_eq_getElem isLeft)⟩
  appends := drop_fillSlots enough

theorem compacts_slotMerge
    (tooFew : (difference observed desired).additions.length <
      (difference observed desired).removals.length) :
    (difference observed desired).Compacts (firstOccurrences observed)
      (slotMerge observed desired) where
  keeps slot item found stays := by
    have few : freedBefore desired (firstOccurrences observed) slot ≤ slot :=
      freedBefore_le desired _ slot
    rw [droppedBefore_eq]
    refine ⟨by omega, ?_⟩
    exact fillSlots_getElem?_movedUp found (mem_of_mem_unchanged stays)
  replaces index slot item replacement removed found added := by
    have rank := freedBefore_eq removed found
    have leaves : item ∉ desired := by
      simpa using (List.mem_filter.1 (List.mem_of_getElem? removed)).2
    obtain ⟨isLeft, -⟩ := List.getElem?_eq_some_iff.1 added
    have filled := fillSlots_getElem?_of_notMem found leaves (rank.symm ▸ isLeft)
    rw [rank] at filled
    exact filled.trans added
  drops := by
    have counted : (slotMerge observed desired).length +
        (difference observed desired).removals.length =
          (firstOccurrences observed).length +
            (difference observed desired).additions.length :=
      length_fillSlots desired _ _
    rw [Difference.dropped, List.length_drop]
    omega

theorem isDifferent_eq_false_iff :
    isDifferent observed desired = false ↔ ∀ item, item ∈ observed ↔ item ∈ desired := by
  have parts : isDifferent observed desired = false ↔
      (firstOccurrences observed).length = (firstOccurrences desired).length ∧
        ∀ item ∈ observed, item ∈ desired := by
    simp [isDifferent]
  rw [parts]
  constructor
  · rintro ⟨sameLength, included⟩ item
    have subset : firstOccurrences observed ⊆ firstOccurrences desired := by
      intro other member
      simp only [mem_firstOccurrences] at member ⊢
      exact included other member
    have permuted : (firstOccurrences observed).Perm (firstOccurrences desired) := by
      apply ((firstOccurrences_nodup observed).subperm subset).perm_of_length_le
      omega
    rw [← mem_firstOccurrences observed, permuted.mem_iff, mem_firstOccurrences]
  · intro same
    have permuted : (firstOccurrences observed).Perm (firstOccurrences desired) := by
      apply (List.perm_ext_iff_of_nodup (firstOccurrences_nodup observed)
        (firstOccurrences_nodup desired)).2
      simpa using same
    exact ⟨permuted.length_eq, fun item => (same item).1⟩

theorem isEmpty_difference_iff :
    (difference observed desired).isEmpty = true ↔ ∀ item, item ∈ observed ↔ item ∈ desired := by
  have parts : (difference observed desired).isEmpty = true ↔
      (∀ item ∈ desired, item ∈ observed) ∧ ∀ item ∈ observed, item ∈ desired := by
    simp [Difference.isEmpty, difference]
  rw [parts]
  constructor
  · rintro ⟨noneNew, noneLeaves⟩ item
    exact ⟨noneLeaves item, noneNew item⟩
  · intro same
    exact ⟨fun item => (same item).2, fun item => (same item).1⟩

/-- With repeats taken out, a merge changes a layout by the items that are added and removed: with
enough new items it takes every freed slot again, with too few it drops the last of them.  Nothing
is added or removed exactly if both lists have the same items, and then the layout stays. -/
theorem slotMerge_layout (observed desired : List α) :
    difference observed desired =
        ⟨(firstOccurrences observed).filter fun item => item ∈ firstOccurrences desired,
          (firstOccurrences desired).filter fun item => item ∉ firstOccurrences observed,
          (firstOccurrences observed).filter fun item => item ∉ firstOccurrences desired⟩ ∧
      ((difference observed desired).removals.length ≤
          (difference observed desired).additions.length →
        (difference observed desired).Refills (firstOccurrences observed)
          (slotMerge observed desired)) ∧
      ((difference observed desired).additions.length <
          (difference observed desired).removals.length →
        (difference observed desired).Compacts (firstOccurrences observed)
          (slotMerge observed desired)) ∧
      (isDifferent observed desired = false ↔ (difference observed desired).isEmpty = true) ∧
      (isDifferent observed desired = false →
        slotMerge observed desired = firstOccurrences observed) := by
  refine ⟨?_, refills_slotMerge, compacts_slotMerge, ?_, fun same => ?_⟩
  · simp [difference]
  · rw [isDifferent_eq_false_iff, isEmpty_difference_iff]
  · exact slotMerge_of_mem_iff (isDifferent_eq_false_iff.1 same)

example : slotMerge ["a", "b", "c"] ["x", "c", "y", "z", "x"] = ["x", "y", "c", "z"] := by decide

example : slotMerge ["a", "b", "a", "c", "d", "e"] ["e", "x", "c"] = ["x", "c", "e"] := by decide

end PoolPlanner
