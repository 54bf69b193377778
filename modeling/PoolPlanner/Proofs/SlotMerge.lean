import PoolPlanner.Planning.SlotMerge
import PoolPlanner.Proofs.Ordering

/-!
# The content and the places of a slot merge

Refilling slots only permutes: a merge holds exactly the desired items, each once.  An item that
stays keeps its place as long as every slot in front of it is refilled, and otherwise moves up by
the slots that are not.
-/

namespace PoolPlanner

variable {α : Type} [DecidableEq α]

/-- The refilled slots hold the observed items that stay and every new one. -/
theorem fillSlots_perm (desired observed fresh : List α) :
    (fillSlots desired observed fresh).Perm
      ((observed.filter fun item => item ∈ desired) ++ fresh) := by
  induction observed generalizing fresh with
  | nil => simp [fillSlots]
  | cons item rest ih =>
      unfold fillSlots
      split
      next stays =>
        rw [List.filter_cons_of_pos (by simpa using stays)]
        exact (ih fresh).cons item
      next leaves =>
        rw [List.filter_cons_of_neg (by simpa using leaves)]
        cases fresh with
        | nil => exact ih []
        | cons replacement fresh =>
            exact ((ih fresh).cons replacement).trans List.perm_middle.symm

theorem slotMerge_perm (observed desired : List α) :
    (slotMerge observed desired).Perm (firstOccurrences desired) := by
  refine (fillSlots_perm desired _ _).trans ?_
  have stayingDistinct :
      ((firstOccurrences observed).filter fun item => item ∈ desired).Nodup :=
    (firstOccurrences_nodup observed).filter _
  have addedDistinct : (difference observed desired).additions.Nodup :=
    (firstOccurrences_nodup desired).filter _
  refine (List.perm_ext_iff_of_nodup ?_ (firstOccurrences_nodup desired)).2 fun item => ?_
  · refine List.nodup_append'.2 ⟨stayingDistinct, addedDistinct, fun item stays added => ?_⟩
    have itemObserved : item ∈ observed := by
      simpa using (List.mem_filter.1 stays).1
    have itemNew : item ∉ observed := by
      simpa using (List.mem_filter.1 added).2
    exact itemNew itemObserved
  · by_cases known : item ∈ observed <;> simp [difference, known]

@[simp]
theorem mem_slotMerge (observed desired : List α) (item : α) :
    item ∈ slotMerge observed desired ↔ item ∈ desired := by
  rw [(slotMerge_perm observed desired).mem_iff, mem_firstOccurrences]

theorem slotMerge_nodup (observed desired : List α) : (slotMerge observed desired).Nodup :=
  (slotMerge_perm observed desired).nodup_iff.2 (firstOccurrences_nodup desired)

theorem slotMerge_length {desired : List α} (observed : List α) (distinct : desired.Nodup) :
    (slotMerge observed desired).length = desired.length := by
  rw [(slotMerge_perm observed desired).length_eq, firstOccurrences_of_nodup distinct]

/-- Where nothing was observed, the desired items stand as they are desired. -/
theorem slotMerge_nil {desired : List α} (distinct : desired.Nodup) :
    slotMerge [] desired = desired := by
  have fresh : slotMerge [] desired = firstOccurrences desired := by
    simp [slotMerge, difference, firstOccurrences, fillSlots]
  rw [fresh, firstOccurrences_of_nodup distinct]

theorem fillSlots_cons_of_mem {desired : List α} {item : α} (stays : item ∈ desired)
    (rest fresh : List α) :
    fillSlots desired (item :: rest) fresh = item :: fillSlots desired rest fresh := by
  rw [fillSlots.eq_def]
  exact if_pos stays

theorem fillSlots_cons_of_notMem {desired : List α} {item : α} (leaves : item ∉ desired)
    (replacement : α) (rest fresh : List α) :
    fillSlots desired (item :: rest) (replacement :: fresh) =
      replacement :: fillSlots desired rest fresh := by
  rw [fillSlots.eq_def]
  exact if_neg leaves

theorem fillSlots_cons_nil_of_notMem {desired : List α} {item : α} (leaves : item ∉ desired)
    (rest : List α) : fillSlots desired (item :: rest) [] = fillSlots desired rest [] := by
  rw [fillSlots.eq_def]
  exact if_neg leaves

theorem fillSlots_eq_append {desired observed : List α} (stay : observed ⊆ desired)
    (fresh : List α) : fillSlots desired observed fresh = observed ++ fresh := by
  induction observed with
  | nil => rfl
  | cons item rest ih =>
      obtain ⟨itemStays, restStay⟩ := List.cons_subset.1 stay
      rw [fillSlots_cons_of_mem itemStays, ih restStay, List.cons_append]

/-- Items that stay keep their order, whichever slots are refilled or dropped. -/
theorem filter_sublist_fillSlots (desired observed fresh : List α) :
    (observed.filter fun item => item ∈ desired).Sublist (fillSlots desired observed fresh) := by
  induction observed generalizing fresh with
  | nil => exact List.nil_sublist fresh
  | cons item rest ih =>
      by_cases stays : item ∈ desired
      · rw [List.filter_cons_of_pos (by simpa using stays), fillSlots_cons_of_mem stays]
        exact (ih fresh).cons_cons item
      · rw [List.filter_cons_of_neg (by simpa using stays)]
        cases fresh with
        | nil =>
            rw [fillSlots_cons_nil_of_notMem stays]
            exact ih []
        | cons replacement fresh =>
            rw [fillSlots_cons_of_notMem stays]
            exact (ih fresh).cons replacement

/-- The old items that stay and the new items each keep their order. -/
theorem filter_fillSlots {desired observed fresh : List α} {isOld : α → Bool}
    (old : ∀ item ∈ observed, isOld item = true) (new : ∀ item ∈ fresh, isOld item = false) :
    (fillSlots desired observed fresh).filter isOld =
        (observed.filter fun item => item ∈ desired) ∧
      ((fillSlots desired observed fresh).filter fun item => !isOld item) = fresh := by
  induction observed generalizing fresh with
  | nil =>
      constructor
      · exact List.filter_eq_nil_iff.2 fun item member => by simp [new item member]
      · exact List.filter_eq_self.2 fun item member => by simp [new item member]
  | cons item rest ih =>
      obtain ⟨itemOld, restOld⟩ := List.forall_mem_cons.1 old
      by_cases stays : item ∈ desired
      · obtain ⟨oldKept, newKept⟩ := ih restOld new
        rw [fillSlots_cons_of_mem stays, List.filter_cons_of_pos itemOld, oldKept,
          List.filter_cons_of_pos (a := item) (by simpa using stays)]
        exact ⟨rfl, (List.filter_cons_of_neg (by simp [itemOld])).trans newKept⟩
      · rw [List.filter_cons_of_neg (a := item) (by simpa using stays)]
        cases fresh with
        | nil =>
            rw [fillSlots_cons_nil_of_notMem stays]
            exact ih restOld new
        | cons replacement fresh =>
            obtain ⟨replacementNew, freshNew⟩ := List.forall_mem_cons.1 new
            obtain ⟨oldKept, newKept⟩ := ih restOld freshNew
            rw [fillSlots_cons_of_notMem stays]
            constructor
            · exact (List.filter_cons_of_neg (by simp [replacementNew])).trans oldKept
            · rw [List.filter_cons_of_pos (by simp [replacementNew]), newKept]

theorem filter_slotMerge {observed desired : List α} (observedDistinct : observed.Nodup)
    (desiredDistinct : desired.Nodup) :
    ((slotMerge observed desired).filter fun item => item ∈ observed) =
        (observed.filter fun item => item ∈ desired) ∧
      ((slotMerge observed desired).filter fun item => item ∉ observed) =
        desired.filter fun item => item ∉ observed := by
  have old : ∀ item ∈ observed, decide (item ∈ observed) = true := by simp
  have new : ∀ item ∈ desired.filter (fun item => item ∉ observed),
      decide (item ∈ observed) = false := by simp
  rw [slotMerge, difference, firstOccurrences_of_nodup observedDistinct,
    firstOccurrences_of_nodup desiredDistinct]
  simpa only [decide_not] using filter_fillSlots old new

theorem sublist_slotMerge_of_firstOccurrences {kept observed desired : List α}
    (included : kept.Sublist (firstOccurrences observed)) (stay : kept ⊆ desired) :
    kept.Sublist (slotMerge observed desired) := by
  have keptStays : (kept.filter fun item => item ∈ desired) = kept :=
    List.filter_eq_self.2 fun item member => by simpa using stay member
  have staying := included.filter fun item => item ∈ desired
  rw [keptStays] at staying
  exact staying.trans (filter_sublist_fillSlots desired _ _)

theorem sublist_slotMerge {kept observed desired : List α} (observedDistinct : observed.Nodup)
    (included : kept.Sublist observed) (stay : kept ⊆ desired) :
    kept.Sublist (slotMerge observed desired) := by
  apply sublist_slotMerge_of_firstOccurrences _ stay
  rwa [firstOccurrences_of_nodup observedDistinct]

section Slots

/-- How many slots are freed in front of a slot. -/
def freedBefore (desired observed : List α) (slot : Nat) : Nat :=
  ((observed.take slot).filter fun item => item ∉ desired).length

variable {desired observed fresh : List α} {slot : Nat} {item : α}

theorem freedBefore_succ_of_mem {head : α} (stays : head ∈ desired) (rest : List α) (slot : Nat) :
    freedBefore desired (head :: rest) (slot + 1) = freedBefore desired rest slot := by
  rw [freedBefore, List.take_succ_cons, List.filter_cons_of_neg (by simpa using stays), freedBefore]

theorem freedBefore_succ_of_notMem {head : α} (leaves : head ∉ desired) (rest : List α)
    (slot : Nat) :
    freedBefore desired (head :: rest) (slot + 1) = freedBefore desired rest slot + 1 := by
  rw [freedBefore, List.take_succ_cons, List.filter_cons_of_pos (by simpa using leaves),
    List.length_cons, freedBefore]

theorem freedBefore_le (desired observed : List α) (slot : Nat) :
    freedBefore desired observed slot ≤ slot := by
  have counted : freedBefore desired observed slot ≤ (observed.take slot).length :=
    List.length_filter_le _ _
  have taken : (observed.take slot).length ≤ slot := List.length_take_le slot observed
  omega

theorem freedBefore_le_length (desired observed : List α) (slot : Nat) :
    freedBefore desired observed slot ≤
      (observed.filter fun item => item ∉ desired).length :=
  ((List.take_sublist slot observed).filter _).length_le

/-- An item that stays moves up by the freed slots in front of it that no new item is left for. -/
theorem fillSlots_getElem?_movedUp (found : observed[slot]? = some item)
    (stays : item ∈ desired) :
    (fillSlots desired observed fresh)[slot - (freedBefore desired observed slot -
      fresh.length)]? = some item := by
  induction observed generalizing fresh slot with
  | nil => simp at found
  | cons head rest ih =>
      cases slot with
      | zero =>
          obtain rfl : head = item := Option.some.inj found
          rw [fillSlots_cons_of_mem stays, Nat.zero_sub, List.getElem?_cons_zero]
      | succ slot =>
          have foundInRest : rest[slot]? = some item := found
          have few : freedBefore desired rest slot ≤ slot := freedBefore_le desired rest slot
          by_cases headStays : head ∈ desired
          · have place : slot + 1 - (freedBefore desired rest slot - fresh.length) =
                slot - (freedBefore desired rest slot - fresh.length) + 1 := by omega
            rw [fillSlots_cons_of_mem headStays, freedBefore_succ_of_mem headStays, place,
              List.getElem?_cons_succ]
            exact ih foundInRest
          · rw [freedBefore_succ_of_notMem headStays]
            -- A freed slot uses up a new item; once there is none, what follows moves up.
            cases fresh with
            | nil =>
                have place : slot + 1 - (freedBefore desired rest slot + 1 - 0) =
                    slot - (freedBefore desired rest slot - 0) := by omega
                rw [fillSlots_cons_nil_of_notMem headStays, List.length_nil, place]
                exact ih foundInRest
            | cons replacement fresh =>
                have place :
                    slot + 1 - (freedBefore desired rest slot + 1 - (fresh.length + 1)) =
                      slot - (freedBefore desired rest slot - fresh.length) + 1 := by omega
                rw [fillSlots_cons_of_notMem headStays, List.length_cons, place,
                  List.getElem?_cons_succ]
                exact ih foundInRest

/-- With a new item for every slot that is freed, the items that stay do not move. -/
theorem fillSlots_getElem?_of_mem
    (enough : (observed.filter fun other => other ∉ desired).length ≤ fresh.length)
    (found : observed[slot]? = some item) (stays : item ∈ desired) :
    (fillSlots desired observed fresh)[slot]? = some item := by
  have freed : freedBefore desired observed slot ≤
      (observed.filter fun other => other ∉ desired).length :=
    freedBefore_le_length desired observed slot
  have place : slot - (freedBefore desired observed slot - fresh.length) = slot := by omega
  have moved : (fillSlots desired observed fresh)[slot - (freedBefore desired observed slot -
      fresh.length)]? = some item := fillSlots_getElem?_movedUp found stays
  rwa [place] at moved

/-- A freed slot takes the new item whose turn it is, and no slot in front of it is dropped. -/
theorem fillSlots_getElem?_of_notMem (found : observed[slot]? = some item)
    (leaves : item ∉ desired) (isLeft : freedBefore desired observed slot < fresh.length) :
    (fillSlots desired observed fresh)[slot]? =
      fresh[freedBefore desired observed slot]? := by
  induction observed generalizing fresh slot with
  | nil => simp at found
  | cons head rest ih =>
      cases slot with
      | zero =>
          obtain rfl : head = item := Option.some.inj found
          cases fresh with
          | nil => simp at isLeft
          | cons replacement fresh =>
              rw [fillSlots_cons_of_notMem leaves]
              rfl
      | succ slot =>
          have foundInRest : rest[slot]? = some item := found
          by_cases headStays : head ∈ desired
          · rw [freedBefore_succ_of_mem headStays] at isLeft ⊢
            rw [fillSlots_cons_of_mem headStays, List.getElem?_cons_succ]
            exact ih foundInRest isLeft
          · rw [freedBefore_succ_of_notMem headStays] at isLeft ⊢
            cases fresh with
            | nil => simp at isLeft
            | cons replacement fresh =>
                rw [fillSlots_cons_of_notMem headStays, List.getElem?_cons_succ,
                  List.getElem?_cons_succ]
                exact ih foundInRest (Nat.lt_of_succ_lt_succ isLeft)

/-- Behind the observed slots stand the new items for which no slot is freed. -/
theorem drop_fillSlots
    (enough : (observed.filter fun item => item ∉ desired).length ≤ fresh.length) :
    (fillSlots desired observed fresh).drop observed.length =
      fresh.drop (observed.filter fun item => item ∉ desired).length := by
  induction observed generalizing fresh with
  | nil => rfl
  | cons head rest ih =>
      by_cases headStays : head ∈ desired
      · rw [List.filter_cons_of_neg (by simpa using headStays)] at enough ⊢
        rw [fillSlots_cons_of_mem headStays, List.length_cons, List.drop_succ_cons]
        exact ih enough
      · rw [List.filter_cons_of_pos (by simpa using headStays), List.length_cons] at enough ⊢
        cases fresh with
        | nil => simp at enough
        | cons replacement fresh =>
            rw [fillSlots_cons_of_notMem headStays, List.length_cons, List.drop_succ_cons,
              List.drop_succ_cons]
            exact ih (Nat.le_of_succ_le_succ enough)

theorem length_fillSlots (desired observed fresh : List α) :
    (fillSlots desired observed fresh).length +
        (observed.filter fun item => item ∉ desired).length =
      observed.length + fresh.length := by
  have counted := (fillSlots_perm desired observed fresh).length_eq
  have parts := List.length_eq_length_filter_add (l := observed) fun item => item ∈ desired
  rw [List.length_append] at counted
  simp only [decide_not]
  omega

end Slots

/-- Of two lists without repeats, the longer one has the more items that the other one lacks. -/
theorem length_filter_notMem_le {first second : List α} (firstDistinct : first.Nodup)
    (secondDistinct : second.Nodup) (shorter : first.length ≤ second.length) :
    (first.filter fun item => item ∉ second).length ≤
      (second.filter fun item => item ∉ first).length := by
  have common : (first.filter fun item => item ∈ second).Perm
      (second.filter fun item => item ∈ first) := by
    refine (List.perm_ext_iff_of_nodup (firstDistinct.filter _) (secondDistinct.filter _)).2 ?_
    intro item
    simp [and_comm]
  have firstParts := List.length_eq_length_filter_add (l := first) fun item => item ∈ second
  have secondParts := List.length_eq_length_filter_add (l := second) fun item => item ∈ first
  have sameCount := common.length_eq
  simp only [decide_not]
  omega

/-- A merge that does not shrink a layout leaves every item that stays in its place. -/
theorem slotMerge_getElem?_of_mem {observed desired : List α} (observedDistinct : observed.Nodup)
    (desiredDistinct : desired.Nodup) (room : observed.length ≤ desired.length) {slot : Nat}
    {item : α} (found : observed[slot]? = some item) (stays : item ∈ desired) :
    (slotMerge observed desired)[slot]? = some item := by
  have enough : (observed.filter fun other => other ∉ desired).length ≤
      (difference observed desired).additions.length := by
    simp only [difference, firstOccurrences_of_nodup desiredDistinct]
    exact length_filter_notMem_le observedDistinct desiredDistinct room
  rw [slotMerge, firstOccurrences_of_nodup observedDistinct]
  exact fillSlots_getElem?_of_mem enough found stays

/-- A layout of the desired items stays as it is, in whatever order they are desired. -/
theorem slotMerge_of_mem_iff {observed desired : List α}
    (same : ∀ item, item ∈ observed ↔ item ∈ desired) :
    slotMerge observed desired = firstOccurrences observed := by
  have stay : firstOccurrences observed ⊆ desired := fun item member =>
    (same item).1 ((mem_firstOccurrences observed item).1 member)
  have noneNew : (difference observed desired).additions = [] := by
    refine List.filter_eq_nil_iff.2 fun item member => ?_
    simpa using (same item).2 ((mem_firstOccurrences desired item).1 member)
  rw [slotMerge, noneNew, fillSlots_eq_append stay, List.append_nil]

theorem slotMerge_self {items : List α} (distinct : items.Nodup) :
    slotMerge items items = items := by
  rw [slotMerge_of_mem_iff fun _ => Iff.rfl, firstOccurrences_of_nodup distinct]

end PoolPlanner
