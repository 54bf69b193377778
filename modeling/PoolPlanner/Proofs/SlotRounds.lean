import PoolPlanner.Proofs.SlotMerge

/-!
# Slot merges round after round

Each round merges its desired items into the layout that the round before it left.  Once a layout
holds the desired items it stays, and items that are desired in every round never overtake each
other, whatever other items leave, come back or take their slots.
-/

namespace PoolPlanner

variable {α : Type} [DecidableEq α]

theorem idxOf_lt_of_pair_sublist {items : List α} (distinct : items.Nodup) {item other : α}
    (included : [item, other].Sublist items) : items.idxOf item < items.idxOf other := by
  have ordered : items.Pairwise fun first second => items.idxOf first < items.idxOf second := by
    refine List.pairwise_iff_getElem.2 fun first second firstLt secondLt before => ?_
    rwa [distinct.idxOf_getElem, distinct.idxOf_getElem]
  exact List.pairwise_iff_forall_sublist.1 ordered included

theorem pair_sublist_firstOccurrences {items : List α} {item other : α} (member : other ∈ items)
    (before : items.idxOf item < items.idxOf other) :
    [item, other].Sublist (firstOccurrences items) := by
  induction items with
  | nil => simp at member
  | cons head rest ih =>
      have otherNe : other ≠ head := by
        rintro rfl
        simp at before
      have otherInRest : other ∈ rest := (List.mem_cons.1 member).resolve_left otherNe
      rw [firstOccurrences]
      by_cases isHead : item = head
      · subst isHead
        apply List.Sublist.cons_cons
        simpa using And.intro otherInRest otherNe
      · rw [List.idxOf_cons_ne rest (Ne.symm isHead), List.idxOf_cons_ne rest (Ne.symm otherNe)]
          at before
        have inRest := ih otherInRest (Nat.lt_of_succ_lt_succ before)
        have bothKept : [item, other].filter (fun entry => entry ≠ head) = [item, other] := by
          simp [isHead, otherNe]
        have kept := inRest.filter fun entry => entry ≠ head
        rw [bothKept] at kept
        exact kept.cons head

section Step

variable {observed desired : List α} {item other : α}

theorem idxOf_lt_slotMerge (otherMem : other ∈ observed) (stays : item ∈ desired)
    (otherStays : other ∈ desired) (before : observed.idxOf item < observed.idxOf other) :
    (slotMerge observed desired).idxOf item < (slotMerge observed desired).idxOf other := by
  have stay : [item, other] ⊆ desired := by simp [stays, otherStays]
  apply idxOf_lt_of_pair_sublist (slotMerge_nodup observed desired)
  exact sublist_slotMerge_of_firstOccurrences (pair_sublist_firstOccurrences otherMem before) stay

theorem idxOf_lt_slotMerge_iff (itemMem : item ∈ observed) (otherMem : other ∈ observed)
    (stays : item ∈ desired) (otherStays : other ∈ desired) :
    (slotMerge observed desired).idxOf item < (slotMerge observed desired).idxOf other ↔
      observed.idxOf item < observed.idxOf other := by
  constructor
  · intro after
    rcases Nat.lt_trichotomy (observed.idxOf item) (observed.idxOf other) with
      before | same | behind
    · exact before
    · obtain rfl : item = other := (List.idxOf_inj itemMem).1 same
      exact absurd after (Nat.lt_irrefl _)
    · have swapped := idxOf_lt_slotMerge itemMem otherStays stays behind
      omega
  · exact idxOf_lt_slotMerge otherMem stays otherStays

end Step

section Rounds

/-- The layout after some rounds: what is observed at first, with one desired list after the other
merged into it. -/
def layoutAt (start : List α) (rounds : List (List α)) (count : Nat) : List α :=
  (rounds.take count).foldl slotMerge start

theorem layoutAt_of_le (start : List α) (rounds : List (List α)) {first later : Nat}
    (inOrder : first ≤ later) :
    layoutAt start rounds later =
      ((rounds.take later).drop first).foldl slotMerge (layoutAt start rounds first) := by
  have upToFirst : (rounds.take later).take first = rounds.take first := by
    rw [List.take_take, Nat.min_eq_left inOrder]
  have parts := List.take_append_drop first (rounds.take later)
  rw [layoutAt, layoutAt, ← List.foldl_append, ← upToFirst, parts]

theorem idxOf_lt_foldl_slotMerge_iff {rounds : List (List α)} {observed : List α}
    {item other : α} (itemMem : item ∈ observed) (otherMem : other ∈ observed)
    (stay : ∀ desired ∈ rounds, item ∈ desired ∧ other ∈ desired) :
    item ∈ rounds.foldl slotMerge observed ∧ other ∈ rounds.foldl slotMerge observed ∧
      ((rounds.foldl slotMerge observed).idxOf item <
          (rounds.foldl slotMerge observed).idxOf other ↔
        observed.idxOf item < observed.idxOf other) := by
  induction rounds generalizing observed with
  | nil => exact ⟨itemMem, otherMem, Iff.rfl⟩
  | cons desired rest ih =>
      obtain ⟨⟨stays, otherStays⟩, stayOn⟩ := List.forall_mem_cons.1 stay
      have merged : item ∈ slotMerge observed desired := (mem_slotMerge _ _ _).2 stays
      have otherMerged : other ∈ slotMerge observed desired := (mem_slotMerge _ _ _).2 otherStays
      obtain ⟨itemLast, otherLast, sameOrder⟩ := ih merged otherMerged stayOn
      refine ⟨itemLast, otherLast, sameOrder.trans ?_⟩
      exact idxOf_lt_slotMerge_iff itemMem otherMem stays otherStays

/-- A merge holds each desired item once, and it stays as it is under every list of the same items.
Over rounds, two items of a layout that all later rounds desire keep their order in all later
layouts; in a layout with repeats, which only the first one can be, an item counts where it stands
first. -/
theorem slotMerge_settles_inOrder :
    (∀ observed desired : List α, (slotMerge observed desired).Nodup ∧
      (∀ item, item ∈ slotMerge observed desired ↔ item ∈ desired) ∧
      ∀ again : List α, (∀ item, item ∈ again ↔ item ∈ desired) →
        slotMerge (slotMerge observed desired) again = slotMerge observed desired) ∧
    ∀ (start : List α) (rounds : List (List α)) (first later : Nat) (item other : α),
      first ≤ later → item ∈ layoutAt start rounds first → other ∈ layoutAt start rounds first →
      (∀ desired ∈ (rounds.take later).drop first, item ∈ desired ∧ other ∈ desired) →
      item ∈ layoutAt start rounds later ∧ other ∈ layoutAt start rounds later ∧
        ((layoutAt start rounds later).idxOf item < (layoutAt start rounds later).idxOf other ↔
          (layoutAt start rounds first).idxOf item <
            (layoutAt start rounds first).idxOf other) := by
  refine ⟨fun observed desired => ⟨slotMerge_nodup observed desired, mem_slotMerge observed desired,
    fun again same => ?_⟩, ?_⟩
  · have sameAgain : ∀ item, item ∈ slotMerge observed desired ↔ item ∈ again := fun item =>
      (mem_slotMerge observed desired item).trans (same item).symm
    rw [slotMerge_of_mem_iff sameAgain, firstOccurrences_of_nodup (slotMerge_nodup _ _)]
  · intro start rounds first later item other inOrder itemMem otherMem stay
    rw [layoutAt_of_le start rounds inOrder]
    exact idxOf_lt_foldl_slotMerge_iff itemMem otherMem stay

/-- In the first round `b` leaves and `x` takes its slot, then `b` comes back, and `x` leaves. -/
def comingAndGoing : List (List String) :=
  [["c", "a", "x"], ["b", "x", "c", "a"], ["c", "b", "a"]]

theorem comingAndGoing_inOrder :
    [0, 1, 2, 3].map (layoutAt ["b", "a", "b", "c", "d"] comingAndGoing) =
        [["b", "a", "b", "c", "d"], ["x", "a", "c"], ["x", "a", "c", "b"], ["a", "c", "b"]] ∧
      (layoutAt ["b", "a", "b", "c", "d"] comingAndGoing 3).idxOf "a" <
        (layoutAt ["b", "a", "b", "c", "d"] comingAndGoing 3).idxOf "c" ∧
      slotMerge (slotMerge ["b", "a", "b", "c", "d"] ["c", "a", "x"]) ["a", "x", "c", "x"] =
        slotMerge ["b", "a", "b", "c", "d"] ["c", "a", "x"] := by
  obtain ⟨settles, ordered⟩ := slotMerge_settles_inOrder (α := String)
  obtain ⟨-, -, sameOrder⟩ := ordered ["b", "a", "b", "c", "d"] comingAndGoing 0 3 "a" "c"
    (by decide) (by decide) (by decide) (by decide)
  obtain ⟨-, -, stays⟩ := settles ["b", "a", "b", "c", "d"] ["c", "a", "x"]
  refine ⟨by decide, sameOrder.2 (by decide), stays _ fun item => ?_⟩
  simp only [List.mem_cons, List.not_mem_nil, or_false]
  grind

end Rounds

end PoolPlanner
