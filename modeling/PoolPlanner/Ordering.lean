/-!
# Stable ordering

Lists are put in order by inserting their items one after the other, from the last to the first, so
items that compare alike keep the order in which they stand.
-/

namespace PoolPlanner

variable {α : Type}

/-- Put an item into an ordered list, before the first item that it is at most. -/
def insertOrdered (atMost : α → α → Bool) (item : α) : List α → List α
  | [] => [item]
  | head :: rest =>
      if atMost item head then item :: head :: rest
      else head :: insertOrdered atMost item rest

def inOrder (atMost : α → α → Bool) : List α → List α
  | [] => []
  | item :: rest => insertOrdered atMost item (inOrder atMost rest)

theorem insertOrdered_perm (atMost : α → α → Bool) (item : α) (items : List α) :
    (insertOrdered atMost item items).Perm (item :: items) := by
  induction items with
  | nil => exact .refl _
  | cons head rest ih =>
      rw [insertOrdered]
      split
      · exact .refl _
      · exact (ih.cons head).trans (.swap item head rest)

theorem inOrder_perm (atMost : α → α → Bool) (items : List α) :
    (inOrder atMost items).Perm items := by
  induction items with
  | nil => exact .refl _
  | cons item rest ih => exact (insertOrdered_perm atMost item _).trans (ih.cons item)

/-- Whether a text is another or comes before it. -/
def textAtMost (left right : String) : Bool :=
  left ≤ right

def inTextOrder (texts : List String) : List String :=
  inOrder textAtMost texts

/-- The items of a list without repeats, each where it stands first. -/
def firstOccurrences [DecidableEq α] : List α → List α
  | [] => []
  | item :: rest => item :: (firstOccurrences rest).filter fun other => other ≠ item

/-- Append to chosen items, one after the other, the candidates not chosen yet, until there are
`count` of them. -/
def fillUpTo [DecidableEq α] (count : Nat) (chosen : List α) : List α → List α
  | [] => chosen
  | candidate :: rest =>
      if count ≤ chosen.length then chosen
      else if candidate ∈ chosen then fillUpTo count chosen rest
      else fillUpTo count (chosen ++ [candidate]) rest

end PoolPlanner
