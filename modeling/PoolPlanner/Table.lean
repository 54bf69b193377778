/-!
# Tables keyed by text

A finite map from texts to values, kept as its entries in ascending key order.  The order is part
of the type, so two tables that answer every look-up alike are equal.
-/

namespace PoolPlanner

/-- Put a value under a key into entries in ascending key order. -/
def insertEntry {α : Type} (key : String) (value : α) :
    List (String × α) → List (String × α)
  | [] => [(key, value)]
  | entry :: rest =>
      if key < entry.1 then (key, value) :: entry :: rest
      else if key = entry.1 then (key, value) :: rest
      else entry :: insertEntry key value rest

/-- Entries in strictly ascending key order. -/
def Ascending {α : Type} (entries : List (String × α)) : Prop :=
  entries.Pairwise fun earlier later => earlier.1 < later.1

theorem mem_insertEntry {α : Type} {key : String} {value : α}
    {entries : List (String × α)} {entry : String × α}
    (member : entry ∈ insertEntry key value entries) :
    entry = (key, value) ∨ entry ∈ entries := by
  induction entries with
  | nil => simpa [insertEntry] using member
  | cons head rest ih =>
      rw [insertEntry] at member
      split at member
      · simpa using member
      · split at member
        · rcases List.mem_cons.1 member with found | found
          · exact .inl found
          · exact .inr (List.mem_cons_of_mem head found)
        · rcases List.mem_cons.1 member with found | found
          · exact .inr (found ▸ List.mem_cons_self)
          · exact (ih found).imp_right (List.mem_cons_of_mem head)

theorem Ascending.insertEntry {α : Type} {entries : List (String × α)}
    (ascending : Ascending entries) (key : String) (value : α) :
    Ascending (insertEntry key value entries) := by
  induction entries with
  | nil => simp [PoolPlanner.insertEntry, Ascending]
  | cons head rest ih =>
      have parts := List.pairwise_cons.1 ascending
      rw [PoolPlanner.insertEntry]
      split
      next before =>
        refine List.pairwise_cons.2 ⟨fun entry member => ?_, ascending⟩
        rcases List.mem_cons.1 member with found | found
        · exact found ▸ before
        · exact String.lt_trans before (parts.1 entry found)
      next notBefore =>
        split
        next same =>
          exact List.pairwise_cons.2
            ⟨fun entry member => same ▸ parts.1 entry member, parts.2⟩
        next different =>
          refine List.pairwise_cons.2 ⟨fun entry member => ?_, ih parts.2⟩
          rcases mem_insertEntry member with found | found
          · have := String.le_antisymm (String.not_lt.1 notBefore)
            exact found ▸ Std.not_le.1 fun below => different (this below).symm
          · exact parts.1 entry found

theorem lookup_entry_cons {α : Type} (key : String) (entry : String × α)
    (rest : List (String × α)) :
    (entry :: rest).lookup key = if key = entry.1 then some entry.2 else rest.lookup key := by
  rw [List.lookup_cons]
  by_cases same : key = entry.1
  · simp [same]
  · simp [same, beq_false_of_ne same]

theorem lookup_insertEntry {α : Type} (key other : String) (value : α)
    (entries : List (String × α)) :
    (insertEntry key value entries).lookup other =
      if other = key then some value else entries.lookup other := by
  induction entries with
  | nil => simp [insertEntry, lookup_entry_cons]
  | cons head rest ih =>
      rw [insertEntry]
      split
      · simp [lookup_entry_cons]
      · split
        next same => by_cases atHead : other = head.1 <;> simp [lookup_entry_cons, same, atHead]
        next different =>
          simp only [lookup_entry_cons, ih]
          by_cases atHead : other = head.1
          · simp [atHead, Ne.symm different]
          · simp [atHead]

/-- A finite map from texts to values. -/
structure Table (α : Type) where
  /-- The entries in ascending key order. -/
  entries : List (String × α)
  ascending : Ascending entries
deriving DecidableEq

namespace Table

variable {α : Type}

def empty : Table α :=
  ⟨[], .nil⟩

instance : Inhabited (Table α) :=
  ⟨empty⟩

def find? (table : Table α) (key : String) : Option α :=
  table.entries.lookup key

def isEmpty (table : Table α) : Bool :=
  table.entries.isEmpty

/-- Put a value under a key, in place of the one already there. -/
def insert (table : Table α) (key : String) (value : α) : Table α :=
  ⟨insertEntry key value table.entries, table.ascending.insertEntry key value⟩

def erase (table : Table α) (key : String) : Table α :=
  ⟨table.entries.filter fun entry => entry.1 ≠ key, table.ascending.filter _⟩

@[simp]
theorem find?_empty (key : String) : (empty : Table α).find? key = none :=
  rfl

/-- A value is found under its key, and the other keys are as before. -/
@[simp]
theorem find?_insert (table : Table α) (key other : String) (value : α) :
    (table.insert key value).find? other =
      if other = key then some value else table.find? other :=
  lookup_insertEntry key other value table.entries

/-- The table of some entries; of two under one key the later stays. -/
def ofList (entries : List (String × α)) : Table α :=
  entries.foldl (fun table entry => table.insert entry.1 entry.2) empty

/-- The values in key order. -/
def values (table : Table α) : List α :=
  table.entries.map Prod.snd

/-- The keys in ascending order. -/
def keys (table : Table α) : List String :=
  table.entries.map Prod.fst

end Table
end PoolPlanner
