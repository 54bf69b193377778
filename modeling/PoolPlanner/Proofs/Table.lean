import PoolPlanner.Proofs.Ordering
import PoolPlanner.Table

/-!
# Tables by their look-ups

A table is determined by what it answers to look-ups, and its keys stand in strictly ascending
order.  A table that is built from entries answers with the last of those under a key.
-/

namespace PoolPlanner

variable {α : Type}

theorem Ascending.nodup_keys {entries : List (String × α)} (ascending : Ascending entries) :
    (entries.map Prod.fst).Nodup := by
  refine List.pairwise_map.2 (ascending.imp fun {earlier later} before same => ?_)
  exact String.lt_irrefl _ (same ▸ before)

/-- With one entry per key, look-up finds every entry. -/
theorem lookup_eq_some_iff_mem {entries : List (String × α)}
    (distinct : (entries.map Prod.fst).Nodup) {key : String} {value : α} :
    entries.lookup key = some value ↔ (key, value) ∈ entries := by
  induction entries with
  | nil => simp
  | cons entry rest ih =>
      obtain ⟨headNew, restDistinct⟩ := List.nodup_cons.1 distinct
      rw [lookup_entry_cons]
      split
      next same =>
        constructor
        · intro found
          have headValue : entry.2 = value := by simpa using found
          exact List.mem_cons.2 (.inl (Prod.ext same headValue.symm))
        · intro member
          rcases List.mem_cons.1 member with atHead | inRest
          · rw [← atHead]
          · exact absurd (List.mem_map_of_mem (f := Prod.fst) inRest) (same ▸ headNew)
      next different =>
        rw [ih restDistinct, List.mem_cons]
        have notHead : (key, value) ≠ entry := fun equal => different (equal ▸ rfl)
        simp [notHead]

namespace Table

@[simp]
theorem keys_empty : (empty : Table α).keys = [] :=
  rfl

theorem keys_nodup (table : Table α) : table.keys.Nodup :=
  table.ascending.nodup_keys

theorem find?_eq_some_iff {table : Table α} {key : String} {value : α} :
    table.find? key = some value ↔ (key, value) ∈ table.entries :=
  lookup_eq_some_iff_mem table.ascending.nodup_keys

theorem mem_keys_iff {table : Table α} {key : String} :
    key ∈ table.keys ↔ ∃ value, table.find? key = some value := by
  simp [keys, find?_eq_some_iff]

theorem find?_eq_none_iff {table : Table α} {key : String} :
    table.find? key = none ↔ key ∉ table.keys := by
  rw [mem_keys_iff, Option.eq_none_iff_forall_ne_some]
  simp

@[simp]
theorem find?_erase (table : Table α) (key other : String) :
    (table.erase key).find? other = if other = key then none else table.find? other := by
  refine Option.ext fun value => ?_
  by_cases same : other = key <;> simp [find?_eq_some_iff, erase, same]

/-- Tables that answer every look-up alike are equal. -/
theorem ext_find? {first second : Table α}
    (same : ∀ key, first.find? key = second.find? key) : first = second := by
  obtain ⟨firstEntries, firstAscending⟩ := first
  obtain ⟨secondEntries, secondAscending⟩ := second
  have firstDistinct : firstEntries.Nodup := firstAscending.nodup_keys.of_map _
  have secondDistinct : secondEntries.Nodup := secondAscending.nodup_keys.of_map _
  have permuted : firstEntries.Perm secondEntries := by
    refine (List.perm_ext_iff_of_nodup firstDistinct secondDistinct).2 fun entry => ?_
    rw [← lookup_eq_some_iff_mem firstAscending.nodup_keys,
      ← lookup_eq_some_iff_mem secondAscending.nodup_keys]
    exact iff_of_eq (congrArg (· = some entry.2) (same entry.1))
  have entriesEq : firstEntries = secondEntries :=
    permuted.eq_of_pairwise
      (fun first second _ _ before after =>
        absurd (String.lt_trans before after) (String.lt_irrefl _))
      firstAscending secondAscending
  subst entriesEq
  rfl

/-- What one table has of another one that it includes. -/
theorem filter_entries_of_included {first second : Table α}
    (included : ∀ key value, first.find? key = some value → second.find? key = some value) :
    (second.entries.filter fun entry => (first.find? entry.1).isSome) = first.entries := by
  let common : Table α := ⟨_, second.ascending.filter fun entry => (first.find? entry.1).isSome⟩
  have same : common = first := by
    apply ext_find?
    intro key
    apply Option.ext
    intro value
    rw [find?_eq_some_iff, List.mem_filter, ← find?_eq_some_iff]
    constructor
    · rintro ⟨inSecond, isKey⟩
      obtain ⟨other, found⟩ := Option.isSome_iff_exists.1 isKey
      have sameValue := (included key other found).symm.trans inSecond
      rw [found, sameValue]
    · intro found
      exact ⟨included key value found, by simp [found]⟩
  exact congrArg entries same

theorem find?_foldl_insert (entries : List (String × α)) (table : Table α) (key : String) :
    (entries.foldl (fun table entry => table.insert entry.1 entry.2) table).find? key =
      (entries.reverse.lookup key).or (table.find? key) := by
  induction entries generalizing table with
  | nil => simp
  | cons entry rest ih =>
      rw [List.foldl_cons, ih, find?_insert, List.reverse_cons, List.lookup_append,
        lookup_entry_cons, Option.or_assoc]
      split <;> simp

/-- A table built from entries answers with the last entry under a key. -/
theorem find?_ofList (entries : List (String × α)) (key : String) :
    (ofList entries).find? key = entries.reverse.lookup key := by
  rw [ofList, find?_foldl_insert]
  simp

theorem lookup_reverse {entries : List (String × α)}
    (distinct : (entries.map Prod.fst).Nodup) (key : String) :
    entries.reverse.lookup key = entries.lookup key := by
  have reversedDistinct : (entries.reverse.map Prod.fst).Nodup := by
    rwa [List.map_reverse, List.nodup_reverse]
  refine Option.ext fun value => ?_
  rw [lookup_eq_some_iff_mem reversedDistinct, lookup_eq_some_iff_mem distinct, List.mem_reverse]

/-- A table is rebuilt from its own entries. -/
@[simp]
theorem ofList_entries (table : Table α) : ofList table.entries = table :=
  ext_find? fun key => by
    rw [find?_ofList, lookup_reverse table.ascending.nodup_keys]
    rfl

theorem find?_ofList_of_nodup {entries : List (String × α)}
    (distinct : (entries.map Prod.fst).Nodup) {key : String} {value : α} :
    (ofList entries).find? key = some value ↔ (key, value) ∈ entries := by
  rw [find?_ofList, lookup_reverse distinct, lookup_eq_some_iff_mem distinct]

theorem mem_keys_ofList {entries : List (String × α)} {key : String} :
    key ∈ (ofList entries).keys ↔ key ∈ entries.map Prod.fst := by
  rw [← not_iff_not, ← find?_eq_none_iff, find?_ofList, List.lookup_eq_none_iff]
  constructor
  · intro absent member
    obtain ⟨entry, entryMem, same⟩ := List.mem_map.1 member
    simpa [same] using absent entry (List.mem_reverse.2 entryMem)
  · intro absent entry entryMem
    have different : key ≠ entry.1 := fun same =>
      absent (same ▸ List.mem_map_of_mem (List.mem_reverse.1 entryMem))
    simpa using different

theorem filterMap_find?_keys (table : Table α) :
    table.keys.filterMap table.find? = table.values := by
  rw [keys, values, List.filterMap_map, ← List.filterMap_eq_map]
  apply List.filterMap_congr
  intro entry member
  exact find?_eq_some_iff.2 member

theorem keys_pairwise (table : Table α) :
    table.keys.Pairwise fun first second => first ≤ second :=
  List.pairwise_map.2 (table.ascending.imp fun before => Std.le_of_lt before)

/-- The keys of a table built from entries are those of the entries, each once and in order. -/
theorem keys_ofList (entries : List (String × α)) :
    (ofList entries).keys = inTextOrder (firstOccurrences (entries.map Prod.fst)) :=
  eq_inTextOrder_of_mem_iff (keys_nodup _) (keys_pairwise _) fun _ => mem_keys_ofList

theorem entries_ofList_perm {entries : List (String × α)}
    (distinct : (entries.map Prod.fst).Nodup) : (ofList entries).entries.Perm entries := by
  have tableDistinct : (ofList entries).entries.Nodup :=
    (ofList entries).ascending.nodup_keys.of_map _
  refine (List.perm_ext_iff_of_nodup tableDistinct (distinct.of_map _)).2 fun entry => ?_
  rw [← find?_ofList_of_nodup distinct, find?_eq_some_iff]

/-- The values of a table in which each item of a list has a key of its own are the values of the
items, in some order. -/
theorem exists_perm_values_ofList {β : Type} (key : β → String) (value : β → α) {items : List β}
    (distinct : (items.map key).Nodup) :
    ∃ inKeyOrder : List β, inKeyOrder.Perm items ∧
      (ofList (items.map fun item => (key item, value item))).values = inKeyOrder.map value := by
  have keysDistinct :
      ((items.map fun item => (key item, value item)).map Prod.fst).Nodup := by
    simpa [Function.comp_def] using distinct
  have permuted : (ofList (items.map fun item => (key item, value item))).values.Perm
      (items.map value) := by
    simpa [values, Function.comp_def] using (entries_ofList_perm keysDistinct).map Prod.snd
  obtain ⟨inKeyOrder, same, perm⟩ := exists_map_eq_of_perm_map value permuted
  exact ⟨inKeyOrder, perm, same⟩

end Table
end PoolPlanner
