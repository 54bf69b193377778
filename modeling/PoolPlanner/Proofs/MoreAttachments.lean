import PoolPlanner.Proofs.Attachments

/-!
# More attachments

What it means that a request has more objects of a kind attached than another one: the objects that
both have are read in the same order, with further ones among them.  Whatever passes over the
further ones finds the same.
-/

namespace PoolPlanner

/-- Own items in their order, with foreign ones anywhere among them. -/
inductive Interspersed {α : Type} (foreign : α → Prop) : List α → List α → Prop
  | nil : Interspersed foreign [] []
  | own (item : α) {own all : List α} (rest : Interspersed foreign own all) :
      Interspersed foreign (item :: own) (item :: all)
  | foreign {item : α} {own all : List α} (isForeign : foreign item)
      (rest : Interspersed foreign own all) : Interspersed foreign own (item :: all)

namespace Interspersed

variable {α : Type} {foreign : α → Prop} {own all : List α}

/-- What passes over foreign items finds the own ones. -/
theorem filter_eq (mixed : Interspersed foreign own all) {keeps : α → Bool}
    (passes : ∀ item, foreign item → keeps item = false) :
    all.filter keeps = own.filter keeps := by
  induction mixed with
  | nil => rfl
  | own item rest ih => rw [List.filter_cons, List.filter_cons, ih]
  | foreign isForeign rest ih =>
      rw [List.filter_cons_of_neg (by simp [passes _ isForeign]), ih]

theorem find?_eq (mixed : Interspersed foreign own all) {keeps : α → Bool}
    (passes : ∀ item, foreign item → keeps item = false) :
    all.find? keeps = own.find? keeps := by
  rw [← List.head?_filter, ← List.head?_filter, mixed.filter_eq passes]

theorem findLast?_eq (mixed : Interspersed foreign own all) {keeps : α → Bool}
    (passes : ∀ item, foreign item → keeps item = false) :
    all.reverse.find? keeps = own.reverse.find? keeps := by
  rw [← List.head?_filter, ← List.head?_filter, List.filter_reverse, List.filter_reverse,
    mixed.filter_eq passes]

theorem imp {other : α → Prop} (mixed : Interspersed foreign own all)
    (implies : ∀ item, foreign item → other item) : Interspersed other own all := by
  induction mixed with
  | nil => exact .nil
  | own item rest ih => exact ih.own item
  | foreign isForeign rest ih => exact .foreign (implies _ isForeign) ih

/-- With nothing foreign, there are only own items. -/
theorem eq_of_none (mixed : Interspersed (fun _ => False) own all) : all = own := by
  induction mixed with
  | nil => rfl
  | own item rest ih => rw [ih]
  | foreign isForeign => exact isForeign.elim

end Interspersed

/-- Two readings that fail alike, or of which the second has foreign items besides. -/
inductive ReadAlong {α : Type} (foreign : α → Prop) :
    Except Fault (List α) → Except Fault (List α) → Prop
  | failed (fault : Fault) : ReadAlong foreign (.error fault) (.error fault)
  | read {own all : List α} (mixed : Interspersed foreign own all) :
      ReadAlong foreign (.ok own) (.ok all)

namespace ReadAlong

variable {α : Type} {foreign : α → Prop} {own all : Except Fault (List α)}

theorem cases_read (along : ReadAlong foreign own all) :
    (∃ fault, own = .error fault ∧ all = .error fault) ∨
      ∃ ownItems allItems, own = .ok ownItems ∧ all = .ok allItems ∧
        Interspersed foreign ownItems allItems := by
  cases along with
  | failed fault => exact .inl ⟨fault, rfl, rfl⟩
  | read mixed => exact .inr ⟨_, _, rfl, rfl, mixed⟩

theorem cons_own (along : ReadAlong foreign own all) (item : α) :
    ReadAlong foreign (own.map (item :: ·)) (all.map (item :: ·)) := by
  cases along with
  | failed fault => exact .failed fault
  | read mixed => exact .read (mixed.own item)

theorem cons_foreign (along : ReadAlong foreign own all) {item : α} (isForeign : foreign item) :
    ReadAlong foreign own (all.map (item :: ·)) := by
  cases along with
  | failed fault => exact .failed fault
  | read mixed => exact .read (.foreign isForeign mixed)

/-- What passes over foreign items is the same of both readings. -/
theorem map_eq {β : Type} (along : ReadAlong foreign own all) {view : List α → β}
    (passes : ∀ {ownItems allItems}, Interspersed foreign ownItems allItems →
      view allItems = view ownItems) : all.map view = own.map view := by
  cases along with
  | failed fault => rfl
  | read mixed => exact congrArg Except.ok (passes mixed)

end ReadAlong

namespace Attachments

variable {R : Type} [Resource R] {attachments larger : Attachments} {foreign : R → Prop}

def groupOf (R : Type) [Resource R] (attachments : Attachments) : Table Json :=
  (attachments.find? (Resource.groupKey R)).getD .empty

theorem ofKind_eq_decodeAll (attachments : Attachments) :
    ofKind R attachments = decodeAll R (groupOf R attachments).values := by
  unfold ofKind groupOf
  cases attachments.find? (Resource.groupKey R) <;> rfl

/-- More attachments of a kind: all that there are, and under other keys only documents of foreign
objects. -/
structure Adds (R : Type) [Resource R] (attachments larger : Attachments)
    (foreign : R → Prop) : Prop where
  kept : ∀ key document, (groupOf R attachments).find? key = some document →
    (groupOf R larger).find? key = some document
  added : ∀ key document, (groupOf R larger).find? key = some document →
    (groupOf R attachments).find? key = none →
      ∃ resource, Resource.decode document = .ok resource ∧ foreign resource

theorem decodeAll_readAlong {isOwn : String × Json → Bool} {entries : List (String × Json)}
    (foreignDecoded : ∀ entry ∈ entries, isOwn entry = false →
      ∃ resource, Resource.decode entry.2 = .ok resource ∧ foreign resource) :
    ReadAlong foreign (decodeAll R ((entries.filter isOwn).map Prod.snd))
      (decodeAll R (entries.map Prod.snd)) := by
  induction entries with
  | nil => exact .read .nil
  | cons entry rest ih =>
      have parts := List.forall_mem_cons.1 foreignDecoded
      have restAlong := ih parts.2
      by_cases entryOwn : isOwn entry = true
      · rw [List.filter_cons_of_pos entryOwn, List.map_cons, List.map_cons, decodeAll, decodeAll]
        cases Resource.decode (R := R) entry.2 with
        | error failure => exact .failed _
        | ok resource => exact restAlong.cons_own resource
      · obtain ⟨resource, decoded, isForeign⟩ := parts.1 (by simpa using entryOwn)
        rw [List.filter_cons_of_neg entryOwn, List.map_cons, decodeAll, decoded]
        exact restAlong.cons_foreign isForeign

theorem groupOf_attach (attachments : Attachments) (resource : R) :
    groupOf R (attachments.attach resource) =
      (groupOf R attachments).insert (objectKey resource) (Resource.encode resource) := by
  rw [groupOf, attach, Table.find?_insert, if_pos rfl]
  rfl

theorem groupOf_attach_of_ne {S : Type} [Resource S]
    (different : Resource.groupKey R ≠ Resource.groupKey S) (attachments : Attachments)
    (resource : S) : groupOf R (attachments.attach resource) = groupOf R attachments := by
  rw [groupOf, attach, Table.find?_insert, if_neg different, groupOf]

namespace Adds

variable {key uid : String}

/-- To attach an object under a fresh key is to add it. -/
theorem attach {resource read : R}
    (fresh : (groupOf R attachments).find? (objectKey resource) = none)
    (readBack : Resource.decode (Resource.encode resource) = .ok read) (isForeign : foreign read) :
    Adds R attachments (attachments.attach resource) foreign := by
  constructor
  · intro key document found
    have other : key ≠ objectKey resource := by
      rintro rfl
      rw [fresh] at found
      cases found
    rw [groupOf_attach, Table.find?_insert, if_neg other, found]
  · intro key document found isNew
    rw [groupOf_attach, Table.find?_insert] at found
    split at found
    next =>
      obtain rfl := Option.some.inj found
      exact ⟨read, readBack, isForeign⟩
    next => rw [isNew] at found; cases found

theorem attach_other {S : Type} [Resource S]
    (different : Resource.groupKey R ≠ Resource.groupKey S)
    (adds : Adds R attachments larger foreign) (resource : S) :
    Adds R attachments (larger.attach resource) foreign := by
  constructor
  · rw [groupOf_attach_of_ne different]
    exact adds.kept
  · rw [groupOf_attach_of_ne different]
    exact adds.added

theorem refl (attachments : Attachments) (foreign : R → Prop) :
    Adds R attachments attachments foreign := by
  constructor
  · exact fun key document found => found
  · intro key document found isNew
    rw [isNew] at found
    cases found

theorem trans {largest : Attachments} (first : Adds R attachments larger foreign)
    (second : Adds R larger largest foreign) : Adds R attachments largest foreign := by
  constructor
  · exact fun key document found => second.kept key document (first.kept key document found)
  · intro key document found isNew
    cases between : (groupOf R larger).find? key with
    | none => exact second.added key document found between
    | some other =>
        have same := (second.kept key other between).symm.trans found
        obtain rfl := Option.some.inj same
        exact first.added key other between isNew

/-- The added objects are read along with those that there were. -/
theorem ofKind_readAlong (adds : Adds R attachments larger foreign) :
    ReadAlong foreign (ofKind R attachments) (ofKind R larger) := by
  have foreignDecoded : ∀ entry ∈ (groupOf R larger).entries,
      ((groupOf R attachments).find? entry.1).isSome = false →
        ∃ resource, Resource.decode entry.2 = .ok resource ∧ foreign resource := by
    intro entry member isNew
    have found := Table.find?_eq_some_iff.2 member
    exact adds.added entry.1 entry.2 found (by simpa using isNew)
  have along := decodeAll_readAlong foreignDecoded
  rw [Table.filter_entries_of_included adds.kept] at along
  rw [ofKind_eq_decodeAll, ofKind_eq_decodeAll]
  exact along

theorem ofKind_eq (adds : Adds R attachments larger fun _ => False) :
    ofKind R larger = ofKind R attachments := by
  rcases adds.ofKind_readAlong.cases_read with ⟨fault, own, all⟩ | ⟨_, _, own, all, mixed⟩
  · rw [own, all]
  · rw [own, all, mixed.eq_of_none]

/-- Objects that do not point back make no difference among those that do. -/
theorem correlated_eq (adds : Adds R attachments larger foreign)
    (elsewhere : ∀ resource, foreign resource →
      (Resource.metadata resource).pointsTo key uid = false) :
    correlated R larger key uid = correlated R attachments key uid :=
  adds.ofKind_readAlong.map_eq fun mixed => mixed.filter_eq elsewhere

end Adds
end Attachments

namespace HookRequest

variable {R : Type} [Resource R] {request larger : HookRequest} {foreign : R → Prop}

theorem watchAs_congr (R : Type) [Resource R] (watch : larger.watch = request.watch) :
    larger.watchAs R = request.watchAs R := by
  rw [watchAs, watchAs, watch]

/-- Objects with other uids are never taken for the one that something was derived from. -/
theorem originOf_congr {key : String} {metadata : ObjectMeta}
    (adds : request.attachments.Adds R larger.attachments foreign)
    (others : ∀ resource, foreign resource → ∀ uid, metadata.marker? key = some uid →
      (Resource.metadata resource).uid ≠ some uid) :
    larger.originOf R key metadata = request.originOf R key metadata := by
  unfold originOf
  cases marked : metadata.marker? key with
  | none => rfl
  | some uid =>
      rcases adds.ofKind_readAlong.cases_read with ⟨fault, own, all⟩ | ⟨_, _, own, all, mixed⟩
      · simp only [own, all]
      · have found := mixed.find?_eq fun resource isForeign =>
          decide_eq_false (others resource isForeign uid marked)
        simp only [own, all, found]

end HookRequest

end PoolPlanner
