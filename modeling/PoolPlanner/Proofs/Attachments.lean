import Mathlib.Data.List.Forall2
import PoolPlanner.Hook.Round
import PoolPlanner.Proofs.Fallible
import PoolPlanner.Proofs.Table

/-!
# Attached objects

The attached objects of a kind are the decoded documents of its group, in key order.
-/

namespace PoolPlanner
namespace Attachments

variable {R : Type} [Resource R] {attachments : Attachments}

theorem decodeAll_eq_ok_iff {documents : List Json} {resources : List R} :
    decodeAll R documents = .ok resources ↔
      List.Forall₂ (fun document resource => Resource.decode document = .ok resource)
        documents resources := by
  induction documents generalizing resources with
  | nil => cases resources <;> simp [decodeAll]
  | cons document rest ih =>
      rw [decodeAll, List.forall₂_cons_left_iff]
      cases decoded : Resource.decode (R := R) document with
      | error failure => simp
      | ok resource =>
          simp only [map_eq_ok_iff, ih, Except.ok.injEq]
          constructor
          · rintro ⟨others, othersDecoded, rfl⟩
            exact ⟨resource, others, rfl, othersDecoded, rfl⟩
          · rintro ⟨_, others, rfl, othersDecoded, rfl⟩
            exact ⟨others, othersDecoded, rfl⟩

/-- Objects that are read back one by one are read back all together. -/
theorem decodeAll_map_encode {resources : List R}
    (each : ∀ resource ∈ resources, Resource.decode (Resource.encode resource) = .ok resource) :
    decodeAll R (resources.map Resource.encode) = .ok resources := by
  rw [decodeAll_eq_ok_iff, List.forall₂_map_left_iff, List.forall₂_same]
  exact each

def documentsOf (R : Type) [Resource R] (attachments : Attachments) : List Json :=
  ((attachments.find? (Resource.groupKey R)).map Table.values).getD []

theorem ofKind_eq_ok_iff {resources : List R} :
    ofKind R attachments = .ok resources ↔
      List.Forall₂ (fun document resource => Resource.decode document = .ok resource)
        (documentsOf R attachments) resources := by
  unfold ofKind documentsOf
  cases attachments.find? (Resource.groupKey R) with
  | none => cases resources <;> simp
  | some group => simp [decodeAll_eq_ok_iff]

theorem exists_document_of_mem {resources : List R} (found : ofKind R attachments = .ok resources)
    {resource : R} (member : resource ∈ resources) :
    ∃ document ∈ documentsOf R attachments, Resource.decode document = .ok resource := by
  have decoded := ofKind_eq_ok_iff.1 found
  obtain ⟨index, inRange, rfl⟩ := List.mem_iff_getElem.1 member
  exact ⟨_, List.getElem_mem (decoded.length_eq ▸ inRange), decoded.get _ inRange⟩

/-- Objects of one namespace and one key have one name. -/
theorem name_eq_of_objectKey_eq {first second : R}
    (sameKey : objectKey first = objectKey second)
    (sameNamespace : (Resource.metadata first).objectNamespace =
      (Resource.metadata second).objectNamespace) : Resource.name first = Resource.name second := by
  unfold objectKey at sameKey
  rw [sameNamespace] at sameKey
  split at sameKey
  next => simpa [toString, String.ext_iff] using sameKey
  next => exact sameKey

end Attachments

namespace HookRequest

variable {R : Type} [Resource R] {request : HookRequest} {resource : R}

theorem watchAs_eq_ok (notNull : request.watch.isNull = false)
    (decoded : Resource.decode request.watch = .ok resource) :
    request.watchAs R = .ok resource := by
  simp [watchAs, notNull, decoded]

theorem decode_of_watchAs (watched : request.watchAs R = .ok resource) :
    Resource.decode request.watch = .ok resource := by
  unfold watchAs at watched
  split at watched
  next => cases watched
  next => exact mapError_eq_ok_iff.1 watched

/-- What points back at an attached object has it as its origin, if no other one has its uid. -/
theorem originOf_eq_ok_of_only {key uid : String} {metadata : ObjectMeta} {resources : List R}
    (marked : metadata.marker? key = some uid)
    (found : request.attachments.ofKind R = .ok resources) (member : resource ∈ resources)
    (identified : (Resource.metadata resource).uid = some uid)
    (only : ∀ other ∈ resources, (Resource.metadata other).uid = some uid → other = resource) :
    request.originOf R key metadata = .ok resource := by
  have first : (resources.find? fun other => (Resource.metadata other).uid = some uid) =
      some resource := by
    cases origin : resources.find? fun other => (Resource.metadata other).uid = some uid with
    | none =>
        have absent := List.find?_eq_none.1 origin resource member
        simp [identified] at absent
    | some other =>
        have sameUid := List.find?_some origin
        rw [only other (List.mem_of_find?_eq_some origin) (by simpa using sameUid)]
  simp only [originOf, marked, found, first]

theorem originOf_eq_ok {key uid : String} {metadata : ObjectMeta}
    (marked : metadata.marker? key = some uid)
    (found : request.attachments.ofKind R = .ok [resource])
    (identified : (Resource.metadata resource).uid = some uid) :
    request.originOf R key metadata = .ok resource :=
  originOf_eq_ok_of_only marked found (List.mem_singleton_self resource) identified (by simp)

end HookRequest
end PoolPlanner
