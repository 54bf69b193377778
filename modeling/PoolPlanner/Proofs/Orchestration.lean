import PoolPlanner.Proofs.Attachments
import PoolPlanner.Proofs.Ordering
import PoolPlanner.Proofs.ResourceCodec
import PoolPlanner.Proofs.Sync
import PoolPlanner.Resource.DiskClaim

/-!
# The orchestrator around the hooks

The orchestrator stores the objects of a cluster by kind and shows all of them to every hook.  A new
object gets a uid before it is stored, and a block device that a hook emits takes the place of the
stored one of its name.
-/

namespace PoolPlanner

section Uids

/-- Putting in a key that comes after some entries leaves them in front. -/
theorem insertEntry_append {α : Type} {key : String} {value : α} {front back : List (String × α)}
    (before : ∀ entry ∈ front, entry.1 < key) :
    insertEntry key value (front ++ back) = front ++ insertEntry key value back := by
  induction front with
  | nil => rfl
  | cons entry rest ih =>
      obtain ⟨entryBefore, restBefore⟩ := List.forall_mem_cons.1 before
      have notBefore : ¬ key < entry.1 := fun after =>
        String.lt_irrefl key (String.lt_trans after entryBefore)
      have different : key ≠ entry.1 := fun same =>
        String.lt_irrefl key (same ▸ entryBefore)
      rw [List.cons_append, insertEntry, if_neg notBefore, if_neg different, ih restBefore,
        List.cons_append]

@[simp]
theorem insertEntry_same {α : Type} (key : String) (value other : α)
    (rest : List (String × α)) :
    insertEntry key value ((key, other) :: rest) = (key, value) :: rest := by
  simp [insertEntry]

namespace Json

/-- A document with a member put in; only an object has members. -/
def withMember (document : Json) (key : String) (value : Json) : Json :=
  match document with
  | .object members => .object (insertEntry key value members)
  | other => other

def withUid (document : Json) (uid : String) : Json :=
  match document.member? "metadata" with
  | some metadata => document.withMember "metadata" (metadata.withMember "uid" (.string uid))
  | none => document

theorem fst_mem_of_mem_presentMembers {members : List (String × Option Json)}
    {entry : String × Json} (member : entry ∈ presentMembers members) :
    entry.1 ∈ members.map Prod.fst := by
  obtain ⟨origin, originMem, present⟩ := List.mem_filterMap.1 member
  obtain ⟨document, -, rfl⟩ := Option.map_eq_some_iff.1 present
  exact List.mem_map_of_mem originMem

theorem withMember_ofMembers (front back : List (String × Option Json)) {key : String}
    {old : Option Json} {value : Json} (before : ∀ name ∈ front.map Prod.fst, name < key)
    (last : old = none → back = []) :
    (ofMembers (front ++ (key, old) :: back)).withMember key value =
      ofMembers (front ++ (key, some value) :: back) := by
  have split (middle : Option Json) :
      presentMembers (front ++ (key, middle) :: back) =
        presentMembers front ++ presentMembers ((key, middle) :: back) :=
    List.filterMap_append
  have frontBefore : ∀ entry ∈ presentMembers front, entry.1 < key := fun entry member =>
    before entry.1 (fst_mem_of_mem_presentMembers member)
  rw [ofMembers_eq, ofMembers_eq, withMember, split, split, insertEntry_append frontBefore]
  cases old with
  | none =>
      rw [last rfl]
      rfl
  | some document => simp [presentMembers]

end Json

namespace ObjectMeta

/-- Metadata of an object that was given a uid. -/
def withUid (metadata : ObjectMeta) (uid : String) : ObjectMeta :=
  { metadata with uid := some uid }

theorem Fits.withUid {metadata : ObjectMeta} (fits : metadata.Fits) (uid : String) :
    (metadata.withUid uid).Fits :=
  ⟨fits.gracePeriod, fits.generation, fits.managedFields⟩

theorem encode_withUid (metadata : ObjectMeta) (uid : String) :
    metadata.encode.withMember "uid" (.string uid) = (metadata.withUid uid).encode := by
  refine Json.withMember_ofMembers
    [("annotations", _), ("creationTimestamp", _), ("deletionGracePeriodSeconds", _),
      ("deletionTimestamp", _), ("finalizers", _), ("generateName", _), ("generation", _),
      ("labels", _), ("managedFields", _), ("name", _), ("namespace", _),
      ("ownerReferences", _), ("resourceVersion", _), ("selfLink", _)] [] ?_ fun _ => rfl
  simp only [List.map_cons, List.map_nil]
  decide

end ObjectMeta

theorem Json.withUid_ofMembers (version kind : Json) (metadata : ObjectMeta) (uid : String)
    (rest : List (String × Option Json)) :
    (ofMembers
        (("apiVersion", some version) :: ("kind", some kind) ::
          ("metadata", some metadata.encode) :: rest)).withUid uid =
      ofMembers
        (("apiVersion", some version) :: ("kind", some kind) ::
          ("metadata", some (metadata.withUid uid).encode) :: rest) := by
  have found : (ofMembers
      (("apiVersion", some version) :: ("kind", some kind) ::
        ("metadata", some metadata.encode) :: rest)).member? "metadata" =
      some metadata.encode := by
    simp [member?, ofMembers_eq]
  rw [withUid, found]
  simp only [ObjectMeta.encode_withUid]
  refine withMember_ofMembers [("apiVersion", some version), ("kind", some kind)] rest ?_ (by simp)
  simp only [List.map_cons, List.map_nil]
  decide

def ClusterPlan.withUid (plan : ClusterPlan) (uid : String) : ClusterPlan :=
  { plan with metadata := plan.metadata.withUid uid }

def StorageSet.withUid (storageSet : StorageSet) (uid : String) : StorageSet :=
  { storageSet with metadata := storageSet.metadata.withUid uid }

theorem ClusterPlan.encode_withUid (plan : ClusterPlan) (uid : String) :
    (Resource.encode plan).withUid uid = Resource.encode (plan.withUid uid) :=
  Json.withUid_ofMembers _ _ plan.metadata uid _

theorem StorageSet.encode_withUid (storageSet : StorageSet) (uid : String) :
    (Resource.encode storageSet).withUid uid = Resource.encode (storageSet.withUid uid) :=
  Json.withUid_ofMembers _ _ storageSet.metadata uid _

end Uids

section Storing

namespace BlockDevice

variable {written : List BlockDevice} {device : BlockDevice}

/-- A device after devices were written: as written under its name, if it was. -/
def replacedBy (written : List BlockDevice) (device : BlockDevice) : BlockDevice :=
  match written.find? fun other => other.name = device.name with
  | some other => other.whole
  | none => device

theorem exists_replacedBy (isWritten : device.name ∈ written.map BlockDevice.name) :
    ∃ other ∈ written, other.name = device.name ∧ device.replacedBy written = other.whole := by
  obtain ⟨other, otherMem, sameName⟩ := List.mem_map.1 isWritten
  unfold replacedBy
  split
  next found found? =>
    exact ⟨found, List.mem_of_find?_eq_some found?, by simpa using List.find?_some found?, rfl⟩
  next missing =>
    exact absurd (decide_eq_true sameName) (List.find?_eq_none.1 missing other otherMem)

theorem replacedBy_of_notMem (unwritten : device.name ∉ written.map BlockDevice.name) :
    device.replacedBy written = device := by
  have missing : (written.find? fun other => other.name = device.name) = none := by
    refine List.find?_eq_none.2 fun other otherMem sameName => unwritten ?_
    exact List.mem_map.2 ⟨other, otherMem, by simpa using sameName⟩
  rw [replacedBy, missing]

@[simp]
theorem name_replacedBy : (device.replacedBy written).name = device.name := by
  by_cases isWritten : device.name ∈ written.map BlockDevice.name
  · obtain ⟨other, -, sameName, replaced⟩ := exists_replacedBy isWritten
    rw [replaced, name_whole, sameName]
  · rw [replacedBy_of_notMem isWritten]

end BlockDevice

namespace Json

/-- The kind that a document says it has. -/
def kind? (document : Json) : Option String :=
  (document.member? "kind").bind scalarText?

/-- The block device that is in a document. -/
def device? (document : Json) : Option BlockDevice :=
  (Resource.decode document).toOption

/-- Whether a document is a block device of a name. -/
def isDevice (document : Json) (name : String) : Bool :=
  document.kind? = some (Resource.kind BlockDevice) &&
    document.device?.any fun device => device.name = name

/-- A stored block device after documents were emitted: the one of its name among them, if any. -/
def replacedFrom (emitted : List Json) (stored : Json) : Json :=
  match stored.device? with
  | some device => (emitted.find? fun document => document.isDevice device.name).getD stored
  | none => stored

theorem device?_eq_some {document : Json} {device : BlockDevice}
    (decoded : Resource.decode document = .ok device) : document.device? = some device := by
  rw [device?, decoded]
  rfl

theorem isDevice_encode {device : BlockDevice} (fits : device.Fits) (name : String) :
    (Resource.encode device).isDevice name = true ↔ device.name = name := by
  have kind : (Resource.encode device).kind? = some (Resource.kind BlockDevice) := rfl
  have found := device?_eq_some (BlockDevice.decode_encode fits)
  simp only [isDevice, kind, found, decide_true, Bool.true_and, Option.any_some]
  exact decide_eq_true_iff

/-- Disk claims have names of block devices at times, but never pass for one. -/
theorem isDevice_diskClaim (claim : DiskClaim) (name : String) :
    (Resource.encode claim).isDevice name = false := by
  have kind : (Resource.encode claim).kind? = some "PersistentVolumeClaim" := rfl
  have different : "PersistentVolumeClaim" ≠ Resource.kind BlockDevice := by decide
  simp [isDevice, kind, different]

/-- What is stored of a device once documents were emitted, if they are those of some written
devices and of disk claims. -/
theorem decode_replacedFrom_written {stored : Json} {device : BlockDevice}
    {written : List BlockDevice} (fits : ∀ other ∈ written, other.Fits)
    (claims : List DiskClaim) (decoded : Resource.decode stored = .ok device) :
    Resource.decode
        (replacedFrom (written.map Resource.encode ++ claims.map Resource.encode) stored) =
      .ok (device.replacedBy written) := by
  rw [replacedFrom, device?_eq_some decoded]
  simp only
  induction written with
  | nil =>
      have noDevice : ((claims.map Resource.encode).find? fun document =>
          document.isDevice device.name) = none := by
        simp [isDevice_diskClaim]
      rw [List.map_nil, List.nil_append, noDevice]
      exact decoded
  | cons other rest ih =>
      obtain ⟨otherFits, restFits⟩ := List.forall_mem_cons.1 fits
      have sameName : (Resource.encode other).isDevice device.name =
          decide (other.name = device.name) := by
        rw [Bool.eq_iff_iff, isDevice_encode otherFits, decide_eq_true_iff]
      rw [List.map_cons, List.cons_append, List.find?_cons, sameName, BlockDevice.replacedBy,
        List.find?_cons]
      cases decide (other.name = device.name) with
      | true => exact BlockDevice.decode_encode otherFits
      | false => exact ih restFits

/-- The stored devices after some of them were emitted as reserved, along with disk claims. -/
theorem decode_replacedFrom {stored : Json} {current chosen : List BlockDevice}
    {device : BlockDevice} (uid : String) (claims : List DiskClaim)
    (distinct : (current.map BlockDevice.name).Nodup)
    (fits : ∀ device ∈ current, device.Fits) (included : ∀ device ∈ chosen, device ∈ current)
    (decoded : Resource.decode stored = .ok device) (member : device ∈ current) :
    Resource.decode (replacedFrom
        ((chosen.map fun device => Resource.encode (device.reserve uid)) ++
          claims.map Resource.encode) stored) =
      .ok (if device.name ∈ chosen.map BlockDevice.name then (device.reserve uid).whole
        else device) := by
  have sameNames : (chosen.map fun device => device.reserve uid).map BlockDevice.name =
      chosen.map BlockDevice.name := by
    simp [Function.comp_def]
  have writtenFits : ∀ other ∈ chosen.map fun device => device.reserve uid, other.Fits :=
    List.forall_mem_map.2 fun other otherMem => (fits other (included other otherMem)).reserve
  have replaced := decode_replacedFrom_written writtenFits claims decoded
  rw [List.map_map] at replaced
  refine replaced.trans (congrArg Except.ok ?_)
  split
  next named =>
    obtain ⟨other, otherMem, sameName, written⟩ :=
      BlockDevice.exists_replacedBy (sameNames ▸ named)
    obtain ⟨original, originalMem, rfl⟩ := List.mem_map.1 otherMem
    obtain rfl : original = device :=
      List.inj_on_of_nodup_map distinct (included original originalMem) member sameName
    exact written
  next unnamed => exact BlockDevice.replacedBy_of_notMem (sameNames ▸ unnamed)

end Json

def Table.mapValues {α β : Type} (function : α → β) (table : Table α) : Table β :=
  ⟨table.entries.map fun entry => (entry.1, function entry.2), by
    rw [Ascending, List.pairwise_map]
    exact table.ascending⟩

@[simp]
theorem Table.values_mapValues {α β : Type} (function : α → β) (table : Table α) :
    (table.mapValues function).values = table.values.map function := by
  simp [mapValues, values, Function.comp_def]

/-- The key under which a document of a kind is stored. -/
def Attachments.documentKey (R : Type) [Resource R] (document : Json) : String :=
  match Resource.decode (R := R) document with
  | .ok resource => objectKey resource
  | .error _ => ""

/-- Documents of a kind under their keys. -/
def Attachments.stored (R : Type) [Resource R] (documents : List Json) : Table Json :=
  .ofList (documents.map fun document => (documentKey R document, document))

end Storing

/-- What the orchestrator stores of a cluster, and the ledger that the hooks share. -/
structure Cluster where
  configs : Table Json
  nodes : Table Json
  devices : Table Json
  plans : Table Json := .empty
  storageSets : Table Json := .empty
  ledger : Ledger := .empty

namespace Cluster

/-- The stored objects by kind. -/
def groups (cluster : Cluster) : List (String × Table Json) :=
  [(Resource.groupKey ClusterConfig, cluster.configs), (Resource.groupKey Node, cluster.nodes),
    (Resource.groupKey BlockDevice, cluster.devices),
    (Resource.groupKey ClusterPlan, cluster.plans),
    (Resource.groupKey StorageSet, cluster.storageSets)]

/-- What a hook is sent when it is called about a stored object. -/
def request (cluster : Cluster) (watch : Json) : HookRequest where
  watch := watch
  attachments := .ofList cluster.groups

/-- Call a hook about a stored object: its answer, and the cluster with the ledger afterwards. -/
def call (cluster : Cluster) (hook : Hook) (settings : OperatorConfig) (now : Instant)
    (watch : Json) : (HookResponse × Outcome) × Cluster :=
  let ran := (hook.sync (cluster.request watch) settings now).run cluster.ledger
  (ran.1, { cluster with ledger := ran.2 })

/-- A hook that does nothing in the ledger leaves the cluster as it is. -/
theorem call_of_done {cluster : Cluster} {hook : Hook} {settings : OperatorConfig} {watch : Json}
    {result : Except Fault RoundResult}
    (finished : hook.reconcile (cluster.request watch) settings = .done result) (now : Instant) :
    cluster.call hook settings now watch =
      (hook.answer (cluster.request watch) settings now result, cluster) := by
  rw [call, Hook.run_sync rfl, finished]
  rfl

/-- Call the storage set hook about a storage set, and store the block devices that it emits. -/
def reserve (cluster : Cluster) (settings : OperatorConfig) (now : Instant) (storageSet : Json) :
    Cluster :=
  let called := cluster.call .storageSet settings now storageSet
  { called.2 with
    devices := cluster.devices.mapValues (Json.replacedFrom called.1.1.attachments) }

theorem groupKeys_nodup (cluster : Cluster) : (cluster.groups.map Prod.fst).Nodup := by
  simp only [groups, List.map_cons, List.map_nil]
  decide

theorem ofKind_request {cluster : Cluster} {R : Type} [Resource R] {group : Table Json}
    (member : (Resource.groupKey R, group) ∈ cluster.groups) (watch : Json) :
    (cluster.request watch).attachments.ofKind R = Attachments.decodeAll R group.values := by
  have found : (cluster.request watch).attachments.find? (Resource.groupKey R) = some group :=
    (Table.find?_ofList_of_nodup cluster.groupKeys_nodup).2 member
  rw [Attachments.ofKind, found]

theorem ofKind_clusterConfig (cluster : Cluster) (watch : Json) :
    (cluster.request watch).attachments.ofKind ClusterConfig =
      Attachments.decodeAll ClusterConfig cluster.configs.values :=
  ofKind_request (by simp [groups]) watch

theorem ofKind_node (cluster : Cluster) (watch : Json) :
    (cluster.request watch).attachments.ofKind Node =
      Attachments.decodeAll Node cluster.nodes.values :=
  ofKind_request (by simp [groups]) watch

theorem ofKind_blockDevice (cluster : Cluster) (watch : Json) :
    (cluster.request watch).attachments.ofKind BlockDevice =
      Attachments.decodeAll BlockDevice cluster.devices.values :=
  ofKind_request (by simp [groups]) watch

theorem ofKind_clusterPlan (cluster : Cluster) (watch : Json) :
    (cluster.request watch).attachments.ofKind ClusterPlan =
      Attachments.decodeAll ClusterPlan cluster.plans.values :=
  ofKind_request (by simp [groups]) watch

theorem ofKind_storageSet (cluster : Cluster) (watch : Json) :
    (cluster.request watch).attachments.ofKind StorageSet =
      Attachments.decodeAll StorageSet cluster.storageSets.values :=
  ofKind_request (by simp [groups]) watch

theorem ofKind_request_of_ne {cluster : Cluster} {R : Type} [Resource R]
    (absent : Resource.groupKey R ∉ cluster.groups.map Prod.fst) (watch : Json) :
    (cluster.request watch).attachments.ofKind R = .ok [] := by
  have missing : (cluster.request watch).attachments.find? (Resource.groupKey R) = none := by
    rw [Table.find?_eq_none_iff]
    exact fun member => absent (Table.mem_keys_ofList.1 member)
  rw [Attachments.ofKind, missing]

end Cluster
end PoolPlanner
