import PoolPlanner.Hook.Sync
import PoolPlanner.Proofs.MarkerAgreement
import PoolPlanner.Proofs.MoreAttachments
import PoolPlanner.Proofs.PoolAssembly
import PoolPlanner.Proofs.Reservations

/-!
# Objects of somebody else

A hook is shown whatever the orchestrator attaches.  Objects that were not derived from the same
config or plan, and devices that a storage set neither holds nor has on its node, make no difference
to a round: wherever a hook looks at attached objects, it passes over them.
-/

namespace PoolPlanner

section Plans

variable {request larger : HookRequest} {settings : OperatorConfig}

/-- Beyond what a request about a config has attached, there are plans of other configs. -/
structure ClusterConfigRound.AddsForeign (request larger : HookRequest) (config : ClusterConfig) :
    Prop where
  nodes : request.attachments.Adds Node larger.attachments fun _ => False
  plans : request.attachments.Adds ClusterPlan larger.attachments fun plan =>
    ∀ uid, config.metadata.uid = some uid →
      plan.metadata.pointsTo MarkerKey.clusterConfig uid = false

theorem ClusterConfigRound.run_congr (watch : larger.watch = request.watch)
    (added : ∀ config, request.watchAs ClusterConfig = .ok config →
      AddsForeign request larger config) :
    run larger settings = run request settings := by
  rw [run, run, HookRequest.watchAs_congr ClusterConfig watch]
  apply bind_congr_of_ok
  intro config watched
  apply bind_congr_of_ok
  intro uid identified
  have adds := added config watched
  have plans := adds.plans.correlated_eq fun _ isForeign =>
    isForeign uid (Resource.uid_eq_ok_iff.1 identified)
  rw [adds.nodes.ofKind_eq, plans]

/-- Beyond what a request about a plan has attached, there are configs with other uids and storage
sets of other plans. -/
structure ClusterPlanRound.AddsForeign (request larger : HookRequest) (plan : ClusterPlan) :
    Prop where
  configs : request.attachments.Adds ClusterConfig larger.attachments fun config =>
    ∀ uid, plan.metadata.marker? MarkerKey.clusterConfig = some uid →
      config.metadata.uid ≠ some uid
  storageSets : request.attachments.Adds StorageSet larger.attachments fun storageSet =>
    ∀ uid, plan.metadata.uid = some uid →
      storageSet.metadata.pointsTo MarkerKey.clusterPlan uid = false

theorem ClusterPlanRound.run_congr (watch : larger.watch = request.watch)
    (added : ∀ plan, request.watchAs ClusterPlan = .ok plan → AddsForeign request larger plan) :
    run larger settings = run request settings := by
  rw [run, run, HookRequest.watchAs_congr ClusterPlan watch]
  apply bind_congr_of_ok
  intro plan watched
  apply bind_congr_of_ok
  intro uid identified
  have adds := added plan watched
  have config : larger.configOf plan = request.configOf plan :=
    HookRequest.originOf_congr adds.configs fun _ isForeign => isForeign
  have storageSets := adds.storageSets.correlated_eq fun _ isForeign =>
    isForeign uid (Resource.uid_eq_ok_iff.1 identified)
  rw [config, storageSets]

end Plans

section PoolClusters

variable {request larger : HookRequest}

/-- Beyond what a request about a plan has attached, there are configs with other uids, storage sets
and pool clusters of other plans, and devices that no storage set of the plan has reserved. -/
structure PoolClusterRound.AddsForeign (request larger : HookRequest) (plan : ClusterPlan) :
    Prop where
  configs : request.attachments.Adds ClusterConfig larger.attachments fun config =>
    ∀ uid, plan.metadata.marker? MarkerKey.clusterConfig = some uid →
      config.metadata.uid ≠ some uid
  storageSets : request.attachments.Adds StorageSet larger.attachments fun storageSet =>
    ∀ uid, plan.metadata.uid = some uid →
      storageSet.metadata.pointsTo MarkerKey.clusterPlan uid = false
  poolClusters : request.attachments.Adds PoolCluster larger.attachments fun cluster =>
    ∀ uid, plan.metadata.uid = some uid →
      cluster.metadata.pointsTo MarkerKey.clusterPlan uid = false
  devices : request.attachments.Adds BlockDevice larger.attachments fun device =>
    ∀ uid storageSets, plan.metadata.uid = some uid →
      request.attachments.correlated StorageSet MarkerKey.clusterPlan uid = .ok storageSets →
      ∀ storageSet ∈ storageSets, ∀ owner, storageSet.metadata.uid = some owner →
        device.owner? ≠ some owner

/-- Devices that nobody among some storage sets has reserved do not count for them. -/
theorem PoolAssembly.reservedByStorageSet_congr {devices more : List BlockDevice}
    {storageSets : List StorageSet}
    (mixed : Interspersed (fun device : BlockDevice => ∀ storageSet ∈ storageSets,
      ∀ owner, storageSet.metadata.uid = some owner → device.owner? ≠ some owner) devices more) :
    reservedByStorageSet more storageSets = reservedByStorageSet devices storageSets := by
  unfold reservedByStorageSet
  congr 1
  apply List.filterMap_congr
  intro storageSet member
  cases identified : storageSet.metadata.uid with
  | none => rfl
  | some owner =>
      let counts (device : BlockDevice) : Bool :=
        device.isActive && device.isOwnedBy owner && device.host? = some storageSet.spec.node.name
      have sameDevices : more.filter counts = devices.filter counts := by
        apply mixed.filter_eq
        intro device isForeign
        have unowned := isForeign storageSet member owner identified
        simp [counts, BlockDevice.isOwnedBy, unowned]
      simp only [Option.map_some, reservedNames]
      rw [sameDevices]

theorem PoolClusterRound.run_congr (watch : larger.watch = request.watch)
    (added : ∀ plan, request.watchAs ClusterPlan = .ok plan → AddsForeign request larger plan) :
    run larger = run request := by
  rw [run, run, HookRequest.watchAs_congr ClusterPlan watch]
  apply bind_congr_of_ok
  intro plan watched
  apply bind_congr_of_ok
  intro uid identified
  have identifiedHere := Resource.uid_eq_ok_iff.1 identified
  have adds := added plan watched
  have config : larger.configOf plan = request.configOf plan :=
    HookRequest.originOf_congr adds.configs fun _ isForeign => isForeign
  have storageSets := adds.storageSets.correlated_eq fun _ isForeign =>
    isForeign uid identifiedHere
  have poolClusters := adds.poolClusters.correlated_eq fun _ isForeign =>
    isForeign uid identifiedHere
  rw [config, storageSets, poolClusters]
  apply bind_congr_of_ok
  intro config _
  apply bind_congr_of_ok
  intro storageSets correlated
  apply bind_congr_of_ok
  intro observed _
  rcases adds.devices.ofKind_readAlong.cases_read with ⟨fault, own, all⟩ | ⟨_, _, own, all, mixed⟩
  · rw [own, all]
  · have unreserved := mixed.imp fun device isForeign =>
      isForeign uid storageSets identifiedHere correlated
    have reserved := PoolAssembly.reservedByStorageSet_congr unreserved
    simp only [own, all, ok_bind, reserved]

end PoolClusters

section StorageSets

variable {request larger : HookRequest}

/-- Beyond what a request about a storage set has attached, there are plans and configs with other
uids, and devices under new names that are on other nodes and that it has not reserved. -/
structure StorageSetRound.AddsForeign (request larger : HookRequest) (storageSet : StorageSet) :
    Prop where
  plans : request.attachments.Adds ClusterPlan larger.attachments fun plan =>
    ∀ uid, storageSet.metadata.marker? MarkerKey.clusterPlan = some uid →
      plan.metadata.uid ≠ some uid
  configs : request.attachments.Adds ClusterConfig larger.attachments fun config =>
    ∀ plan uid, request.planOf storageSet = .ok plan →
      plan.metadata.marker? MarkerKey.clusterConfig = some uid →
      config.metadata.uid ≠ some uid
  devices : request.attachments.Adds BlockDevice larger.attachments fun device =>
    (∀ attached, request.attachments.ofKind BlockDevice = .ok attached →
      device.name ∉ attached.map BlockDevice.name) ∧
    device.host? ≠ some storageSet.spec.node.name ∧
    ∀ owner, storageSet.metadata.uid = some owner → device.owner? ≠ some owner

namespace ReservationRequest

variable {wanted : ReservationRequest} {devices more : List BlockDevice}

/-- Devices on other nodes that a storage set does not hold do not count for what it reserves. -/
theorem plan_congr
    (mixed : Interspersed (fun device : BlockDevice =>
      device.host? ≠ some wanted.node ∧ device.owner? ≠ some wanted.owner) devices more) :
    wanted.plan more = wanted.plan devices := by
  have onNode : (more.filter fun device => device.host? = some wanted.node) =
      devices.filter fun device => device.host? = some wanted.node :=
    mixed.filter_eq fun device isForeign => decide_eq_false isForeign.1
  have owned : (more.filter fun device => device.isOwnedBy wanted.owner) =
      devices.filter fun device => device.isOwnedBy wanted.owner :=
    mixed.filter_eq fun device isForeign => decide_eq_false isForeign.2
  have sameUsable : wanted.usable more = wanted.usable devices := by
    rw [usable, usable, onNode]
  have sameHeld : held more wanted.owner = held devices wanted.owner := by
    rw [held, held, owned]
  rw [plan, plan, sameUsable, sameHeld]

/-- Everything that is reserved or given back is the name of an attached device. -/
theorem mem_names_of_planned {planned : ReservationPlan}
    (plannedHere : wanted.plan devices = .ok planned) {name : String}
    (member : name ∈ planned.reserved ∨ name ∈ planned.release) :
    name ∈ devices.map BlockDevice.name := by
  rcases member with reserved | released
  · obtain ⟨device, usable, rfl⟩ := exists_usable_of_mem_reserved plannedHere reserved
    have onNode := List.mem_of_mem_filter usable
    exact List.mem_map_of_mem (List.mem_of_mem_filter onNode)
  · have isHeld := ((mem_release_iff plannedHere).1 released).1
    obtain ⟨device, deviceMem, -, rfl⟩ := mem_held.1 isHeld
    exact List.mem_map_of_mem deviceMem

end ReservationRequest

namespace StorageSetRound

variable {devices more : List BlockDevice}

theorem claimAll_congr (owner : String) {names : List String}
    (same : ∀ name ∈ names,
      BlockDevice.lastNamed? more name = BlockDevice.lastNamed? devices name) :
    claimAll owner more names = claimAll owner devices names := by
  induction names with
  | nil => rfl
  | cons name rest ih =>
      have parts := List.forall_mem_cons.1 same
      rw [claimAll, claimAll, parts.1, ih parts.2]

theorem releaseAll_congr (owner : String) {names : List String}
    (same : ∀ name ∈ names,
      BlockDevice.lastNamed? more name = BlockDevice.lastNamed? devices name) :
    releaseAll owner more names = releaseAll owner devices names := by
  induction names with
  | nil => rfl
  | cons name rest ih =>
      have parts := List.forall_mem_cons.1 same
      rw [releaseAll, releaseAll, parts.1, ih parts.2]

def Work.within (work : Work) (devices : List BlockDevice) : Work :=
  { work with devices }

/-- The devices under new names are not even looked up. -/
theorem perform_within {work : Work}
    (mixed : Interspersed (fun device : BlockDevice =>
      device.name ∉ work.devices.map BlockDevice.name) work.devices more)
    (attached : ∀ name, name ∈ work.reservations.reserved ∨ name ∈ work.reservations.release →
      name ∈ work.devices.map BlockDevice.name) :
    perform (work.within more) = perform work := by
  have same : ∀ name, name ∈ work.reservations.reserved ∨ name ∈ work.reservations.release →
      BlockDevice.lastNamed? more name = BlockDevice.lastNamed? work.devices name := by
    intro name planned
    apply mixed.findLast?_eq
    intro device isNew
    apply decide_eq_false
    rintro rfl
    exact isNew (attached device.name planned)
  have claimed := claimAll_congr work.owner fun name reserved => same name (.inl reserved)
  have released := releaseAll_congr work.owner fun name released => same name (.inr released)
  simp only [perform, Work.within, claimed, released]

/-- What a storage set's round is about, before any device is looked at. -/
structure Task where
  storageSet : StorageSet
  owner : String
  config : ClusterConfig

/-- The task of a request: its storage set, with the config behind the plan it belongs to. -/
def taskOf (request : HookRequest) : Except Fault Task := do
  let storageSet ← request.watchAs StorageSet
  let owner ← Resource.uid .storageSet storageSet
  let plan ← request.planOf storageSet
  let config ← request.configOf plan
  pure { storageSet, owner, config }

def Task.wanted (task : Task) (minBytes : Nat) : ReservationRequest where
  owner := task.owner
  node := task.storageSet.spec.node.name
  selector := task.config.spec.disk.localDiskSelector
  minBytes := minBytes
  desiredCount := task.storageSet.desiredDiskCount

def Task.workOn (task : Task) (devices : List BlockDevice) : Except Fault Work := do
  let minBytes ← Capacity.bytes task.storageSet.spec.disk.capacity
  let reservations ← (task.wanted minBytes).plan devices
  pure { storageSet := task.storageSet, owner := task.owner, devices, reservations }

theorem prepare_eq (request : HookRequest) :
    prepare request = taskOf request >>= fun task =>
      request.attachments.ofKind BlockDevice >>= task.workOn := by
  simp only [prepare, taskOf, bind_assoc, pure_bind]
  rfl

/-- Foreign to a task: under a new name, on another node, and not reserved. -/
def Task.Foreign (task : Task) (devices : List BlockDevice) (device : BlockDevice) : Prop :=
  device.name ∉ devices.map BlockDevice.name ∧
    device.host? ≠ some task.storageSet.spec.node.name ∧ device.owner? ≠ some task.owner

theorem Task.workOn_eq_map {task : Task}
    (mixed : Interspersed (task.Foreign devices) devices more) :
    task.workOn more = (task.workOn devices).map fun work => work.within more := by
  unfold workOn
  cases Capacity.bytes task.storageSet.spec.disk.capacity with
  | error fault => rfl
  | ok minBytes =>
      have elsewhere : Interspersed (fun device : BlockDevice =>
          device.host? ≠ some (task.wanted minBytes).node ∧
            device.owner? ≠ some (task.wanted minBytes).owner) devices more :=
        mixed.imp fun _ isForeign => isForeign.2
      simp only [ok_bind, ReservationRequest.plan_congr elsewhere]
      cases (task.wanted minBytes).plan devices <;> rfl

theorem Task.perform_within_of_workOn {task : Task} {work : Work}
    (worked : task.workOn devices = .ok work)
    (mixed : Interspersed (task.Foreign devices) devices more) :
    perform (work.within more) = perform work := by
  simp only [workOn, bind_eq_ok_iff, pure_eq_ok_iff] at worked
  obtain ⟨minBytes, -, reservations, planned, rfl⟩ := worked
  apply perform_within
  · exact mixed.imp fun _ isForeign => isForeign.1
  · exact fun name => ReservationRequest.mem_names_of_planned planned

theorem watched_of_taskOf {task : Task} (found : taskOf request = .ok task) :
    request.watchAs StorageSet = .ok task.storageSet ∧
      task.storageSet.metadata.uid = some task.owner := by
  simp only [taskOf, bind_eq_ok_iff, pure_eq_ok_iff, Resource.uid_eq_ok_iff] at found
  obtain ⟨storageSet, watched, owner, identified, _, -, _, -, rfl⟩ := found
  exact ⟨watched, identified⟩

theorem taskOf_congr (watch : larger.watch = request.watch)
    (added : ∀ storageSet, request.watchAs StorageSet = .ok storageSet →
      AddsForeign request larger storageSet) :
    taskOf larger = taskOf request := by
  rw [taskOf, taskOf, HookRequest.watchAs_congr StorageSet watch]
  apply bind_congr_of_ok
  intro storageSet watched
  have adds := added storageSet watched
  have plan : larger.planOf storageSet = request.planOf storageSet :=
    HookRequest.originOf_congr adds.plans fun _ isForeign => isForeign
  rw [plan]
  apply bind_congr_of_ok
  intro owner _
  apply bind_congr_of_ok
  intro plan found
  have config : larger.configOf plan = request.configOf plan :=
    HookRequest.originOf_congr adds.configs fun _ isForeign uid marked =>
      isForeign plan uid found marked
  rw [config]

theorem run_congr (watch : larger.watch = request.watch)
    (added : ∀ storageSet, request.watchAs StorageSet = .ok storageSet →
      AddsForeign request larger storageSet) :
    run larger = run request := by
  rw [run, run, prepare_eq, prepare_eq, taskOf_congr watch added]
  cases found : taskOf request with
  | error fault => rfl
  | ok task =>
      obtain ⟨watched, identified⟩ := watched_of_taskOf found
      have along := (added task.storageSet watched).devices.ofKind_readAlong
      rcases along.cases_read with ⟨fault, own, all⟩ | ⟨devices, more, own, all, mixed⟩
      · rw [own, all]
      · have foreign : Interspersed (task.Foreign devices) devices more :=
          mixed.imp fun device isForeign =>
            ⟨isForeign.1 devices own, isForeign.2.1, isForeign.2.2 task.owner identified⟩
        simp only [own, all, ok_bind]
        rw [Task.workOn_eq_map foreign]
        cases worked : task.workOn devices with
        | error fault => rfl
        | ok work => exact Task.perform_within_of_workOn worked foreign

end StorageSetRound
end StorageSets

namespace Hook

/-- A larger request is about the same object, and what it has attached besides belongs to somebody
else. -/
def AddsForeign (hook : Hook) (request larger : HookRequest) : Prop :=
  larger.watch = request.watch ∧
    match hook with
    | .clusterConfig => ∀ config, request.watchAs ClusterConfig = .ok config →
        ClusterConfigRound.AddsForeign request larger config
    | .clusterPlan => ∀ plan, request.watchAs ClusterPlan = .ok plan →
        ClusterPlanRound.AddsForeign request larger plan
    | .storageSet => ∀ storageSet, request.watchAs StorageSet = .ok storageSet →
        StorageSetRound.AddsForeign request larger storageSet
    | .poolCluster => ∀ plan, request.watchAs ClusterPlan = .ok plan →
        PoolClusterRound.AddsForeign request larger plan

/-- Whatever is attached of somebody else, a hook does the same in the ledger, step by step, and
comes to the same result. -/
theorem reconcile_eq_of_addsForeign {hook : Hook} {request larger : HookRequest}
    (adds : hook.AddsForeign request larger) (settings : OperatorConfig) :
    hook.reconcile larger settings = hook.reconcile request settings ∧
      ∀ ledger, (hook.reconcile larger settings).run ledger =
        (hook.reconcile request settings).run ledger := by
  have same : hook.reconcile larger settings = hook.reconcile request settings := by
    obtain ⟨watch, added⟩ := adds
    cases hook with
    | clusterConfig =>
        exact congrArg LedgerProgram.done (ClusterConfigRound.run_congr watch added)
    | clusterPlan => exact congrArg LedgerProgram.done (ClusterPlanRound.run_congr watch added)
    | storageSet => exact StorageSetRound.run_congr watch added
    | poolCluster => exact congrArg LedgerProgram.done (PoolClusterRound.run_congr watch added)
  exact ⟨same, fun ledger => by rw [same]⟩

end Hook

namespace StorageSetRound

/-- A request about a storage set on the first node, with one device. -/
def ownRequest : HookRequest :=
  let request := DeviceStore.requestFor "first" "node-1" false
  { request with attachments := request.attachments.attach SharedLedger.onlyDevice }

/-- A plan and a config of another cluster. -/
def otherPlan : ClusterPlan where
  metadata :=
    ObjectMeta.mark { name := some "other", uid := some "other-plan" } MarkerKey.clusterConfig
      "other-config"
  spec := {}

def otherConfig : ClusterConfig where
  metadata := { name := some "other", uid := some "other-config" }
  spec := {}

/-- A device on the second node. -/
def otherDevice : BlockDevice :=
  { SharedLedger.onlyDevice with
    metadata := { name := some "disk-2" }
    spec := { capacity := ⟨2 ^ 30⟩, nodeAttributes := ⟨"node-2"⟩ } }

def crowdedRequest : HookRequest :=
  { ownRequest with
    attachments :=
      ((ownRequest.attachments.attach otherPlan).attach otherConfig).attach otherDevice }

theorem crowdedRequest_addsForeign : Hook.storageSet.AddsForeign ownRequest crowdedRequest := by
  refine ⟨rfl, fun storageSet watched => ?_⟩
  have said : (ownRequest.watchAs StorageSet).map (fun storageSet =>
      (storageSet.metadata.marker? MarkerKey.clusterPlan, storageSet.metadata.uid,
        storageSet.spec.node.name)) = .ok (some "plan", some "first", "node-1") := by
    decide +kernel
  have planSaid : (ownRequest.watchAs StorageSet >>= ownRequest.planOf).map (fun plan =>
      plan.metadata.marker? MarkerKey.clusterConfig) = .ok (some "config") := by
    decide +kernel
  rw [watched] at said planSaid
  obtain ⟨marked, identified, onNode⟩ : storageSet.metadata.marker? MarkerKey.clusterPlan = _ ∧
      storageSet.metadata.uid = _ ∧ storageSet.spec.node.name = _ := by
    simpa [Except.map] using said
  have attached : ownRequest.attachments.ofKind BlockDevice = .ok [SharedLedger.onlyDevice] := by
    cbv
  have planRead : Resource.decode (Resource.encode otherPlan) = .ok otherPlan := by cbv
  have configRead : Resource.decode (Resource.encode otherConfig) = .ok otherConfig := by cbv
  have deviceRead : Resource.decode (Resource.encode otherDevice) = .ok otherDevice := by cbv
  constructor
  · refine ((Attachments.Adds.attach ?_ planRead ?_).attach_other ?_ otherConfig).attach_other ?_
      otherDevice
    · cbv
    · rw [marked]
      rintro uid ⟨⟩
      decide
    · decide
    · decide
  · refine (((Attachments.Adds.refl _ _).attach_other ?_ otherPlan).trans
      (Attachments.Adds.attach ?_ configRead ?_)).attach_other ?_ otherDevice
    · decide
    · cbv
    · rintro plan uid found planMarked
      rw [ok_bind, found] at planSaid
      have isConfig := planMarked.symm.trans (Except.ok.inj planSaid)
      obtain rfl := Option.some.inj isConfig
      decide
    · decide
  · refine (((Attachments.Adds.refl _ _).attach_other ?_ otherPlan).attach_other ?_
      otherConfig).trans (Attachments.Adds.attach ?_ deviceRead ?_)
    · decide
    · decide
    · cbv
    · refine ⟨fun devices found => ?_, ?_, ?_⟩
      · obtain rfl := Except.ok.inj (attached.symm.trans found)
        decide
      · rw [onNode]
        decide
      · rw [identified]
        rintro owner ⟨⟩
        decide

/-- Among plan, config and device of somebody else, the storage set reserves its own device. -/
theorem reconcile_crowdedRequest :
    Hook.storageSet.AddsForeign ownRequest crowdedRequest ∧
      (Hook.storageSet.reconcile crowdedRequest {}).run .empty =
        (Hook.storageSet.reconcile ownRequest {}).run .empty ∧
      ((Hook.storageSet.reconcile crowdedRequest {}).run .empty).2.holder? "disk-1" =
        some "first" ∧
      ((Hook.storageSet.reconcile crowdedRequest {}).run .empty).2.holder? "disk-2" = none := by
  have same := (Hook.reconcile_eq_of_addsForeign crowdedRequest_addsForeign {}).2 .empty
  refine ⟨crowdedRequest_addsForeign, same, ?_⟩
  rw [same]
  decide +kernel

end StorageSetRound
end PoolPlanner
