import PoolPlanner.Capacity
import PoolPlanner.Hook.Round
import PoolPlanner.Ledger.Program
import PoolPlanner.Planning.Reservations
import PoolPlanner.Resource.DiskClaim

/-!
# The storage set round

From a storage set, with its plan, its config and the block devices attached, to reserved and
released devices and, with an external provisioner, to claims for disks.  Every reservation is
claimed in the shared ledger first; a device that is lost to another storage set is left out.
-/

namespace PoolPlanner
namespace StorageSetRound

/-- The annotation by which a claim's volume is put on a node. -/
def selectedNodeKey : String :=
  "volume.kubernetes.io/selected-node"

/-- The annotation that names the driver of a claim's volume. -/
def attacherKey : String :=
  "dao.mayadata.io/csi-attacher-name"

def diskClaimName (storageSetName : String) (index : Nat) : String :=
  s!"{storageSetName}-disk-{index}"

def diskClaim (storageSet : StorageSet) (owner : OwnerReference) (ownerUid : String)
    (provision : ExternalProvision) (index : Nat) : DiskClaim :=
  let metadata : ObjectMeta :=
    { name := some (diskClaimName (Resource.name storageSet) index)
      objectNamespace := storageSet.metadata.objectNamespace
      ownerReferences := some [owner] }
  { metadata :=
      ((metadata.mark MarkerKey.storageSet ownerUid).annotate attacherKey
        provision.csiAttacherName).annotate selectedNodeKey storageSet.spec.node.name
    spec :=
      some
        { accessModes := some ["ReadWriteOnce"]
          resources :=
            some { requests := some (Table.empty.insert "storage" storageSet.spec.disk.capacity) }
          storageClassName := some provision.storageClassName
          volumeMode := some "Block" } }

/-- The disk claims of a storage set: as many as it asks for disks, if it has a provisioner. -/
def diskClaims (storageSet : StorageSet) (ownerUid : String) :
    Except Fault (List DiskClaim) :=
  match storageSet.spec.externalProvision with
  | none => .ok []
  | some provision =>
      (Resource.ownerReference .storageSet storageSet).map fun owner =>
        (List.range storageSet.desiredDiskCount).map
          (diskClaim storageSet owner ownerUid provision)

structure Work where
  storageSet : StorageSet
  owner : String
  devices : List BlockDevice
  reservations : ReservationPlan

def prepare (request : HookRequest) : Except Fault Work := do
  let storageSet ← request.watchAs StorageSet
  let owner ← Resource.uid .storageSet storageSet
  let plan ← request.planOf storageSet
  let config ← request.configOf plan
  let devices ← request.attachments.ofKind BlockDevice
  let minBytes ← Capacity.bytes storageSet.spec.disk.capacity
  let wanted : ReservationRequest :=
    { owner
      node := storageSet.spec.node.name
      selector := config.spec.disk.localDiskSelector
      minBytes
      desiredCount := storageSet.desiredDiskCount }
  let reservations ← wanted.plan devices
  pure { storageSet, owner, devices, reservations }

def claimFor (owner name : String) (device : BlockDevice) : ClaimRequest where
  device := name
  owner := owner
  expectedOwner := device.owner?
  observedVersion := device.metadata.resourceVersion

/-- Claim devices one after the other: the documents of those that were granted. -/
def claimAll (owner : String) (devices : List BlockDevice) :
    List String → LedgerProgram (List Json)
  | [] => .done []
  | name :: rest =>
      match BlockDevice.lastNamed? devices name with
      | none => claimAll owner devices rest
      | some device =>
          .claim (claimFor owner name device) fun
            | .error _ => claimAll owner devices rest
            | .ok _ => do
                let documents ← claimAll owner devices rest
                pure (Resource.encode (device.reserve owner) :: documents)

/-- Give devices back one after the other: their documents without reservation. -/
def releaseAll (owner : String) (devices : List BlockDevice) :
    List String → LedgerProgram (List Json)
  | [] => .done []
  | name :: rest =>
      .release name owner do
        let documents ← releaseAll owner devices rest
        match BlockDevice.lastNamed? devices name with
        | none => pure documents
        | some device => pure (Resource.encode device.release :: documents)

def perform (work : Work) : LedgerProgram (Except Fault RoundResult) := do
  let reserved ← claimAll work.owner work.devices work.reservations.reserved
  let released ← releaseAll work.owner work.devices work.reservations.release
  pure ((diskClaims work.storageSet work.owner).map fun claims =>
    .apply (reserved ++ released ++ claims.map Resource.encode))

def run (request : HookRequest) : LedgerProgram (Except Fault RoundResult) :=
  match prepare request with
  | .error fault => .done (.error fault)
  | .ok work => perform work

/-- Give back what a storage set holds of some devices: the documents of those marked for it. -/
def releaseHeld (owner : String) : List BlockDevice → LedgerProgram (List Json)
  | [] => .done []
  | device :: rest =>
      .lookUp device.name fun reservation =>
        let goOn : LedgerProgram (List Json) := do
          let documents ← releaseHeld owner rest
          if device.isOwnedBy owner then
            pure (Resource.encode device.release :: documents)
          else
            pure documents
        if reservation.any fun found => found.owner = owner then
          .release device.name owner goOn
        else
          goOn

def finalize (request : HookRequest) : LedgerProgram (Except Fault (List Json)) :=
  match request.watchAs StorageSet with
  | .error fault => .done (.error fault)
  | .ok storageSet =>
      match storageSet.metadata.uid with
      | none => .done (.ok [])
      | some owner =>
          match request.attachments.ofKind BlockDevice with
          | .error fault => .done (.error fault)
          | .ok devices => do
              let documents ← releaseHeld owner devices
              pure (.ok documents)

end StorageSetRound
end PoolPlanner
