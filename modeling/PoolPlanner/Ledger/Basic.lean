import PoolPlanner.Fault
import PoolPlanner.Table

/-!
# The reservation ledger

Which storage set holds which device.  Concurrent rounds of different storage sets meet here: a
claim is granted if nobody holds the device, or if the claimant expected the present holder and has
seen the device since that holder's grant.  Each entry counts its changes, so a device and a
generation name one grant.  A device that the ledger does not know is free; thus an operator that
starts anew takes up the reservations that are marked on the devices.
-/

namespace PoolPlanner

/-- What the ledger knows of a device. -/
structure LedgerEntry where
  owner : Option String := none
  generation : Nat := 0
  /-- The version of the device from which the last grant was made. -/
  observedVersion : Option String := none
deriving DecidableEq, Inhabited

/-- A wish to hold a device. -/
structure ClaimRequest where
  device : String
  owner : String
  /-- The holder that the claimant saw on the device. -/
  expectedOwner : Option String := none
  /-- The version of the device that the claimant saw. -/
  observedVersion : Option String := none
deriving DecidableEq

/-- That a storage set holds a device. -/
structure Reservation where
  device : String
  owner : String
  generation : Nat
  observedVersion : Option String
deriving DecidableEq

/-- Why a claim is refused. -/
inductive ClaimRefusal
  /-- Somebody else holds the device than the claimant expected. -/
  | reserved (holder : String)
  /-- The claimant saw the device no later than its holder did. -/
  | stale (version : String)
deriving DecidableEq

namespace ClaimRefusal

def fault (device : String) : ClaimRefusal → Fault
  | .reserved holder => .reservedElsewhere device holder
  | .stale version => .staleObservation device version

end ClaimRefusal

namespace LedgerEntry

def reservation? (entry : LedgerEntry) (device : String) : Option Reservation :=
  entry.owner.map fun owner =>
    { device, owner, generation := entry.generation, observedVersion := entry.observedVersion }

/-- The entry after a claim was granted. -/
def grant (entry : LedgerEntry) (request : ClaimRequest) : LedgerEntry where
  owner := some request.owner
  generation := entry.generation + 1
  observedVersion := request.observedVersion

/-- Why a claim on the device of an entry is refused, if it is. -/
def refusal? (entry : LedgerEntry) (request : ClaimRequest) : Option ClaimRefusal :=
  match entry.owner with
  | none => none
  | some holder =>
      if holder = request.owner then none
      else if request.expectedOwner ≠ some holder then some (.reserved holder)
      else
        match request.observedVersion with
        | none => none
        | some version =>
            if entry.observedVersion = some version then some (.stale version) else none

/-- The entry after a claim that is not refused: the holder's own claim changes nothing. -/
def claimed (entry : LedgerEntry) (request : ClaimRequest) : LedgerEntry :=
  if entry.owner = some request.owner then entry else entry.grant request

def freed (entry : LedgerEntry) : LedgerEntry :=
  { entry with owner := none, generation := entry.generation + 1 }

end LedgerEntry

/-- The entries of the devices that were ever claimed. -/
structure Ledger where
  entries : Table LedgerEntry
deriving DecidableEq

namespace Ledger

def empty : Ledger :=
  ⟨.empty⟩

instance : Inhabited Ledger :=
  ⟨empty⟩

/-- The entry of a device; one that is not known is free. -/
def entry (ledger : Ledger) (device : String) : LedgerEntry :=
  (ledger.entries.find? device).getD {}

def reservation? (ledger : Ledger) (device : String) : Option Reservation :=
  (ledger.entry device).reservation? device

def holder? (ledger : Ledger) (device : String) : Option String :=
  (ledger.entry device).owner

def update (ledger : Ledger) (device : String) (entry : LedgerEntry) : Ledger :=
  ⟨ledger.entries.insert device entry⟩

/-- Replacing an entry leaves those of other devices alone. -/
@[simp]
theorem entry_update (ledger : Ledger) (device other : String) (entry : LedgerEntry) :
    (ledger.update device entry).entry other =
      if other = device then entry else ledger.entry other := by
  by_cases same : other = device <;> simp [update, Ledger.entry, same]

/-- Claim a device: the reservation, or why it is refused, and the ledger afterwards. -/
def claim (ledger : Ledger) (request : ClaimRequest) :
    Except ClaimRefusal Reservation × Ledger :=
  let entry := ledger.entry request.device
  match entry.refusal? request with
  | some refusal => (.error refusal, ledger)
  | none =>
      let claimed := entry.claimed request
      (.ok
          { device := request.device
            owner := request.owner
            generation := claimed.generation
            observedVersion := claimed.observedVersion },
        ledger.update request.device claimed)

def release (ledger : Ledger) (device owner : String) : Ledger :=
  let entry := ledger.entry device
  if entry.owner = some owner then ledger.update device entry.freed else ledger

def reservedCount (ledger : Ledger) : Nat :=
  ledger.entries.values.countP fun entry => entry.owner.isSome

end Ledger
end PoolPlanner
