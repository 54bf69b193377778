import Mathlib.Order.Monotone.Basic
import PoolPlanner.Proofs.ChangedEntries

/-!
# Reservations are fencing tokens

Any number of operations are carried out on one ledger, one after the other.  Each of them leaves
the entry of a device alone, or grants the device to a new holder, or frees it, and what it changes
it counts.  So a device and a generation name one reservation for all time, and a later generation
tells that the device has left its holder in the meantime.
-/

namespace PoolPlanner

inductive LedgerOperation
  | claim (request : ClaimRequest)
  | release (device owner : String)
  | lookUp (device : String)

namespace Ledger

def apply (ledger : Ledger) : LedgerOperation → Ledger
  | .claim request => (ledger.claim request).2
  | .release device owner => ledger.release device owner
  | .lookUp _ => ledger

def returned? (ledger : Ledger) : LedgerOperation → Option Reservation
  | .claim request => (ledger.claim request).1.toOption
  | .release _ _ => none
  | .lookUp device => ledger.reservation? device

/-- What an operation can do to the entry of a device. -/
inductive EntryStep (device : String) (operation : LedgerOperation)
    (before after : LedgerEntry) : Prop
  | unchanged (same : after = before)
  | granted (request : ClaimRequest) (claims : operation = .claim request)
      (onDevice : request.device = device) (accepted : before.refusal? request = none)
      (unheld : before.owner ≠ some request.owner) (changed : after = before.grant request)
  | freed (holder : String) (releases : operation = .release device holder)
      (held : before.owner = some holder) (changed : after = before.freed)

variable {ledger : Ledger} {operation : LedgerOperation} {device : String}

theorem entryStep_apply (ledger : Ledger) (operation : LedgerOperation) (device : String) :
    EntryStep device operation (ledger.entry device) ((ledger.apply operation).entry device) := by
  cases operation with
  | lookUp wanted => exact .unchanged rfl
  | claim request =>
      rw [apply, entry_claim]
      by_cases onDevice : device = request.device
      · rw [if_pos onDevice]
        by_cases accepted : (ledger.entry device).refusal? request = none
        · by_cases held : (ledger.entry device).owner = some request.owner
          · exact .unchanged (LedgerEntry.answered_of_own held)
          · refine .granted request rfl onDevice.symm accepted held ?_
            rw [LedgerEntry.answered, if_pos accepted, LedgerEntry.claimed, if_neg held]
        · exact .unchanged (LedgerEntry.answered_of_refused accepted)
      · exact .unchanged (if_neg onDevice)
  | release wanted owner =>
      rw [apply, entry_release]
      by_cases onDevice : device = wanted
      · rw [if_pos onDevice]
        by_cases held : (ledger.entry device).owner = some owner
        · exact .freed owner (by rw [onDevice]) held (LedgerEntry.releasedBy_of_held held)
        · exact .unchanged (LedgerEntry.releasedBy_of_unheld held)
      · exact .unchanged (if_neg onDevice)

namespace EntryStep

variable {before after : LedgerEntry}

theorem generation_le (step : EntryStep device operation before after) :
    before.generation ≤ after.generation := by
  cases step with
  | unchanged same => rw [same]
  | granted request claims onDevice accepted unheld changed =>
      rw [changed]
      exact Nat.le_succ _
  | freed holder releases held changed =>
      rw [changed]
      exact Nat.le_succ _

theorem generation_le_succ (step : EntryStep device operation before after) :
    after.generation ≤ before.generation + 1 := by
  cases step with
  | unchanged same =>
      rw [same]
      exact Nat.le_succ _
  | granted request claims onDevice accepted unheld changed => rw [changed, LedgerEntry.grant]
  | freed holder releases held changed => rw [changed, LedgerEntry.freed]

theorem owner_ne_of_generation_lt (step : EntryStep device operation before after)
    (counted : before.generation < after.generation) {holder : String}
    (held : before.owner = some holder) : after.owner ≠ some holder := by
  cases step with
  | unchanged same =>
      rw [same] at counted
      exact absurd counted (Nat.lt_irrefl _)
  | granted request claims onDevice accepted unheld changed =>
      rw [changed, LedgerEntry.grant, ← held]
      exact fun same => unheld same.symm
  | freed other releases otherHeld changed => simp [changed, LedgerEntry.freed]

theorem eq_of_generation_le (step : EntryStep device operation before after)
    (uncounted : after.generation ≤ before.generation) : after = before := by
  cases step with
  | unchanged same => exact same
  | granted request claims onDevice accepted unheld changed =>
      rw [changed] at uncounted
      exact absurd uncounted (Nat.not_succ_le_self _)
  | freed holder releases held changed =>
      rw [changed] at uncounted
      exact absurd uncounted (Nat.not_succ_le_self _)

end EntryStep

/-- A claim returns what the ledger records from then on, and so does a look-up. -/
theorem reservation?_apply_of_returned? {reservation : Reservation}
    (returned : ledger.returned? operation = some reservation) :
    (ledger.apply operation).reservation? reservation.device = some reservation := by
  cases operation with
  | release wanted owner => cases returned
  | lookUp wanted =>
      have deviceIs : reservation.device = wanted := by
        obtain ⟨holder, -, rfl⟩ := Option.map_eq_some_iff.1 returned
        rfl
      rw [deviceIs]
      exact returned
  | claim request =>
      rw [returned?] at returned
      rw [apply]
      cases refused : (ledger.entry request.device).refusal? request with
      | some refusal =>
          rw [claim_eq_of_refusal refused] at returned
          cases returned
      | none =>
          rw [claim_eq_of_grant refused] at returned ⊢
          obtain rfl := Option.some.inj returned
          simp [Ledger.reservation?, LedgerEntry.reservation?]

end Ledger

namespace LedgerEntry

/-- A claim that takes a device from its holder expected him, and has seen the device at another
version than his grant, or at none. -/
theorem takenOver_of_accepted {entry : LedgerEntry} {request : ClaimRequest} {holder : String}
    (held : entry.owner = some holder) (accepted : entry.refusal? request = none)
    (unheld : entry.owner ≠ some request.owner) :
    request.expectedOwner = some holder ∧
      ∀ version ∈ request.observedVersion, entry.observedVersion ≠ some version := by
  have elsewhere : holder ≠ request.owner := fun same => unheld (same ▸ held)
  simp only [refusal?, held, if_neg elsewhere] at accepted
  split at accepted
  next => cases accepted
  next expected =>
    refine ⟨not_not.1 expected, fun version seen recorded => ?_⟩
    rw [Option.mem_def.1 seen] at accepted
    simp [recorded] at accepted

end LedgerEntry

namespace LedgerHistory

/-- The ledger at a moment: after that many operations on an empty one. -/
def ledgerAt (operations : List LedgerOperation) (moment : Nat) : Ledger :=
  (operations.take moment).foldl Ledger.apply .empty

def entryAt (operations : List LedgerOperation) (moment : Nat) (device : String) : LedgerEntry :=
  (ledgerAt operations moment).entry device

def holderAt (operations : List LedgerOperation) (moment : Nat) (device : String) :
    Option String :=
  (ledgerAt operations moment).holder? device

def Returns (operations : List LedgerOperation) (moment : Nat) (reservation : Reservation) : Prop :=
  ∃ operation, operations[moment]? = some operation ∧
    (ledgerAt operations moment).returned? operation = some reservation

/-- The operation at a moment is a claim that gives a device to somebody who did not hold it. -/
structure Grants (operations : List LedgerOperation) (moment : Nat) (request : ClaimRequest) :
    Prop where
  claims : operations[moment]? = some (.claim request)
  accepted : ∃ reservation, ((ledgerAt operations moment).claim request).1 = .ok reservation
  unheld : holderAt operations moment request.device ≠ some request.owner

variable {operations : List LedgerOperation} {operation : LedgerOperation}
  {moment first last : Nat} {device holder : String}

theorem ledgerAt_succ (next : operations[moment]? = some operation) :
    ledgerAt operations (moment + 1) = (ledgerAt operations moment).apply operation := by
  simp [ledgerAt, List.take_add_one, next]

theorem ledgerAt_succ_of_none (ended : operations[moment]? = none) :
    ledgerAt operations (moment + 1) = ledgerAt operations moment := by
  simp [ledgerAt, List.take_add_one, ended]

theorem entryStep (operations : List LedgerOperation) (moment : Nat) (device : String) :
    entryAt operations (moment + 1) device = entryAt operations moment device ∨
      ∃ operation, operations[moment]? = some operation ∧
        Ledger.EntryStep device operation (entryAt operations moment device)
          (entryAt operations (moment + 1) device) := by
  cases next : operations[moment]? with
  | none => exact .inl (by rw [entryAt, ledgerAt_succ_of_none next, entryAt])
  | some operation =>
      refine .inr ⟨operation, rfl, ?_⟩
      rw [entryAt, entryAt, ledgerAt_succ next]
      exact Ledger.entryStep_apply _ operation device

section Generations

theorem generation_mono (operations : List LedgerOperation) (device : String) :
    Monotone fun moment => (entryAt operations moment device).generation := by
  refine monotone_nat_of_le_succ fun moment => ?_
  rcases entryStep operations moment device with same | ⟨operation, -, step⟩
  · rw [same]
  · exact step.generation_le

theorem generation_le (operations : List LedgerOperation) (moment : Nat) (device : String) :
    (entryAt operations moment device).generation ≤ moment := by
  induction moment with
  | zero => exact Nat.le_refl 0
  | succ moment ih =>
      rcases entryStep operations moment device with same | ⟨operation, -, step⟩
      · rw [same]
        exact Nat.le_succ_of_le ih
      · exact step.generation_le_succ.trans (Nat.succ_le_succ ih)

theorem generation_pos (held : holderAt operations moment device = some holder) :
    0 < (entryAt operations moment device).generation := by
  induction moment with
  | zero => cases held
  | succ moment ih =>
      rcases entryStep operations moment device with same | ⟨operation, -, step⟩
      · rw [same]
        exact ih ((congrArg LedgerEntry.owner same).symm.trans held)
      · rcases Nat.lt_or_ge (entryAt operations moment device).generation
          (entryAt operations (moment + 1) device).generation with counted | uncounted
        · exact Nat.zero_lt_of_lt counted
        · have same := step.eq_of_generation_le uncounted
          rw [same]
          exact ih ((congrArg LedgerEntry.owner same).symm.trans held)

theorem entryAt_eq_of_generation_le (ordered : first ≤ last)
    (uncounted : (entryAt operations last device).generation ≤
      (entryAt operations first device).generation) :
    entryAt operations last device = entryAt operations first device := by
  induction last, ordered using Nat.le_induction with
  | base => rfl
  | succ last ordered ih =>
      have upTo := generation_mono operations device ordered
      have onwards := generation_mono operations device (Nat.le_succ last)
      simp only at upTo onwards
      have unchanged : entryAt operations (last + 1) device = entryAt operations last device := by
        rcases entryStep operations last device with same | ⟨operation, -, step⟩
        · exact same
        · exact step.eq_of_generation_le (uncounted.trans upTo)
      rw [unchanged]
      exact ih (onwards.trans uncounted)

theorem entryAt_eq_of_held (ordered : first ≤ last)
    (held : ∀ moment, first ≤ moment → moment ≤ last →
      holderAt operations moment device = some holder) :
    entryAt operations last device = entryAt operations first device := by
  induction last, ordered using Nat.le_induction with
  | base => rfl
  | succ last ordered ih =>
      have heldBefore := held last ordered (Nat.le_succ last)
      have heldAfter := held (last + 1) (Nat.le_succ_of_le ordered) (Nat.le_refl _)
      have unchanged : entryAt operations (last + 1) device = entryAt operations last device := by
        rcases entryStep operations last device with same | ⟨operation, -, step⟩
        · exact same
        · refine step.eq_of_generation_le (Nat.le_of_not_lt fun counted => ?_)
          exact step.owner_ne_of_generation_lt counted heldBefore heldAfter
      rw [unchanged]
      exact ih fun moment fromFirst upTo => held moment fromFirst (Nat.le_succ_of_le upTo)

/-- The generation of a held device grows exactly when the device leaves its holder, be it for a
moment only. -/
theorem generation_lt_iff (ordered : first ≤ last)
    (held : holderAt operations first device = some holder) :
    (entryAt operations first device).generation < (entryAt operations last device).generation ↔
      ∃ moment, first < moment ∧ moment ≤ last ∧
        holderAt operations moment device ≠ some holder := by
  constructor
  · intro counted
    by_contra stays
    push Not at stays
    have same := entryAt_eq_of_held ordered fun moment fromFirst upToLast => by
      rcases Nat.eq_or_lt_of_le fromFirst with rfl | later
      · exact held
      · exact stays moment later upToLast
    rw [same] at counted
    exact Nat.lt_irrefl _ counted
  · rintro ⟨moment, later, upToLast, left⟩
    by_contra uncounted
    have upTo := generation_mono operations device upToLast
    have same := entryAt_eq_of_generation_le (Nat.le_of_lt later)
      (upTo.trans (Nat.le_of_not_lt uncounted))
    exact left ((congrArg LedgerEntry.owner same).trans held)

end Generations

section Returned

variable {reservation other : Reservation}

theorem Returns.recorded (returns : Returns operations moment reservation) :
    (entryAt operations (moment + 1) reservation.device).reservation? reservation.device =
      some reservation := by
  obtain ⟨operation, next, returned⟩ := returns
  rw [entryAt, ledgerAt_succ next]
  exact Ledger.reservation?_apply_of_returned? returned

theorem Returns.lt_length (returns : Returns operations moment reservation) :
    moment < operations.length := by
  obtain ⟨operation, next, -⟩ := returns
  exact (List.getElem?_eq_some_iff.1 next).1

theorem eq_of_recorded {entry : LedgerEntry}
    (recorded : entry.reservation? device = some reservation) :
    entry.owner = some reservation.owner ∧ entry.generation = reservation.generation := by
  obtain ⟨owner, held, rfl⟩ := Option.map_eq_some_iff.1 recorded
  exact ⟨held, rfl⟩

/-- A device and a generation name one reservation. -/
theorem Returns.eq_of_generation_eq (ordered : first ≤ last)
    (returns : Returns operations first reservation) (returnsOther : Returns operations last other)
    (sameDevice : reservation.device = other.device)
    (sameGeneration : reservation.generation = other.generation) : reservation = other := by
  have recorded := returns.recorded
  have recordedOther := returnsOther.recorded
  rw [← sameDevice] at recordedOther
  have same := entryAt_eq_of_generation_le (Nat.succ_le_succ ordered)
    (((eq_of_recorded recordedOther).2.trans sameGeneration.symm).trans
      (eq_of_recorded recorded).2.symm).le
  rw [same] at recordedOther
  exact Option.some.inj (recorded.symm.trans recordedOther)

/-- A later reservation of a device has the same generation or a greater one: a greater one exactly
if the device has left the holder of the first in between. -/
theorem Returns.generation_le (ordered : first ≤ last)
    (returns : Returns operations first reservation) (returnsOther : Returns operations last other)
    (sameDevice : reservation.device = other.device) :
    reservation.generation ≤ other.generation ∧
      (reservation.generation < other.generation ↔
        ∃ moment, first + 1 < moment ∧ moment ≤ last + 1 ∧
          holderAt operations moment reservation.device ≠ some reservation.owner) := by
  have recordedOther := returnsOther.recorded
  rw [← sameDevice] at recordedOther
  obtain ⟨held, generation⟩ := eq_of_recorded returns.recorded
  rw [← generation, ← (eq_of_recorded recordedOther).2]
  have laterStates := Nat.succ_le_succ ordered
  exact ⟨generation_mono operations reservation.device laterStates,
    generation_lt_iff laterStates held⟩

theorem Returns.generation_bounds (returns : Returns operations moment reservation) :
    0 < reservation.generation ∧ reservation.generation ≤ operations.length := by
  obtain ⟨held, generation⟩ := eq_of_recorded returns.recorded
  rw [← generation]
  exact ⟨generation_pos held, (LedgerHistory.generation_le _ _ _).trans returns.lt_length⟩

end Returned

section Holders

/-- A holder has a device since a claim, and the entry has not changed since then. -/
structure HoldsSince (operations : List LedgerOperation) (start moment : Nat)
    (grant : ClaimRequest) : Prop where
  before : start < moment
  grants : Grants operations start grant
  unchanged : ∀ between, start < between → between ≤ moment →
    entryAt operations between grant.device = (entryAt operations start grant.device).grant grant

theorem grants_of_accepted {request : ClaimRequest}
    (next : operations[moment]? = some (.claim request))
    (accepted : (entryAt operations moment request.device).refusal? request = none)
    (unheld : (entryAt operations moment request.device).owner ≠ some request.owner) :
    Grants operations moment request where
  claims := next
  accepted := ⟨_, by rw [Ledger.claim_eq_of_grant accepted]⟩
  unheld := unheld

theorem exists_holdsSince (held : holderAt operations moment device = some holder) :
    ∃ start grant, HoldsSince operations start moment grant ∧ grant.device = device ∧
      grant.owner = holder := by
  induction moment with
  | zero => cases held
  | succ moment ih =>
      have extend
          (same : entryAt operations (moment + 1) device = entryAt operations moment device) :
          ∃ start grant, HoldsSince operations start (moment + 1) grant ∧ grant.device = device ∧
            grant.owner = holder := by
        obtain ⟨start, grant, holds, rfl, isHolder⟩ :=
          ih ((congrArg LedgerEntry.owner same).symm.trans held)
        refine ⟨start, grant, ⟨Nat.lt_succ_of_lt holds.before, holds.grants, ?_⟩, rfl, isHolder⟩
        intro between later upTo
        rcases Nat.eq_or_lt_of_le upTo with rfl | before
        · rw [same]
          exact holds.unchanged moment holds.before (Nat.le_refl _)
        · exact holds.unchanged between later (Nat.le_of_lt_succ before)
      rcases entryStep operations moment device with same | ⟨operation, next, step⟩
      · exact extend same
      · cases step with
        | unchanged same => exact extend same
        | granted request claims onDevice accepted unheld changed =>
            subst claims onDevice
            have isHolder : request.owner = holder := by
              have owner := congrArg LedgerEntry.owner changed
              exact Option.some.inj (owner.symm.trans held)
            refine ⟨moment, request, ⟨Nat.lt_succ_self _,
              grants_of_accepted next accepted unheld, fun between later upTo => ?_⟩, rfl, isHolder⟩
            obtain rfl : between = moment + 1 := Nat.le_antisymm upTo later
            exact changed
        | freed other releases otherHeld changed =>
            have owner := congrArg LedgerEntry.owner changed
            cases owner.symm.trans held

/-- A holder loses a device by his own release, or to a claimant who expected him and has seen the
device at another version than his claim, or at none. -/
theorem lost_cases (held : holderAt operations moment device = some holder)
    (left : holderAt operations (moment + 1) device ≠ some holder) :
    operations[moment]? = some (.release device holder) ∨
      ∃ request start grant, Grants operations moment request ∧ request.device = device ∧
        request.expectedOwner = some holder ∧ HoldsSince operations start moment grant ∧
        grant.device = device ∧ grant.owner = holder ∧
        ∀ version ∈ request.observedVersion, grant.observedVersion ≠ some version := by
  have moved (same : entryAt operations (moment + 1) device = entryAt operations moment device) :
      False :=
    left ((congrArg LedgerEntry.owner same).trans held)
  rcases entryStep operations moment device with same | ⟨operation, next, step⟩
  · exact (moved same).elim
  · cases step with
    | unchanged same => exact (moved same).elim
    | freed other releases otherHeld changed =>
        obtain rfl : other = holder := Option.some.inj (otherHeld.symm.trans held)
        exact .inl (releases ▸ next)
    | granted request claims onDevice accepted unheld changed =>
        subst claims onDevice
        obtain ⟨start, grant, holds, sameDevice, isHolder⟩ := exists_holdsSince held
        have version : (entryAt operations moment request.device).observedVersion =
            grant.observedVersion := by
          rw [← sameDevice, holds.unchanged moment holds.before (Nat.le_refl _)]
          rfl
        have takenOver : request.expectedOwner = some holder ∧ ∀ version ∈ request.observedVersion,
            (entryAt operations moment request.device).observedVersion ≠ some version :=
          LedgerEntry.takenOver_of_accepted held accepted unheld
        rw [version] at takenOver
        obtain ⟨expected, newer⟩ := takenOver
        exact .inr ⟨request, start, grant, grants_of_accepted next accepted unheld, rfl, expected,
          holds, sameDevice, isHolder, newer⟩

end Holders

/-- What makes the reservations of a history fencing tokens. -/
structure Fences (operations : List LedgerOperation) : Prop where
  /-- A device and a generation name one reservation, whenever it is returned. -/
  unique : ∀ {first last reservation other}, Returns operations first reservation →
    Returns operations last other → reservation.device = other.device →
    reservation.generation = other.generation → reservation = other
  /-- Generations do not decrease, and they increase exactly if the device has left its holder
  between the two operations. -/
  increasing : ∀ {first last reservation other}, first ≤ last →
    Returns operations first reservation → Returns operations last other →
    reservation.device = other.device →
    reservation.generation ≤ other.generation ∧
      (reservation.generation < other.generation ↔
        ∃ moment, first + 1 < moment ∧ moment ≤ last + 1 ∧
          holderAt operations moment reservation.device ≠ some reservation.owner)
  /-- A generation has sixty-four bits if there were fewer than `2 ^ 64` operations. -/
  bounds : ∀ {moment reservation}, Returns operations moment reservation →
    0 < reservation.generation ∧ reservation.generation ≤ operations.length
  refused : ∀ {moment request refusal}, operations[moment]? = some (.claim request) →
    ((ledgerAt operations moment).claim request).1 = .error refusal →
    ledgerAt operations (moment + 1) = ledgerAt operations moment
  unheld : ∀ {moment device owner}, operations[moment]? = some (.release device owner) →
    holderAt operations moment device ≠ some owner →
    ledgerAt operations (moment + 1) = ledgerAt operations moment
  /-- A holder gives a device up himself, or loses it to a claimant who expected him and has not
  seen the device at the version of his claim. -/
  lost : ∀ {moment device holder}, holderAt operations moment device = some holder →
    holderAt operations (moment + 1) device ≠ some holder →
    operations[moment]? = some (.release device holder) ∨
      ∃ request start grant, Grants operations moment request ∧ request.device = device ∧
        request.expectedOwner = some holder ∧ HoldsSince operations start moment grant ∧
        grant.device = device ∧ grant.owner = holder ∧
        ∀ version ∈ request.observedVersion, grant.observedVersion ≠ some version

theorem ledgerAt_succ_of_refused {request : ClaimRequest} {refusal : ClaimRefusal}
    (next : operations[moment]? = some (.claim request))
    (refused : ((ledgerAt operations moment).claim request).1 = .error refusal) :
    ledgerAt operations (moment + 1) = ledgerAt operations moment := by
  rw [ledgerAt_succ next, Ledger.apply]
  cases why : ((ledgerAt operations moment).entry request.device).refusal? request with
  | some refusal => rw [Ledger.claim_eq_of_refusal why]
  | none =>
      rw [Ledger.claim_eq_of_grant why] at refused
      cases refused

/-- Whatever is claimed, released and looked up on a ledger that was empty at first, and however
often: reservations are fencing tokens. -/
theorem reservations_fence (operations : List LedgerOperation) : Fences operations where
  unique := by
    intro first last reservation other returns returnsOther sameDevice sameGeneration
    rcases Nat.le_total first last with ordered | ordered
    · exact returns.eq_of_generation_eq ordered returnsOther sameDevice sameGeneration
    · exact (returnsOther.eq_of_generation_eq ordered returns sameDevice.symm
        sameGeneration.symm).symm
  increasing := fun ordered returns returnsOther sameDevice =>
    returns.generation_le ordered returnsOther sameDevice
  bounds := Returns.generation_bounds
  refused := ledgerAt_succ_of_refused
  unheld := by
    intro moment device owner next notHeld
    rw [ledgerAt_succ next, Ledger.apply]
    exact if_neg notHeld
  lost := lost_cases

def claimOfDisk (owner : String) (expectedOwner observedVersion : Option String) :
    LedgerOperation :=
  .claim { device := "disk-1", owner, expectedOwner, observedVersion }

/-- A device that is claimed at version 7 is handed over at version 9, after a claim at version 7
has come to nothing.  So does a release by the former holder; then the device is given back and
claimed again. -/
def handover : List LedgerOperation :=
  [claimOfDisk "first" none (some "7"), claimOfDisk "second" (some "first") (some "7"),
    claimOfDisk "second" (some "first") (some "9"), .release "disk-1" "first", .lookUp "disk-1",
    .release "disk-1" "second", claimOfDisk "first" none none]

/-- The first and the last reservation are of the same storage set, and of different generations. -/
theorem handover_fences :
    Returns handover 0 ⟨"disk-1", "first", 1, some "7"⟩ ∧
      Returns handover 2 ⟨"disk-1", "second", 2, some "9"⟩ ∧
      Returns handover 4 ⟨"disk-1", "second", 2, some "9"⟩ ∧
      Returns handover 6 ⟨"disk-1", "first", 4, none⟩ ∧
      ledgerAt handover 2 = ledgerAt handover 1 ∧ ledgerAt handover 4 = ledgerAt handover 3 ∧
      (∃ moment, 1 < moment ∧ moment ≤ 7 ∧ holderAt handover moment "disk-1" ≠ some "first") ∧
      ∃ request, Grants handover 2 request ∧ request.expectedOwner = some "first" := by
  have fences := reservations_fence handover
  have granted : Returns handover 0 ⟨"disk-1", "first", 1, some "7"⟩ := ⟨_, rfl, by decide +kernel⟩
  have handedOver : Returns handover 2 ⟨"disk-1", "second", 2, some "9"⟩ :=
    ⟨_, rfl, by decide +kernel⟩
  have found : Returns handover 4 ⟨"disk-1", "second", 2, some "9"⟩ := ⟨_, rfl, by decide +kernel⟩
  have again : Returns handover 6 ⟨"disk-1", "first", 4, none⟩ := ⟨_, rfl, by decide +kernel⟩
  have left := (fences.increasing (by decide) granted again rfl).2.1 (by decide)
  refine ⟨granted, handedOver, found, again, ?_, ?_, left, ?_⟩
  · exact fences.refused rfl (by decide +kernel : _ = Except.error (ClaimRefusal.stale "7"))
  · exact fences.unheld rfl (by decide +kernel)
  · have lost := fences.lost (by decide +kernel : holderAt handover 2 "disk-1" = some "first")
      (by decide +kernel)
    rcases lost with releases | ⟨request, start, grant, grants, -, expected, -⟩
    · cases releases
    · exact ⟨request, grants, expected⟩

end LedgerHistory
end PoolPlanner
