import PoolPlanner.Proofs.StorageSetEffect

/-!
# Which entries a round changes

Each operation of a round concerns the entry of one device, and to repeat it changes nothing more.
So the entry of a device after a round is the entry before it, answered by the claim for the device
and then by its release.  It has changed exactly if the round was granted the device anew or gave
it back; an entry counts its changes, so none of them undoes another.
-/

namespace PoolPlanner

namespace LedgerEntry

variable {entry : LedgerEntry} {request : ClaimRequest} {owner : String}

/-- The entry after a claim, be it granted or refused. -/
def answered (entry : LedgerEntry) (request : ClaimRequest) : LedgerEntry :=
  if entry.refusal? request = none then entry.claimed request else entry

/-- The entry after a release in the name of a storage set. -/
def releasedBy (entry : LedgerEntry) (owner : String) : LedgerEntry :=
  if entry.owner = some owner then entry.freed else entry

theorem refusal?_eq_none_of_own (own : entry.owner = some request.owner) :
    entry.refusal? request = none := by
  simp [refusal?, own]

theorem answered_of_own (own : entry.owner = some request.owner) :
    entry.answered request = entry := by
  rw [answered, if_pos (refusal?_eq_none_of_own own), claimed, if_pos own]

theorem answered_of_refused (refused : entry.refusal? request ≠ none) :
    entry.answered request = entry :=
  if_neg refused

theorem answered_answered :
    (entry.answered request).answered request = entry.answered request := by
  by_cases granted : entry.refusal? request = none
  · apply answered_of_own
    rw [answered, if_pos granted, owner_claimed]
  · rw [answered_of_refused granted, answered_of_refused granted]

/-- Only a claim that is granted to a new holder changes an entry, and that one counts. -/
theorem answered_eq_self_iff :
    entry.answered request = entry ↔
      (entry.refusal? request = none → entry.owner = some request.owner) := by
  constructor
  · intro same granted
    have claimant : (entry.answered request).owner = some request.owner := by
      rw [answered, if_pos granted, owner_claimed]
    rwa [same] at claimant
  · intro own
    by_cases granted : entry.refusal? request = none
    · exact answered_of_own (own granted)
    · exact answered_of_refused granted

theorem releasedBy_of_held (held : entry.owner = some owner) :
    entry.releasedBy owner = entry.freed :=
  if_pos held

theorem releasedBy_of_unheld (unheld : entry.owner ≠ some owner) :
    entry.releasedBy owner = entry :=
  if_neg unheld

theorem owner_releasedBy : (entry.releasedBy owner).owner ≠ some owner := by
  by_cases held : entry.owner = some owner
  · simp [releasedBy_of_held held, freed]
  · rwa [releasedBy_of_unheld held]

theorem releasedBy_releasedBy :
    (entry.releasedBy owner).releasedBy owner = entry.releasedBy owner :=
  releasedBy_of_unheld owner_releasedBy

theorem releasedBy_eq_self_iff : entry.releasedBy owner = entry ↔ entry.owner ≠ some owner := by
  constructor
  · intro same
    rw [← same]
    exact owner_releasedBy
  · exact releasedBy_of_unheld

/-- A claim that expects no holder but the claimant is granted if nobody else holds the device. -/
theorem refusal?_eq_none_iff
    (expected : ∀ expected ∈ request.expectedOwner, expected = request.owner) :
    entry.refusal? request = none ↔ ∀ holder ∈ entry.owner, holder = request.owner := by
  constructor
  · intro granted holder held
    rw [Option.mem_def] at held
    by_contra elsewhere
    have unexpected : request.expectedOwner ≠ some holder :=
      fun named => elsewhere (expected holder named)
    simp [refusal?, held, elsewhere, unexpected] at granted
  · intro available
    cases held : entry.owner with
    | none => simp [refusal?, held]
    | some holder =>
        have own : holder = request.owner := available holder (by simp [held])
        exact refusal?_eq_none_of_own (by rw [held, own])

end LedgerEntry

namespace Ledger

variable {ledger : Ledger} {request : ClaimRequest} {device owner other : String}

theorem entry_claim :
    (ledger.claim request).2.entry other =
      if other = request.device then (ledger.entry other).answered request
      else ledger.entry other := by
  cases refused : (ledger.entry request.device).refusal? request with
  | some refusal =>
      rw [claim_eq_of_refusal refused]
      split
      next same =>
        subst same
        rw [LedgerEntry.answered_of_refused (by simp [refused])]
      next => rfl
  | none =>
      rw [claim_eq_of_grant refused, entry_update]
      split
      next same =>
        subst same
        rw [LedgerEntry.answered, if_pos refused]
      next => rfl

/-- A release changes at most the entry of its device, and makes no new one. -/
theorem find?_release (ledger : Ledger) (device owner other : String) :
    (ledger.release device owner).entries.find? other =
      if other = device then (ledger.entries.find? other).map fun entry => entry.releasedBy owner
      else ledger.entries.find? other := by
  unfold release entry
  cases found : ledger.entries.find? device with
  | none =>
      simp only [Option.getD_none, reduceCtorEq, if_false]
      split
      next same => rw [same, found, Option.map_none]
      next => rfl
  | some entry =>
      simp only [Option.getD_some]
      by_cases held : entry.owner = some owner
      · rw [if_pos held, update, Table.find?_insert]
        split
        next same => rw [same, found, Option.map_some, LedgerEntry.releasedBy_of_held held]
        next => rfl
      · rw [if_neg held]
        split
        next same => rw [same, found, Option.map_some, LedgerEntry.releasedBy_of_unheld held]
        next => rfl

theorem entry_release :
    (ledger.release device owner).entry other =
      if other = device then (ledger.entry other).releasedBy owner else ledger.entry other := by
  rw [entry, entry, find?_release]
  split
  next => cases ledger.entries.find? other <;> rfl
  next => rfl

end Ledger

namespace StorageSetRound

variable {owner : String} {devices : List BlockDevice} {names : List String} {name : String}
  {ledger : Ledger}

/-- The entry of a device after a storage set has claimed the device as it was shown it. -/
def claimedEntry (owner : String) (devices : List BlockDevice) (name : String)
    (entry : LedgerEntry) : LedgerEntry :=
  match BlockDevice.lastNamed? devices name with
  | none => entry
  | some device => entry.answered (claimFor owner name device)

theorem claimedEntry_claimedEntry (entry : LedgerEntry) :
    claimedEntry owner devices name (claimedEntry owner devices name entry) =
      claimedEntry owner devices name entry := by
  unfold claimedEntry
  split
  next => rfl
  next => exact LedgerEntry.answered_answered

theorem run_claimAll_cons (owner : String) (devices : List BlockDevice) (first : String)
    (rest : List String) (ledger : Ledger) :
    ∃ between, ((claimAll owner devices (first :: rest)).run ledger).2 =
        ((claimAll owner devices rest).run between).2 ∧
      ∀ name, between.entry name =
        if name = first then claimedEntry owner devices first (ledger.entry name)
        else ledger.entry name := by
  cases found : BlockDevice.lastNamed? devices first with
  | none =>
      refine ⟨ledger, by rw [claimAll, found], fun name => ?_⟩
      simp [claimedEntry, found]
  | some device =>
      refine ⟨(ledger.claim (claimFor owner first device)).2, ?_, fun name => ?_⟩
      · rw [claimAll, found]
        simp only [LedgerProgram.run]
        split
        next => rfl
        next => rw [LedgerProgram.run_bind]; rfl
      · rw [claimedEntry, found]
        exact Ledger.entry_claim

theorem entry_run_claimAll (names : List String) (ledger : Ledger) (name : String) :
    ((claimAll owner devices names).run ledger).2.entry name =
      if name ∈ names then claimedEntry owner devices name (ledger.entry name)
      else ledger.entry name := by
  induction names generalizing ledger with
  | nil => rfl
  | cons first rest ih =>
      obtain ⟨between, ran, entries⟩ := run_claimAll_cons owner devices first rest ledger
      rw [ran, ih between, entries]
      -- A name that comes again finds its entry answered, which changes nothing more.
      by_cases same : name = first
      · subst same
        simp [claimedEntry_claimedEntry]
      · simp [same]

theorem entry_run_releaseAll (names : List String) (ledger : Ledger) (name : String) :
    ((releaseAll owner devices names).run ledger).2.entry name =
      if name ∈ names then (ledger.entry name).releasedBy owner else ledger.entry name := by
  induction names generalizing ledger with
  | nil => rfl
  | cons first rest ih =>
      have ran : ((releaseAll owner devices (first :: rest)).run ledger).2 =
          ((releaseAll owner devices rest).run (ledger.release first owner)).2 := by
        rw [releaseAll, LedgerProgram.run, LedgerProgram.run_bind]
        split <;> rfl
      rw [ran, ih, Ledger.entry_release]
      by_cases same : name = first
      · subst same
        simp [LedgerEntry.releasedBy_releasedBy]
      · simp [same]

namespace Work

variable {work : Work}

/-- What makes a round change the entry of a device: it did not hold the device and was granted it,
or it held the device and gave it back. -/
inductive Changes (work : Work) (ledger : Ledger) (name : String) : Prop
  | granted (reserved : name ∈ work.reservations.reserved)
      (unheld : ledger.holder? name ≠ some work.owner)
      (accepted : ∃ device, BlockDevice.lastNamed? work.devices name = some device ∧
        (ledger.entry name).refusal? (claimFor work.owner name device) = none)
  | givenBack (released : name ∈ work.reservations.release)
      (held : ledger.holder? name = some work.owner)

theorem entry_run_perform (work : Work) (ledger : Ledger) (name : String) :
    ((perform work).run ledger).2.entry name =
      let claimed :=
        if name ∈ work.reservations.reserved then
          claimedEntry work.owner work.devices name (ledger.entry name)
        else ledger.entry name
      if name ∈ work.reservations.release then claimed.releasedBy work.owner else claimed := by
  rw [perform, LedgerProgram.run_bind, LedgerProgram.run_bind]
  show ((releaseAll work.owner work.devices work.reservations.release).run _).2.entry name = _
  rw [entry_run_releaseAll, entry_run_claimAll]

theorem claimedEntry_eq_self_iff :
    claimedEntry owner devices name (ledger.entry name) = ledger.entry name ↔
      ∀ device, BlockDevice.lastNamed? devices name = some device →
        (ledger.entry name).refusal? (claimFor owner name device) = none →
          ledger.holder? name = some owner := by
  unfold claimedEntry
  split
  next missing => simp [missing]
  next device found =>
    rw [LedgerEntry.answered_eq_self_iff]
    simp [found, Ledger.holder?, claimFor]

/-- A round leaves the entry of a device as it is, unless it changes it for one of the two
reasons. -/
theorem entry_run_perform_eq_iff
    (apart : ∀ name ∈ work.reservations.release, name ∉ work.reservations.reserved) :
    ((perform work).run ledger).2.entry name = ledger.entry name ↔ ¬ work.Changes ledger name := by
  rw [entry_run_perform]
  by_cases released : name ∈ work.reservations.release
  · have unplanned := apart name released
    simp only [if_pos released, if_neg unplanned]
    rw [LedgerEntry.releasedBy_eq_self_iff]
    constructor
    · rintro unheld (⟨reserved, -, -⟩ | ⟨-, held⟩)
      · exact unplanned reserved
      · exact unheld held
    · intro unchanged held
      exact unchanged (.givenBack released held)
  · simp only [if_neg released]
    by_cases reserved : name ∈ work.reservations.reserved
    · rw [if_pos reserved, claimedEntry_eq_self_iff]
      constructor
      · rintro own (⟨-, unheld, device, found, accepted⟩ | ⟨isReleased, -⟩)
        · exact unheld (own device found accepted)
        · exact released isReleased
      · intro unchanged device found accepted
        by_contra unheld
        exact unchanged (.granted reserved unheld ⟨device, found, accepted⟩)
    · rw [if_neg reserved]
      refine iff_of_true rfl ?_
      rintro (⟨isReserved, -, -⟩ | ⟨isReleased, -⟩)
      · exact reserved isReserved
      · exact released isReleased

end Work

/-- A round changes nothing if its storage set holds what it plans to reserve, and it gives nothing
back. -/
theorem not_changes_of_plan {request : HookRequest} {work : Work} {reservations : ReservationPlan}
    (planned : ((prepare request).toOption.map fun work => (work.owner, work.reservations)) =
      some (owner, reservations))
    (kept : reservations.release = [])
    (held : ∀ name ∈ reservations.reserved, ledger.holder? name = some owner)
    (prepared : prepare request = .ok work) : ¬ work.Changes ledger name := by
  rw [prepared] at planned
  obtain ⟨rfl, rfl⟩ := Prod.mk.inj (Option.some.inj planned)
  rintro (⟨reserved, unheld, -⟩ | ⟨released, -⟩)
  · exact unheld (held name reserved)
  · rw [kept] at released
    cases released

end StorageSetRound
end PoolPlanner
