import PoolPlanner.Ledger.Program

/-!
# Holders and programs over the ledger

A claim gives its device to the claimant or changes nothing, and only a holder's own release frees
a device.  A program acts for one storage set if each of its operations does; what it ends with may
depend on the claims that were granted to it, or on all that it did.
-/

namespace PoolPlanner

@[simp]
theorem LedgerEntry.owner_claimed (entry : LedgerEntry) (request : ClaimRequest) :
    (entry.claimed request).owner = some request.owner := by
  unfold claimed
  split
  next held => exact held
  next => rfl

namespace Ledger

variable {ledger : Ledger} {request : ClaimRequest} {device other owner holder : String}

theorem claim_eq_of_refusal {refusal : ClaimRefusal}
    (refused : (ledger.entry request.device).refusal? request = some refusal) :
    ledger.claim request = (.error refusal, ledger) := by
  simp [claim, refused]

theorem claim_eq_of_grant
    (granted : (ledger.entry request.device).refusal? request = none) :
    ledger.claim request =
      (.ok
          { device := request.device
            owner := request.owner
            generation := ((ledger.entry request.device).claimed request).generation
            observedVersion := ((ledger.entry request.device).claimed request).observedVersion },
        ledger.update request.device ((ledger.entry request.device).claimed request)) := by
  simp [claim, granted]

theorem holder?_claim_of_ok {reservation : Reservation}
    (granted : (ledger.claim request).1 = .ok reservation) :
    (ledger.claim request).2.holder? request.device = some request.owner := by
  cases refused : (ledger.entry request.device).refusal? request with
  | some refusal => simp [claim_eq_of_refusal refused] at granted
  | none => simp [claim_eq_of_grant refused, holder?]

/-- A claim on a device that nobody but the claimant holds is granted. -/
theorem exists_claim_of_available (request : ClaimRequest)
    (available : ∀ holder ∈ ledger.holder? request.device, holder = request.owner) :
    ∃ reservation after, ledger.claim request = (.ok reservation, after) ∧
      ∀ other, after.holder? other =
        if other = request.device then some request.owner else ledger.holder? other := by
  have granted : (ledger.entry request.device).refusal? request = none := by
    unfold LedgerEntry.refusal?
    split
    next => rfl
    next holder held => rw [if_pos (available holder held)]
  refine ⟨_, _, claim_eq_of_grant granted, fun other => ?_⟩
  by_cases same : other = request.device <;> simp [holder?, same]

theorem holder?_claim_of_ne (different : other ≠ request.device) :
    (ledger.claim request).2.holder? other = ledger.holder? other := by
  cases refused : (ledger.entry request.device).refusal? request with
  | some refusal => simp [claim_eq_of_refusal refused]
  | none => simp [claim_eq_of_grant refused, holder?, different]

/-- A claim that expects no holder but the claimant is refused while somebody else holds the
device. -/
theorem claim_of_held_elsewhere (held : ledger.holder? request.device = some holder)
    (elsewhere : holder ≠ request.owner)
    (expected : ∀ expected ∈ request.expectedOwner, expected = request.owner) :
    ledger.claim request = (.error (.reserved holder), ledger) := by
  have unexpected : request.expectedOwner ≠ some holder :=
    fun named => elsewhere (expected holder named)
  apply claim_eq_of_refusal
  rw [holder?] at held
  simp [LedgerEntry.refusal?, held, elsewhere, unexpected]

/-- A claim that expects no holder but the claimant takes nothing from another one. -/
theorem holder?_claim_of_held (held : ledger.holder? device = some holder)
    (expected : ∀ expected ∈ request.expectedOwner, expected = request.owner) :
    (ledger.claim request).2.holder? device = some holder := by
  by_cases same : device = request.device
  · subst same
    by_cases own : holder = request.owner
    · cases refused : (ledger.entry request.device).refusal? request with
      | some refusal => simpa [claim_eq_of_refusal refused] using held
      | none => simp [claim_eq_of_grant refused, holder?, own]
    · rw [claim_of_held_elsewhere held own expected]
      exact held
  · rw [holder?_claim_of_ne same]
    exact held

/-- Only the holder's own release of a device changes who holds it. -/
theorem holder?_release :
    (ledger.release device owner).holder? other =
      if other = device ∧ ledger.holder? device = some owner then none
      else ledger.holder? other := by
  unfold release
  by_cases held : ledger.holder? device = some owner
  · have entryHeld : (ledger.entry device).owner = some owner := held
    by_cases same : other = device <;> simp [entryHeld, same, holder?, LedgerEntry.freed]
  · have entryHeld : (ledger.entry device).owner ≠ some owner := held
    simp [entryHeld, held]

theorem map_owner_reservation? :
    (ledger.reservation? device).map Reservation.owner = ledger.holder? device := by
  unfold reservation? LedgerEntry.reservation? holder?
  cases (ledger.entry device).owner <;> rfl

end Ledger

namespace LedgerProgram

variable {α β : Type}

theorem run_bind (program : LedgerProgram α) (continuation : α → LedgerProgram β)
    (ledger : Ledger) :
    (program >>= continuation).run ledger =
      (continuation (program.run ledger).1).run (program.run ledger).2 := by
  show (program.andThen continuation).run ledger = _
  induction program generalizing ledger with
  | done result => rfl
  | claim request next ih => exact ih _ _
  | release device owner next ih => exact ih _
  | lookUp device next ih => exact ih _ _

/-- A program acts for a storage set: it only claims devices for it that it saw free or its own,
and only releases in its name.  What it ends with may depend on the devices it was granted, in
addition to those of before. -/
def ActsFor (owner : Option String) (ends : List String → α → Prop) :
    LedgerProgram α → List String → Prop
  | .done result, granted => ends granted result
  | .claim request next, granted =>
      owner = some request.owner ∧
        (∀ expected ∈ request.expectedOwner, expected = request.owner) ∧
        (∀ refusal, (next (.error refusal)).ActsFor owner ends granted) ∧
        ∀ reservation, (next (.ok reservation)).ActsFor owner ends (request.device :: granted)
  | .release _ releaser next, granted => owner = some releaser ∧ next.ActsFor owner ends granted
  | .lookUp _ next, granted => ∀ answer, (next answer).ActsFor owner ends granted

theorem ActsFor.bind {owner : Option String} {between : List String → α → Prop}
    {ends : List String → β → Prop} {program : LedgerProgram α}
    {continuation : α → LedgerProgram β} {granted : List String}
    (first : program.ActsFor owner between granted)
    (second : ∀ granted result, between granted result →
      (continuation result).ActsFor owner ends granted) :
    (program >>= continuation).ActsFor owner ends granted := by
  show (program.andThen continuation).ActsFor owner ends granted
  induction program generalizing granted with
  | done result => exact second granted result first
  | claim request next ih =>
      obtain ⟨own, expected, refused, accepted⟩ := first
      exact ⟨own, expected, fun refusal => ih _ (refused refusal),
        fun reservation => ih _ (accepted reservation)⟩
  | release device releaser next ih => exact ⟨first.1, ih first.2⟩
  | lookUp device next ih => exact fun answer => ih _ (first answer)

/-- A program that runs alone is granted every claim that it makes. -/
def ClaimsGranted : LedgerProgram α → Ledger → Prop
  | .done _, _ => True
  | .claim request next, ledger =>
      (∃ reservation, (ledger.claim request).1 = .ok reservation) ∧
        (next (ledger.claim request).1).ClaimsGranted (ledger.claim request).2
  | .release device owner next, ledger => next.ClaimsGranted (ledger.release device owner)
  | .lookUp device next, ledger => (next (ledger.reservation? device)).ClaimsGranted ledger

theorem ClaimsGranted.bind {program : LedgerProgram α} {continuation : α → LedgerProgram β}
    {ledger : Ledger} (first : program.ClaimsGranted ledger)
    (second : ∀ result after, (continuation result).ClaimsGranted after) :
    (program >>= continuation).ClaimsGranted ledger := by
  show (program.andThen continuation).ClaimsGranted ledger
  induction program generalizing ledger with
  | done result => exact second result ledger
  | claim request next ih => exact ⟨first.1, ih _ first.2⟩
  | release device owner next ih => exact ih first
  | lookUp device next ih => exact ih _ first

/-- An operation that a program has carried out, with what it was told. -/
inductive Operation
  | claim (request : ClaimRequest) (answer : Except ClaimRefusal Reservation)
  | release (device owner : String)
  | lookUp (device : String) (answer : Option Reservation)

/-- The next operation of a program, if it is not finished. -/
def operation? (program : LedgerProgram α) (ledger : Ledger) : Option Operation :=
  match program with
  | .done _ => none
  | .claim request _ => some (.claim request (ledger.claim request).1)
  | .release device owner _ => some (.release device owner)
  | .lookUp device _ => some (.lookUp device (ledger.reservation? device))

/-- The ledger after an operation. -/
def Operation.ledgerAfter (ledger : Ledger) : Operation → Ledger
  | .claim request _ => (ledger.claim request).2
  | .release device owner => ledger.release device owner
  | .lookUp _ _ => ledger

theorem exists_step?_of_operation? {program : LedgerProgram α} {ledger : Ledger}
    {operation : Operation} (next : program.operation? ledger = some operation) :
    ∃ remaining, program.step? ledger = some (remaining, operation.ledgerAfter ledger) := by
  cases program with
  | done result => cases next
  | claim request continuation =>
      obtain rfl := Option.some.inj next
      exact ⟨_, rfl⟩
  | release device owner continuation =>
      obtain rfl := Option.some.inj next
      exact ⟨_, rfl⟩
  | lookUp device continuation =>
      obtain rfl := Option.some.inj next
      exact ⟨_, rfl⟩

theorem eq_reservation?_of_lookUp {program : LedgerProgram α} {ledger : Ledger} {device : String}
    {answer : Option Reservation}
    (next : program.operation? ledger = some (.lookUp device answer)) :
    answer = ledger.reservation? device := by
  cases program with
  | lookUp wanted continuation =>
      obtain ⟨rfl, rfl⟩ := Operation.lookUp.inj (Option.some.inj next)
      rfl
  | _ => cases next

/-- What a program ends with fits the operations that it has carried out, those of before
included, whatever it is told. -/
def EndsWith (ends : List Operation → α → Prop) : LedgerProgram α → List Operation → Prop
  | .done result, past => ends past result
  | .claim request next, past =>
      ∀ answer, (next answer).EndsWith ends (.claim request answer :: past)
  | .release device owner next, past => next.EndsWith ends (.release device owner :: past)
  | .lookUp device next, past =>
      ∀ answer, (next answer).EndsWith ends (.lookUp device answer :: past)

/-- What a program ended with, if it is finished. -/
def result? : LedgerProgram α → Option α
  | .done result => some result
  | _ => none

theorem result?_eq_some_iff {program : LedgerProgram α} {result : α} :
    program.result? = some result ↔ program = .done result := by
  cases program <;> simp [result?]

section EndsWith

variable {ends : List Operation → α → Prop} {program : LedgerProgram α} {past : List Operation}

theorem EndsWith.bind {between : List Operation → α → Prop} {ends : List Operation → β → Prop}
    {continuation : α → LedgerProgram β} (first : program.EndsWith between past)
    (second : ∀ past result, between past result → (continuation result).EndsWith ends past) :
    (program >>= continuation).EndsWith ends past := by
  show (program.andThen continuation).EndsWith ends past
  induction program generalizing past with
  | done result => exact second past result first
  | claim request next ih => exact fun answer => ih answer (first answer)
  | release device owner next ih => exact ih first
  | lookUp device next ih => exact fun answer => ih answer (first answer)

/-- A program forgets none of its operations. -/
theorem EndsWith.including {initial : List Operation} (included : initial ⊆ past)
    (endsWith : program.EndsWith ends past) :
    program.EndsWith (fun final result => initial ⊆ final ∧ ends final result) past := by
  induction program generalizing past with
  | done result => exact ⟨included, endsWith⟩
  | claim request next ih =>
      exact fun answer => ih answer (List.subset_cons_of_subset _ included) (endsWith answer)
  | release device owner next ih =>
      exact ih (List.subset_cons_of_subset _ included) endsWith
  | lookUp device next ih =>
      exact fun answer => ih answer (List.subset_cons_of_subset _ included) (endsWith answer)

/-- What a program ends with when it runs alone. -/
theorem EndsWith.run (endsWith : program.EndsWith ends past) (ledger : Ledger) :
    ∃ final, ends final (program.run ledger).1 := by
  induction program generalizing past ledger with
  | done result => exact ⟨past, endsWith⟩
  | claim request next ih => exact ih _ (endsWith _) _
  | release device owner next ih => exact ih endsWith _
  | lookUp device next ih => exact ih _ (endsWith _) _

theorem EndsWith.step {ledger after : Ledger} {remaining : LedgerProgram α}
    (endsWith : program.EndsWith ends past)
    (stepped : program.step? ledger = some (remaining, after)) :
    ∃ operation, program.operation? ledger = some operation ∧
      remaining.EndsWith ends (operation :: past) := by
  cases program with
  | done result => cases stepped
  | claim request next =>
      obtain ⟨rfl, -⟩ := Prod.mk.inj (Option.some.inj stepped)
      exact ⟨_, rfl, endsWith _⟩
  | release device owner next =>
      obtain ⟨rfl, -⟩ := Prod.mk.inj (Option.some.inj stepped)
      exact ⟨_, rfl, endsWith⟩
  | lookUp device next =>
      obtain ⟨rfl, -⟩ := Prod.mk.inj (Option.some.inj stepped)
      exact ⟨_, rfl, endsWith _⟩

end EndsWith

end LedgerProgram
end PoolPlanner
