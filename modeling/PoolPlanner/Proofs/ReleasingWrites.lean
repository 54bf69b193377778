import PoolPlanner.Proofs.MarkerAgreement

/-!
# Writes that clear a reservation

A call clears the markers of devices that it was shown as its storage set's own, each when it has
just released the device, or found that its storage set does not hold it.  To release a device of
somebody else changes nothing in the ledger, but the device is cleared all the same.  So the write
hits another storage set's device if and only if that one holds the device when the call comes to
it, and it takes a marker that is out of date.
-/

namespace PoolPlanner

namespace BlockDevice

variable {device : BlockDevice} {owner : String}

/-- Whether nothing is recorded about a storage set, be it empty. -/
def isUnmarked (device : BlockDevice) : Bool :=
  let absent (table : Option (Table String)) : Bool :=
    (table.bind fun entries => entries.find? MarkerKey.storageSet).isNone
  absent device.metadata.annotations && absent device.metadata.labels

@[simp]
theorem isUnmarked_whole : device.whole.isUnmarked = device.isUnmarked :=
  rfl

@[simp]
theorem isUnmarked_reserve : (device.reserve owner).isUnmarked = false := by
  simp [isUnmarked, reserve, ObjectMeta.mark]

@[simp]
theorem isUnmarked_release : device.release.isUnmarked = true := by
  cases annotations : device.metadata.annotations <;> cases labels : device.metadata.labels <;>
    simp [isUnmarked, release, ObjectMeta.unmark, annotations, labels]

end BlockDevice

namespace Json

/-- Whether a document is a block device of a name without any reservation. -/
def clears (document : Json) (name : String) : Bool :=
  document.isDevice name && document.device?.any BlockDevice.isUnmarked

theorem clears_encode {device : BlockDevice} (fits : device.Fits) (name : String) :
    (Resource.encode device).clears name = true ↔
      device.name = name ∧ device.isUnmarked = true := by
  have found := device?_eq_some (BlockDevice.decode_encode fits)
  rw [clears, Bool.and_eq_true, isDevice_encode fits, found]
  simp

theorem clears_diskClaim (claim : DiskClaim) (name : String) :
    (Resource.encode claim).clears name = false := by
  simp [clears, isDevice_diskClaim]

end Json

/-- A device is attached and marked for a storage set. -/
def HookRequest.Shows (request : HookRequest) (device owner : String) : Prop :=
  ∃ devices, request.attachments.ofKind BlockDevice = .ok devices ∧
    ∃ shown ∈ devices, shown.name = device ∧ shown.owner? = some owner

/-- A device is released in the name of a storage set, or the storage set is found not to hold
it. -/
def LedgerProgram.Operation.GivesUp (device owner : String) : LedgerProgram.Operation → Prop
  | .claim _ _ => False
  | .release released releaser => released = device ∧ releaser = owner
  | .lookUp wanted answer => wanted = device ∧ ∀ found ∈ answer, found.owner ≠ owner

instance (operation : LedgerProgram.Operation) (device owner : String) :
    Decidable (operation.GivesUp device owner) :=
  match operation with
  | .claim _ _ => inferInstanceAs (Decidable False)
  | .release released releaser =>
      inferInstanceAs (Decidable (released = device ∧ releaser = owner))
  | .lookUp wanted answer =>
      inferInstanceAs (Decidable (wanted = device ∧ ∀ found ∈ answer, found.owner ≠ owner))

open LedgerProgram (Operation)

/-- Every device that some documents clear was shown as the storage set's own, and was given up
by it. -/
def HookRequest.ClearsGivenUp (request : HookRequest) (past : List Operation)
    (documents : List Json) : Prop :=
  ∀ document ∈ documents, ∀ device, document.clears device = true →
    ∃ owner, request.storageSetUid? = some owner ∧ request.Shows device owner ∧
      ∃ operation ∈ past, operation.GivesUp device owner

namespace HookRequest

variable {request : HookRequest} {past final : List Operation} {first second : List Json}

theorem clearsGivenUp_nil : request.ClearsGivenUp past [] := by
  simp [ClearsGivenUp]

theorem ClearsGivenUp.mono (cleared : request.ClearsGivenUp past first) (included : past ⊆ final) :
    request.ClearsGivenUp final first := by
  intro document member device clears
  obtain ⟨owner, identified, shown, operation, isPast, givesUp⟩ :=
    cleared document member device clears
  exact ⟨owner, identified, shown, operation, included isPast, givesUp⟩

theorem ClearsGivenUp.append (firstCleared : request.ClearsGivenUp past first)
    (secondCleared : request.ClearsGivenUp past second) :
    request.ClearsGivenUp past (first ++ second) := by
  intro document member
  rcases List.mem_append.1 member with inFirst | inSecond
  · exact firstCleared document inFirst
  · exact secondCleared document inSecond

theorem ClearsGivenUp.cons_reserve (cleared : request.ClearsGivenUp past first)
    {device : BlockDevice} (fits : device.Fits) (owner : String) :
    request.ClearsGivenUp past (Resource.encode (device.reserve owner) :: first) := by
  refine List.forall_mem_cons.2 ⟨fun name clears => ?_, cleared⟩
  rw [Json.clears_encode fits.reserve] at clears
  simp at clears

theorem ClearsGivenUp.cons_release (cleared : request.ClearsGivenUp past first)
    {device : BlockDevice} {owner : String} (fits : device.Fits)
    (identified : request.storageSetUid? = some owner) (shown : request.Shows device.name owner)
    {operation : Operation} (isPast : operation ∈ past)
    (givesUp : operation.GivesUp device.name owner) :
    request.ClearsGivenUp past (Resource.encode device.release :: first) := by
  refine List.forall_mem_cons.2 ⟨fun name clears => ?_, cleared⟩
  obtain ⟨rfl, -⟩ := (Json.clears_encode fits.release name).1 clears
  exact ⟨owner, identified, shown, operation, isPast, givesUp⟩

theorem clearsGivenUp_diskClaims (claims : List DiskClaim) :
    request.ClearsGivenUp past (claims.map Resource.encode) := by
  intro document member device clears
  obtain ⟨claim, -, rfl⟩ := List.mem_map.1 member
  rw [Json.clears_diskClaim] at clears
  cases clears

end HookRequest

namespace StorageSetRound

variable {request : HookRequest} {owner : String} {devices : List BlockDevice}

theorem claimAll_endsWith (request : HookRequest) (fits : ∀ device ∈ devices, device.Fits)
    (names : List String) (past : List Operation) :
    (claimAll owner devices names).EndsWith request.ClearsGivenUp past := by
  induction names generalizing past with
  | nil => exact HookRequest.clearsGivenUp_nil
  | cons name rest ih =>
      unfold claimAll
      split
      next => exact ih past
      next device found =>
        intro answer
        cases answer with
        | error refusal => exact ih _
        | ok reservation =>
            refine (ih _).bind fun final documents cleared => ?_
            have attached := List.mem_reverse.1 (List.mem_of_find?_eq_some found)
            exact cleared.cons_reserve (fits device attached) owner

theorem releaseAll_endsWith (fits : ∀ device ∈ devices, device.Fits)
    (identified : request.storageSetUid? = some owner) {names : List String}
    (shown : ∀ name ∈ names, request.Shows name owner) (past : List Operation) :
    (releaseAll owner devices names).EndsWith request.ClearsGivenUp past := by
  induction names generalizing past with
  | nil => exact HookRequest.clearsGivenUp_nil
  | cons name rest ih =>
      obtain ⟨nameShown, restShown⟩ := List.forall_mem_cons.1 shown
      refine ((ih restShown (.release name owner :: past)).including
        (List.Subset.refl _)).bind ?_
      rintro final documents ⟨included, cleared⟩
      split
      next => exact cleared
      next device found =>
        have attached := List.mem_reverse.1 (List.mem_of_find?_eq_some found)
        obtain rfl : device.name = name := by simpa using List.find?_some found
        exact cleared.cons_release (fits device attached) identified nameShown
          (included List.mem_cons_self) ⟨rfl, rfl⟩

theorem releaseHeld_endsWith (fits : ∀ device ∈ devices, device.Fits)
    (identified : request.storageSetUid? = some owner)
    (shown : ∀ device ∈ devices, device.owner? = some owner → request.Shows device.name owner)
    (past : List Operation) :
    (releaseHeld owner devices).EndsWith request.ClearsGivenUp past := by
  induction devices generalizing past with
  | nil => exact HookRequest.clearsGivenUp_nil
  | cons device rest ih =>
      obtain ⟨headFits, restFits⟩ := List.forall_mem_cons.1 fits
      obtain ⟨headShown, restShown⟩ := List.forall_mem_cons.1 shown
      -- The device is given up on either way, and then the rest of the program is the same.
      have goOn {past : List Operation} {operation : Operation} (isPast : operation ∈ past)
          (givesUp : operation.GivesUp device.name owner) : (do
            let documents ← releaseHeld owner rest
            if device.isOwnedBy owner then
              pure (Resource.encode device.release :: documents)
            else
              pure documents).EndsWith request.ClearsGivenUp past := by
        refine ((ih restFits restShown past).including (List.Subset.refl _)).bind ?_
        rintro final documents ⟨included, cleared⟩
        split
        next owned =>
          exact cleared.cons_release headFits identified (headShown (of_decide_eq_true owned))
            (included isPast) givesUp
        next => exact cleared
      intro answer
      show (if _ then LedgerProgram.release device.name owner _ else _).EndsWith _ _
      split
      next => exact goOn List.mem_cons_self ⟨rfl, rfl⟩
      next unheld =>
        refine goOn List.mem_cons_self ⟨rfl, fun found isFound own => unheld ?_⟩
        rw [Option.mem_def.1 isFound]
        exact decide_eq_true own

/-- What a round applies clears only devices that it has given up. -/
def AppliesGivenUp (request : HookRequest) (past : List Operation)
    (result : Except Fault RoundResult) : Prop :=
  ∀ attachments, result = .ok (.apply attachments) → request.ClearsGivenUp past attachments

theorem perform_endsWith {work : Work} (fits : ∀ device ∈ work.devices, device.Fits)
    (identified : request.storageSetUid? = some work.owner)
    (shown : ∀ name ∈ work.reservations.release, request.Shows name work.owner) :
    (perform work).EndsWith (AppliesGivenUp request) [] := by
  refine (claimAll_endsWith request fits _ []).bind fun between reserved reservedCleared => ?_
  refine ((releaseAll_endsWith fits identified shown between).including
    (List.Subset.refl _)).bind ?_
  rintro final released ⟨included, releasedCleared⟩ attachments applied
  obtain ⟨claims, -, same⟩ := map_eq_ok_iff.1 applied
  obtain rfl := RoundResult.apply.inj same
  exact ((reservedCleared.mono included).append releasedCleared).append
    (HookRequest.clearsGivenUp_diskClaims claims)

theorem run_endsWith (distinct : request.DistinctDevices) :
    (run request).EndsWith (AppliesGivenUp request) [] := by
  unfold run
  cases prepared : prepare request with
  | error fault =>
      intro attachments impossible
      cases impossible
  | ok work =>
      obtain ⟨identified, fits, -⟩ := acts_of_prepare distinct prepared
      refine perform_endsWith fits identified fun name released => ?_
      obtain ⟨⟨device, member, owned, named⟩, -⟩ :=
        ((wellPlanned_of_prepare distinct prepared).release_iff name).1 released
      exact ⟨work.devices, attached_of_prepare prepared, device, member, named, owned⟩

theorem finalize_endsWith (request : HookRequest) :
    (finalize request).EndsWith
      (fun past result => ∀ documents, result = .ok documents →
        request.ClearsGivenUp past documents) [] := by
  obtain ⟨result, ended, silent⟩ | ⟨storageSet, owner, devices, watched, isOwner, attached⟩ :=
    finalize_cases request
  · rw [ended]
    rintro documents rfl
    rw [show documents = [] from silent]
    exact HookRequest.clearsGivenUp_nil
  · have identified : request.storageSetUid? = some owner := by
      simp [HookRequest.storageSetUid?, watched, isOwner]
    have shown : ∀ device ∈ devices, device.owner? = some owner →
        request.Shows device.name owner :=
      fun device member owned => ⟨devices, attached, device, member, rfl, owned⟩
    simp only [finalize, watched, isOwner, attached]
    refine (releaseHeld_endsWith (Attachments.fits_of_ofKind attached) identified shown
      []).bind fun past documents cleared => ?_
    rintro others ⟨⟩
    exact cleared

end StorageSetRound

/-- A call clears only devices that it was shown as its storage set's own and has given up. -/
theorem Hook.sync_storageSet_endsWith {request : HookRequest} (settings : OperatorConfig)
    (now : Instant) (distinct : request.DistinctDevices) :
    (storageSet.sync request settings now).EndsWith
      (fun past answered => request.ClearsGivenUp past answered.1.attachments) [] := by
  unfold sync
  split
  next =>
    refine (StorageSetRound.finalize_endsWith request).bind fun past result cleared => ?_
    cases result with
    | error fault => exact HookRequest.clearsGivenUp_nil
    | ok attachments => exact cleared attachments rfl
  next =>
    refine (StorageSetRound.run_endsWith distinct).bind fun past result cleared => ?_
    exact attachments_answer HookRequest.clearsGivenUp_nil cleared

namespace SharedLedger

variable {moves : List Move} {moment index : Nat} {device owner : String}

/-- At a moment, a call carries out an operation. -/
def Performs (moves : List Move) (moment index : Nat) (operation : Operation) : Prop :=
  moves[moment]? = some (.advance index) ∧
    ∃ call, (stateAt moves moment).calls[index]? = some call ∧
      call.remaining.operation? (stateAt moves moment).ledger = some operation

/-- At a moment, a call gives up a device for a storage set; from then on it has the device's
cleared document, if it emits one. -/
def GivesUp (moves : List Move) (moment index : Nat) (device owner : String) : Prop :=
  ∃ operation, Performs moves moment index operation ∧ operation.GivesUp device owner

/-- A call clears devices only as given up, by operations that it carried out before a moment. -/
def ClearsFrom (moves : List Move) (moment index : Nat) (call : HookCall) : Prop :=
  ∃ past,
    call.remaining.EndsWith
      (fun past answered => call.request.ClearsGivenUp past answered.1.attachments) past ∧
    ∀ operation ∈ past, ∃ earlier < moment, Performs moves earlier index operation

theorem ClearsFrom.succ {call : HookCall} (clears : ClearsFrom moves moment index call) :
    ClearsFrom moves (moment + 1) index call := by
  obtain ⟨past, endsWith, before⟩ := clears
  refine ⟨past, endsWith, fun operation isPast => ?_⟩
  obtain ⟨earlier, isEarlier, performs⟩ := before operation isPast
  exact ⟨earlier, Nat.lt_succ_of_lt isEarlier, performs⟩

theorem callsClear (distinct : ∀ move ∈ moves, move.DistinctDevices) (moment index : Nat)
    (call : HookCall) (found : (stateAt moves moment).calls[index]? = some call) :
    ClearsFrom moves moment index call := by
  refine calls_induction ?_ ?_ ?_ moment index call found
  · intro moment index request settings now next
    have started : request.DistinctDevices := distinct _ (List.mem_of_getElem? next)
    exact ⟨[], Hook.sync_storageSet_endsWith settings now started, by simp⟩
  · intro moment index call clears
    exact clears.succ
  · intro moment index call remaining ledger next found stepped clears
    obtain ⟨past, endsWith, before⟩ := clears.succ
    obtain ⟨operation, isNext, remainingEndsWith⟩ := endsWith.step stepped
    refine ⟨operation :: past, remainingEndsWith, List.forall_mem_cons.2 ⟨?_, before⟩⟩
    exact ⟨moment, Nat.lt_succ_self moment, next, call, found, isNext⟩

theorem Performs.ledger_succ {operation : Operation}
    (performs : Performs moves moment index operation) :
    (stateAt moves (moment + 1)).ledger =
      operation.ledgerAfter (stateAt moves moment).ledger := by
  obtain ⟨next, call, found, isNext⟩ := performs
  obtain ⟨remaining, stepped⟩ := LedgerProgram.exists_step?_of_operation? isNext
  simp [stateAt_succ next, step, found, stepped]

/-- Who holds a device right after it was given up: not the storage set that gave it up, and
anybody else who held it before. -/
theorem GivesUp.holderAt_succ (givesUp : GivesUp moves moment index device owner)
    (holder : String) :
    holderAt moves (moment + 1) device = some holder ↔
      holder ≠ owner ∧ holderAt moves moment device = some holder := by
  obtain ⟨operation, performs, givesUp⟩ := givesUp
  rw [holderAt, performs.ledger_succ]
  cases operation with
  | claim request answer => exact givesUp.elim
  | release released releaser =>
      obtain ⟨rfl, rfl⟩ := givesUp
      rw [holderAt, LedgerProgram.Operation.ledgerAfter, Ledger.holder?_release]
      split
      next held =>
        rw [held.2]
        constructor
        · intro impossible
          cases impossible
        · rintro ⟨elsewhere, same⟩
          exact absurd (Option.some.inj same).symm elsewhere
      next unheld =>
        refine (and_iff_right_of_imp ?_).symm
        rintro held rfl
        exact unheld ⟨rfl, held⟩
  | lookUp wanted answer =>
      obtain ⟨rfl, unheld⟩ := givesUp
      obtain ⟨-, call, -, isNext⟩ := performs
      obtain rfl := LedgerProgram.eq_reservation?_of_lookUp isNext
      show holderAt moves moment wanted = some holder ↔ _
      refine (and_iff_right_of_imp fun held => ?_).symm
      rw [holderAt, ← Ledger.map_owner_reservation?, Option.map_eq_some_iff] at held
      obtain ⟨reservation, isFound, rfl⟩ := held
      exact unheld reservation isFound

/-- Whatever the interleaving of calls: a device that a call clears was shown to it as its storage
set's own, and the call gave it up before.  Another storage set holds the device then if and only if
it did so when the call came to it, and only after the storage set had freed what it held. -/
theorem cleared_devices_given_up (moves : List Move)
    (distinct : ∀ move ∈ moves, move.DistinctDevices) {moment index : Nat} {call : HookCall}
    (found : (stateAt moves moment).calls[index]? = some call)
    {response : HookResponse} {outcome : Outcome}
    (finished : call.remaining = .done (response, outcome)) {document : Json} {device : String}
    (emitted : document ∈ response.attachments) (clears : document.clears device = true) :
    ∃ owner, call.request.storageSetUid? = some owner ∧ call.request.Shows device owner ∧
      (∃ earlier < moment, GivesUp moves earlier index device owner) ∧
      ∀ earlier, GivesUp moves earlier index device owner →
        (∀ other, holderAt moves (earlier + 1) device = some other ↔
          other ≠ owner ∧ holderAt moves earlier device = some other) ∧
        ∀ other, holderAt moves (earlier + 1) device = some other →
          ∀ start ≤ earlier, holderAt moves start device = some owner →
            ∃ between, start ≤ between ∧ between < earlier ∧
              Frees moves between device owner := by
  obtain ⟨past, endsWith, before⟩ := callsClear distinct moment index call found
  rw [finished] at endsWith
  obtain ⟨owner, identified, shown, operation, isPast, givesUp⟩ :=
    endsWith document emitted device clears
  obtain ⟨earlier, isEarlier, performs⟩ := before operation isPast
  refine ⟨owner, identified, shown, ⟨earlier, isEarlier, operation, performs, givesUp⟩, ?_⟩
  intro earlier givenUp
  refine ⟨givenUp.holderAt_succ, fun other held start inOrder ownerHeld => ?_⟩
  obtain ⟨elsewhere, heldBefore⟩ := (givenUp.holderAt_succ other).1 held
  -- The storage set has lost the device since, and a holder loses it only by freeing it.
  refine exists_frees distinct inOrder ownerHeld fun stillHeld => elsewhere ?_
  exact Option.some.inj (heldBefore.symm.trans stillHeld)

/-- Whether a call is finished by a moment and clears a device. -/
def hasCleared (moves : List Move) (moment index : Nat) (device : String) : Bool :=
  (stateAt moves moment).calls[index]?.any fun call =>
    call.remaining.result?.any fun answered =>
      answered.1.attachments.any fun document => document.clears device

theorem exists_of_hasCleared (cleared : hasCleared moves moment index device = true) :
    ∃ call response outcome document, (stateAt moves moment).calls[index]? = some call ∧
      call.remaining = .done (response, outcome) ∧ document ∈ response.attachments ∧
      document.clears device = true := by
  obtain ⟨call, found, callCleared⟩ := (Option.any_eq_true _ _).1 cleared
  obtain ⟨⟨response, outcome⟩, finished, responseCleared⟩ := (Option.any_eq_true _ _).1 callCleared
  obtain ⟨document, emitted, clears⟩ := List.any_eq_true.1 responseCleared
  exact ⟨call, response, outcome, document, found, LedgerProgram.result?_eq_some_iff.1 finished,
    emitted, clears⟩

theorem contended_clears :
    (∀ move ∈ contended, move.DistinctDevices) ∧
      ∃ call response outcome document, (stateAt contended 7).calls[2]? = some call ∧
        call.remaining = .done (response, outcome) ∧ document ∈ response.attachments ∧
        document.clears "disk-1" = true ∧
        ∃ owner, call.request.storageSetUid? = some owner ∧ call.request.Shows "disk-1" owner ∧
          (∃ earlier < 7, GivesUp contended earlier 2 "disk-1" owner) ∧
          ∀ earlier, GivesUp contended earlier 2 "disk-1" owner → ∀ other,
            holderAt contended (earlier + 1) "disk-1" = some other ↔
              other ≠ owner ∧ holderAt contended earlier "disk-1" = some other := by
  have distinct : ∀ move ∈ contended, move.DistinctDevices := by
    simp [contended, callFor_distinctDevices]
  have cleared : hasCleared contended 7 2 "disk-1" = true := by
    decide +kernel
  obtain ⟨call, response, outcome, document, found, finished, emitted, clears⟩ :=
    exists_of_hasCleared cleared
  obtain ⟨owner, identified, shown, givenUp, holders⟩ :=
    cleared_devices_given_up contended distinct found finished emitted clears
  exact ⟨distinct, call, response, outcome, document, found, finished, emitted, clears, owner,
    identified, shown, givenUp, fun earlier givesUp => (holders earlier givesUp).1⟩

/-- The first storage set gives the device back and the second one gets it; then the first is called
again as it was before. -/
def outdated : List Move :=
  let call (uid node : String) (device : BlockDevice) : Move :=
    .start (DeviceStore.showing (DeviceStore.requestFor uid node false) device) {} .epoch
  [call "first" "node-1" onlyDevice, .advance 0,
    call "first" "node-2" (onlyDevice.reserve "first"), .advance 1,
    call "second" "node-1" onlyDevice, .advance 2,
    call "first" "node-2" (onlyDevice.reserve "first"), .advance 3]

/-- The last call releases nothing, and clears the second storage set's device. -/
theorem outdated_clears :
    (∀ move ∈ outdated, move.DistinctDevices) ∧
      ∃ call response outcome document, (stateAt outdated 8).calls[3]? = some call ∧
        call.request.storageSetUid? = some "first" ∧
        call.remaining = .done (response, outcome) ∧ document ∈ response.attachments ∧
        document.clears "disk-1" = true ∧ GivesUp outdated 7 3 "disk-1" "first" ∧
        holderAt outdated 8 "disk-1" = some "second" := by
  have free := DeviceStore.onlyDevice_fits
  have marked : (onlyDevice.reserve "first").Fits := free.reserve
  have distinct : ∀ move ∈ outdated, move.DistinctDevices := by
    simp [outdated, Move.DistinctDevices, DeviceStore.showing_distinct _ free,
      DeviceStore.showing_distinct _ marked]
  obtain ⟨cleared, identified, isGivenUp, held⟩ :
      hasCleared outdated 8 3 "disk-1" = true ∧
        ((stateAt outdated 8).calls[3]?.bind fun call => call.request.storageSetUid?) =
          some "first" ∧
        (((stateAt outdated 7).calls[3]?.bind fun call =>
          call.remaining.operation? (stateAt outdated 7).ledger).any fun operation =>
            operation.GivesUp "disk-1" "first") = true ∧
        holderAt outdated 8 "disk-1" = some "second" := by
    decide +kernel
  obtain ⟨call, response, outcome, document, found, finished, emitted, clears⟩ :=
    exists_of_hasCleared cleared
  rw [found] at identified
  have givesUp : GivesUp outdated 7 3 "disk-1" "first" := by
    obtain ⟨operation, next, givesUp⟩ := (Option.any_eq_true _ _).1 isGivenUp
    obtain ⟨earlier, earlierFound, isNext⟩ := Option.bind_eq_some_iff.1 next
    exact ⟨operation, ⟨rfl, earlier, earlierFound, isNext⟩, of_decide_eq_true givesUp⟩
  exact ⟨distinct, call, response, outcome, document, found, identified, finished, emitted, clears,
    givesUp, held⟩

end SharedLedger
end PoolPlanner
