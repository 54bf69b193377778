import PoolPlanner.Proofs.StorageSetCalls

/-!
# Devices are reserved exclusively

Any number of calls of the storage set hook share one ledger, and their operations are interleaved
in any order.  Every call acts for its own storage set, on whatever it was shown of the devices.  So
a device passes from one storage set to another only after the first has given it back, and nobody
is told of a reservation that the ledger did not grant.
-/

namespace PoolPlanner

structure HookCall where
  request : HookRequest
  remaining : LedgerProgram (HookResponse × Outcome)

structure SharedLedger where
  ledger : Ledger := .empty
  calls : List HookCall := []

/-- A new call comes in, or a call carries out its next operation. -/
inductive Move
  | start (request : HookRequest) (settings : OperatorConfig) (now : Instant)
  | advance (index : Nat)

namespace Move

def DistinctDevices : Move → Prop
  | .start request _ _ => request.DistinctDevices
  | .advance _ => True

@[simp]
theorem distinctDevices_advance (index : Nat) : (Move.advance index).DistinctDevices :=
  trivial

end Move

namespace SharedLedger

/-- What a move leads to; to advance a call that is finished, or is not there, changes nothing. -/
def step (state : SharedLedger) : Move → SharedLedger
  | .start request settings now =>
      { state with
        calls := state.calls ++ [⟨request, Hook.storageSet.sync request settings now⟩] }
  | .advance index =>
      match state.calls[index]? with
      | none => state
      | some call =>
          match call.remaining.step? state.ledger with
          | none => state
          | some (remaining, ledger) =>
              { ledger, calls := state.calls.set index { call with remaining } }

/-- The state after some moves, from an empty ledger and no calls. -/
def after (moves : List Move) : SharedLedger :=
  moves.foldl step {}

def stateAt (moves : List Move) (moment : Nat) : SharedLedger :=
  after (moves.take moment)

def holderAt (moves : List Move) (moment : Nat) (device : String) : Option String :=
  (stateAt moves moment).ledger.holder? device

def Runs (moves : List Move) (moment index : Nat) (owner : String)
    (program : LedgerProgram (HookResponse × Outcome)) : Prop :=
  moves[moment]? = some (.advance index) ∧
    ∃ call, (stateAt moves moment).calls[index]? = some call ∧
      call.request.storageSetUid? = some owner ∧ call.remaining = program

/-- At a moment, a call claims a device for its storage set and is granted it. -/
def Grants (moves : List Move) (moment index : Nat) (device owner : String) : Prop :=
  ∃ request next reservation, Runs moves moment index owner (.claim request next) ∧
    request.device = device ∧ request.owner = owner ∧
    ((stateAt moves moment).ledger.claim request).1 = .ok reservation

/-- At a moment, a call of the storage set that holds a device gives it back. -/
def Frees (moves : List Move) (moment : Nat) (device owner : String) : Prop :=
  holderAt moves moment device = some owner ∧
    (∃ index next, Runs moves moment index owner (.release device owner next)) ∧
    holderAt moves (moment + 1) device = none

section Steps

variable {moves : List Move} {moment index : Nat} {device owner : String}

theorem stateAt_succ {move : Move} (next : moves[moment]? = some move) :
    stateAt moves (moment + 1) = (stateAt moves moment).step move := by
  simp [stateAt, after, List.take_add_one, next]

theorem stateAt_succ_of_runs {program remaining : LedgerProgram (HookResponse × Outcome)}
    {ledger : Ledger} (runs : Runs moves moment index owner program)
    (stepped : program.step? (stateAt moves moment).ledger = some (remaining, ledger)) :
    (stateAt moves (moment + 1)).ledger = ledger := by
  obtain ⟨next, call, found, -, rfl⟩ := runs
  simp [stateAt_succ next, step, found, stepped]

theorem Runs.program_eq {otherIndex : Nat} {otherOwner : String}
    {program other : LedgerProgram (HookResponse × Outcome)}
    (runs : Runs moves moment index owner program)
    (otherRuns : Runs moves moment otherIndex otherOwner other) : program = other := by
  obtain ⟨next, call, found, -, rfl⟩ := runs
  obtain ⟨otherNext, otherCall, otherFound, -, rfl⟩ := otherRuns
  obtain rfl := Move.advance.inj (Option.some.inj (next.symm.trans otherNext))
  rw [Option.some.inj (found.symm.trans otherFound)]

theorem Grants.holderAt_succ (grants : Grants moves moment index device owner) :
    holderAt moves (moment + 1) device = some owner := by
  obtain ⟨request, next, reservation, runs, rfl, rfl, granted⟩ := grants
  rw [holderAt, stateAt_succ_of_runs runs rfl]
  exact Ledger.holder?_claim_of_ok granted

/-- A call acts for its storage set from a moment on, and whatever it was granted was granted by a
move before that moment. -/
def ActsFrom (moves : List Move) (moment index : Nat) (call : HookCall) : Prop :=
  ∃ granted,
    call.remaining.ActsFor call.request.storageSetUid?
      (fun granted answered =>
        Backed call.request.storageSetUid? granted answered.1.attachments) granted ∧
    ∀ device ∈ granted, ∃ owner, call.request.storageSetUid? = some owner ∧
      ∃ earlier < moment, Grants moves earlier index device owner

theorem ActsFrom.succ {call : HookCall} (acts : ActsFrom moves moment index call) :
    ActsFrom moves (moment + 1) index call := by
  obtain ⟨granted, callActs, before⟩ := acts
  refine ⟨granted, callActs, fun device member => ?_⟩
  obtain ⟨owner, identified, earlier, isEarlier, grants⟩ := before device member
  exact ⟨owner, identified, earlier, Nat.lt_succ_of_lt isEarlier, grants⟩

def CallsAct (moves : List Move) (moment : Nat) : Prop :=
  ∀ index call, (stateAt moves moment).calls[index]? = some call →
    ActsFrom moves moment index call

theorem stateAt_succ_of_none (ended : moves[moment]? = none) :
    stateAt moves (moment + 1) = stateAt moves moment := by
  simp [stateAt, List.take_add_one, ended]

theorem ActsFrom.of_step {call : HookCall}
    {remaining : LedgerProgram (HookResponse × Outcome)} {ledger : Ledger}
    (acts : ActsFrom moves moment index call) (next : moves[moment]? = some (.advance index))
    (found : (stateAt moves moment).calls[index]? = some call)
    (stepped : call.remaining.step? (stateAt moves moment).ledger = some (remaining, ledger)) :
    ActsFrom moves (moment + 1) index { call with remaining } := by
  obtain ⟨granted, callActs, before⟩ := acts.succ
  cases program : call.remaining with
  | done result => simp [program, LedgerProgram.step?] at stepped
  | claim request continuation =>
      rw [program] at callActs stepped
      obtain ⟨own, -, refused, accepted⟩ := callActs
      obtain ⟨rfl, -⟩ := Prod.mk.inj (Option.some.inj stepped)
      cases answered : ((stateAt moves moment).ledger.claim request).1 with
      | error refusal => exact ⟨granted, refused refusal, before⟩
      | ok reservation =>
          refine ⟨request.device :: granted, accepted reservation, ?_⟩
          refine List.forall_mem_cons.2 ⟨?_, before⟩
          exact ⟨request.owner, own, moment, Nat.lt_succ_self moment, request, continuation,
            reservation, ⟨next, call, found, own, program⟩, rfl, rfl, answered⟩
  | release released releaser continuation =>
      rw [program] at callActs stepped
      obtain ⟨rfl, -⟩ := Prod.mk.inj (Option.some.inj stepped)
      exact ⟨granted, callActs.2, before⟩
  | lookUp wanted continuation =>
      rw [program] at callActs stepped
      obtain ⟨rfl, -⟩ := Prod.mk.inj (Option.some.inj stepped)
      exact ⟨granted, callActs _, before⟩

theorem calls_induction {holds : Nat → Nat → HookCall → Prop}
    (starts : ∀ moment index request settings now,
      moves[moment]? = some (.start request settings now) →
      holds (moment + 1) index ⟨request, Hook.storageSet.sync request settings now⟩)
    (waits : ∀ moment index call, holds moment index call → holds (moment + 1) index call)
    (advances : ∀ moment index call remaining ledger, moves[moment]? = some (.advance index) →
      (stateAt moves moment).calls[index]? = some call →
      call.remaining.step? (stateAt moves moment).ledger = some (remaining, ledger) →
      holds moment index call → holds (moment + 1) index { call with remaining })
    (moment index : Nat) (call : HookCall)
    (found : (stateAt moves moment).calls[index]? = some call) : holds moment index call := by
  induction moment generalizing index call with
  | zero => simp [stateAt, after] at found
  | succ moment ih =>
      cases next : moves[moment]? with
      | none =>
          rw [stateAt_succ_of_none next] at found
          exact waits moment index call (ih index call found)
      | some move =>
          rw [stateAt_succ next] at found
          cases move with
          | start request settings now =>
              rcases Nat.lt_or_ge index (stateAt moves moment).calls.length with old | new
              · rw [step, List.getElem?_append_left old] at found
                exact waits moment index call (ih index call found)
              · rw [step, List.getElem?_append_right new, List.getElem?_singleton] at found
                split at found
                · obtain rfl := Option.some.inj found
                  exact starts moment index request settings now next
                · simp at found
          | advance advanced =>
              -- A call that is finished can not advance, and so waits as all others do.
              simp only [step] at found
              split at found
              next => exact waits moment index call (ih index call found)
              next running runningFound =>
                split at found
                next => exact waits moment index call (ih index call found)
                next remaining ledger stepped =>
                  by_cases same : advanced = index
                  · subst same
                    rw [List.getElem?_set_self (List.getElem?_eq_some_iff.1 runningFound).1]
                      at found
                    obtain rfl := Option.some.inj found
                    exact advances moment advanced running remaining ledger next runningFound
                      stepped (ih advanced running runningFound)
                  · rw [List.getElem?_set_ne same] at found
                    exact waits moment index call (ih index call found)

theorem callsAct (distinct : ∀ move ∈ moves, move.DistinctDevices) (moment : Nat) :
    CallsAct moves moment := by
  refine calls_induction ?_ ?_ ?_ moment
  · intro moment index request settings now next
    have started : request.DistinctDevices := distinct _ (List.mem_of_getElem? next)
    exact ⟨[], Hook.sync_storageSet_actsFor settings now started, by simp⟩
  · intro moment index call acts
    exact acts.succ
  · intro moment index call remaining ledger next found stepped acts
    exact acts.of_step next found stepped

theorem ledger_succ_cases (moves : List Move) (moment : Nat) :
    (stateAt moves (moment + 1)).ledger = (stateAt moves moment).ledger ∨
      ∃ index call, moves[moment]? = some (.advance index) ∧
        (stateAt moves moment).calls[index]? = some call ∧
        ((∃ request next, call.remaining = .claim request next) ∨
          ∃ device releaser next, call.remaining = .release device releaser next) := by
  cases next : moves[moment]? with
  | none => exact .inl (by rw [stateAt_succ_of_none next])
  | some move =>
      have moved := stateAt_succ next
      cases move with
      | start request settings now => exact .inl (by rw [moved]; rfl)
      | advance index =>
          cases found : (stateAt moves moment).calls[index]? with
          | none => exact .inl (by simp [moved, step, found])
          | some call =>
              cases program : call.remaining with
              | done result =>
                  exact .inl (by simp [moved, step, found, program, LedgerProgram.step?])
              | lookUp wanted continuation =>
                  exact .inl (by simp [moved, step, found, program, LedgerProgram.step?])
              | claim request continuation =>
                  exact .inr ⟨index, call, rfl, found, .inl ⟨request, continuation, program⟩⟩
              | release device releaser continuation =>
                  exact .inr
                    ⟨index, call, rfl, found, .inr ⟨device, releaser, continuation, program⟩⟩

theorem holderAt_succ_cases (acts : CallsAct moves moment)
    (held : holderAt moves moment device = some owner) :
    holderAt moves (moment + 1) device = some owner ∨ Frees moves moment device owner := by
  obtain sameLedger | ⟨index, call, next, found, ⟨request, continuation, program⟩ |
      ⟨released, releaser, continuation, program⟩⟩ := ledger_succ_cases moves moment
  · rw [holderAt, sameLedger]
    exact .inl held
  · obtain ⟨granted, callActs, -⟩ := acts index call found
    rw [program] at callActs
    have runs : Runs moves moment index request.owner (.claim request continuation) :=
      ⟨next, call, found, callActs.1, program⟩
    rw [holderAt, stateAt_succ_of_runs runs rfl]
    exact .inl (Ledger.holder?_claim_of_held held callActs.2.1)
  · obtain ⟨granted, callActs, -⟩ := acts index call found
    rw [program] at callActs
    have runs : Runs moves moment index releaser (.release released releaser continuation) :=
      ⟨next, call, found, callActs.1, program⟩
    have afterRelease : holderAt moves (moment + 1) device =
        ((stateAt moves moment).ledger.release released releaser).holder? device := by
      rw [holderAt, stateAt_succ_of_runs runs rfl]
    rw [Ledger.holder?_release] at afterRelease
    split at afterRelease
    next own =>
      obtain ⟨rfl, releaserHolds⟩ := own
      obtain rfl := Option.some.inj (held.symm.trans releaserHolds)
      exact .inr ⟨held, ⟨index, continuation, runs⟩, afterRelease⟩
    next => exact .inl (afterRelease.trans held)

/-- A device that is no longer with its holder was freed by it in between. -/
theorem exists_frees (distinct : ∀ move ∈ moves, move.DistinctDevices) {start finish : Nat}
    (inOrder : start ≤ finish) (held : holderAt moves start device = some owner)
    (lost : holderAt moves finish device ≠ some owner) :
    ∃ moment, start ≤ moment ∧ moment < finish ∧ Frees moves moment device owner := by
  obtain ⟨steps, rfl⟩ := Nat.exists_eq_add_of_le inOrder
  induction steps with
  | zero => exact absurd held lost
  | succ steps ih =>
      by_cases stillHeld : holderAt moves (start + steps) device = some owner
      · rcases holderAt_succ_cases (callsAct distinct _) stillHeld with kept | frees
        · exact absurd kept lost
        · exact ⟨start + steps, Nat.le_add_right _ _, Nat.lt_succ_self _, frees⟩
      · obtain ⟨moment, notBefore, isEarlier, frees⟩ := ih (Nat.le_add_right _ _) stillHeld
        exact ⟨moment, notBefore, Nat.lt_succ_of_lt isEarlier, frees⟩

/-- A reservation that a finished call emits is for its own storage set and was granted to it. -/
theorem exists_grants_of_reserves (distinct : ∀ move ∈ moves, move.DistinctDevices)
    {call : HookCall} (found : (stateAt moves moment).calls[index]? = some call)
    {response : HookResponse} {outcome : Outcome}
    (finished : call.remaining = .done (response, outcome)) {document : Json}
    (emitted : document ∈ response.attachments) (reserves : document.Reserves device owner) :
    call.request.storageSetUid? = some owner ∧
      ∃ earlier < moment, Grants moves earlier index device owner := by
  obtain ⟨granted, callActs, before⟩ := callsAct distinct moment index call found
  rw [finished] at callActs
  obtain ⟨identified, member⟩ := callActs document emitted device owner reserves
  obtain ⟨_, identifiedAgain, earlier, isEarlier, grants⟩ := before device member
  obtain rfl := Option.some.inj (identified.symm.trans identifiedAgain)
  exact ⟨identified, earlier, isEarlier, grants⟩

end Steps

/-- Whatever the interleaving of calls: a device passes to another storage set only after its
holder has freed it; a call that emits a reservation was granted it, and then held the device; and
between grants to two storage sets the first one has freed the device. -/
theorem reservations_exclusive (moves : List Move)
    (distinct : ∀ move ∈ moves, move.DistinctDevices) :
    (∀ device first second start finish, start ≤ finish → first ≠ second →
      holderAt moves start device = some first → holderAt moves finish device = some second →
      ∃ moment, start ≤ moment ∧ moment < finish ∧ Frees moves moment device first) ∧
    (∀ moment index call response outcome,
      (stateAt moves moment).calls[index]? = some call →
      call.remaining = .done (response, outcome) →
      ∀ document ∈ response.attachments, ∀ device owner, document.Reserves device owner →
        call.request.storageSetUid? = some owner ∧
        ∃ earlier < moment, Grants moves earlier index device owner ∧
          holderAt moves (earlier + 1) device = some owner) ∧
    (∀ device first second earlier later earlierCall laterCall, earlier < later →
      first ≠ second → Grants moves earlier earlierCall device first →
      Grants moves later laterCall device second →
      ∃ moment, earlier < moment ∧ moment < later ∧ Frees moves moment device first) := by
  refine ⟨?_, ?_, ?_⟩
  · intro device first second start finish inOrder different held taken
    refine exists_frees distinct inOrder held fun stillHeld => different ?_
    exact Option.some.inj (stillHeld.symm.trans taken)
  · intro moment index call response outcome found finished document emitted device owner reserves
    obtain ⟨identified, earlier, isEarlier, grants⟩ :=
      exists_grants_of_reserves distinct found finished emitted reserves
    exact ⟨identified, earlier, isEarlier, grants, grants.holderAt_succ⟩
  · intro device first second earlier later earlierCall laterCall before different firstGrants
      secondGrants
    have lost : holderAt moves (later + 1) device ≠ some first := by
      rw [secondGrants.holderAt_succ]
      exact fun same => different (Option.some.inj same.symm)
    obtain ⟨moment, notBefore, isEarlier, frees⟩ := exists_frees distinct
      (Nat.succ_le_succ (Nat.le_of_lt before)) firstGrants.holderAt_succ lost
    refine ⟨moment, notBefore, Nat.lt_of_le_of_ne (Nat.le_of_lt_succ isEarlier) ?_, frees⟩
    -- The later grant's own move is a claim and so frees nothing.
    rintro rfl
    obtain ⟨-, ⟨index, continuation, releases⟩, -⟩ := frees
    obtain ⟨request, next, reservation, claims, -⟩ := secondGrants
    cases releases.program_eq claims

def callFor (uid : String) (device : BlockDevice) (finalizing : Bool) : Move :=
  let storageSet : StorageSet :=
    { metadata := ObjectMeta.mark { name := some uid, uid := some uid } MarkerKey.clusterPlan "plan"
      spec := { node := ⟨"node-1", "node"⟩, disk := ⟨"1Gi", 1⟩ } }
  let plan : ClusterPlan :=
    { metadata := ObjectMeta.mark { uid := some "plan" } MarkerKey.clusterConfig "config"
      spec := {} }
  let config : ClusterConfig := { metadata := { uid := some "config" }, spec := {} }
  let attachments :=
    ((Attachments.attach .empty plan).attach config).attach device
  .start { watch := Resource.encode storageSet, attachments, finalizing } {} .epoch

theorem callFor_distinctDevices (uid : String) (device : BlockDevice) (finalizing : Bool) :
    (callFor uid device finalizing).DistinctDevices := by
  intro devices found
  have single := (Attachments.ofKind_eq_ok_iff.1 found).length_eq
  have oneDocument : devices.length = 1 := by
    rw [← single]
    rfl
  obtain ⟨only, rfl⟩ := List.length_eq_one_iff.1 oneDocument
  simp

def onlyDevice : BlockDevice where
  metadata := { name := some "disk-1" }
  spec := { capacity := ⟨2 ^ 30⟩, nodeAttributes := ⟨"node-1"⟩ }
  status := some ⟨.unclaimed, .active⟩

/-- Two storage sets want the only device: the second is refused it at first, and gets it once the
first has been cleaned up. -/
def contended : List Move :=
  [callFor "first" onlyDevice false, callFor "second" onlyDevice false, .advance 0, .advance 1,
    callFor "first" (onlyDevice.reserve "first") true, .advance 2, .advance 2,
    callFor "second" onlyDevice false, .advance 3]

theorem contended_frees :
    (∀ move ∈ contended, move.DistinctDevices) ∧
      holderAt contended 4 "disk-1" = some "first" ∧
      holderAt contended 9 "disk-1" = some "second" ∧
      ∃ moment, 4 ≤ moment ∧ moment < 9 ∧ Frees contended moment "disk-1" "first" := by
  have distinct : ∀ move ∈ contended, move.DistinctDevices := by
    simp [contended, callFor_distinctDevices]
  have firstHolds : holderAt contended 4 "disk-1" = some "first" := by
    decide +kernel
  have secondHolds : holderAt contended 9 "disk-1" = some "second" := by
    decide +kernel
  exact ⟨distinct, firstHolds, secondHolds,
    (reservations_exclusive contended distinct).1 "disk-1" "first" "second" 4 9 (by decide)
      (by decide) firstHolds secondHolds⟩

end SharedLedger
end PoolPlanner
