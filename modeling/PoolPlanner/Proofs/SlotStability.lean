import PoolPlanner.Proofs.PoolAssembly

/-!
# Devices keep their slots over a run

A run of assembling rounds, each of which observes the pool cluster that was assembled last.  A
device that stays reserved never moves within the pool of its host: the pool never shrinks, so every
slot in front of it is refilled.  A round that is repeated on its own result changes nothing.
-/

namespace PoolPlanner

namespace AssemblyInput

def observing (input : AssemblyInput) (observed : Option PoolCluster) : AssemblyInput :=
  { input with observed }

def serving? (input : AssemblyInput) (host : String) : Option StorageSet :=
  (input.plan.spec.nodes.find? fun node => node.name = host).bind fun node =>
    input.storageSets.find? fun storageSet => storageSet.spec.node.uid = node.uid

/-- No node name is planned twice, and no device is reserved twice for a storage set. -/
structure Distinct (input : AssemblyInput) : Prop where
  nodeNames : (input.plan.spec.nodes.map PlannedNode.name).Nodup
  reservations : ∀ uid names, input.reserved.find? uid = some names → names.Nodup

/-- A later round goes on with a device of a host: the storage set that serves the host asks for as
many disks as in the earlier round, and still has the device reserved. -/
def GoesOnWith (later earlier : AssemblyInput) (host device : String) : Prop :=
  ∃ serving, later.serving? host = some serving ∧
    (earlier.serving? host).map StorageSet.desiredDiskCount = some serving.desiredDiskCount ∧
    device ∈ PoolAssembly.reservedFor later.reserved serving

end AssemblyInput

namespace PoolAssembly

section Round

variable {input : AssemblyInput} {layout : RaidLayout} {node : PlannedNode}
  {storageSet serving : StorageSet} {cluster : PoolCluster} {host : String}

theorem reservedFor_nodup (distinct : input.Distinct) :
    (reservedFor input.reserved storageSet).Nodup := by
  unfold reservedFor
  cases found : storageSet.metadata.uid.bind input.reserved.find? with
  | none => exact .nil
  | some names =>
      obtain ⟨uid, -, listed⟩ := Option.bind_eq_some_iff.1 found
      exact distinct.reservations uid names listed

theorem find?_pool_of_buildPools {nodes : List PlannedNode} {pools : List PoolSpec}
    (built : buildPools input layout nodes = .ok (.ready pools)) (host : String) :
    match nodes.find? fun node => node.name = host with
    | none => (pools.find? fun pool => pool.node? = some host) = none
    | some node => ∃ storageSet pool,
        (input.storageSets.find? fun storageSet => storageSet.spec.node.uid = node.uid) =
            some storageSet ∧
          buildPool input layout node storageSet = .ok pool ∧
          (pools.find? fun pool => pool.node? = some host) = some pool := by
  induction buildPools_eq_ready_iff.1 built with
  | nil => rfl
  | @cons node pool rest others partner partners ih =>
      obtain ⟨storageSet, found, poolBuilt⟩ := partner
      have pinned := node?_of_buildPool poolBuilt
      by_cases named : node.name = host
      · rw [List.find?_cons_of_pos (by simpa using named)]
        refine ⟨storageSet, pool, found, poolBuilt, ?_⟩
        rw [List.find?_cons_of_pos (by simpa [pinned] using named)]
      · rw [List.find?_cons_of_neg (by simpa using named),
          List.find?_cons_of_neg (by simpa [pinned] using named)]
        exact ih (buildPools_eq_ready_iff.2 partners)

/-- An assembled cluster lists for a host the devices that its storage set contributes, and nothing
for a host that is not planned. -/
theorem deviceOrder_of_assemble (assembled : assemble input = .ok (.ready cluster))
    (host : String) :
    (∃ node serving, (input.plan.spec.nodes.find? fun node => node.name = host) = some node ∧
      input.serving? host = some serving ∧
      cluster.deviceOrder host = finalDevices input node serving) ∨
    (input.serving? host = none ∧ cluster.deviceOrder host = []) := by
  obtain ⟨planUid, config, configUid, layout, pools, metadata, -, -, -, -, -, built, -, rfl⟩ :=
    assemble_eq_ready_iff.1 assembled
  have poolOfHost := find?_pool_of_buildPools built host
  cases nodeFound : input.plan.spec.nodes.find? fun node => node.name = host with
  | none =>
      rw [nodeFound] at poolOfHost
      refine .inr ⟨by simp [AssemblyInput.serving?, nodeFound], ?_⟩
      simp only [PoolCluster.deviceOrder, poolOfHost]
  | some node =>
      rw [nodeFound] at poolOfHost
      obtain ⟨storageSet, pool, found, poolBuilt, poolFound⟩ := poolOfHost
      refine .inl ⟨node, storageSet, rfl, by simp [AssemblyInput.serving?, nodeFound, found], ?_⟩
      rw [PoolCluster.deviceOrder, poolFound]
      exact deviceNames_of_buildPool poolBuilt

theorem deviceOrder_nodup_of_assemble (assembled : assemble input = .ok (.ready cluster))
    (host : String) : (cluster.deviceOrder host).Nodup := by
  rcases deviceOrder_of_assemble assembled host with ⟨node, serving, -, -, listed⟩ | ⟨-, nothing⟩
  · rw [listed]
    exact finalDevices_nodup
  · rw [nothing]
    exact .nil

def OrdersDistinct (observed : Option PoolCluster) : Prop :=
  ∀ cluster ∈ observed, ∀ host, (cluster.deviceOrder host).Nodup

theorem OrdersDistinct.observedOrder_nodup (distinct : OrdersDistinct input.observed)
    (node : PlannedNode) : (observedOrder input node).Nodup := by
  unfold observedOrder
  cases present : input.observed with
  | none => exact .nil
  | some observed => exact distinct observed present node.name

theorem mem_storageSets_of_serving? (served : input.serving? host = some serving) :
    serving ∈ input.storageSets := by
  obtain ⟨node, -, found⟩ := Option.bind_eq_some_iff.1 served
  exact List.mem_of_find?_eq_some found

theorem desiredDiskCount_le_of_assemble (assembled : assemble input = .ok (.ready cluster))
    (member : storageSet ∈ input.storageSets) :
    storageSet.desiredDiskCount ≤ (reservedFor input.reserved storageSet).length := by
  obtain ⟨-, -, -, -, -, -, -, -, -, -, gated, -, -, -⟩ := assemble_eq_ready_iff.1 assembled
  exact (gate_eq_none_iff.1 gated).2.2 storageSet member

theorem deviceOrder_length_of_assemble (distinct : input.Distinct)
    (observed : OrdersDistinct input.observed) (assembled : assemble input = .ok (.ready cluster))
    (served : input.serving? host = some serving) :
    (cluster.deviceOrder host).length = serving.desiredDiskCount := by
  rcases deviceOrder_of_assemble assembled host with ⟨node, found, -, same, listed⟩ | ⟨unserved, -⟩
  · obtain rfl : serving = found := Option.some.inj (served.symm.trans same)
    rw [listed]
    exact finalDevices_length (observed.observedOrder_nodup node) (reservedFor_nodup distinct)
      (desiredDiskCount_le_of_assemble assembled (mem_storageSets_of_serving? served))
  · rw [unserved] at served
    simp at served

end Round

/-- A cluster has a device in a slot of the pool of a host, which has as many devices as its storage
set asks for and none twice. -/
structure InSlot (cluster : PoolCluster) (host : String) (count slot : Nat) (device : String) :
    Prop where
  distinct : (cluster.deviceOrder host).Nodup
  full : (cluster.deviceOrder host).length = count
  found : (cluster.deviceOrder host)[slot]? = some device

/-- A round that goes on with a device leaves it in its slot. -/
theorem InSlot.of_assemble {round : AssemblyInput} {observed cluster : PoolCluster}
    {host device : String} {count slot : Nat} (there : InSlot observed host count slot device)
    (distinct : round.Distinct) (ordersDistinct : OrdersDistinct (some observed))
    (assembled : assemble (round.observing (some observed)) = .ok (.ready cluster))
    {serving : StorageSet} (served : round.serving? host = some serving)
    (asked : serving.desiredDiskCount = count)
    (reserved : device ∈ reservedFor round.reserved serving) :
    InSlot cluster host count slot device := by
  have distinctInput : (round.observing (some observed)).Distinct :=
    ⟨distinct.nodeNames, distinct.reservations⟩
  refine ⟨deviceOrder_nodup_of_assemble assembled host, ?_, ?_⟩
  · rw [← asked]
    exact deviceOrder_length_of_assemble distinctInput ordersDistinct assembled served
  · rcases deviceOrder_of_assemble assembled host with
      ⟨node, found, nodeFound, same, listed⟩ | ⟨unserved, -⟩
    · obtain rfl : serving = found := Option.some.inj (served.symm.trans same)
      have named : node.name = host := by simpa using List.find?_some nodeFound
      have order : observedOrder (round.observing (some observed)) node =
          observed.deviceOrder host := by
        rw [← named]
        rfl
      have enough :=
        desiredDiskCount_le_of_assemble assembled (mem_storageSets_of_serving? same)
      have pickedCount : (pickDevices (observed.deviceOrder host)
          (reservedFor round.reserved serving) serving.desiredDiskCount).length =
            serving.desiredDiskCount :=
        pickDevices_length there.distinct (reservedFor_nodup distinct) enough
      rw [listed, finalDevices_eq, order]
      refine slotMerge_getElem?_of_mem there.distinct (pickDevices_nodup there.distinct) ?_
        there.found ?_
      · exact Nat.le_of_eq (there.full.trans (asked.symm.trans pickedCount.symm))
      · exact mem_pickDevices_of_mem (List.mem_of_getElem? there.found) reserved
          (Nat.le_of_eq (there.full.trans asked.symm))
    · have noneServes : round.serving? host = none := unserved
      rw [noneServes] at served
      simp at served

section Run

variable {rounds : List AssemblyInput} {index : Nat} {round : AssemblyInput}
  {cluster : PoolCluster}

/-- The pool cluster that is there after a round: the one that it assembled, if it did. -/
def afterRound (observed : Option PoolCluster) (round : AssemblyInput) : Option PoolCluster :=
  match assemble (round.observing observed) with
  | .ok (.ready cluster) => some cluster
  | _ => observed

/-- The pool cluster that a round observes: the one that was assembled last before it. -/
def observedAt (rounds : List AssemblyInput) (index : Nat) : Option PoolCluster :=
  (rounds.take index).foldl afterRound none

def Assembles (rounds : List AssemblyInput) (index : Nat) (round : AssemblyInput)
    (cluster : PoolCluster) : Prop :=
  rounds[index]? = some round ∧
    assemble (round.observing (observedAt rounds index)) = .ok (.ready cluster)

theorem afterRound_eq_of_ready {observed : Option PoolCluster}
    (assembled : assemble (round.observing observed) = .ok (.ready cluster)) :
    afterRound observed round = some cluster := by
  simp only [afterRound, assembled]

theorem afterRound_cases (observed : Option PoolCluster) (round : AssemblyInput) :
    (∃ cluster, assemble (round.observing observed) = .ok (.ready cluster) ∧
      afterRound observed round = some cluster) ∨ afterRound observed round = observed := by
  unfold afterRound
  split
  next cluster assembled => exact .inl ⟨cluster, assembled, rfl⟩
  next => exact .inr rfl

theorem observedAt_succ (found : rounds[index]? = some round) :
    observedAt rounds (index + 1) = afterRound (observedAt rounds index) round := by
  simp [observedAt, List.take_add_one, found]

theorem observedAt_succ_of_none (ended : rounds[index]? = none) :
    observedAt rounds (index + 1) = observedAt rounds index := by
  simp [observedAt, List.take_add_one, ended]

theorem Assembles.observedAt_succ (assembles : Assembles rounds index round cluster) :
    observedAt rounds (index + 1) = some cluster := by
  rw [PoolAssembly.observedAt_succ assembles.1, afterRound_eq_of_ready assembles.2]

theorem ordersDistinct_observedAt (rounds : List AssemblyInput) (index : Nat) :
    OrdersDistinct (observedAt rounds index) := by
  induction index with
  | zero =>
      intro cluster present
      simp [observedAt] at present
  | succ index ih =>
      cases found : rounds[index]? with
      | none =>
          rw [observedAt_succ_of_none found]
          exact ih
      | some round =>
          rw [observedAt_succ found]
          rcases afterRound_cases (observedAt rounds index) round with
            ⟨cluster, assembled, after⟩ | same
          · rw [after]
            rintro _ ⟨⟩ host
            exact deviceOrder_nodup_of_assemble assembled host
          · rw [same]
            exact ih

/-- A device that the rounds go on with is in its slot after each of them. -/
theorem exists_inSlot_observedAt {host device : String} {count slot first : Nat}
    {firstCluster : PoolCluster} (distinct : ∀ round ∈ rounds, round.Distinct)
    (present : observedAt rounds (first + 1) = some firstCluster)
    (there : InSlot firstCluster host count slot device) (steps : Nat)
    (goesOn : ∀ index round cluster, first < index → index ≤ first + steps →
      Assembles rounds index round cluster →
      ∃ serving, round.serving? host = some serving ∧ serving.desiredDiskCount = count ∧
        device ∈ reservedFor round.reserved serving) :
    ∃ cluster, observedAt rounds (first + steps + 1) = some cluster ∧
      InSlot cluster host count slot device := by
  induction steps with
  | zero => exact ⟨firstCluster, present, there⟩
  | succ steps ih =>
      obtain ⟨observed, observedEq, observedThere⟩ := ih fun index round cluster after before =>
        goesOn index round cluster after (Nat.le_succ_of_le before)
      have ordersDistinct := ordersDistinct_observedAt rounds (first + steps + 1)
      rw [observedEq] at ordersDistinct
      cases found : rounds[first + steps + 1]? with
      | none => exact ⟨observed, (observedAt_succ_of_none found).trans observedEq, observedThere⟩
      | some round =>
          have next := observedAt_succ found
          rw [observedEq] at next
          rcases afterRound_cases (some observed) round with ⟨cluster, assembled, after⟩ | same
          · obtain ⟨serving, served, asked, reserved⟩ :=
              goesOn (first + steps + 1) round cluster (by omega) (Nat.le_refl _)
                ⟨found, by rwa [observedEq]⟩
            exact ⟨cluster, next.trans after, observedThere.of_assemble
              (distinct round (List.mem_of_getElem? found)) ordersDistinct assembled served asked
              reserved⟩
          · exact ⟨observed, next.trans same, observedThere⟩

theorem finalDevices_observing_self (distinct : round.Distinct)
    (ordersDistinct : OrdersDistinct round.observed)
    (assembled : assemble round = .ok (.ready cluster)) {node : PlannedNode}
    (member : node ∈ round.plan.spec.nodes) {storageSet : StorageSet}
    (found : (round.storageSets.find? fun storageSet => storageSet.spec.node.uid = node.uid) =
      some storageSet) :
    finalDevices (round.observing (some cluster)) node storageSet =
      finalDevices round node storageSet := by
  have nodeFound : (round.plan.spec.nodes.find? fun other => other.name = node.name) =
      some node := (find?_key_eq_some_iff PlannedNode.name distinct.nodeNames).2 ⟨member, rfl⟩
  have served : round.serving? node.name = some storageSet := by
    rw [AssemblyInput.serving?, nodeFound]
    exact found
  rcases deviceOrder_of_assemble assembled node.name with
    ⟨other, serving, otherFound, same, listed⟩ | ⟨unserved, -⟩
  · obtain rfl : node = other := Option.some.inj (nodeFound.symm.trans otherFound)
    obtain rfl : storageSet = serving := Option.some.inj (served.symm.trans same)
    have full := deviceOrder_length_of_assemble distinct ordersDistinct assembled served
    have order : observedOrder (round.observing (some cluster)) node =
        finalDevices round node storageSet := listed
    rw [listed] at full
    have included : finalDevices round node storageSet ⊆ reservedFor round.reserved storageSet :=
      fun name nameMem => mem_reservedFor_of_mem_finalDevices nameMem
    have picked : pickDevices (finalDevices round node storageSet)
        (reservedFor (round.observing (some cluster)).reserved storageSet)
          storageSet.desiredDiskCount = finalDevices round node storageSet :=
      pickDevices_of_subset included full
    rw [finalDevices_eq, order, picked]
    exact slotMerge_self finalDevices_nodup
  · rw [unserved] at served
    simp at served

/-- A round that observes its own result assembles it again. -/
theorem assemble_observing_self (distinct : round.Distinct)
    (ordersDistinct : OrdersDistinct round.observed)
    (assembled : assemble round = .ok (.ready cluster)) :
    assemble (round.observing (some cluster)) = .ok (.ready cluster) := by
  obtain ⟨planUid, config, configUid, layout, pools, metadata, planIdentified, configGiven,
    configIdentified, layoutKnown, gated, built, metadataEq, same⟩ :=
    assemble_eq_ready_iff.1 assembled
  refine assemble_eq_ready_iff.2 ⟨planUid, config, configUid, layout, pools, metadata,
    planIdentified, configGiven, configIdentified, layoutKnown, gated, ?_, metadataEq, same⟩
  have partners := (List.forall₂_and_left _ _).2
    ⟨fun node (member : node ∈ round.plan.spec.nodes) => member,
      buildPools_eq_ready_iff.1 built⟩
  refine buildPools_eq_ready_iff.2 (partners.imp fun node pool => ?_)
  rintro ⟨member, storageSet, found, poolBuilt⟩
  refine ⟨storageSet, found, ?_⟩
  rw [buildPool_eq_ok_iff, finalDevices_observing_self distinct ordersDistinct assembled member
    found]
  exact buildPool_eq_ok_iff.1 poolBuilt

/-- Over a run, a device keeps its slot in the pool of its host for as long as the rounds that
assemble anything go on with it, whatever other devices come and go; and a round that is repeated on
its own result assembles the very same cluster. -/
theorem slots_stable (rounds : List AssemblyInput)
    (distinct : ∀ round ∈ rounds, round.Distinct) :
    (∀ (first last : Nat) (firstRound lastRound : AssemblyInput)
      (firstCluster lastCluster : PoolCluster) (host device : String) (slot : Nat),
      Assembles rounds first firstRound firstCluster →
      Assembles rounds last lastRound lastCluster → first ≤ last →
      (firstCluster.deviceOrder host)[slot]? = some device →
      (∀ index round cluster, first < index → index ≤ last →
        Assembles rounds index round cluster → round.GoesOnWith firstRound host device) →
      (lastCluster.deviceOrder host)[slot]? = some device) ∧
    (∀ (index : Nat) (round : AssemblyInput) (cluster : PoolCluster),
      Assembles rounds index round cluster →
      assemble (round.observing (some cluster)) = .ok (.ready cluster)) := by
  have distinctAt : ∀ (index : Nat) (round : AssemblyInput), rounds[index]? = some round →
      (round.observing (observedAt rounds index)).Distinct := fun index round found =>
    ⟨(distinct round (List.mem_of_getElem? found)).nodeNames,
      (distinct round (List.mem_of_getElem? found)).reservations⟩
  refine ⟨?_, ?_⟩
  · intro first last firstRound lastRound firstCluster lastCluster host device slot firstAssembles
      lastAssembles inOrder found goesOn
    obtain ⟨steps, rfl⟩ := Nat.exists_eq_add_of_le inOrder
    obtain ⟨firstFound, firstAssembled⟩ := firstAssembles
    -- The host had a device, so it was served.
    obtain ⟨serving, served⟩ : ∃ serving, firstRound.serving? host = some serving := by
      rcases deviceOrder_of_assemble firstAssembled host with
        ⟨_, serving, -, served, -⟩ | ⟨-, nothing⟩
      · exact ⟨serving, served⟩
      · simp [nothing] at found
    have there : InSlot firstCluster host serving.desiredDiskCount slot device :=
      ⟨deviceOrder_nodup_of_assemble firstAssembled host,
        deviceOrder_length_of_assemble (distinctAt first firstRound firstFound)
          (ordersDistinct_observedAt rounds first) firstAssembled served, found⟩
    obtain ⟨cluster, present, lastThere⟩ := exists_inSlot_observedAt distinct
      (Assembles.observedAt_succ ⟨firstFound, firstAssembled⟩) there steps
      fun index round cluster after before assembles => by
        obtain ⟨later, laterServed, asked, reserved⟩ :=
          goesOn index round cluster after before assembles
        rw [served] at asked
        exact ⟨later, laterServed, (Option.some.inj asked).symm, reserved⟩
    obtain rfl := Option.some.inj (lastAssembles.observedAt_succ.symm.trans present)
    exact lastThere.found
  · rintro index round cluster ⟨found, assembled⟩
    have repeated := assemble_observing_self (distinctAt index round found)
      (ordersDistinct_observedAt rounds index) assembled
    exact repeated

def fourDisks (names : List String) : AssemblyInput where
  plan :=
    { metadata := { name := some "cluster-a", uid := some "plan-uid" }
      spec := { nodes := [⟨"node-1", "node-uid"⟩] } }
  config := some { metadata := { uid := some "config-uid" }, spec := {} }
  storageSets :=
    [{ metadata := { name := some "cluster-a-node-uid", uid := some "set-uid" }
       spec := { node := ⟨"node-1", "node-uid"⟩, disk := ⟨"100Gi", 4⟩ } }]
  reserved := Table.empty.insert "set-uid" names
  observed := none

theorem fourDisks_distinct {names : List String} (distinct : names.Nodup) :
    (fourDisks names).Distinct := by
  refine ⟨by simp [fourDisks], fun uid found listed => ?_⟩
  have sameNames : found = names := by
    simp only [fourDisks, Table.find?_insert, Table.find?_empty] at listed
    split at listed
    · exact (Option.some.inj listed).symm
    · simp at listed
  rw [sameNames]
  exact distinct

/-- The second of four disks fails, which leaves a round without enough, and is replaced. -/
def replacing : List AssemblyInput :=
  [fourDisks ["disk-1", "disk-2", "disk-3", "disk-4"], fourDisks ["disk-1", "disk-3", "disk-4"],
    fourDisks ["disk-0", "disk-1", "disk-3", "disk-4"]]

/-- The third disk stays in the third slot while the second one is replaced. -/
theorem replacing_keepsSlot :
    (∀ round ∈ replacing, round.Distinct) ∧ ∃ first last : PoolCluster,
      first.deviceOrder "node-1" = ["disk-1", "disk-2", "disk-3", "disk-4"] ∧
      (last.deviceOrder "node-1")[2]? = some "disk-3" ∧
      assemble ((fourDisks ["disk-0", "disk-1", "disk-3", "disk-4"]).observing (some last)) =
        .ok (.ready last) := by
  have distinct : ∀ round ∈ replacing, round.Distinct := by
    simp [replacing, fourDisks_distinct]
  obtain ⟨first, firstAssembles, firstOrder⟩ : ∃ cluster,
      Assembles replacing 0 (fourDisks ["disk-1", "disk-2", "disk-3", "disk-4"]) cluster ∧
        cluster.deviceOrder "node-1" = ["disk-1", "disk-2", "disk-3", "disk-4"] :=
    ⟨_, ⟨rfl, rfl⟩, rfl⟩
  obtain ⟨last, lastAssembles⟩ : ∃ cluster,
      Assembles replacing 2 (fourDisks ["disk-0", "disk-1", "disk-3", "disk-4"]) cluster :=
    ⟨_, rfl, rfl⟩
  obtain ⟨keep, again⟩ := slots_stable replacing distinct
  refine ⟨distinct, first, last, firstOrder,
    keep 0 2 _ _ first last "node-1" "disk-3" 2 firstAssembles lastAssembles (by decide)
      (by rw [firstOrder]; rfl) ?_, again 2 _ last lastAssembles⟩
  rintro index round cluster after before ⟨found, -⟩
  obtain rfl | rfl : index = 1 ∨ index = 2 := by omega
  · obtain rfl : fourDisks ["disk-1", "disk-3", "disk-4"] = round := Option.some.inj found
    exact ⟨_, rfl, rfl, by decide⟩
  · obtain rfl : fourDisks ["disk-0", "disk-1", "disk-3", "disk-4"] = round :=
      Option.some.inj found
    exact ⟨_, rfl, rfl, by decide⟩

end Run
end PoolAssembly
end PoolPlanner
