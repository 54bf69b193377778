import PoolPlanner.Planning.Intent
import PoolPlanner.Proofs.Decoding
import PoolPlanner.Proofs.Fallible
import PoolPlanner.Resource.BlockDevice
import PoolPlanner.Selector.Evaluation

/-!
# What an intent resolves to

How many nodes there are only matters for the pool counts.  Everything else that an intent resolves
to is the same in every round, and resolving it for the nodes that were planned does not fail.
-/

namespace PoolPlanner
namespace ClusterIntent

variable {intent : ClusterIntent} {inventory : NodeInventory} {defaults : PlannerDefaults}
  {resolved : ResolvedIntent}

@[simp]
theorem positiveBytes_eq_ok_iff {text : String} {bytes : Nat} :
    positiveBytes text = .ok bytes ↔ Capacity.bytes text = .ok bytes ∧ bytes ≠ 0 := by
  simp only [positiveBytes, bind_eq_ok_iff]
  constructor
  · rintro ⟨found, read, checked⟩
    split at checked
    next => simp at checked
    next positive =>
      obtain rfl : found = bytes := by simpa using checked
      exact ⟨read, positive⟩
  · rintro ⟨read, positive⟩
    exact ⟨bytes, read, by simp [positive]⟩

theorem resolve_eq_ok_iff :
    intent.resolve inventory defaults = .ok resolved ↔
      checkProvision intent.disk.externalProvision = .ok () ∧
      ∃ minimum maximum layout diskCount bytes,
        resolveMinPoolCount intent.minPoolCount inventory defaults = .ok minimum ∧
        resolveMaxPoolCount intent.maxPoolCount minimum = .ok maximum ∧
        RaidLayout.ofRequest intent.pool.raidType = .ok layout ∧
        resolveDiskCount intent.disk.minCount layout = .ok diskCount ∧
        Capacity.bytes (resolveCapacity intent.disk.minCapacity defaults) = .ok bytes ∧
        bytes ≠ 0 ∧ intent.allowedNodes.validate = .ok () ∧
        intent.disk.localDiskSelector.validate = .ok () ∧
        { minPoolCount := minimum.toNat
          maxPoolCount := maximum.toNat
          layout
          minDiskCount := diskCount.toNat
          minDiskCapacity := resolveCapacity intent.disk.minCapacity defaults
          minDiskBytes := bytes
          externalProvision := intent.disk.externalProvision
          allowedNodes := intent.allowedNodes
          localDiskSelector := intent.disk.localDiskSelector } = resolved := by
  simp only [resolve, bind_eq_ok_iff, positiveBytes_eq_ok_iff, pure_eq_ok_iff]
  constructor
  · rintro ⟨_, provision, minimum, minimumEq, maximum, maximumEq, layout, layoutEq, diskCount,
      diskCountEq, bytes, ⟨bytesEq, positive⟩, _, nodesValid, _, disksValid, rfl⟩
    exact ⟨provision, minimum, maximum, layout, diskCount, bytes, minimumEq, maximumEq, layoutEq,
      diskCountEq, bytesEq, positive, nodesValid, disksValid, rfl⟩
  · rintro ⟨provision, minimum, maximum, layout, diskCount, bytes, minimumEq, maximumEq, layoutEq,
      diskCountEq, bytesEq, positive, nodesValid, disksValid, rfl⟩
    exact ⟨(), provision, minimum, minimumEq, maximum, maximumEq, layout, layoutEq, diskCount,
      diskCountEq, bytes, ⟨bytesEq, positive⟩, (), nodesValid, (), disksValid, rfl⟩

/-- Two resolutions of an intent differ in their pool counts only. -/
theorem eq_of_resolve {otherInventory : NodeInventory} {other : ResolvedIntent}
    (first : intent.resolve inventory defaults = .ok resolved)
    (second : intent.resolve otherInventory defaults = .ok other) :
    other = { resolved with
      minPoolCount := other.minPoolCount, maxPoolCount := other.maxPoolCount } := by
  obtain ⟨-, minimum, maximum, layout, diskCount, bytes, -, -, layoutEq, diskCountEq, bytesEq, -, -,
    -, rfl⟩ := resolve_eq_ok_iff.1 first
  obtain ⟨-, otherMinimum, otherMaximum, otherLayout, otherCount, otherBytes, -, -, otherLayoutEq,
    otherCountEq, otherBytesEq, -, -, -, rfl⟩ := resolve_eq_ok_iff.1 second
  obtain rfl : layout = otherLayout := Except.ok.inj (layoutEq.symm.trans otherLayoutEq)
  obtain rfl : diskCount = otherCount := Except.ok.inj (diskCountEq.symm.trans otherCountEq)
  obtain rfl : bytes = otherBytes := Except.ok.inj (bytesEq.symm.trans otherBytesEq)
  rfl

section PoolCounts

theorem signedCount_lt (count : Nat) : signedCount count < 2 ^ 63 := by
  have bound := Int.bmod_lt (x := (count : Int)) (m := 2 ^ 64) (by decide)
  unfold signedCount
  omega

theorem signedCount_of_lt {count : Nat} (small : count < 2 ^ 63) : signedCount count = count := by
  unfold signedCount
  rw [Int.bmod_def]
  omega

/-- As many nodes as were asked for resolve to the same least number of pools. -/
theorem resolveMinPoolCount_planned {given : Option Int} {minimum : Int}
    (resolvedMinimum : resolveMinPoolCount given inventory defaults = .ok minimum) :
    resolveMinPoolCount given ⟨minimum.toNat, minimum.toNat⟩ defaults = .ok minimum := by
  cases given with
  | some count => exact resolvedMinimum
  | none =>
      have eligibleLt := signedCount_lt inventory.eligible
      simp only [resolveMinPoolCount] at resolvedMinimum ⊢
      split at resolvedMinimum
      next => simp at resolvedMinimum
      next positive =>
        have minimumEq := Except.ok.inj resolvedMinimum
        have small : minimum.toNat < 2 ^ 63 := by omega
        have count : min (min defaults.minPoolCount (minimum.toNat : Int)) minimum.toNat =
            minimum := by
          omega
        rw [signedCount_of_lt small, count, if_neg (by omega)]

theorem resolve_planned (resolvedHere : intent.resolve inventory defaults = .ok resolved) :
    intent.resolve ⟨resolved.minPoolCount, resolved.minPoolCount⟩ defaults = .ok resolved := by
  obtain ⟨provision, minimum, maximum, layout, diskCount, bytes, minimumEq, maximumEq, layoutEq,
    diskCountEq, bytesEq, positive, nodesValid, disksValid, rfl⟩ :=
      resolve_eq_ok_iff.1 resolvedHere
  exact resolve_eq_ok_iff.2 ⟨provision, minimum, maximum, layout, diskCount, bytes,
    resolveMinPoolCount_planned minimumEq, maximumEq, layoutEq, diskCountEq, bytesEq, positive,
    nodesValid, disksValid, rfl⟩

theorem resolveMaxPoolCount_some {given minimum maximum : Int}
    (maximumEq : resolveMaxPoolCount (some given) minimum = .ok maximum) :
    minimum ≤ given ∧ maximum = given := by
  simp only [resolveMaxPoolCount] at maximumEq
  split at maximumEq
  next => simp at maximumEq
  next notCrossed => exact ⟨Int.not_lt.1 notCrossed, (Except.ok.inj maximumEq).symm⟩

theorem le_of_resolveMaxPoolCount {given : Option Int} {minimum maximum : Int}
    (maximumEq : resolveMaxPoolCount given minimum = .ok maximum) : minimum ≤ maximum := by
  cases given with
  | none =>
      have maximumIs : minimum + poolHeadroom = maximum := Except.ok.inj maximumEq
      rw [← maximumIs, poolHeadroom]
      omega
  | some count =>
      have bounded := resolveMaxPoolCount_some maximumEq
      exact bounded.2 ▸ bounded.1

/-- A least number of pools is found for any other number of nodes too: the one that was given, or
no more than these nodes. -/
theorem exists_resolveMinPoolCount {given : Option Int} {minimum : Int} {count : Nat}
    (resolvedMinimum : resolveMinPoolCount given inventory defaults = .ok minimum)
    (positive : 0 < count) (small : count < 2 ^ 63) :
    ∃ fewer, resolveMinPoolCount given ⟨count, count⟩ defaults = .ok fewer ∧
      (fewer = minimum ∨ fewer ≤ count) := by
  cases given with
  | some given => exact ⟨minimum, resolvedMinimum, .inl rfl⟩
  | none =>
      simp only [resolveMinPoolCount, signedCount_of_lt small] at resolvedMinimum ⊢
      split at resolvedMinimum
      next => simp at resolvedMinimum
      next =>
        refine ⟨_, if_neg ?_, .inr (Int.min_le_right _ _)⟩
        omega

/-- Once resolved, an intent can be resolved for any number of nodes that its pool counts allow. -/
theorem exists_resolve (resolvedHere : intent.resolve inventory defaults = .ok resolved)
    {count : Nat} (positive : 0 < count) (small : count < 2 ^ 63)
    (allowed : count ≤ max resolved.minPoolCount resolved.maxPoolCount) :
    ∃ other, intent.resolve ⟨count, count⟩ defaults = .ok other := by
  obtain ⟨provision, minimum, maximum, layout, diskCount, bytes, minimumEq, maximumEq, layoutEq,
    diskCountEq, bytesEq, bytesPositive, nodesValid, disksValid, rfl⟩ :=
      resolve_eq_ok_iff.1 resolvedHere
  have ordered : minimum ≤ maximum := le_of_resolveMaxPoolCount maximumEq
  obtain ⟨fewer, fewerEq, bounded⟩ := exists_resolveMinPoolCount minimumEq positive small
  have fewerLe : fewer ≤ maximum := by
    simp only at allowed
    omega
  have maximumResolved : ∃ most, resolveMaxPoolCount intent.maxPoolCount fewer = .ok most := by
    cases given : intent.maxPoolCount with
    | none => exact ⟨_, rfl⟩
    | some most =>
        rw [given] at maximumEq
        rw [(resolveMaxPoolCount_some maximumEq).2] at fewerLe
        exact ⟨most, if_neg (Int.not_lt.2 fewerLe)⟩
  obtain ⟨most, mostEq⟩ := maximumResolved
  exact ⟨_, resolve_eq_ok_iff.2 ⟨provision, fewer, most, layout, diskCount, bytes, fewerEq, mostEq,
    layoutEq, diskCountEq, bytesEq, bytesPositive, nodesValid, disksValid, rfl⟩⟩

/-- How many nodes there are in a plan at most, however many nodes there are to choose from. -/
def poolCeiling (intent : ClusterIntent) (defaults : PlannerDefaults) : Int :=
  match intent.maxPoolCount, intent.minPoolCount with
  | some maximum, _ => maximum
  | none, some minimum => minimum + poolHeadroom
  | none, none => defaults.minPoolCount

theorem resolveMinPoolCount_none (counted : inventory.eligible ≤ inventory.available)
    (small : inventory.available < 2 ^ 63) {minimum : Int}
    (minimumEq : resolveMinPoolCount none inventory defaults = .ok minimum) :
    minimum = min defaults.minPoolCount (inventory.eligible : Int) := by
  simp only [resolveMinPoolCount] at minimumEq
  rw [signedCount_of_lt small, signedCount_of_lt (by omega)] at minimumEq
  split at minimumEq
  next => simp at minimumEq
  next =>
    have countEq := Except.ok.inj minimumEq
    omega

/-- In every round the least number of pools stays below the ceiling, and the greatest one leaves
room for the eligible nodes up to the ceiling.  If both follow the number of nodes, so does the
number of nodes that can stay. -/
theorem poolCounts_le (counted : inventory.eligible ≤ inventory.available)
    (small : inventory.available < 2 ^ 63) {minimum maximum : Int}
    (minimumEq : resolveMinPoolCount intent.minPoolCount inventory defaults = .ok minimum)
    (maximumEq : resolveMaxPoolCount intent.maxPoolCount minimum = .ok maximum) :
    minimum ≤ maximum ∧ minimum ≤ intent.poolCeiling defaults ∧
      ∀ count : Int, count ≤ intent.poolCeiling defaults → count ≤ inventory.eligible →
        count ≤ maximum := by
  cases givenMaximum : intent.maxPoolCount with
  | some most =>
      have ceiling : intent.poolCeiling defaults = most := by
        simp only [poolCeiling, givenMaximum]
      rw [givenMaximum] at maximumEq
      have bounded := resolveMaxPoolCount_some maximumEq
      rw [ceiling, bounded.2]
      exact ⟨bounded.1, bounded.1, fun count underCeiling _ => underCeiling⟩
  | none =>
      rw [givenMaximum] at maximumEq
      have maximumIs : minimum + poolHeadroom = maximum := Except.ok.inj maximumEq
      rw [← maximumIs, poolHeadroom]
      cases givenMinimum : intent.minPoolCount with
      | some least =>
          have ceiling : intent.poolCeiling defaults = least + 2 := by
            simp only [poolCeiling, givenMaximum, givenMinimum, poolHeadroom]
          have minimumIs : minimum = least := by
            rw [givenMinimum, resolveMinPoolCount, checkCount] at minimumEq
            split at minimumEq
            next => simp at minimumEq
            next => exact (Except.ok.inj minimumEq).symm
          rw [ceiling, minimumIs]
          exact ⟨by omega, by omega, fun count underCeiling _ => underCeiling⟩
      | none =>
          have ceiling : intent.poolCeiling defaults = defaults.minPoolCount := by
            simp only [poolCeiling, givenMaximum, givenMinimum]
          rw [givenMinimum] at minimumEq
          have minimumIs := resolveMinPoolCount_none counted small minimumEq
          rw [ceiling]
          exact ⟨by omega, by omega, fun count underCeiling isEligible => by omega⟩

theorem poolCounts_of_resolve (counted : inventory.eligible ≤ inventory.available)
    (small : inventory.available < 2 ^ 63)
    (resolvedHere : intent.resolve inventory defaults = .ok resolved) :
    resolved.minPoolCount ≤ resolved.maxPoolCount ∧
      resolved.minPoolCount ≤ (intent.poolCeiling defaults).toNat ∧
      ∀ count : Nat, count ≤ (intent.poolCeiling defaults).toNat → count ≤ inventory.eligible →
        count ≤ resolved.maxPoolCount := by
  obtain ⟨-, minimum, maximum, layout, diskCount, bytes, minimumEq, maximumEq, -, -, -, -, -, -,
    rfl⟩ := resolve_eq_ok_iff.1 resolvedHere
  obtain ⟨ordered, underCeiling, room⟩ := poolCounts_le counted small minimumEq maximumEq
  refine ⟨Int.toNat_le_toNat ordered, Int.toNat_le_toNat underCeiling, ?_⟩
  intro count countUnder isEligible
  rcases Nat.eq_zero_or_pos count with rfl | positive
  · exact Nat.zero_le _
  · have roomHere := room count (by omega) (by exact_mod_cast isEligible)
    change count ≤ maximum.toNat
    omega

end PoolCounts

section Disks

theorem fits_of_resolveDiskCount {given : Option Int} {layout : RaidLayout} {count : Int}
    (fits : ∀ count ∈ given, Json.FitsInt64 count)
    (resolvedCount : resolveDiskCount given layout = .ok count) :
    Json.FitsInt64 (count.toNat : Int) := by
  cases given with
  | none =>
      obtain rfl := Except.ok.inj resolvedCount
      unfold Json.FitsInt64
      cases layout <;> decide
  | some given =>
      have givenFits := fits given rfl
      simp only [resolveDiskCount, checkCount] at resolvedCount
      split at resolvedCount
      next => simp at resolvedCount
      next notNegative =>
        obtain rfl := Except.ok.inj resolvedCount
        rwa [Int.toNat_of_nonneg (Int.not_lt.1 notNegative)]

/-- What a resolved intent says of disks can be put into storage sets and evaluated on devices. -/
structure SoundDisks (intent : ClusterIntent) (resolved : ResolvedIntent) : Prop where
  capacity : Capacity.bytes resolved.minDiskCapacity = .ok resolved.minDiskBytes
  countFits : Json.FitsInt64 resolved.minDiskCount
  selector : intent.disk.localDiskSelector = resolved.localDiskSelector
  selectorValid : resolved.localDiskSelector.validate = .ok ()
  layout : RaidLayout.ofRequest intent.pool.raidType = .ok resolved.layout

theorem soundDisks_of_resolve (fits : ∀ count ∈ intent.disk.minCount, Json.FitsInt64 count)
    (resolvedHere : intent.resolve inventory defaults = .ok resolved) :
    intent.SoundDisks resolved := by
  obtain ⟨-, minimum, maximum, layout, diskCount, bytes, -, -, layoutEq, diskCountEq, bytesEq, -, -,
    disksValid, rfl⟩ := resolve_eq_ok_iff.1 resolvedHere
  exact ⟨bytesEq, fits_of_resolveDiskCount fits diskCountEq, rfl, disksValid, layoutEq⟩

end Disks
end ClusterIntent
end PoolPlanner
