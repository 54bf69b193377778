import Mathlib.Data.List.TakeWhile
import PoolPlanner.Proofs.Intent
import PoolPlanner.Proofs.ResourceCodec

/-!
# Resolving is a closure

What fills the gaps of an intent passes every check that is made on what an intent gives.  So a
resolved intent that is written out leaves nothing to fill and nothing to refuse: it resolves to
itself, and neither the nodes nor the settings are asked any more.
-/

namespace PoolPlanner

/-- A text of nothing but blanks is no capacity. -/
theorem Capacity.isBlankText_of_bytes {text : String} {bytes : Nat}
    (read : Capacity.bytes text = .ok bytes) : Text.isBlankText text = false := by
  by_contra notFalse
  have blank : ∀ character ∈ text.toList, Text.isBlank character = true := by
    simpa [Text.isBlankText] using notFalse
  have trimmed : Text.trimChars text.toList = [] := by
    simp [Text.trimChars, List.dropWhile_eq_nil_iff.2 blank]
  rw [Capacity.bytes, mapError_eq_ok_iff, Capacity.read, trimmed] at read
  cases read

theorem RaidLayout.ofRequest_name (layout : RaidLayout) :
    ofRequest (some layout.name) = .ok layout := by
  have named : layout.name ≠ "" := by cases layout <;> decide
  rw [ofRequest, if_neg named, ofName_name]

namespace ClusterIntent

variable {intent : ClusterIntent} {inventory : NodeInventory} {defaults : PlannerDefaults}
  {resolved : ResolvedIntent}

theorem checkProvision_eq_ok_iff {given : Option ExternalProvision} :
    checkProvision given = .ok () ↔ ∀ provision ∈ given, provision.isComplete = true := by
  cases given with
  | none => simp [checkProvision]
  | some provision => simp [checkProvision]

theorem checkCount_natCast (setting : String) (count : Nat) :
    checkCount setting count = .ok (count : Int) :=
  if_neg (Int.not_lt.2 (Int.natCast_nonneg count))

theorem resolveMaxPoolCount_natCast_iff {maximum minimum : Nat} :
    resolveMaxPoolCount (some (maximum : Int)) minimum = .ok (maximum : Int) ↔
      minimum ≤ maximum := by
  constructor
  · intro maximumEq
    exact Int.ofNat_le.1 (resolveMaxPoolCount_some maximumEq).1
  · intro ordered
    exact if_neg (Int.not_lt.2 (Int.ofNat_le.2 ordered))

theorem resolveCapacity_of_not_blank {text : String} (notBlank : Text.isBlankText text = false)
    (defaults : PlannerDefaults) : resolveCapacity (some text) defaults = text := by
  simp [resolveCapacity, Option.filter, notBlank]

end ClusterIntent

namespace ResolvedIntent

/-- The values of an intent without gaps fit together, and each passes its own check. -/
structure IsSound (resolved : ResolvedIntent) : Prop where
  poolCounts : resolved.minPoolCount ≤ resolved.maxPoolCount
  /-- The bytes are what the capacity text is read as. -/
  bytes : Capacity.bytes resolved.minDiskCapacity = .ok resolved.minDiskBytes
  positive : 0 < resolved.minDiskBytes
  provision : ∀ provision ∈ resolved.externalProvision, provision.isComplete = true
  allowedNodes : resolved.allowedNodes.validate = .ok ()
  localDiskSelector : resolved.localDiskSelector.validate = .ok ()

open ClusterIntent

/-- Whatever nodes there are and whatever the settings say, the intents without gaps that resolve
to themselves are the sound ones. -/
theorem resolve_toIntent_iff {resolved : ResolvedIntent} (inventory : NodeInventory)
    (defaults : PlannerDefaults) :
    resolved.toIntent.resolve inventory defaults = .ok resolved ↔ resolved.IsSound := by
  rw [resolve_eq_ok_iff]
  constructor
  · rintro ⟨provision, minimum, maximum, layout, diskCount, bytes, minimumEq, maximumEq, -, -,
      bytesEq, positive, nodesValid, disksValid, same⟩
    obtain rfl := Except.ok.inj ((checkCount_natCast _ _).symm.trans minimumEq)
    obtain rfl : maximum = resolved.maxPoolCount := (resolveMaxPoolCount_some maximumEq).2
    have bytesIs : bytes = resolved.minDiskBytes := congrArg minDiskBytes same
    have capacityIs : resolveCapacity resolved.toIntent.disk.minCapacity defaults =
        resolved.minDiskCapacity :=
      congrArg minDiskCapacity same
    rw [capacityIs, bytesIs] at bytesEq
    exact
      { poolCounts := resolveMaxPoolCount_natCast_iff.1 maximumEq
        bytes := bytesEq
        positive := Nat.pos_of_ne_zero (bytesIs ▸ positive)
        provision := checkProvision_eq_ok_iff.1 provision
        allowedNodes := nodesValid
        localDiskSelector := disksValid }
  · intro sound
    have capacityIs : resolveCapacity (some resolved.minDiskCapacity) defaults =
        resolved.minDiskCapacity :=
      resolveCapacity_of_not_blank (Capacity.isBlankText_of_bytes sound.bytes) defaults
    refine ⟨checkProvision_eq_ok_iff.2 sound.provision, resolved.minPoolCount,
      resolved.maxPoolCount, resolved.layout, resolved.minDiskCount, resolved.minDiskBytes,
      checkCount_natCast _ _, resolveMaxPoolCount_natCast_iff.2 sound.poolCounts,
      RaidLayout.ofRequest_name _, checkCount_natCast _ _, ?_, Nat.ne_of_gt sound.positive,
      sound.allowedNodes, sound.localDiskSelector, ?_⟩
    · exact capacityIs.symm ▸ sound.bytes
    · simp [toIntent, capacityIs]

end ResolvedIntent

namespace ClusterIntent

variable {intent : ClusterIntent} {inventory : NodeInventory} {defaults : PlannerDefaults}
  {resolved : ResolvedIntent}

theorem isSound_of_resolve (resolvedHere : intent.resolve inventory defaults = .ok resolved) :
    resolved.IsSound := by
  obtain ⟨provision, minimum, maximum, layout, diskCount, bytes, -, maximumEq, -, -, bytesEq,
    positive, nodesValid, disksValid, rfl⟩ := resolve_eq_ok_iff.1 resolvedHere
  exact
    { poolCounts := Int.toNat_le_toNat (le_of_resolveMaxPoolCount maximumEq)
      bytes := bytesEq
      positive := Nat.pos_of_ne_zero positive
      provision := checkProvision_eq_ok_iff.1 provision
      allowedNodes := nodesValid
      localDiskSelector := disksValid }

theorem fits_of_resolveMaxPoolCount {given : Option Int} {minimum maximum : Int}
    (fits : ∀ count ∈ given, Json.FitsInt64 count)
    (nonnegative : 0 ≤ minimum) (room : Json.FitsInt64 (minimum + poolHeadroom))
    (maximumEq : resolveMaxPoolCount given minimum = .ok maximum) :
    Json.FitsInt64 (maximum.toNat : Int) := by
  have ordered := le_of_resolveMaxPoolCount maximumEq
  rw [Int.toNat_of_nonneg (Int.le_trans nonnegative ordered)]
  cases given with
  | none => exact Except.ok.inj maximumEq ▸ room
  | some count =>
      rw [(resolveMaxPoolCount_some maximumEq).2]
      exact fits count rfl

/-- A least number of pools is never negative. -/
theorem nonnegative_of_resolveMinPoolCount {given : Option Int} {minimum : Int}
    (minimumEq : resolveMinPoolCount given inventory defaults = .ok minimum) : 0 ≤ minimum := by
  cases given with
  | none =>
      simp only [resolveMinPoolCount] at minimumEq
      split at minimumEq
      next => cases minimumEq
      next positive =>
        have minimumIs := Except.ok.inj minimumEq
        omega
  | some count =>
      simp only [resolveMinPoolCount, checkCount] at minimumEq
      split at minimumEq
      next => cases minimumEq
      next notNegative => exact Except.ok.inj minimumEq ▸ Int.not_lt.1 notNegative

/-- If there is room for the pools above the least number, no count leaves its sixty-four bits. -/
theorem fits_toIntent (resolvedHere : intent.resolve inventory defaults = .ok resolved)
    (fit : intent.Fits) (room : Json.FitsInt64 (resolved.minPoolCount + poolHeadroom)) :
    resolved.toIntent.Fits := by
  obtain ⟨-, minimum, maximum, layout, diskCount, bytes, minimumEq, maximumEq, -, diskCountEq, -,
    -, -, -, rfl⟩ := resolve_eq_ok_iff.1 resolvedHere
  have nonnegative := nonnegative_of_resolveMinPoolCount minimumEq
  have room : Json.FitsInt64 (minimum + poolHeadroom) := Int.toNat_of_nonneg nonnegative ▸ room
  refine ⟨?_, ?_, ?_⟩
  · rintro count ⟨⟩
    simp only [Json.FitsInt64, poolHeadroom] at room ⊢
    omega
  · rintro count ⟨⟩
    exact fits_of_resolveMaxPoolCount fit.maxPoolCount nonnegative room maximumEq
  · rintro count ⟨⟩
    exact fits_of_resolveDiskCount fit.minDiskCount diskCountEq

/-- Whatever an intent leaves open: what it resolves to is sound, and once written out resolves to
itself for all nodes and all settings.  If the counts that are given fit, and the least number of
pools leaves room for those above it, the counts that are written out fit as well. -/
theorem resolve_closes (resolvedHere : intent.resolve inventory defaults = .ok resolved) :
    resolved.IsSound ∧
      (intent.Fits → Json.FitsInt64 (resolved.minPoolCount + poolHeadroom) →
        resolved.toIntent.Fits) ∧
      ∀ otherInventory otherDefaults,
        resolved.toIntent.resolve otherInventory otherDefaults = .ok resolved := by
  have sound := isSound_of_resolve resolvedHere
  refine ⟨sound, fits_toIntent resolvedHere, fun otherInventory otherDefaults => ?_⟩
  exact (ResolvedIntent.resolve_toIntent_iff otherInventory otherDefaults).2 sound

/-- An intent that gives a layout and leaves the rest open, or blank. -/
def mostlyOpen : ClusterIntent where
  pool := { raidType := some "raidz" }
  disk := { minCapacity := some " \t" }

def mostlyOpenResolved : ResolvedIntent where
  minPoolCount := 2
  maxPoolCount := 4
  layout := .raidz
  minDiskCount := 3
  minDiskCapacity := "100Gi"
  minDiskBytes := 100 * 2 ^ 30
  externalProvision := none
  allowedNodes := ⟨[]⟩
  localDiskSelector := ⟨[]⟩

/-- Without any nodes, and with settings that can not be read, the intent would not resolve; written
out, it still does. -/
theorem mostlyOpen_closes :
    mostlyOpen.resolve ⟨5, 2⟩ .standard = .ok mostlyOpenResolved ∧ mostlyOpen.Fits ∧
      mostlyOpenResolved.IsSound ∧ mostlyOpenResolved.toIntent.Fits ∧
      mostlyOpenResolved.toIntent.resolve ⟨0, 0⟩ ⟨0, "?"⟩ = .ok mostlyOpenResolved := by
  have resolvedHere : mostlyOpen.resolve ⟨5, 2⟩ .standard = .ok mostlyOpenResolved := by
    decide +kernel
  have fit : mostlyOpen.Fits := ⟨nofun, nofun, nofun⟩
  obtain ⟨sound, written, closed⟩ := resolve_closes resolvedHere
  exact ⟨resolvedHere, fit, sound, written fit ⟨by decide, by decide⟩, closed ⟨0, 0⟩ ⟨0, "?"⟩⟩

end ClusterIntent
end PoolPlanner
