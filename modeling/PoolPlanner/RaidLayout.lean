import PoolPlanner.Fault

/-!
# Raid layouts

The redundancy layouts of a pool and how many devices one raid group of each has.
-/

namespace PoolPlanner

/-- A redundancy layout. -/
inductive RaidLayout
  | stripe
  | mirror
  | raidz
  | raidz2
deriving DecidableEq, Repr

namespace RaidLayout

/-- The layout of a pool whose intent names none. -/
def standard : RaidLayout :=
  .mirror

instance : Inhabited RaidLayout :=
  ⟨standard⟩

def name : RaidLayout → String
  | .stripe => "stripe"
  | .mirror => "mirror"
  | .raidz => "raidz"
  | .raidz2 => "raidz2"

def named : List (String × RaidLayout) :=
  [("stripe", .stripe), ("mirror", .mirror), ("raidz", .raidz), ("raidz2", .raidz2)]

/-- How many devices make one raid group. -/
def groupSize : RaidLayout → Nat
  | .stripe => 1
  | .mirror => 2
  | .raidz => 3
  | .raidz2 => 6

/-- How many disks a pool has when its intent does not say: one full raid group. -/
def defaultDiskCount (layout : RaidLayout) : Nat :=
  layout.groupSize

def ofName (text : String) : Except Fault RaidLayout :=
  match named.lookup text with
  | some layout => .ok layout
  | none => .error (.unknownRaidLayout text)

/-- The layout that an intent asks for; none, or an empty name, means the standard one. -/
def ofRequest : Option String → Except Fault RaidLayout
  | none => .ok standard
  | some text => if text = "" then .ok standard else ofName text

@[simp]
theorem ofName_name (layout : RaidLayout) : ofName layout.name = .ok layout := by
  cases layout <;> rfl

end RaidLayout
end PoolPlanner
