import PoolPlanner.OperatorConfig
import PoolPlanner.Text.Blank
import PoolPlanner.Yaml.Reader

/-!
# Settings files

The settings of the hook server as an operator writes them: a YAML mapping of some of them by name.
Numbers have to be written plainly or tagged as integers; a text may be any scalar.  Names that mean
nothing are passed over, and a name that stands twice is refused.  A blank file is one that leaves
every setting at its default.
-/

namespace PoolPlanner
namespace OperatorConfig

/-- The settings that a file has given so far. -/
structure Given where
  resyncAfterSeconds : Option Nat := none
  defaultMinPoolCount : Option Int := none
  defaultMinDiskCapacity : Option String := none
  maxBodyBytes : Option Nat := none

namespace Given

def settings (given : Given) : OperatorConfig :=
  let standard : OperatorConfig := {}
  { resyncAfterSeconds := given.resyncAfterSeconds.getD standard.resyncAfterSeconds
    defaultMinPoolCount := given.defaultMinPoolCount.getD standard.defaultMinPoolCount
    defaultMinDiskCapacity := given.defaultMinDiskCapacity.getD standard.defaultMinDiskCapacity
    maxBodyBytes := given.maxBodyBytes.getD standard.maxBodyBytes }

def unsigned? (value : Yaml.Scalar) : Option Nat := do
  let value ← value.natural?
  if value < 2 ^ 64 then pure value else none

def signed? (value : Yaml.Scalar) : Option Int := do
  let value ← value.integer?
  if -(2 ^ 63) ≤ value ∧ value < 2 ^ 63 then pure value else none

def once {α : Type} (present value : Option α) : Option (Option α) :=
  match present, value with
  | none, some value => some (some value)
  | _, _ => none

/-- Take the value of a setting, which is none if it is no scalar; nothing if it is malformed or was
given before. -/
def take? (given : Given) (name : String) (value : Option Yaml.Scalar) : Option Given :=
  match name with
  | "resyncAfterSeconds" =>
      (once given.resyncAfterSeconds (value.bind unsigned?)).map fun resyncAfterSeconds =>
        { given with resyncAfterSeconds }
  | "defaultMinPoolCount" =>
      (once given.defaultMinPoolCount (value.bind signed?)).map fun defaultMinPoolCount =>
        { given with defaultMinPoolCount }
  | "defaultMinDiskCapacity" =>
      (once given.defaultMinDiskCapacity (value.map Yaml.Scalar.text)).map
        fun defaultMinDiskCapacity => { given with defaultMinDiskCapacity }
  | "maxBodyBytes" =>
      (once given.maxBodyBytes (value.bind unsigned?)).map fun maxBodyBytes =>
        { given with maxBodyBytes }
  | _ => some given

def takeAll? (given : Given) : List (String × Option Yaml.Scalar) → Option Given
  | [] => some given
  | (name, value) :: rest =>
      match given.take? name value with
      | none => none
      | some given => takeAll? given rest

end Given

/-- The settings that a document gives; one without content gives none. -/
def ofDocument? (document : Yaml.Document) : Option OperatorConfig :=
  match document.root with
  | .scalar content => if content.text.isEmpty then some {} else none
  | .mapping entries => do
      let named ← entries.mapM fun entry =>
        (document.scalar? entry.1).map fun name => (name.text, document.scalar? entry.2)
      (Given.takeAll? {} named).map Given.settings
  | _ => none

/-- The settings that a file gives, if the server can work with them. -/
def ofFile (text : String) : Except Fault OperatorConfig := do
  let config ←
    if Text.isBlankText text then pure {}
    else
      match (Yaml.Document.ofText? text).bind ofDocument? with
      | some config => pure config
      | none => .error .malformedYaml
  match config.validate with
  | .ok () => pure config
  | .error issue => .error (.configuration issue)

end OperatorConfig
end PoolPlanner
