import PoolPlanner.Yaml.Token

/-!
# YAML documents

The tree form of a document: scalars as they are written, sequences, mappings in the order of the
text, and aliases.  Aliases are resolved when the whole document is known.
-/

namespace PoolPlanner

structure Yaml.Scalar where
  style : Yaml.ScalarStyle
  /-- The octets of the tag; none if there is no tag. -/
  tag : List UInt8 := []
  text : String
deriving DecidableEq, Repr

/-- A document or a part of one. -/
inductive Yaml
  | scalar (content : Yaml.Scalar)
  | sequence (items : List Yaml)
  | mapping (entries : List (Yaml × Yaml))
  /-- Another place for the part with a number. -/
  | alias (number : Nat)
deriving Inhabited, Repr

namespace Yaml

namespace Scalar

/-- A scalar that is left out. -/
def blank : Scalar where
  style := .plain
  text := ""

def integerTag : List UInt8 :=
  "tag:yaml.org,2002:int".toList.flatMap String.utf8EncodeChar

/-- Whether a scalar can be a number: one that is written plainly, or a literal one that its tag
calls an integer. -/
def isNumeric (scalar : Scalar) : Bool :=
  match scalar.style with
  | .plain => true
  | .literal => scalar.tag = integerTag
  | .other => false

end Scalar

def digitValue? (digit : Char) : Option Nat :=
  if digit.isDigit then some (digit.toNat - '0'.toNat)
  else if 'a' ≤ digit ∧ digit ≤ 'f' then some (digit.toNat - 'a'.toNat + 10)
  else if 'A' ≤ digit ∧ digit ≤ 'F' then some (digit.toNat - 'A'.toNat + 10)
  else none

/-- The natural number that at least one digit of a base spells. -/
def natOfDigits? (base : Nat) (digits : List Char) : Option Nat :=
  if digits.isEmpty then none
  else
    digits.foldl
      (fun value digit => do
        let value ← value
        let digit ← digitValue? digit
        if digit < base then pure (value * base + digit) else none)
      (some 0)

/-- The natural number of a literal without sign: hexadecimal, octal or binary behind a mark, or
decimal without leading zeros. -/
def natOfLiteral? (literal : List Char) : Option Nat :=
  match literal with
  | '0' :: 'x' :: digits => natOfDigits? 16 digits
  | '0' :: 'o' :: digits => natOfDigits? 8 digits
  | '0' :: 'b' :: digits => natOfDigits? 2 digits
  | '0' :: _ :: _ => none
  | digits => natOfDigits? 10 digits

namespace Scalar

def natural? (scalar : Scalar) : Option Nat :=
  if !scalar.isNumeric then none
  else
    match scalar.text.toList with
    | '+' :: literal => natOfLiteral? literal
    | literal => natOfLiteral? literal

def integer? (scalar : Scalar) : Option Int :=
  if !scalar.isNumeric then none
  else
    match scalar.text.toList with
    | '-' :: literal => (natOfLiteral? literal).map fun value => -(value : Int)
    | _ => scalar.natural?.map fun value => (value : Int)

end Scalar

/-- A part that is left out. -/
def blank : Yaml :=
  .scalar .blank

/-- The parts of a document that aliases refer to.  A name has a number: how many other names there
were when it was given last.  Two names can have one number, and then mean the later part. -/
structure Anchors where
  /-- The names with their numbers. -/
  numbers : List (String × Nat) := []
  /-- What the numbers stand for, the latest first; of a collection nothing is kept. -/
  contents : List (Nat × Option Scalar) := []

namespace Anchors

def mark (anchors : Anchors) (name : String) (content : Option Scalar) : Anchors where
  numbers :=
    (name, anchors.numbers.length) :: anchors.numbers.filter fun entry => entry.1 ≠ name
  contents := (anchors.numbers.length, content) :: anchors.contents

def number? (anchors : Anchors) (name : String) : Option Nat :=
  anchors.numbers.lookup name

end Anchors

structure Document where
  root : Yaml
  anchors : Anchors := {}

/-- The scalar that a part of a document is or refers to. -/
def Document.scalar? (document : Document) : Yaml → Option Scalar
  | .scalar content => some content
  | .alias number => (document.anchors.contents.lookup number).join
  | _ => none

end Yaml
end PoolPlanner
