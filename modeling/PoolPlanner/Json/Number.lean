import PoolPlanner.Binary64.Shortest

/-!
# JSON numbers

A number of a document is an integer of sixty-four bits, signed or unsigned, or a double.  A
literal without fraction and exponent that fits is an integer, `-0` excepted; every other literal
is a double.

A double is read from at most sixty-four bits of leading digits, scaled by one power of ten: each
of the two steps rounds, so a long literal may be read as a neighbour of the nearest double.
-/

namespace PoolPlanner

inductive JsonNumber
  | integer (value : Int)
  | double (negative : Bool) (size : Binary64.Magnitude)
deriving DecidableEq, Repr, Inhabited

namespace JsonNumber

def text : JsonNumber → String
  | .integer value => toString value
  | .double negative size =>
      String.ofList ((if negative then ['-'] else []) ++ size.text Binary64.jsonLayout)

def largestUnsigned : Nat :=
  2 ^ 64 - 1

/-- Digits read as one natural number as long as it stays within sixty-four bits. -/
structure Significand where
  value : Nat
  /-- How many digits were taken. -/
  taken : Nat
  /-- The digits that no longer fit. -/
  excess : List Char

/-- Append digits to a significand until one no longer fits. -/
def extend (value taken : Nat) : List Char → Significand
  | [] => ⟨value, taken, []⟩
  | digit :: rest =>
      let next := value * 10 + (digit.toNat - '0'.toNat)
      if largestUnsigned < next then ⟨value, taken, digit :: rest⟩
      else extend next (taken + 1) rest

/-- A significand times a power of ten, for exponents of any size: powers beyond `10 ^ 308` are
divided out in steps, and a product beyond the largest double is none. -/
def scale? (significand : Nat) (exponent : Int) : Option Binary64.Magnitude :=
  let size := Binary64.Magnitude.ofNat significand
  if significand = 0 then
    some size
  else if 308 < exponent then
    none
  else if 0 ≤ exponent then
    match size.mul (.ofNat (10 ^ exponent.toNat)) with
    | .infinite => none
    | product => some product
  else
    let distance := exponent.natAbs
    let steps := (distance - 1) / 308
    if 3 < steps then
      some .zero
    else
      let reduced := Nat.repeat (fun current => current.div (.ofNat (10 ^ 308))) steps size
      some (reduced.div (.ofNat (10 ^ (distance - 308 * steps))))

structure Literal where
  whole : List Char
  /-- The digits behind the point, if there is one. -/
  fraction : Option (List Char)
  /-- Whether the exponent is negative and its digits, if there is one. -/
  exponent : Option (Bool × List Char)

/-- The leading decimal digits and what follows them. -/
def splitDigits (characters : List Char) : List Char × List Char :=
  characters.span Char.isDigit

/-- Split a literal behind its sign into its parts and what follows; none if it is malformed. -/
def splitLiteral (characters : List Char) : Option (Literal × List Char) := do
  let (whole, rest) := splitDigits characters
  guard (whole ≠ [] ∧ (whole.head? = some '0' → whole.length = 1))
  let (fraction, rest) ←
    match rest with
    | '.' :: tail =>
        let (digits, rest) := splitDigits tail
        if digits = [] then none else some (some digits, rest)
    | _ => some (none, rest)
  let signedExponent (negative : Bool) (tail : List Char) :
      Option (Option (Bool × List Char) × List Char) :=
    let (digits, rest) := splitDigits tail
    if digits = [] then none else some (some (negative, digits), rest)
  let (exponent, rest) ←
    match rest with
    | mark :: tail =>
        if mark = 'e' ∨ mark = 'E' then
          match tail with
          | '-' :: digits => signedExponent true digits
          | '+' :: digits => signedExponent false digits
          | digits => signedExponent false digits
        else
          some (none, rest)
    | [] => some (none, rest)
  pure (⟨whole, fraction, exponent⟩, rest)

def natOfDigits (digits : List Char) : Nat :=
  digits.foldl (fun value digit => value * 10 + (digit.toNat - '0'.toNat)) 0

/-- The number that a literal stands for; none if it is too large for a double. -/
def ofLiteral? (negative : Bool) (literal : Literal) : Option JsonNumber :=
  let whole := extend 0 0 literal.whole
  match literal.fraction, literal.exponent, whole.excess with
  | none, none, [] =>
      if !negative then
        some (.integer whole.value)
      else if 0 < whole.value ∧ whole.value ≤ 2 ^ 63 then
        some (.integer (-(whole.value : Int)))
      else
        some (.double true (.ofNat whole.value))
  | fraction, exponent, excess =>
      let extended := extend whole.value 0 (fraction.getD [])
      let shift : Int := excess.length - extended.taken
      let exponent : Int :=
        match exponent with
        | none => 0
        | some (true, digits) => -(natOfDigits digits : Int)
        | some (false, digits) => natOfDigits digits
      (scale? extended.value (shift + exponent)).map (.double negative)

def read? (characters : List Char) : Option (JsonNumber × List Char) := do
  let (negative, rest) :=
    match characters with
    | '-' :: rest => (true, rest)
    | rest => (false, rest)
  let (literal, rest) ← splitLiteral rest
  let number ← ofLiteral? negative literal
  pure (number, rest)

end JsonNumber
end PoolPlanner
