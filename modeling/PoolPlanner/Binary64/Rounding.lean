/-!
# Doubles as exact numbers

A non-negative IEEE 754 double is a natural significand times a power of two, or infinity.  Every
operation here is the exact one on rational numbers followed by one rounding to the nearest
double, a half going to the even significand.
-/

namespace PoolPlanner

-- Powers are those of the core library, also where the algebraic hierarchy is in scope.
attribute [instance (high), default_instance (high + 1)] instPowNat

namespace Binary64

/-- The size of a double.  A finite one is `significand * 2 ^ exponent`, where the significand has
fifty-three bits unless the exponent is the least one, -1074. -/
inductive Magnitude
  | finite (significand : Nat) (exponent : Int)
  | infinite
deriving DecidableEq, Repr, Inhabited

/-- The natural number nearest to a quotient, a half going to the even one. -/
def roundQuotient (numerator denominator : Nat) : Nat :=
  let quotient := numerator / denominator
  let twice := 2 * (numerator % denominator)
  if twice < denominator then quotient
  else if denominator < twice then quotient + 1
  else quotient + quotient % 2

/-- The ratio divided by a power of two, as a numerator and a denominator. -/
def scaleDown (numerator denominator : Nat) (exponent : Int) : Nat × Nat :=
  if 0 ≤ exponent then
    (numerator, denominator * 2 ^ exponent.toNat)
  else
    (numerator * 2 ^ (-exponent).toNat, denominator)

/-- The exponent at which the significand of a positive ratio has fifty-three bits, or the least
exponent of a double if that is larger. -/
def exponentOf (numerator denominator : Nat) : Int :=
  let guess : Int := (numerator.log2 : Int) - denominator.log2 - 52
  let scaled := scaleDown numerator denominator guess
  max (if scaled.1 / scaled.2 < 2 ^ 52 then guess - 1 else guess) (-1074)

namespace Magnitude

def zero : Magnitude :=
  .finite 0 (-1074)

def ofRatio (numerator denominator : Nat) : Magnitude :=
  if numerator = 0 then
    zero
  else
    let exponent := exponentOf numerator denominator
    let scaled := scaleDown numerator denominator exponent
    let rounded := roundQuotient scaled.1 scaled.2
    let carried := rounded = 2 ^ 53
    let significand := if carried then 2 ^ 52 else rounded
    let exponent := if carried then exponent + 1 else exponent
    if 971 < exponent then .infinite else .finite significand exponent

def ofNat (value : Nat) : Magnitude :=
  ofRatio value 1

def ratio (significand : Nat) (exponent : Int) : Nat × Nat :=
  if 0 ≤ exponent then
    (significand * 2 ^ exponent.toNat, 1)
  else
    (significand, 2 ^ (-exponent).toNat)

def add : Magnitude → Magnitude → Magnitude
  | .finite left leftExponent, .finite right rightExponent =>
      let x := ratio left leftExponent
      let y := ratio right rightExponent
      ofRatio (x.1 * y.2 + y.1 * x.2) (x.2 * y.2)
  | _, _ => .infinite

/-- The rounded product of two sizes of which none is zero while the other is infinite. -/
def mul : Magnitude → Magnitude → Magnitude
  | .finite left leftExponent, .finite right rightExponent =>
      let x := ratio left leftExponent
      let y := ratio right rightExponent
      ofRatio (x.1 * y.1) (x.2 * y.2)
  | _, _ => .infinite

/-- The rounded quotient by a finite size other than zero. -/
def div : Magnitude → Magnitude → Magnitude
  | .finite left leftExponent, .finite right rightExponent =>
      let x := ratio left leftExponent
      let y := ratio right rightExponent
      ofRatio (x.1 * y.2) (x.2 * y.1)
  | size, _ => size

/-- The natural number below a finite size; none for infinity. -/
def truncate? : Magnitude → Option Nat
  | .finite significand exponent =>
      let exact := ratio significand exponent
      some (exact.1 / exact.2)
  | .infinite => none

def isAtMost : Magnitude → Magnitude → Bool
  | .finite left leftExponent, .finite right rightExponent =>
      let x := ratio left leftExponent
      let y := ratio right rightExponent
      x.1 * y.2 ≤ y.1 * x.2
  | .infinite, .finite _ _ => false
  | _, .infinite => true

end Magnitude
end Binary64
end PoolPlanner
