import PoolPlanner.Binary64.Rounding

/-!
# Shortest decimals of a double

The decimal with the fewest digits that reads back as a given double and, of those, the nearest to
it.  The digits are found in exact arithmetic; how they are laid out is for each format to say.
-/

namespace PoolPlanner
namespace Binary64

structure Decimal where
  coefficient : Nat
  exponent : Int
deriving DecidableEq, Repr, Inhabited

def digitCount (value : Nat) : Nat :=
  (Nat.toDigits 10 value).length

/-- The place of the decimal point of a positive ratio: the least power of ten above it. -/
def decimalPoint (numerator denominator : Nat) : Int :=
  if denominator ≤ numerator then
    digitCount (numerator / denominator)
  else
    1 - (digitCount ((denominator - 1) / numerator) : Int)

/-- The reals that round to a double, with the double itself, in quarters of the place value of
its significand. -/
structure RoundingInterval where
  low : Nat
  value : Nat
  high : Nat
  /-- Whether the two ends round to the double as well. -/
  closed : Bool

/-- The interval of reals that round to a double.  Below a power of two the next double is half as
far away. -/
def roundingInterval (significand : Nat) (exponent : Int) : RoundingInterval where
  low :=
    if significand = 2 ^ 52 ∧ -1074 < exponent then 4 * significand - 1
    else 4 * significand - 2
  value := 4 * significand
  high := 4 * significand + 2
  closed := significand % 2 = 0

/-- The multiple of a power of ten that reads back as a double, if one of the two neighbours of the
double does; of two the nearer, and of two equally near the even one. -/
def neighbourOnGrid (interval : RoundingInterval) (unitExponent gridExponent : Int) : Option Nat :=
  let unit := 2 ^ unitExponent.toNat * 10 ^ (-gridExponent).toNat
  let step := 2 ^ (-unitExponent).toNat * 10 ^ gridExponent.toNat
  let inside (candidate : Nat) : Bool :=
    if interval.closed then
      interval.low * unit ≤ candidate * step && candidate * step ≤ interval.high * unit
    else
      interval.low * unit < candidate * step && candidate * step < interval.high * unit
  let below := interval.value * unit / step
  let above := below + 1
  match inside below, inside above with
  | true, true =>
      let fromBelow := interval.value * unit - below * step
      let fromAbove := above * step - interval.value * unit
      if fromBelow < fromAbove then some below
      else if fromAbove < fromBelow then some above
      else some (if below % 2 = 0 then below else above)
  | true, false => some below
  | false, true => some above
  | false, false => none

def dropZeros : Nat → Nat → Int → Decimal
  | 0, coefficient, exponent => ⟨coefficient, exponent⟩
  | fuel + 1, coefficient, exponent =>
      if coefficient ≠ 0 ∧ coefficient % 10 = 0 then
        dropZeros fuel (coefficient / 10) (exponent + 1)
      else
        ⟨coefficient, exponent⟩

/-- The shortest decimal that reads back as a finite double. -/
def shortest (significand : Nat) (exponent : Int) : Decimal :=
  if significand = 0 then
    ⟨0, 0⟩
  else
    let exact := Magnitude.ratio significand exponent
    let point := decimalPoint exact.1 exact.2
    let interval := roundingInterval significand exponent
    let onGrid (digits : Nat) : Option Decimal :=
      (neighbourOnGrid interval (exponent - 2) (point - digits)).map fun coefficient =>
        dropZeros 17 coefficient (point - digits)
    ((List.range 17).findSome? fun index => onGrid (index + 1)).getD ⟨0, 0⟩

def digitsOf (value : Nat) : List Char :=
  Nat.toDigits 10 value

/-- How a format lays out the digits of a double. -/
structure Layout where
  /-- The least exponent of the first digit that is written without an exponent mark; none if no
  number is written with one. -/
  positionalFrom : Option Int
  /-- The greatest such exponent. -/
  positionalTo : Option Int
  /-- Whether a whole number ends in `.0`. -/
  wholePoint : Bool

/-- JSON numbers: positional from `1e-5` to below `1e+16`, a whole number with `.0`, and an exponent
with its sign and no zero in front. -/
def jsonLayout : Layout :=
  ⟨some (-5), some 15, true⟩

/-- Metric samples: always positional, a whole number without a point. -/
def sampleLayout : Layout :=
  ⟨none, none, false⟩

/-- Digits around a decimal point that stands behind the first `point` of them. -/
def positional (digits : List Char) (point : Int) (wholePoint : Bool) : List Char :=
  if point ≤ 0 then
    ['0', '.'] ++ List.replicate (-point).toNat '0' ++ digits
  else if digits.length ≤ point.toNat then
    digits ++ List.replicate (point.toNat - digits.length) '0' ++
      (if wholePoint then ['.', '0'] else [])
  else
    digits.take point.toNat ++ ['.'] ++ digits.drop point.toNat

def exponentText (exponent : Int) : List Char :=
  (if exponent < 0 then '-' else '+') :: digitsOf exponent.natAbs

/-- One digit before the point, and an exponent. -/
def scientific (digits : List Char) (exponent : Int) : List Char :=
  let fraction := digits.drop 1
  digits.take 1 ++ (if fraction.isEmpty then [] else '.' :: fraction) ++
    'e' :: exponentText exponent

def Layout.text (layout : Layout) (decimal : Decimal) : List Char :=
  let digits := digitsOf decimal.coefficient
  let leading : Int := digits.length + decimal.exponent - 1
  let tooSmall := layout.positionalFrom.any fun least => leading < least
  let tooLarge := layout.positionalTo.any fun greatest => greatest < leading
  if tooSmall || tooLarge then scientific digits leading
  else positional digits (leading + 1) layout.wholePoint

def Magnitude.text (layout : Layout) : Magnitude → List Char
  | .finite significand exponent => layout.text (shortest significand exponent)
  | .infinite => ['i', 'n', 'f']

end Binary64
end PoolPlanner
