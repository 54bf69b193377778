import PoolPlanner.Binary64.Rounding
import PoolPlanner.Fault
import PoolPlanner.Text.Blank

/-!
# Capacities

A capacity text is a decimal number, which may have a point, and a unit: a power of 1024 such as
`Gi`, a power of 1000 such as `G`, or nothing.  The number is read as a double, multiplied by the
unit as a double, and cut to whole bytes; more than sixty-four bits of them count as the largest
such number.
-/

namespace PoolPlanner
namespace Capacity

/-- The capacity that disks have at least when neither intent nor settings say. -/
def standardText : String :=
  "100Gi"

def largest : Nat :=
  2 ^ 64 - 1

/-- Every unit and how many bytes it has. -/
def units : List (List Char × Nat) :=
  [([], 1),
    (['K', 'i'], 2 ^ 10), (['M', 'i'], 2 ^ 20), (['G', 'i'], 2 ^ 30),
    (['T', 'i'], 2 ^ 40), (['P', 'i'], 2 ^ 50), (['E', 'i'], 2 ^ 60),
    (['k'], 10 ^ 3), (['M'], 10 ^ 6), (['G'], 10 ^ 9),
    (['T'], 10 ^ 12), (['P'], 10 ^ 15), (['E'], 10 ^ 18)]

def isNumberChar (character : Char) : Bool :=
  character.isDigit || character = '.'

def natOfDigits (digits : List Char) : Nat :=
  digits.foldl (fun value digit => value * 10 + (digit.toNat - '0'.toNat)) 0

/-- The double nearest to a decimal number with at most one point and at least one digit. -/
def readNumber? (characters : List Char) : Option Binary64.Magnitude :=
  let whole := characters.takeWhile Char.isDigit
  match characters.dropWhile Char.isDigit with
  | [] => if whole = [] then none else some (.ofRatio (natOfDigits whole) 1)
  | '.' :: fraction =>
      if fraction.all Char.isDigit && !(whole ++ fraction).isEmpty then
        some (.ofRatio (natOfDigits (whole ++ fraction)) (10 ^ fraction.length))
      else
        none
  | _ => none

/-- The whole bytes of a number of units. -/
def bytesOf (number : Binary64.Magnitude) (unit : Nat) : Nat :=
  match (number.mul (.ofNat unit)).truncate? with
  | some bytes => min bytes largest
  | none => largest

def readTrimmed (characters : List Char) : Except CapacityIssue Nat :=
  let number := characters.takeWhile isNumberChar
  let unit := characters.dropWhile isNumberChar
  if characters = [] then .error .blank
  else if number = [] then .error (.noNumber (String.ofList characters))
  else
    match readNumber? number with
    | none => .error (.malformedNumber (String.ofList number))
    | some size =>
        match units.lookup unit with
        | none => .error (.unknownUnit (String.ofList unit))
        | some bytes => .ok (bytesOf size bytes)

/-- How many bytes a capacity text stands for, whatever blanks surround it. -/
def read (text : String) : Except CapacityIssue Nat :=
  readTrimmed (Text.trimChars text.toList)

/-- How many bytes a capacity text stands for, as a step of planning. -/
def bytes (text : String) : Except Fault Nat :=
  (read text).mapError .capacity

end Capacity
end PoolPlanner
