import PoolPlanner.Text.Blank
import PoolPlanner.Time.Calendar

/-!
# Dates and times as text

Instants are written as RFC 3339 date-times in universal time.  They are read from any RFC 3339
date-time with an offset, and a little more loosely than that: blanks may stand around the parts of
date and time, leading zeros may be left out, and the colon of the offset is optional.
-/

namespace PoolPlanner

/-- Why a text is no date-time. -/
inductive DateTimeFault
  | tooShort
  | malformed
  | outOfRange
  | trailing
deriving DecidableEq, Repr

namespace DateTimeFault

def message : DateTimeFault → String
  | .tooShort => "premature end of input"
  | .malformed => "input contains invalid characters"
  | .outOfRange => "input is out of range"
  | .trailing => "trailing input"

end DateTimeFault

namespace DateTime

def digitValue (digit : Char) : Nat :=
  digit.toNat - '0'.toNat

def numberOf (digits : List Char) : Nat :=
  digits.foldl (fun value digit => value * 10 + digitValue digit) 0

def skipBlanks (characters : List Char) : List Char :=
  characters.dropWhile Text.isBlank

/-- Read at least one digit and at most `width`, which may be unbounded. -/
def readDigits (width : Option Nat) (characters : List Char) :
    Except DateTimeFault (List Char × List Char) :=
  let window := match width with
    | some width => characters.take width
    | none => characters
  let digits := window.takeWhile Char.isDigit
  match characters with
  | [] => .error .tooShort
  | _ =>
      if digits.isEmpty then .error .malformed
      else .ok (digits, characters.drop digits.length)

/-- Read a field of at most two digits that lies within bounds. -/
def readField (least greatest : Nat) (characters : List Char) :
    Except DateTimeFault (Nat × List Char) := do
  let (digits, rest) ← readDigits (some 2) (skipBlanks characters)
  let value := numberOf digits
  if value < least ∨ greatest < value then .error .outOfRange else .ok (value, rest)

/-- Read a year: at most four digits, or a sign and any number of them. -/
def readYear (characters : List Char) : Except DateTimeFault (Int × List Char) :=
  match skipBlanks characters with
  | '-' :: rest => do
      let (digits, rest) ← readDigits none rest
      .ok (-(numberOf digits : Int), rest)
  | '+' :: rest => do
      let (digits, rest) ← readDigits none rest
      .ok ((numberOf digits : Int), rest)
  | rest => do
      let (digits, rest) ← readDigits (some 4) rest
      .ok ((numberOf digits : Int), rest)

def readMark (mark : Char) (characters : List Char) : Except DateTimeFault (List Char) :=
  match skipBlanks characters with
  | [] => .error .tooShort
  | first :: rest => if first = mark then .ok rest else .error .malformed

def readTimeMark : List Char → Except DateTimeFault (List Char)
  | [] => .error .tooShort
  | first :: rest =>
      if first = 'T' ∨ first = 't' ∨ first = ' ' then .ok rest else .error .malformed

/-- Read a fraction of a second, if there is one; digits behind the ninth are dropped. -/
def readFraction : List Char → Except DateTimeFault (Nat × List Char)
  | '.' :: rest => do
      let (digits, rest) ← readDigits (some 9) rest
      .ok (numberOf digits * 10 ^ (9 - digits.length), rest.dropWhile Char.isDigit)
  | rest => .ok (0, rest)

/-- Whether a character may stand between the hours and minutes of an offset. -/
def isOffsetMark (character : Char) : Bool :=
  character = ':' || Text.isBlank character

def readOffsetTime : List Char → Except DateTimeFault (Nat × List Char)
  | tens :: units :: rest =>
      if !(tens.isDigit && units.isDigit) then .error .malformed
      else
        match rest.dropWhile isOffsetMark with
        | minuteTens :: minuteUnits :: rest =>
            if !(minuteTens.isDigit && minuteUnits.isDigit) then .error .malformed
            else if 5 < digitValue minuteTens then .error .outOfRange
            else .ok (numberOf [tens, units] * 60 + numberOf [minuteTens, minuteUnits], rest)
        | _ => .error .tooShort
  | _ => .error .tooShort

/-- Read an offset from universal time, in minutes ahead of it. -/
def readOffset (characters : List Char) : Except DateTimeFault (Int × List Char) :=
  match characters with
  | [] => .error .tooShort
  | 'Z' :: rest => .ok (0, rest)
  | 'z' :: rest => .ok (0, rest)
  | '+' :: rest => do
      let (minutes, rest) ← readOffsetTime rest
      .ok ((minutes : Int), rest)
  | '-' :: rest => do
      let (minutes, rest) ← readOffsetTime rest
      .ok (-(minutes : Int), rest)
  | '\u2212' :: rest => do
      let (minutes, rest) ← readOffsetTime rest
      .ok (-(minutes : Int), rest)
  | first :: second :: third :: rest =>
      if [first, second, third].map Char.toUpper = ['U', 'T', 'C'] then .ok (0, rest)
      else .error .malformed
  | _ => .error .malformed

def readChars (characters : List Char) : Except DateTimeFault Instant := do
  let (year, rest) ← readYear characters
  if year < -2147483648 ∨ 2147483647 < year then throw .outOfRange
  let rest ← readMark '-' rest
  let (month, rest) ← readField 1 12 rest
  let rest ← readMark '-' rest
  let (day, rest) ← readField 1 31 rest
  let rest ← readTimeMark rest
  let (hour, rest) ← readField 0 23 rest
  let rest ← readMark ':' rest
  let (minute, rest) ← readField 0 59 rest
  let rest ← readMark ':' rest
  let (second, rest) ← readField 0 60 rest
  let (nanosecond, rest) ← readFraction rest
  let (minutesAhead, rest) ← readOffset (skipBlanks rest)
  if !(skipBlanks rest).isEmpty then throw .trailing
  let there : Moment := ⟨year, month, day, hour, minute, second, nanosecond⟩
  if ¬ there.IsValid ∨ 1440 ≤ minutesAhead.natAbs then throw .outOfRange
  match Instant.ofMoment? (there.toUniversal minutesAhead) with
  | some instant => .ok instant
  | none => .error .outOfRange

def padded (width value : Nat) : List Char :=
  let digits := Nat.toDigits 10 value
  List.replicate (width - digits.length) '0' ++ digits

/-- A year: four digits, and a sign where those do not tell it. -/
def yearText (year : Int) : List Char :=
  if 0 ≤ year ∧ year ≤ 9999 then padded 4 year.toNat
  else (if year < 0 then '-' else '+') :: padded 4 year.natAbs

/-- A fraction of a second in groups of three digits, nothing if it is zero. -/
def fractionText (nanosecond : Nat) : List Char :=
  if nanosecond = 0 then []
  else if nanosecond % 1000000 = 0 then '.' :: padded 3 (nanosecond / 1000000)
  else if nanosecond % 1000 = 0 then '.' :: padded 6 (nanosecond / 1000)
  else '.' :: padded 9 nanosecond

def secondsText (moment : Moment) : List Char :=
  yearText moment.year ++ '-' :: padded 2 moment.month ++ '-' :: padded 2 moment.day ++
    'T' :: padded 2 moment.hour ++ ':' :: padded 2 moment.minute ++
    ':' :: padded 2 moment.second

end DateTime

namespace Instant

def read (text : String) : Except DateTimeFault Instant :=
  DateTime.readChars text.toList

/-- The instant as a date-time with as many fraction digits as it needs. -/
def text (instant : Instant) : String :=
  String.ofList
    (DateTime.secondsText instant.moment ++ DateTime.fractionText instant.moment.nanosecond ++
      ['Z'])

def wholeText (instant : Instant) : String :=
  String.ofList (DateTime.secondsText instant.moment ++ ['Z'])

end Instant
end PoolPlanner
