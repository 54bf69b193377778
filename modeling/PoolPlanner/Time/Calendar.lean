/-!
# Calendar moments

A moment of Coordinated Universal Time by its calendar fields, in the proleptic Gregorian calendar.
Moving a moment by an offset of less than a day touches the date by at most one day, so no count of
days since an epoch is needed.
-/

namespace PoolPlanner

/-- Calendar fields of a moment, valid or not. -/
structure Moment where
  year : Int
  month : Nat
  day : Nat
  hour : Nat
  minute : Nat
  /-- Sixty stands for a leap second. -/
  second : Nat
  nanosecond : Nat
deriving DecidableEq, Repr, Inhabited

def isLeapYear (year : Int) : Bool :=
  year % 4 = 0 && (year % 100 ≠ 0 || year % 400 = 0)

def daysInMonth (year : Int) (month : Nat) : Nat :=
  if month = 2 then (if isLeapYear year then 29 else 28)
  else if month = 4 ∨ month = 6 ∨ month = 9 ∨ month = 11 then 30
  else 31

namespace Moment

/-- Whether the fields name a moment within the years that can be told. -/
def IsValid (moment : Moment) : Prop :=
  -262143 ≤ moment.year ∧ moment.year ≤ 262142 ∧
    1 ≤ moment.month ∧ moment.month ≤ 12 ∧
    1 ≤ moment.day ∧ moment.day ≤ daysInMonth moment.year moment.month ∧
    moment.hour < 24 ∧ moment.minute < 60 ∧ moment.second ≤ 60 ∧
    moment.nanosecond < 1000000000

instance (moment : Moment) : Decidable moment.IsValid :=
  inferInstanceAs (Decidable (_ ∧ _))

def nextDay (moment : Moment) : Moment :=
  if moment.day < daysInMonth moment.year moment.month then
    { moment with day := moment.day + 1 }
  else if moment.month < 12 then
    { moment with month := moment.month + 1, day := 1 }
  else
    { moment with year := moment.year + 1, month := 1, day := 1 }

def previousDay (moment : Moment) : Moment :=
  if 1 < moment.day then
    { moment with day := moment.day - 1 }
  else if 1 < moment.month then
    { moment with
      month := moment.month - 1, day := daysInMonth moment.year (moment.month - 1) }
  else
    { moment with year := moment.year - 1, month := 12, day := 31 }

/-- The moment in universal time of a local one, for a place that many minutes ahead. -/
def toUniversal (moment : Moment) (minutesAhead : Int) : Moment :=
  let minutes : Int := moment.hour * 60 + moment.minute - minutesAhead
  let date :=
    if minutes < 0 then moment.previousDay
    else if 1440 ≤ minutes then moment.nextDay
    else moment
  let ofDay := (minutes % 1440).toNat
  { date with hour := ofDay / 60, minute := ofDay % 60 }

def isBefore (left right : Moment) : Bool :=
  let fields (moment : Moment) : List Int :=
    [moment.year, moment.month, moment.day, moment.hour, moment.minute, moment.second,
      moment.nanosecond]
  fields left < fields right

end Moment

/-- A moment of universal time. -/
structure Instant where
  moment : Moment
  valid : moment.IsValid
deriving DecidableEq

namespace Instant

/-- The instant with some fields, if they are valid. -/
def ofMoment? (moment : Moment) : Option Instant :=
  if valid : moment.IsValid then some ⟨moment, valid⟩ else none

def epoch : Instant :=
  ⟨⟨1970, 1, 1, 0, 0, 0, 0⟩, by decide⟩

instance : Inhabited Instant :=
  ⟨epoch⟩

def isBefore (left right : Instant) : Bool :=
  left.moment.isBefore right.moment

end Instant
end PoolPlanner
