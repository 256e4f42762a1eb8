import RowParity.Number.Decimal

/-!
# The calendar

Days and times of day as they stand in texts, with a check that the calendar has them, and points in
time counted from the start of 1970.
-/

namespace RowParity

structure Date where
  year : Nat
  month : Nat
  day : Nat
  deriving DecidableEq, Repr

namespace Date

def isLeapYear (year : Nat) : Bool :=
  year % 4 == 0 && (year % 100 != 0 || year % 400 == 0)

def daysInMonth (year month : Nat) : Nat :=
  if month = 2 then (if isLeapYear year then 29 else 28)
  else if month ∈ [4, 6, 9, 11] then 30
  else 31

/-- The day with these parts, if the calendar has it. -/
def ofParts? (year month day : Nat) : Option Date :=
  if 1 ≤ month ∧ month ≤ 12 ∧ 1 ≤ day ∧ day ≤ daysInMonth year month then
    some ⟨year, month, day⟩
  else none

/-- The first day of 1970. -/
def epoch : Date := ⟨1970, 1, 1⟩

/-- The day that lies so many days after the first of 1970. Years are counted from March, so that a
leap day comes last, and in cycles of 400, after which the calendar repeats itself. -/
def ofEpochDays (days : Int) : Date :=
  let shifted := days + 719468
  let cycle := shifted / 146097
  let dayOfCycle := shifted % 146097
  let yearOfCycle :=
    (dayOfCycle - dayOfCycle / 1460 + dayOfCycle / 36524 - dayOfCycle / 146096) / 365
  let dayOfYear := dayOfCycle - (365 * yearOfCycle + yearOfCycle / 4 - yearOfCycle / 100)
  let month := (5 * dayOfYear + 2) / 153
  let day := dayOfYear - (153 * month + 2) / 5 + 1
  let isNextYear := 10 ≤ month
  let year := cycle * 400 + yearOfCycle + if isNextYear then 1 else 0
  ⟨year.toNat, (if isNextYear then month - 9 else month + 3).toNat, day.toNat⟩

def text (d : Date) : String :=
  String.ofList (Number.padded 4 d.year ++ '-' :: Number.padded 2 d.month ++
    '-' :: Number.padded 2 d.day)

end Date

structure TimeOfDay where
  hour : Nat
  minute : Nat
  second : Nat
  deriving DecidableEq, Repr

namespace TimeOfDay

/-- The time with these parts, if a day has it. -/
def ofParts? (hour minute second : Nat) : Option TimeOfDay :=
  if hour < 24 ∧ minute < 60 ∧ second < 60 then some ⟨hour, minute, second⟩ else none

def midnight : TimeOfDay := ⟨0, 0, 0⟩

def text (t : TimeOfDay) : String :=
  String.ofList (Number.padded 2 t.hour ++ ':' :: Number.padded 2 t.minute ++
    ':' :: Number.padded 2 t.second)

/-- The second that lies so many seconds after midnight. -/
def ofSeconds (seconds : Nat) : TimeOfDay :=
  ⟨seconds / 3600 % 24, seconds / 60 % 60, seconds % 60⟩

end TimeOfDay

/-- A point in time, in milliseconds since the start of 1970. -/
abbrev Moment := Int

namespace Moment

def perDay : Int := 86400000

/-- The day and time of day in universal time, with milliseconds unless there are none. -/
def text (moment : Moment) : String :=
  let date := Date.ofEpochDays (moment / perDay)
  let inDay := (moment % perDay).toNat
  let millis := inDay % 1000
  let part := if millis = 0 then "" else "." ++ String.ofList (Number.padded 3 millis)
  date.text ++ "T" ++ (TimeOfDay.ofSeconds (inDay / 1000)).text ++ part ++ "Z"

end Moment

end RowParity
