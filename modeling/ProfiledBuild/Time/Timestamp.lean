/-! Moments of universal time as calendar dates with a time of day. Second 60 is a leap second;
it may end any minute. -/

namespace ProfiledBuild

def isLeapYear (year : Int) : Bool :=
  year % 4 = 0 && (year % 100 ≠ 0 || year % 400 = 0)

def daysInMonth (year : Int) : Nat → Nat
  | 2 => if isLeapYear year then 29 else 28
  | 4 | 6 | 9 | 11 => 30
  | _ => 31

/-- A date and a time of day as they are written, in range or not. -/
structure Civil where
  year : Int
  month : Nat
  day : Nat
  hour : Nat
  minute : Nat
  second : Nat
  nanosecond : Nat
  deriving DecidableEq, Repr

namespace Civil

def firstYear : Int := -262143

def lastYear : Int := 262142

def Valid (c : Civil) : Prop :=
  firstYear ≤ c.year ∧ c.year ≤ lastYear ∧ 1 ≤ c.month ∧ c.month ≤ 12 ∧
    1 ≤ c.day ∧ c.day ≤ daysInMonth c.year c.month ∧
    c.hour ≤ 23 ∧ c.minute ≤ 59 ∧ c.second ≤ 60 ∧ c.nanosecond < 1000000000

instance (c : Civil) : Decidable c.Valid := by unfold Valid; infer_instance

def nextDay (c : Civil) : Civil :=
  if c.day < daysInMonth c.year c.month then { c with day := c.day + 1 }
  else if c.month < 12 then { c with month := c.month + 1, day := 1 }
  else { c with year := c.year + 1, month := 1, day := 1 }

def previousDay (c : Civil) : Civil :=
  if 1 < c.day then { c with day := c.day - 1 }
  else if 1 < c.month then
    { c with month := c.month - 1, day := daysInMonth c.year (c.month - 1) }
  else { c with year := c.year - 1, month := 12, day := 31 }

/-- The same moment on a clock that is `minutes` behind. -/
def behind (minutes : Int) (c : Civil) : Civil :=
  let minuteOfDay := (c.hour * 60 + c.minute : Int) - minutes
  let shifted (n : Int) : Civil := { c with hour := n.toNat / 60, minute := n.toNat % 60 }
  if minuteOfDay < 0 then (shifted (minuteOfDay + 1440)).previousDay
  else if 1440 ≤ minuteOfDay then (shifted (minuteOfDay - 1440)).nextDay
  else shifted minuteOfDay

end Civil

structure Timestamp extends Civil where
  valid : toCivil.Valid
  deriving DecidableEq

namespace Timestamp

def ofCivil? (c : Civil) : Option Timestamp :=
  if h : c.Valid then some ⟨c, h⟩ else none

instance : Inhabited Timestamp := ⟨⟨⟨1970, 1, 1, 0, 0, 0, 0⟩, by decide⟩⟩

def padded (width n : Nat) : String :=
  let digits := toString n
  String.ofList (List.replicate (width - digits.length) '0') ++ digits

/-- Years of four digits have no sign, all others have one. -/
def yearText (year : Int) : String :=
  if 0 ≤ year ∧ year ≤ 9999 then padded 4 year.toNat
  else (if year < 0 then "-" else "+") ++ padded 4 year.natAbs

def dayAndTime (t : Timestamp) : String :=
  yearText t.year ++ "-" ++ padded 2 t.month ++ "-" ++ padded 2 t.day ++ "T" ++
    padded 2 t.hour ++ ":" ++ padded 2 t.minute ++ ":" ++ padded 2 t.second

def fraction (nanosecond : Nat) : String :=
  if nanosecond = 0 then ""
  else if nanosecond % 1000000 = 0 then "." ++ padded 3 (nanosecond / 1000000)
  else if nanosecond % 1000 = 0 then "." ++ padded 6 (nanosecond / 1000)
  else "." ++ padded 9 nanosecond

def text (t : Timestamp) : String := t.dayAndTime ++ fraction t.nanosecond ++ "Z"

def microsecondText (t : Timestamp) : String :=
  t.dayAndTime ++ "." ++ padded 6 (t.nanosecond / 1000) ++ "Z"

/-- Days since the first of March of year 0. -/
def dayNumber (year : Int) (month day : Nat) : Int :=
  let year := if month ≤ 2 then year - 1 else year
  let monthFromMarch : Int := (month + 9) % 12
  year * 365 + year.fdiv 4 - year.fdiv 100 + year.fdiv 400 +
    (monthFromMarch * 153 + 2) / 5 + day - 1

/-- The date with a day number. The day of a year that starts in March gives its month. -/
def dateOfDayNumber (n : Int) : Int × Nat × Nat :=
  let era := n.fdiv 146097
  let day := (n - era * 146097).toNat
  let year := (day - day / 1460 + day / 36524 - day / 146096) / 365
  let dayOfYear := day - (365 * year + year / 4 - year / 100)
  let month := (5 * dayOfYear + 2) / 153
  let dayOfMonth := dayOfYear - (153 * month + 2) / 5 + 1
  if month < 10 then (era * 400 + year, month + 3, dayOfMonth)
  else (era * 400 + year + 1, month - 9, dayOfMonth)

/-- The moment a number of seconds after the start of 1970. -/
def ofEpoch? (seconds : Int) (nanosecond : Nat) : Option Timestamp :=
  let (year, month, day) := dateOfDayNumber (dayNumber 1970 1 1 + seconds.fdiv 86400)
  let second := (seconds.fmod 86400).toNat
  ofCivil? ⟨year, month, day, second / 3600, second / 60 % 60, second % 60, nanosecond⟩

/-- A leap second counts as the second half of a long second. -/
def secondOfDay (t : Timestamp) : Nat :=
  t.hour * 3600 + t.minute * 60 + min t.second 59

def nanosecondOfSecond (t : Timestamp) : Nat :=
  if t.second = 60 then t.nanosecond + 1000000000 else t.nanosecond

/-- The nanoseconds from one moment to another. A leap second counts only if it lies between the
two times of day. -/
def nanosecondsSince (t start : Timestamp) : Int :=
  let days := dayNumber t.year t.month t.day - dayNumber start.year start.month start.day
  let leap : Int :=
    if start.secondOfDay < t.secondOfDay then if start.second = 60 then 1 else 0
    else if t.secondOfDay < start.secondOfDay then if t.second = 60 then -1 else 0
    else 0
  let seconds := days * 86400 + (t.secondOfDay - start.secondOfDay : Int) + leap
  seconds * 1000000000 + (t.nanosecondOfSecond - start.nanosecondOfSecond : Int)

def millisecondsSince (t start : Timestamp) : Int :=
  (t.nanosecondsSince start).tdiv 1000000

end Timestamp

end ProfiledBuild
