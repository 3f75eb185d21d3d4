import Mustache.Text.Digits
import Mustache.Text.Quoted

/-!
# Dates and moments

Days of the Gregorian calendar from year 1 to 9999 and moments within them. Day numbers count from
1 for the first day of year 1; moments may carry an offset from universal time.
-/

namespace Mustache

/-- Whether a year has a 29 February. -/
def isLeapYear (year : Nat) : Bool :=
  year % 4 == 0 && (year % 100 != 0 || year % 400 == 0)

/-- The number of days of a month. -/
def daysInMonth (year month : Nat) : Nat :=
  match month with
  | 2 => if isLeapYear year then 29 else 28
  | 4 | 6 | 9 | 11 => 30
  | _ => 31

/-- A day of the calendar. -/
structure Date where
  year : Nat
  month : Nat
  day : Nat
deriving DecidableEq, Repr, Inhabited

namespace Date

/-- The first day. -/
def earliest : Date := ⟨1, 1, 1⟩

/-- The last day. -/
def latest : Date := ⟨9999, 12, 31⟩

/-- Whether a day exists. -/
def isValid (d : Date) : Bool :=
  1 ≤ d.year && d.year ≤ 9999 && 1 ≤ d.month && d.month ≤ 12 && 1 ≤ d.day
    && d.day ≤ daysInMonth d.year d.month

/-- The number of days before a year. -/
def daysBeforeYear (year : Nat) : Nat :=
  let y := year - 1
  y * 365 + y / 4 - y / 100 + y / 400

/-- The number of days of a year before a month. -/
def daysBeforeMonth (year : Nat) : Nat → Nat
  | 0 | 1 => 0
  | month + 1 => daysBeforeMonth year month + daysInMonth year month

/-- The number of a day, 1 for the first day of year 1. -/
def number (d : Date) : Nat := daysBeforeYear d.year + daysBeforeMonth d.year d.month + d.day

/-- The day of the week, 0 for Monday. -/
def weekday (d : Date) : Nat := (d.number + 6) % 7

/-- The day after. -/
def next (d : Date) : Date :=
  if d.day < daysInMonth d.year d.month then { d with day := d.day + 1 }
  else if d.month < 12 then ⟨d.year, d.month + 1, 1⟩
  else ⟨d.year + 1, 1, 1⟩

/-- The day as `2020-01-02`. -/
def text (d : Date) : String :=
  Text.padded 4 d.year ++ "-" ++ Text.padded 2 d.month ++ "-" ++ Text.padded 2 d.day

/-- The day inside the text of a collection. -/
def inspected (d : Date) : String :=
  s!"datetime.date({d.year}, {d.month}, {d.day})"

/-- The abbreviated name of a day of the week, 0 for Monday. -/
def weekdayName (n : Nat) : String :=
  (["Mon", "Tue", "Wed", "Thu", "Fri", "Sat", "Sun"][n]?).getD ""

/-- The abbreviated name of a month, 1 for January. -/
def monthName (n : Nat) : String :=
  (["", "Jan", "Feb", "Mar", "Apr", "May", "Jun", "Jul", "Aug", "Sep", "Oct", "Nov",
    "Dec"][n]?).getD ""

/-- The long form of a time of a day, such as `Thu Feb 29 00:00:00 2024`. -/
def longText (d : Date) (clock : String) : String :=
  weekdayName d.weekday ++ " " ++ monthName d.month ++ " " ++ Text.spaced 2 d.day ++ " " ++ clock
    ++ " " ++ Text.padded 4 d.year

end Date

/-- A distance from universal time in minutes, with the spelling it was given in. -/
structure Offset where
  minutes : Int
  name : String
deriving DecidableEq, Repr, Inhabited

/-- A moment of a day, to the microsecond. -/
structure Moment where
  date : Date
  hour : Nat
  minute : Nat
  second : Nat
  microsecond : Nat
  offset : Option Offset
deriving DecidableEq, Repr, Inhabited

namespace Moment

/-- The first moment. -/
def earliest : Moment := ⟨.earliest, 0, 0, 0, 0, none⟩

/-- The last moment. -/
def latest : Moment := ⟨.latest, 23, 59, 59, 999999, none⟩

/-- Whether a moment exists and its offset is shorter than a day. -/
def isValid (m : Moment) : Bool :=
  m.date.isValid && m.hour < 24 && m.minute < 60 && m.second < 60 && m.microsecond < 1000000
    && (match m.offset with
      | none => true
      | some o => o.minutes.natAbs < 24 * 60)

/-- The moment one second later. -/
def nextSecond (m : Moment) : Moment :=
  if m.second < 59 then { m with second := m.second + 1 }
  else if m.minute < 59 then { m with second := 0, minute := m.minute + 1 }
  else if m.hour < 23 then { m with second := 0, minute := 0, hour := m.hour + 1 }
  else { m with second := 0, minute := 0, hour := 0, date := m.date.next }

/-- The time of day to the second. -/
def clock (m : Moment) : String :=
  Text.padded 2 m.hour ++ ":" ++ Text.padded 2 m.minute ++ ":" ++ Text.padded 2 m.second

/-- An offset as `+02:00`. -/
def offsetText (o : Offset) : String :=
  let n := o.minutes.natAbs
  (if o.minutes < 0 then "-" else "+") ++ Text.padded 2 (n / 60) ++ ":" ++ Text.padded 2 (n % 60)

/-- Day and time joined by a separator; fractions and offsets only if there are any. -/
def joined (separator : String) (m : Moment) : String :=
  m.date.text ++ separator ++ m.clock
    ++ (if m.microsecond = 0 then "" else "." ++ Text.padded 6 m.microsecond)
    ++ (m.offset.map offsetText).getD ""

/-- The moment as `2020-01-02 03:04:05`. -/
def text (m : Moment) : String := m.joined " "

/-- An offset inside the text of a collection. -/
def inspectedOffset (o : Offset) : String :=
  let seconds := o.minutes * 60
  let span :=
    if seconds = 0 then "0"
    else if seconds < 0 then s!"days=-1, seconds={seconds + 86400}"
    else s!"seconds={seconds}"
  ", tzinfo=datetime.timezone(datetime.timedelta(" ++ span ++ "), " ++ Text.quoted o.name ++ ")"

/-- The moment inside the text of a collection. -/
def inspected (m : Moment) : String :=
  let fraction :=
    if m.microsecond ≠ 0 then s!", {m.second}, {m.microsecond}"
    else if m.second ≠ 0 then s!", {m.second}"
    else ""
  s!"datetime.datetime({m.date.year}, {m.date.month}, {m.date.day}, {m.hour}, {m.minute}"
    ++ fraction ++ (m.offset.map inspectedOffset).getD "" ++ ")"

end Moment

example : (Date.mk 2024 2 29).weekday = 3 ∧ (Date.mk 2020 1 5).weekday = 6 := by decide

end Mustache
