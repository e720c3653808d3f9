/-
  Days and times of day.

  A moment is a day of the calendar, or a time on a day that may be given with its distance from universal
  time.  Days and times are checked part by part when they are made, and the first part that is out of its
  range is the fault.  There are two texts for a moment: one for a reader, and one that says how it is made,
  which stands inside lists and mappings.
-/
import NetAttach.Text.CodePoint

namespace NetAttach

/-! ## The calendar -/

/-- A year that has a twenty-ninth of February. -/
def isLeapYear (year : Nat) : Bool := year % 4 = 0 && (year % 100 ≠ 0 || year % 400 = 0)

/-- The number of days in a month. -/
def daysInMonth (year month : Nat) : Nat :=
  if month = 2 then if isLeapYear year then 29 else 28
  else if month = 4 || month = 6 || month = 9 || month = 11 then 30
  else 31

/-- The number of days in a year. -/
def daysInYear (year : Nat) : Nat := if isLeapYear year then 366 else 365

/-- A day of the calendar. -/
structure Day where
  year : Nat
  month : Nat
  number : Nat
  year_pos : 0 < year
  month_mem : 1 ≤ month ∧ month ≤ 12
  number_mem : 1 ≤ number ∧ number ≤ daysInMonth year month
deriving DecidableEq

/-- A time of day. -/
structure Clock where
  hour : Nat
  minute : Nat
  second : Nat
  microsecond : Nat
  hour_lt : hour < 24
  minute_lt : minute < 60
  second_lt : second < 60
deriving DecidableEq

/-- A day, or a time on a day.  The offset is how many minutes a clock there is ahead of universal time. -/
inductive Moment where
  | day (d : Day)
  | time (d : Day) (clock : Clock) (offset : Option Int)
deriving DecidableEq

/-! ## Making moments -/

/-- Why numbers are no moment. -/
inductive MomentFault where
  | year
  | month
  | day
  | hour
  | minute
  | second
  /-- An offset of a whole day or more. -/
  | offset (minutes : Int)
deriving DecidableEq

/-- How a span of time is made: its days, and the seconds beyond them. -/
def spanText (minutes : Int) : Text :=
  let days := minutes / 1440
  let seconds := minutes % 1440 * 60
  let parts : List Text :=
    (if days = 0 then [] else ["days=" ++ Text.ofInt days]) ++
      (if seconds = 0 then [] else ["seconds=" ++ Text.ofInt seconds])
  let inside : Text := if parts.isEmpty then "0" else Text.join ", " parts
  "datetime.timedelta(" ++ inside ++ ")"

/-- What is said of a part that is out of its range. -/
def MomentFault.message : MomentFault → Text
  | year => "year 0 is out of range"
  | month => "month must be in 1..12"
  | day => "day is out of range for month"
  | hour => "hour must be in 0..23"
  | minute => "minute must be in 0..59"
  | second => "second must be in 0..59"
  | offset minutes =>
    "offset must be a timedelta strictly between -timedelta(hours=24) and timedelta(hours=24), not " ++
      spanText minutes ++ "."

/-- The day with the given numbers. -/
def Day.ofNumbers (year month number : Nat) : Except MomentFault Day :=
  if hy : 0 < year then
    if hm : 1 ≤ month ∧ month ≤ 12 then
      if hd : 1 ≤ number ∧ number ≤ daysInMonth year month then .ok ⟨year, month, number, hy, hm, hd⟩
      else .error .day
    else .error .month
  else .error .year

/-- The time of day with the given numbers. -/
def Clock.ofNumbers (hour minute second microsecond : Nat) : Except MomentFault Clock :=
  if hh : hour < 24 then
    if hm : minute < 60 then
      if hs : second < 60 then .ok ⟨hour, minute, second, microsecond, hh, hm, hs⟩
      else .error .second
    else .error .minute
  else .error .hour

/-- An offset of less than a day, either way. -/
def checkOffset (minutes : Int) : Except MomentFault Int :=
  if minutes.natAbs < 1440 then .ok minutes else .error (.offset minutes)

namespace Moment

/-! ## Texts -/

/-- A number in at least `width` digits. -/
def padded (width n : Nat) : Text :=
  let digits := Text.ofNat n
  List.replicate (width - digits.length) (CodePoint.ofChar '0') ++ digits

/-- A day, from the year on. -/
def dayText (d : Day) : Text := padded 4 d.year ++ "-" ++ padded 2 d.month ++ "-" ++ padded 2 d.number

/-- A time of day, with a fraction of a second unless that is zero. -/
def clockText (c : Clock) : Text :=
  let fraction : Text := if c.microsecond = 0 then [] else "." ++ padded 6 c.microsecond
  padded 2 c.hour ++ ":" ++ padded 2 c.minute ++ ":" ++ padded 2 c.second ++ fraction

/-- An offset in hours and minutes behind its sign. -/
def offsetText (minutes : Int) : Text :=
  let sign : Text := if minutes < 0 then "-" else "+"
  sign ++ padded 2 (minutes.natAbs / 60) ++ ":" ++ padded 2 (minutes.natAbs % 60)

/-- The text of a moment. -/
def text : Moment → Text
  | day d => dayText d
  | time d c offset => dayText d ++ " " ++ clockText c ++ (offset.elim [] offsetText)

/-- How an offset is made. -/
def offsetQuoted (minutes : Int) : Text :=
  if minutes = 0 then "datetime.timezone.utc" else "datetime.timezone(" ++ spanText minutes ++ ")"

/-- The name of the type of a moment. -/
def typeName : Moment → Text
  | day _ => "datetime.date"
  | time _ _ _ => "datetime.datetime"

/-- How a moment is made.  Seconds and fractions of them are left out when there are none. -/
def quoted (m : Moment) : Text :=
  let dayNumbers (d : Day) : List Nat := [d.year, d.month, d.number]
  let parts : List Text :=
    match m with
    | day d => (dayNumbers d).map Text.ofNat
    | time d c offset =>
      let clock :=
        if c.microsecond ≠ 0 then [c.hour, c.minute, c.second, c.microsecond]
        else if c.second ≠ 0 then [c.hour, c.minute, c.second]
        else [c.hour, c.minute]
      (dayNumbers d ++ clock).map Text.ofNat ++
        (offset.map fun minutes => "tzinfo=" ++ offsetQuoted minutes).toList
  m.typeName ++ "(" ++ Text.join ", " parts ++ ")"

/-! ## Equality in time -/

/-- The sum of what a function gives for the numbers below `n`. -/
def sumBelow (f : Nat → Nat) : (n : Nat) → Nat
  | 0 => 0
  | n + 1 => sumBelow f n + f n

/-- The days from a fixed day long ago to the given one. -/
def dayCount (d : Day) : Nat := sumBelow daysInYear d.year + sumBelow (daysInMonth d.year) d.month + d.number

/-- The microseconds from a fixed instant to a time by its own clock. -/
def microseconds (d : Day) (c : Clock) : Int :=
  ((((dayCount d * 24 + c.hour) * 60 + c.minute) * 60 + c.second) * 1000000 + c.microsecond : Nat)

/-- Two moments are the same point in time.  Times with an offset are compared by universal time; one with an
offset is never the same as one without. -/
def same : Moment → Moment → Bool
  | day d, day e => d = e
  | time d c none, time e f none => d = e && c = f
  | time d c (some m), time e f (some n) =>
    microseconds d c - m * 60000000 = microseconds e f - n * 60000000
  | _, _ => false

example : (Day.ofNumbers 2000 2 29).toOption.map dayText = some ("2000-02-29" : Text) := by decide
example : (Day.ofNumbers 1900 2 29).toOption.map dayText = none := by decide
example : spanText (-300) = ("datetime.timedelta(days=-1, seconds=68400)" : Text) := by decide
example : offsetText (-330) = ("-05:30" : Text) := by decide

end Moment

end NetAttach
