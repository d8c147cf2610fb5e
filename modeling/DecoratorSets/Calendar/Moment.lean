import DecoratorSets.Calendar.Date

/-!
# Moments

A moment is a day, or a time of a day to the microsecond, with or without the
offset of its clock from universal time. Two moments with offsets are the same
if they are the same instant, whatever their offsets; a day, a time without an
offset and one with it are never the same.

The parts of a moment come from text and need not make one. `Moment.ofParts`
refuses them with the first part that is out of range.
-/

namespace DecoratorSets

/-- A time of day. -/
structure TimeOfDay where
  hour : Nat
  minute : Nat
  second : Nat
  microsecond : Nat
deriving DecidableEq

/-- A point in time, to the day or to the microsecond. -/
inductive Moment where
  | day (date : Date)
  /-- A time of a day; the offset is in seconds. -/
  | time (date : Date) (clock : TimeOfDay) (offset : Option Int)
deriving DecidableEq

/-- A part of a moment that is out of range. -/
inductive MomentFault where
  | offset (seconds : Int)
  | year (number : Nat)
  | month
  | day
  | hour
  | minute
  | second
deriving DecidableEq

/-- The number of seconds of a day. -/
def secondsOfDay : Int := 86400

/-- The form in which a message shows a span of time. A negative span counts
days backwards and seconds forwards. -/
def inspectSpan (seconds : Int) : String :=
  let days := Int.fdiv seconds secondsOfDay
  let rest := Int.fmod seconds secondsOfDay
  let parts := (if days = 0 then [] else ["days=" ++ toString days])
    ++ (if rest = 0 then [] else ["seconds=" ++ toString rest])
  "datetime.timedelta(" ++ (if parts.isEmpty then "0" else ", ".intercalate parts) ++ ")"

/-- The wording of a fault. -/
def MomentFault.text : MomentFault → String
  | .offset seconds =>
    "offset must be a timedelta strictly between -timedelta(hours=24) and timedelta(hours=24), not "
      ++ inspectSpan seconds ++ "."
  | .year n => "year " ++ toString n ++ " is out of range"
  | .month => "month must be in 1..12"
  | .day => "day is out of range for month"
  | .hour => "hour must be in 0..23"
  | .minute => "minute must be in 0..59"
  | .second => "second must be in 0..59"

namespace Moment

/-! ## Making moments -/

/-- The first part of a date that is out of range. -/
def dateFault? (d : Date) : Option MomentFault :=
  if d.year = 0 ∨ 9999 < d.year then some (.year d.year)
  else if d.month = 0 ∨ 12 < d.month then some .month
  else if d.day = 0 ∨ Date.daysIn d.year d.month < d.day then some .day
  else none

/-- The first part of a time of day that is out of range. -/
def clockFault? (t : TimeOfDay) : Option MomentFault :=
  if 23 < t.hour then some .hour
  else if 59 < t.minute then some .minute
  else if 59 < t.second then some .second
  else none

/-- Whether an offset is out of range. -/
def offsetFault? (offset : Option Int) : Option MomentFault :=
  match offset with
  | some seconds => if secondsOfDay.natAbs ≤ seconds.natAbs then some (.offset seconds) else none
  | none => none

/-- The moment of a date and perhaps a time of day and an offset. -/
def ofParts (date : Date) (clock : Option (TimeOfDay × Option Int)) :
    Except MomentFault Moment :=
  match clock with
  | none =>
    match dateFault? date with
    | some fault => .error fault
    | none => .ok (.day date)
  | some (clock, offset) =>
    match (offsetFault? offset).or ((dateFault? date).or (clockFault? clock)) with
    | some fault => .error fault
    | none => .ok (.time date clock offset)

/-! ## Comparison -/

/-- The number of seconds before a time, by its own clock. -/
def seconds (date : Date) (clock : TimeOfDay) : Int :=
  secondsOfDay * date.dayNumber + (3600 * clock.hour + 60 * clock.minute + clock.second : Nat)

/-- Whether two moments are the same. -/
def sameAs : Moment → Moment → Bool
  | .day d, .day e => d == e
  | .time d t none, .time e u none => d == e && t == u
  | .time d t (some o), .time e u (some p) =>
    seconds d t - o == seconds e u - p && t.microsecond == u.microsecond
  | _, _ => false

/-! ## Text -/

/-- The text of a time of day. Whole seconds have no fraction. -/
def clockText (t : TimeOfDay) : String :=
  Date.padded 2 t.hour ++ ":" ++ Date.padded 2 t.minute ++ ":" ++ Date.padded 2 t.second
    ++ (if t.microsecond = 0 then "" else "." ++ Date.padded 6 t.microsecond)

/-- The text of an offset, in hours and minutes. -/
def offsetText (seconds : Int) : String :=
  let minutes := seconds.natAbs / 60
  (if seconds < 0 then "-" else "+") ++ Date.padded 2 (minutes / 60) ++ ":"
    ++ Date.padded 2 (minutes % 60)

/-- The text of a moment. -/
def text : Moment → String
  | .day d => d.text
  | .time d t offset =>
    d.text ++ " " ++ clockText t ++ (offset.map offsetText).getD ""

/-- The form in which a message shows the offset of a moment. -/
def inspectOffset (seconds : Int) : String :=
  ", tzinfo=" ++ (if seconds = 0 then "datetime.timezone.utc"
    else "datetime.timezone(" ++ inspectSpan seconds ++ ")")

/-- The parts of a date, as a message lists them. -/
def dateParts (d : Date) : List Nat := [d.year, d.month, d.day]

/-- The parts of a time of day, as a message lists them: seconds and
microseconds only as far as they are not zero. -/
def clockParts (t : TimeOfDay) : List Nat :=
  [t.hour, t.minute]
    ++ (if t.microsecond ≠ 0 then [t.second, t.microsecond]
        else if t.second ≠ 0 then [t.second] else [])

/-- The form in which a message shows a moment. -/
def inspect : Moment → String
  | .day d => "datetime.date(" ++ ", ".intercalate ((dateParts d).map toString) ++ ")"
  | .time d t offset =>
    "datetime.datetime(" ++ ", ".intercalate ((dateParts d ++ clockParts t).map toString)
      ++ (offset.map inspectOffset).getD "" ++ ")"

end Moment

end DecoratorSets
