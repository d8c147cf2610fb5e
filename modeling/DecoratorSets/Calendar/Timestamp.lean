import DecoratorSets.Calendar.Date

/-!
# Points in time as text

A point in time is written as a date of the calendar or of the week calendar of
ISO 8601, with or without separators, alone or followed by one character and a
time of day with an optional offset. The letter `Z` stands for the offset
`+00:00`. Dates have to exist; a time of day runs to 23:59:59, and an offset
stays below a day.

Where a text could be cut into date and time in more than one way, the
position of the cut is settled first, by the shape of its first characters
(`datePartLength`), and both parts are then read to their ends.
-/

namespace DecoratorSets

namespace Timestamp

/-! ## Digits -/

/-- The value of a decimal digit of ASCII. -/
def digit? (c : Char) : Option Nat :=
  if '0' ≤ c ∧ c ≤ '9' then some (c.toNat - '0'.toNat) else none

/-- Whether a character is a decimal digit of ASCII. -/
def isDigit (c : Char) : Bool := (digit? c).isSome

/-- The number that some characters stand for, all of which have to be digits. -/
def number? (cs : List Char) : Option Nat :=
  cs.foldlM (fun n c => (digit? c).map (10 * n + ·)) 0

/-- The number of the first `count` characters, and the characters after them. -/
def digits? (count : Nat) (cs : List Char) : Option (Nat × List Char) :=
  if cs.length < count then none else (number? (cs.take count)).map (·, cs.drop count)

/-! ## Dates -/

/-- The day of the week on which a year begins, counted from Monday as zero. -/
def firstWeekday (year : Nat) : Nat :=
  Date.daysBeforeYear year % 7

/-- A year has a week 53 if it begins on a Thursday, or is a leap year that
begins on a Wednesday. -/
def weeksIn (year : Nat) : Nat :=
  let first := firstWeekday year
  if first = 3 ∨ (first = 2 ∧ Date.isLeap year) then 53 else 52

/-- The number of days before the first Monday of week 1 of a year, from the
first day of year 1; that Monday may be in the year before. -/
def weekOneStart (year : Nat) : Int :=
  let first : Int := firstWeekday year
  (Date.daysBeforeYear year : Int) - first + (if 3 < first then 7 else 0)

/-- The number of days of the years 1 to 9999. -/
def dayLimit : Int := 3652059

/-- Whether a date of the week calendar exists, in the years 1 to 9999. -/
def isWeekDate (year week day : Nat) : Bool :=
  let position := weekOneStart year + 7 * ((week : Int) - 1) + ((day : Int) - 1)
  decide (1 ≤ year) && decide (1 ≤ week) && decide (week ≤ weeksIn year)
    && decide (1 ≤ day) && decide (day ≤ 7)
    && decide (0 ≤ position) && decide (position < dayLimit)

/-- The characters after a separator, which has to be there if it is used. -/
def afterSeparator? (separated : Bool) : List Char → Option (List Char)
  | '-' :: rest => if separated then some rest else none
  | cs => if separated then none else some cs

/-- Whether the characters after a year are a week and perhaps a day. -/
def isWeekPart (year : Nat) (separated : Bool) (cs : List Char) : Bool :=
  match digits? 2 cs with
  | none => false
  | some (week, []) => isWeekDate year week 1
  | some (week, rest) =>
    match (afterSeparator? separated rest).bind (digits? 1) with
    | some (day, []) => isWeekDate year week day
    | _ => false

/-- Whether the characters after a year are a month and a day. -/
def isMonthPart (year : Nat) (separated : Bool) (cs : List Char) : Bool :=
  match digits? 2 cs with
  | none => false
  | some (month, rest) =>
    match (afterSeparator? separated rest).bind (digits? 2) with
    | some (day, []) => Date.isReal ⟨year, month, day⟩
    | _ => false

/-- Whether some characters are a date. -/
def isDateText (cs : List Char) : Bool :=
  match digits? 4 cs with
  | none => false
  | some (year, rest) =>
    let separated := rest.head? == some '-'
    match if separated then rest.drop 1 else rest with
    | 'W' :: rest => isWeekPart year separated rest
    | rest => isMonthPart year separated rest

/-- The length of the date at the beginning of a text. In the week calendar a
day may follow; whether a character after the week belongs to the date depends
on what comes behind it. -/
def datePartLength (cs : List Char) : Nat :=
  match cs.drop 4 with
  | '-' :: 'W' :: _ =>
    if cs.length ≤ 8 then 8
    else if cs[8]? = some '-' then
      if 10 < cs.length ∧ (cs[10]?.any isDigit) then 8 else 10
    else 8
  | '-' :: _ => 10
  | 'W' :: _ =>
    let stop := 7 + ((cs.drop 7).takeWhile isDigit).length
    if stop < 9 then stop else if stop % 2 = 0 then 7 else 8
  | _ => 8

/-! ## Times of day -/

/-- The parts of a time or an offset: hours, minutes and seconds, and whether
something follows them that belongs to no part. -/
structure Clock where
  hours : Nat
  minutes : Nat
  seconds : Nat
  stray : Bool

/-- The fraction of a second: at least one digit, and digits only among the
first six characters. What follows further digits is stray. -/
def fractionStray? (cs : List Char) : Option Bool :=
  if cs.isEmpty then none
  else if (cs.take 6).all isDigit then some !((cs.drop 6).dropWhile isDigit).isEmpty
  else none

/-- The pairs of digits of a time, at most so many, and whether something stray
follows. After the first pair it is settled whether pairs are separated by
colons. What follows the last pair is a fraction, whatever separates it. A
single character of ASCII at the end is stray. -/
def pairs? : Nat → Option Bool → List Char → Option (List Nat × Bool)
  | 0, _, cs => (fractionStray? cs).map fun stray => ([], stray)
  | left + 1, colons, cs =>
    match digits? 2 cs with
    | none => none
    | some (n, []) => some ([n], false)
    | some (n, c :: rest) =>
      let colons := colons.getD (c == ':')
      if rest.isEmpty ∧ c.toNat < 0x80 then some ([n], true)
      else if colons && c == ':' then
        (pairs? left (some true) rest).map fun (ns, stray) => (n :: ns, stray)
      else if c = '.' ∨ c = ',' then
        (fractionStray? rest).map fun stray => ([n], stray)
      else if colons then none
      else (pairs? left (some false) (c :: rest)).map fun (ns, stray) => (n :: ns, stray)

/-- Reads a time of day or the size of an offset. -/
def clock? (cs : List Char) : Option Clock :=
  (pairs? 3 none cs).map fun (ns, stray) =>
    ⟨ns.getD 0 0, ns.getD 1 0, ns.getD 2 0, stray⟩

/-- Whether some characters are a time of day, with or without an offset. The
first sign begins the offset. Stray characters are admitted in front of an
offset only. -/
def isTimeText (cs : List Char) : Bool :=
  let isSign (c : Char) : Bool := c == '+' || c == '-'
  let time := cs.takeWhile fun c => !isSign c
  let offset := cs.dropWhile fun c => !isSign c
  let timeFits := match clock? time with
    | some t => decide (t.hours < 24) && decide (t.minutes < 60) && decide (t.seconds < 60)
        && !(t.stray && offset.isEmpty)
    | none => false
  let offsetFits := match offset with
    | [] => true
    | _ :: size =>
      match clock? size with
      | some o =>
        !o.stray && decide (3600 * o.hours + 60 * o.minutes + o.seconds < 86400)
      | none => false
  timeFits && offsetFits

/-- The text with every `Z` spelled out as an offset. -/
def spellOutZulu (cs : List Char) : List Char :=
  cs.flatMap fun c => if c = 'Z' then "+00:00".toList else [c]

end Timestamp

/-- Whether a text is a point in time. -/
def isTimestamp (s : String) : Bool :=
  let cs := Timestamp.spellOutZulu s.toList
  let length := Timestamp.datePartLength cs
  decide (7 ≤ cs.length) && Timestamp.isDateText (cs.take length)
    && (cs.length ≤ length || Timestamp.isTimeText (cs.drop (length + 1)))

end DecoratorSets
