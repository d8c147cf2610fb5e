import DecoratorSets.Text.Digit
import DecoratorSets.Text.Hexadecimal
import DecoratorSets.Text.Parts
import DecoratorSets.Yaml.Tag

/-!
# What a plain scalar looks like

Text without quotation marks may stand for a number, a truth value, a moment or
nothing; the forms are those of YAML 1.1. `scalarTag` decides what a text stands
for. The writer asks the same question, since text that would be read as
something else has to be quoted.
-/

namespace DecoratorSets

namespace Yaml

/-! ## Numbers -/

/-- A digit of a number, or a mark that groups digits. -/
def isGroupedDigit (c : Char) : Bool := Digit.isAscii c || c == '_'

/-- Digits, grouped or not, with a digit in front. -/
def isGrouped (cs : List Char) : Bool :=
  match cs with
  | c :: rest => Digit.isAscii c && rest.all isGroupedDigit
  | [] => false

/-- The characters after a sign, or all of them where there is none. -/
def afterSign (cs : List Char) : List Char :=
  match cs with
  | '-' :: rest => rest
  | '+' :: rest => rest
  | cs => cs

/-- A part of a number in base sixty: one digit, or two below sixty. -/
def isSixtieth (cs : List Char) : Bool :=
  match cs with
  | [c] => Digit.isAscii c
  | [c, d] => decide ('0' ≤ c) && decide (c ≤ '5') && Digit.isAscii d
  | _ => false

/-- Whether some characters are a whole number: binary, octal, hexadecimal,
decimal or in base sixty. -/
def isInteger (cs : List Char) : Bool :=
  match afterSign cs with
  | ['0'] => true
  | '0' :: 'b' :: c :: rest => (c :: rest).all fun d => d == '0' || d == '1' || d == '_'
  | '0' :: 'x' :: c :: rest => (c :: rest).all fun d => (Hexadecimal.digit? d).isSome || d == '_'
  | '0' :: rest => rest.all fun d => decide ('0' ≤ d) && decide (d ≤ '7') || d == '_'
  | rest =>
    match partsAt ':' rest with
    | first :: others => isGrouped first && others.all isSixtieth
    | [] => false

/-- Whether some characters are the exponent of a number, which has to have a
sign, or no characters. -/
def isExponent (cs : List Char) : Bool :=
  match cs with
  | [] => true
  | mark :: sign :: c :: rest =>
    (mark == 'e' || mark == 'E') && (sign == '-' || sign == '+') && (c :: rest).all Digit.isAscii
  | _ => false

/-- Whether some characters are what may follow the point of a number. -/
def isFraction (cs : List Char) : Bool := isExponent (cs.dropWhile isGroupedDigit)

/-- Whether some characters are the word for a number that is not finite. -/
def isWordNumber (cs : List Char) : Bool :=
  [".inf", ".Inf", ".INF"].contains (String.ofList (afterSign cs))
    || [".nan", ".NaN", ".NAN"].contains (String.ofList cs)

/-- Whether some characters are a number with a point. Without digits in front
of the point there is no sign, and a digit has to follow the point. -/
def isPointed (cs : List Char) : Bool :=
  match cs with
  | '.' :: c :: rest => Digit.isAscii c && isFraction rest
  | cs =>
    let whole := (afterSign cs).takeWhile (· ≠ '.')
    match (afterSign cs).dropWhile (· ≠ '.'), partsAt ':' whole with
    | '.' :: after, [_] => isGrouped whole && isFraction after
    | '.' :: after, first :: others =>
      isGrouped first && others.all isSixtieth && after.all isGroupedDigit
    | _, _ => false

/-! ## Moments -/

/-- Whether some characters are digits, as many as one of the counts. -/
def areDigits (counts : List Nat) (cs : List Char) : Bool :=
  counts.contains cs.length && cs.all Digit.isAscii

/-- The digits that some characters begin with, and the characters behind
them. -/
def spanDigits (cs : List Char) : List Char × List Char :=
  (cs.takeWhile Digit.isAscii, cs.dropWhile Digit.isAscii)

/-- Characters without blanks in front. -/
def afterBlanks (cs : List Char) : List Char := cs.dropWhile fun c => c == ' ' || c == '\t'

/-- The parts of the text of a moment, as digits. -/
structure MomentText where
  year : List Char
  month : List Char
  day : List Char
  /-- Hour, minute, second and fraction, and what is left behind them. -/
  clock : Option (List Char × List Char × List Char × List Char × List Char)

/-- The time of day that some characters are, with what is left for the
offset. -/
def clockText? (cs : List Char) :
    Option (List Char × List Char × List Char × List Char × List Char) :=
  match spanDigits cs with
  | (hour, ':' :: rest) =>
    match spanDigits rest with
    | (minute, ':' :: rest) =>
      let (second, rest) := spanDigits rest
      let (fraction, rest) := match rest with
        | '.' :: rest => spanDigits rest
        | rest => ([], rest)
      if areDigits [1, 2] hour && areDigits [2] minute && areDigits [2] second then
        some (hour, minute, second, fraction, rest)
      else none
    | _ => none
  | _ => none

/-- Whether some characters are the offset of a clock, or none. -/
def isOffset (cs : List Char) : Bool :=
  match afterBlanks cs with
  | [] => cs.isEmpty
  | ['Z'] => true
  | sign :: rest =>
    (sign == '-' || sign == '+') &&
      match spanDigits rest with
      | (hours, []) => areDigits [1, 2] hours
      | (hours, ':' :: minutes) => areDigits [1, 2] hours && areDigits [2] minutes
      | _ => false

/-- What separates a date from a time of day, cut off. -/
def afterDate? (cs : List Char) : Option (List Char) :=
  match cs with
  | 'T' :: rest | 't' :: rest => some rest
  | c :: rest => if c = ' ' ∨ c = '\t' then some (afterBlanks rest) else none
  | [] => none

/-- The parts of the text of a moment. -/
def momentText? (cs : List Char) : Option MomentText :=
  match spanDigits cs with
  | (year, '-' :: rest) =>
    match spanDigits rest with
    | (month, '-' :: rest) =>
      let (day, rest) := spanDigits rest
      if areDigits [4] year && areDigits [1, 2] month && areDigits [1, 2] day then
        if rest.isEmpty then some ⟨year, month, day, none⟩
        else
          match (afterDate? rest).bind clockText? with
          | some clock =>
            if isOffset clock.2.2.2.2 then some ⟨year, month, day, some clock⟩ else none
          | none => none
      else none
    | _ => none
  | _ => none

/-- Whether some characters look like a moment. A day alone has two digits for
the month and two for the day. -/
def isMoment (cs : List Char) : Bool :=
  match momentText? cs with
  | some m => m.clock.isSome || (m.month.length == 2 && m.day.length == 2)
  | none => false

/-! ## The decision -/

/-- The words with a meaning of their own. Some marks are reserved. -/
def wordTag? (word : String) : Option Tag :=
  if ["~", "null", "Null", "NULL"].contains word then some .null
  else if ["true", "True", "TRUE", "yes", "Yes", "YES", "on", "On", "ON",
      "false", "False", "FALSE", "no", "No", "NO", "off", "Off", "OFF"].contains word then
    some .bool
  else if word = "<<" then some .merge
  else if word = "=" then some .default
  else if ["!", "&", "*"].contains word then some .other
  else none

/-- What a plain scalar without a line break at its end stands for. -/
def wordTag (cs : List Char) : Tag :=
  match wordTag? (String.ofList cs) with
  | some tag => tag
  | none =>
    if isPointed cs || isWordNumber cs then .float
    else if isInteger cs then .int
    else if isMoment cs then .timestamp
    else .str

/-- What a plain scalar stands for. A line break at its end does not count,
unless it is all there is. -/
def scalarTag (s : String) : Tag :=
  match s.toList with
  | [] => .null
  | ['\n'] => .str
  | cs => wordTag (if cs.getLast? = some '\n' then cs.dropLast else cs)

end Yaml

end DecoratorSets
