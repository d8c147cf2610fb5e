import DecoratorSets.Number.Binary64
import DecoratorSets.Text.Blank
import DecoratorSets.Text.Digit
import DecoratorSets.Text.Hexadecimal
import DecoratorSets.Text.Quoted

/-!
# Reading numerals

A numeral is the text of a number. Around it there may be blanks, in front of it
a sign, and its digits may be those of any script. A whole number may be given in
a base, with or without the mark of the base in front. Numerals of very many
digits are refused, except in bases that are powers of two.
-/

namespace DecoratorSets

/-- A text that cannot be read as a number. -/
inductive NumeralFault where
  /-- A text without characters where a sign or a digit is looked for. -/
  | empty
  | notAnInteger (base : Nat) (text : String)
  | notANumber (text : String)
  | tooManyDigits (count : Nat)
deriving DecidableEq

/-- The wording of a fault. A text that is no whole number is shown as far as
its first two hundred characters. -/
def NumeralFault.text : NumeralFault → String
  | .empty => "string index out of range"
  | .notAnInteger base text =>
    "invalid literal for int() with base " ++ toString base ++ ": "
      ++ String.ofList ((quoted text).toList.take 200)
  | .notANumber text => "could not convert string to float: " ++ quoted text
  | .tooManyDigits count =>
    "Exceeds the limit (4300 digits) for integer string conversion: value has "
      ++ toString count ++ " digits; use sys.set_int_max_str_digits() to increase the limit"

namespace Numeral

/-- The greatest number of decimal digits of a whole number. -/
def digitLimit : Nat := 4300

/-- The least number with too many digits. -/
def bound : Nat := Nat.pow 10 digitLimit

/-- The sign of a numeral, if it has one, and the characters after it. -/
def cutSign (cs : List Char) : Bool × List Char :=
  match cs with
  | '-' :: rest => (true, rest)
  | '+' :: rest => (false, rest)
  | cs => (false, cs)

/-- The integer of a sign and a magnitude. -/
def signed (negative : Bool) (n : Nat) : Int := if negative then -n else n

/-- The ASCII form of a decimal digit; other characters stay. -/
def asciiDigit (c : Char) : Char :=
  match Digit.value? c with
  | some n => Char.ofNat ('0'.toNat + n)
  | none => c

/-- A numeral without the blanks around it, its digits those of ASCII. -/
def normalized (cs : List Char) : List Char :=
  (Blank.strip Blank.surroundsNumerals cs).map asciiDigit

/-- The mark of a base. -/
def markOf (base : Nat) : List Char :=
  match base with
  | 2 => ['b', 'B']
  | 8 => ['o', 'O']
  | 16 => ['x', 'X']
  | _ => []

/-- The characters behind the mark of a base, if it is there. -/
def withoutMark (base : Nat) (cs : List Char) : List Char :=
  match cs with
  | '0' :: mark :: rest => if (markOf base).contains mark then rest else cs
  | cs => cs

/-- The number that some digits of a base stand for. There must be digits, and
nothing else. -/
def magnitude? (base : Nat) (cs : List Char) : Option Nat :=
  if cs.isEmpty then none
  else cs.foldlM (fun n c =>
    (Hexadecimal.digit? c).bind fun d => if d < base then some (base * n + d) else none) 0

/-- The whole number of a text in a base. -/
def integer (base : Nat) (cs : List Char) : Except NumeralFault Int :=
  let (negative, rest) := cutSign (normalized cs)
  let digits := withoutMark base rest
  if base = 10 ∧ digitLimit < digits.length ∧ digits.all Digit.isAscii then
    .error (.tooManyDigits digits.length)
  else
    match magnitude? base digits with
    | some n => .ok (signed negative n)
    | none => .error (.notAnInteger base (String.ofList cs))

/-- The words for numbers that are not finite. -/
def word? (cs : List Char) : Option Binary64 :=
  let word := String.ofList (cs.map Char.toLower)
  if word = "inf" ∨ word = "infinity" then some (.infinite false)
  else if word = "nan" then some .nan
  else none

/-- The exponent of a number; no characters stand for no exponent. -/
def exponent? (cs : List Char) : Option Int :=
  match cs with
  | [] => some 0
  | mark :: rest =>
    let (negative, digits) := cutSign rest
    if (mark = 'e' ∨ mark = 'E') ∧ ¬ digits.isEmpty ∧ digits.all Digit.isAscii then
      some (signed negative (Digit.number digits))
    else none

/-- The number that digits, a point and an exponent stand for. There is a digit
before or behind the point. -/
def decimal? (negative : Bool) (cs : List Char) : Option Binary64 :=
  let whole := cs.takeWhile Digit.isAscii
  let rest := cs.dropWhile Digit.isAscii
  let (fraction, rest) := match rest with
    | '.' :: behind => (behind.takeWhile Digit.isAscii, behind.dropWhile Digit.isAscii)
    | rest => ([], rest)
  if whole.isEmpty ∧ fraction.isEmpty then none
  else
    (exponent? rest).map fun exponent =>
      Binary64.ofDecimal negative (Digit.number (whole ++ fraction)) (exponent - fraction.length)

/-- The number of a text. -/
def number (cs : List Char) : Except NumeralFault Binary64 :=
  let (negative, rest) := cutSign (normalized cs)
  let magnitude := (word? rest).map fun x => if negative then x.neg else x
  match magnitude.or (decimal? negative rest) with
  | some x => .ok x
  | none => .error (.notANumber (String.ofList cs))

end Numeral

end DecoratorSets
