import DecoratorSets.Number.Numeral
import DecoratorSets.Value.Basic

/-!
# Values that have no text

A document is written as text in one of several formats. Not every value has a
text in each of them; the reasons are gathered here. Numbers of very many digits
are written in none.
-/

namespace DecoratorSets

/-- A reason why a value has no text. -/
inductive WritingFault where
  /-- A value, or a key, of a type that the format does not have. -/
  | unwritable
  /-- A part inside itself. -/
  | circular
  | tooManyDigits
deriving DecidableEq

/-- The wording of a fault. -/
def WritingFault.text : WritingFault → String
  | .unwritable => ""
  | .circular => "Circular reference detected"
  | .tooManyDigits =>
    "Exceeds the limit (4300 digits) for integer string conversion; use "
      ++ "sys.set_int_max_str_digits() to increase the limit"

namespace Value

/-- The text of an integer. -/
def integerText (n : Int) : Except WritingFault String :=
  if n.natAbs < Numeral.bound then .ok (toString n) else .error .tooManyDigits

mutual

/-- Whether each integer in a value has a text. -/
def hasShortIntegers : Value → Bool
  | .int n => decide (n.natAbs < Numeral.bound)
  | .list _ items => haveShortIntegers items
  | .pair a b => hasShortIntegers a && hasShortIntegers b
  | .set _ items => haveShortIntegers items
  | .object _ members => membersHaveShortIntegers members
  | _ => true

/-- Whether each integer in some values has a text. -/
def haveShortIntegers : List Value → Bool
  | [] => true
  | v :: rest => hasShortIntegers v && haveShortIntegers rest

/-- Whether each integer in some members has a text. -/
def membersHaveShortIntegers : List (Value × Value) → Bool
  | [] => true
  | (k, v) :: rest =>
    hasShortIntegers k && hasShortIntegers v && membersHaveShortIntegers rest

end

end Value

end DecoratorSets
