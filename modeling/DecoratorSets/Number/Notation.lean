import DecoratorSets.Number.Shortest

/-!
# How a number is written

The digits of a double are settled by `Binary64.shortest`; what remains is a
handful of decisions that differ between documents: between which powers of
ten a number is written out, whether a lone leading digit of the exponent
form is followed by a point, and the words for what is no finite number.
These decisions are one record, `NumberForm`.
-/

namespace DecoratorSets

/-- The decisions about the writing of doubles. -/
structure NumberForm where
  /-- Numbers whose first digit counts a smaller power of ten than this are
  written with an exponent. -/
  leastPositional : Int := -4
  /-- Numbers whose first digit counts a greater power of ten than this are
  written with an exponent. -/
  greatestPositional : Int := 15
  /-- Whether a single digit before an exponent is followed by `.0`. -/
  pointBeforeExponent : Bool := false
  nan : String := "nan"
  infinity : String := "inf"
  negativeInfinity : String := "-inf"

namespace NumberForm

/-- The exponent of a number: a sign and at least two digits. -/
def exponentText (power : Int) : String :=
  let digits := Nat.toDigits 10 power.natAbs
  (if power < 0 then "e-" else "e+")
    ++ (if digits.length < 2 then "0" else "") ++ String.ofList digits

/-- Digits with a point among them: the first digit counts `10 ^ power`, and
there is at least one digit on each side of the point. -/
def positional (digits : List Char) (power : Int) : String :=
  if power < 0 then
    "0." ++ String.ofList (List.replicate (-power - 1).toNat '0' ++ digits)
  else
    let whole := power.toNat + 1
    let before := digits.take whole ++ List.replicate (whole - digits.length) '0'
    let after := digits.drop whole
    String.ofList before ++ "." ++ (if after.isEmpty then "0" else String.ofList after)

/-- Digits with the point after the first of them, and an exponent. -/
def scientific (form : NumberForm) (digits : List Char) (power : Int) : String :=
  let after := digits.drop 1
  String.ofList (digits.take 1)
    ++ (if after.isEmpty then (if form.pointBeforeExponent then ".0" else "")
        else "." ++ String.ofList after)
    ++ exponentText power

/-- The text of a double. -/
def write (form : NumberForm) : Binary64 → String
  | .nan => form.nan
  | .infinite false => form.infinity
  | .infinite true => form.negativeInfinity
  | .finite negative mantissa exponent =>
    let decimal := Binary64.shortest mantissa exponent
    let power := decimal.magnitude
    let sign := if negative then "-" else ""
    if power < form.leastPositional ∨ form.greatestPositional < power then
      sign ++ form.scientific decimal.digits power
    else
      sign ++ positional decimal.digits power

/-- The form of numbers in messages. -/
def plain : NumberForm := {}

/-- The form of numbers in JSON text. -/
def json : NumberForm :=
  { nan := "NaN", infinity := "Infinity", negativeInfinity := "-Infinity" }

/-- The form of numbers in YAML text, where a number needs a point to be one. -/
def yaml : NumberForm :=
  { pointBeforeExponent := true, nan := ".nan", infinity := ".inf", negativeInfinity := "-.inf" }

end NumberForm

end DecoratorSets
