import DecoratorSets.Number.Binary64

/-!
# The shortest decimal that reads back

Between two neighbouring doubles lies an interval of numbers that all round
to the same one. Among the decimals in that interval there is a fewest number
of digits, and among the decimals with that few digits a nearest one: that is
the decimal to print. On a grid of decimals with a fixed last place, the only
candidates are the two neighbours of the number, so each grid takes two tests
in exact arithmetic; grids are tried from the coarsest to the finest.
-/

namespace DecoratorSets

/-- The decimal `significand · 10 ^ exponent`. -/
structure Decimal where
  significand : Nat
  exponent : Int
deriving DecidableEq

namespace Decimal

/-- The decimal digits of the significand, first digit first. -/
def digits (d : Decimal) : List Char := Nat.toDigits 10 d.significand

/-- The power of ten that the first digit counts. -/
def magnitude (d : Decimal) : Int := d.exponent + (d.digits.length : Int) - 1

/-- The same number without zeros at the end of its significand, of which at
most `n` are looked at. -/
def dropZeros : Nat → Decimal → Decimal
  | 0, d => d
  | n + 1, d =>
    if d.significand % 10 = 0 ∧ d.significand ≠ 0 then
      dropZeros n ⟨d.significand / 10, d.exponent + 1⟩
    else d

end Decimal

namespace Binary64

/-- The power of ten that the first digit of the fraction `num / den` counts. -/
def leadingPower (num den : Nat) : Int :=
  if den ≤ num then ((Nat.toDigits 10 (num / den)).length : Int) - 1
  else -((Nat.toDigits 10 ((den + num - 1) / num - 1)).length : Int)

/-- The decimal on the grid of multiples of `10 ^ place` that rounds to the
double `mantissa · 2 ^ exponent`, if there is one; of two, the nearer, and the
even one when both are equally near. Lengths are compared in quarters of the
double's last place, so that the ends of the interval are whole numbers: they
belong to it when the mantissa is even, and the lower end is nearer where the
mantissa is the first of its exponent. -/
def onGrid? (mantissa : Nat) (exponent place : Int) : Option Nat :=
  let quarters (n : Nat) : Nat :=
    n * Nat.pow 2 (exponent - 2).toNat * Nat.pow 10 (-place).toNat
  let point (g : Nat) : Nat :=
    g * Nat.pow 10 place.toNat * Nat.pow 2 (2 - exponent).toNat
  let first := mantissa == Nat.pow 2 52 && decide (leastExponent < exponent)
  let low := quarters (4 * mantissa - if first then 1 else 2)
  let high := quarters (4 * mantissa + 2)
  let closed := mantissa % 2 == 0
  let inside (g : Nat) : Bool :=
    if closed then decide (low ≤ point g) && decide (point g ≤ high)
    else decide (low < point g) && decide (point g < high)
  let value := quarters (4 * mantissa)
  let below := value / point 1
  match inside below, inside (below + 1) with
  | true, true => some (roundedQuotient value (point 1))
  | true, false => some below
  | false, true => some (below + 1)
  | false, false => none

/-- The shortest decimal that reads back as `mantissa · 2 ^ exponent`, the
nearest of them where several are equally short. Seventeen digits always
suffice. -/
def shortest (mantissa : Nat) (exponent : Int) : Decimal :=
  if mantissa = 0 then ⟨0, 0⟩
  else
    let fraction := inUnits mantissa 1 (-exponent)
    let power := leadingPower fraction.1 fraction.2
    let hit := (List.range 17).findSome? fun (n : Nat) =>
      (onGrid? mantissa exponent (power - n)).map fun g => (⟨g, power - n⟩ : Decimal)
    Decimal.dropZeros 17 (hit.getD ⟨mantissa, exponent⟩)

end Binary64

end DecoratorSets
