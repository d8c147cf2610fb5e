/-!
# Double-precision numbers as exact fractions

A finite double is a whole number times a power of two, and everything this
library asks of one – reading it from decimal text, comparing it with an
integer, finding its shortest decimal – is a question about that fraction.
So a double is kept as its parts, and no floating-point operation is ever
performed on it: arithmetic is on natural numbers and exact, and only its result
is rounded.
-/

namespace DecoratorSets

/-- A double-precision number. `finite negative mantissa exponent` stands for
`± mantissa · 2 ^ exponent`. Numbers built by `Binary64.ofFraction` are in
normal form: the mantissa is below `2 ^ 53`, and below `2 ^ 52` only for the
least exponent, `-1074`. -/
inductive Binary64 where
  | nan
  | infinite (negative : Bool)
  | finite (negative : Bool) (mantissa : Nat) (exponent : Int)
deriving DecidableEq

namespace Binary64

/-- The exponent of the least positive double. -/
def leastExponent : Int := -1074

/-- The greatest exponent of a finite double in normal form. -/
def greatestExponent : Int := 971

/-- The zero of a sign. -/
def zero (negative : Bool) : Binary64 := .finite negative 0 leastExponent

/-- Zero of either sign; not-a-number is no zero. -/
def isZero : Binary64 → Bool
  | .finite _ mantissa _ => mantissa == 0
  | _ => false

/-- The number with the other sign; not-a-number has none. -/
def neg : Binary64 → Binary64
  | .nan => .nan
  | .infinite negative => .infinite !negative
  | .finite negative mantissa exponent => .finite (!negative) mantissa exponent

/-! ## Rounding -/

/-- The quotient of two numbers rounded to a nearest whole number; a half goes
to the even neighbour. -/
def roundedQuotient (num den : Nat) : Nat :=
  let quotient := num / den
  let twice := 2 * (num % den)
  if twice < den then quotient
  else if den < twice then quotient + 1
  else quotient + quotient % 2

/-- The fraction `num / den` measured in units of `2 ^ exponent`. -/
def inUnits (num den : Nat) (exponent : Int) : Nat × Nat :=
  if exponent < 0 then (num * Nat.pow 2 (-exponent).toNat, den)
  else (num, den * Nat.pow 2 exponent.toNat)

/-- The double nearest to `± num / den`. The exponent is the one that leaves a
mantissa of 53 bits, or the least exponent; a fraction that rounds past the
greatest double is infinite. -/
def ofFraction (negative : Bool) (num den : Nat) : Binary64 :=
  if num = 0 then zero negative
  else
    let guess := max ((Nat.log2 num : Int) - Nat.log2 den - 53) leastExponent
    let coarse := inUnits num den guess
    let exponent := if coarse.1 / coarse.2 < Nat.pow 2 53 then guess else guess + 1
    let exact := inUnits num den exponent
    let mantissa := roundedQuotient exact.1 exact.2
    let (mantissa, exponent) :=
      if mantissa = Nat.pow 2 53 then (Nat.pow 2 52, exponent + 1) else (mantissa, exponent)
    if greatestExponent < exponent then .infinite negative
    else .finite negative mantissa exponent

/-- The double nearest to `± significand · 10 ^ exponent`. Numbers far outside
the range of doubles are settled by their size alone, so that no huge power of
ten is computed for them. -/
def ofDecimal (negative : Bool) (significand : Nat) (exponent : Int) : Binary64 :=
  let bits : Int := Nat.log2 significand
  if significand = 0 then zero negative
  else if 310 < bits * 3 / 10 + exponent then .infinite negative
  else if (bits + 1) / 3 + exponent < -330 then zero negative
  else if exponent < 0 then ofFraction negative significand (Nat.pow 10 (-exponent).toNat)
  else ofFraction negative (significand * Nat.pow 10 exponent.toNat) 1

/-! ## Arithmetic -/

/-- The double nearest to `± magnitude · 2 ^ exponent`. -/
def ofScaled (negative : Bool) (magnitude : Nat) (exponent : Int) : Binary64 :=
  if exponent < 0 then ofFraction negative magnitude (Nat.pow 2 (-exponent).toNat)
  else ofFraction negative (magnitude * Nat.pow 2 exponent.toNat) 1

/-- The double nearest to an integer. -/
def ofInt (n : Int) : Binary64 := ofFraction (decide (n < 0)) n.natAbs 1

/-- The sign of a number that is no not-a-number. -/
def isNegative : Binary64 → Bool
  | .nan => false
  | .infinite negative => negative
  | .finite negative _ _ => negative

/-- The sum of two numbers, rounded to a nearest double. -/
def add (x y : Binary64) : Binary64 :=
  match x, y with
  | .nan, _ => .nan
  | _, .nan => .nan
  | .infinite a, .infinite b => if a = b then .infinite a else .nan
  | .infinite a, _ => .infinite a
  | _, .infinite b => .infinite b
  | .finite a m e, .finite b n f =>
    let least := min e f
    let scaled (negative : Bool) (magnitude : Nat) (exponent : Int) : Int :=
      (if negative then -1 else 1) * (magnitude * Nat.pow 2 (exponent - least).toNat : Nat)
    let sum := scaled a m e + scaled b n f
    if sum = 0 then zero (a && b) else ofScaled (decide (sum < 0)) sum.natAbs least

/-- The product of two numbers, rounded to a nearest double. -/
def mul (x y : Binary64) : Binary64 :=
  let negative := x.isNegative != y.isNegative
  match x, y with
  | .nan, _ => .nan
  | _, .nan => .nan
  | .finite _ m e, .finite _ n f => ofScaled negative (m * n) (e + f)
  | x, y => if x.isZero || y.isZero then .nan else .infinite negative

/-! ## Comparison -/

/-- The number that a finite double and an integer have in common: whether
`± mantissa · 2 ^ exponent` is exactly `n`. -/
def equalsInt : Binary64 → Int → Bool
  | .finite negative mantissa exponent, n =>
    let signed : Int := if negative then -mantissa else mantissa
    if exponent < 0 then signed == n * Int.pow 2 (-exponent).toNat
    else signed * Int.pow 2 exponent.toNat == n
  | _, _ => false

/-- Equality of numbers: the two zeros are equal, and not-a-number equals
nothing, itself included. -/
def equals (x y : Binary64) : Bool :=
  match x, y with
  | .nan, _ => false
  | _, .nan => false
  | x, y => x.isZero && y.isZero || x == y

end Binary64

end DecoratorSets
