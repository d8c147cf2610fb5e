import DecoratorSets.Text.Base64
import DecoratorSets.Text.LowerCase
import DecoratorSets.Value.Access
import DecoratorSets.Yaml.Scalar

/-!
# The values of scalars

The tag of a scalar says what its text is to be read as. A text need not fit its
tag, where that is written out or only looks like it: then the scalar is a fault.

Marks that group digits do not count. A whole number is in the base that it
begins with the mark of; a zero in front is the mark of base eight, and colons
separate the places of base sixty.
-/

namespace DecoratorSets

namespace Yaml

/-- Fails for a literal that stands for no value. -/
def faulty {α : Type} (cause : LiteralFault) : Checked α := .error (.literal cause)

/-- A number that is read, or the fault of its numeral. -/
def ofNumeral {α : Type} : Except NumeralFault α → Checked α
  | .ok a => .ok a
  | .error cause => faulty (.numeral cause)

/-- The digits of a number without the marks that group them. -/
def ungrouped (s : String) : List Char := s.toList.filter (· ≠ '_')

/-- The truth value that a word stands for, in any mixture of cases. -/
def readTruth (s : String) : Checked Bool :=
  let word := lowerCase s
  if ["yes", "true", "on"].contains word then .ok true
  else if ["no", "false", "off"].contains word then .ok false
  else faulty (.notATruth word)

/-! ## Numbers -/

/-- The whole number of places in base sixty, the highest place first. -/
def ofPlaces (places : List Int) : Int := places.foldl (fun n place => 60 * n + place) 0

/-- A whole number behind its sign. -/
def readMagnitude (cs : List Char) : Checked Int :=
  match cs with
  | [] => faulty (.numeral .empty)
  | ['0'] => .ok 0
  | '0' :: 'b' :: rest => ofNumeral (Numeral.integer 2 rest)
  | '0' :: 'x' :: rest => ofNumeral (Numeral.integer 16 rest)
  | '0' :: _ => ofNumeral (Numeral.integer 8 cs)
  | cs =>
    if cs.contains ':' then
      ofPlaces <$> (partsAt ':' cs).mapM fun part => ofNumeral (Numeral.integer 10 part)
    else ofNumeral (Numeral.integer 10 cs)

/-- A whole number. -/
def readInteger (s : String) : Checked Int := do
  let (negative, rest) := Numeral.cutSign (ungrouped s)
  let n ← readMagnitude rest
  return if negative then -n else n

/-- The sum of places in base sixty, the lowest place first and counting some
power of sixty. -/
def sumPlaces (sum : Binary64) (unit : Int) : List Binary64 → Checked Binary64
  | [] => .ok sum
  | place :: rest =>
    match Binary64.ofInt unit with
    | .infinite _ => faulty .beyondDoubles
    | x => sumPlaces (sum.add (place.mul x)) (60 * unit) rest

/-- A number that may have a point, behind its sign. -/
def readUnsignedNumber (cs : List Char) : Checked Binary64 :=
  if cs = ".inf".toList then .ok (.infinite false)
  else if cs = ".nan".toList then .ok .nan
  else if cs.contains ':' then do
    let places ← (partsAt ':' cs).mapM fun part => ofNumeral (Numeral.number part)
    sumPlaces (.zero false) 1 places.reverse
  else ofNumeral (Numeral.number cs)

/-- A number that may have a point. -/
def readNumber (s : String) : Checked Binary64 :=
  match LowerCase.ofChars (ungrouped s) with
  | [] => faulty (.numeral .empty)
  | cs => do
    let (negative, rest) := Numeral.cutSign cs
    let x ← readUnsignedNumber rest
    return if negative then x.neg else x

/-! ## Bytes and moments -/

/-- Bytes, which are given as text in base 64. -/
def readBytes (s : String) : Checked (List UInt8) :=
  if s.toList.all fun c => decide (c.toNat < 0x80) then
    match Base64.decode? s.toList with
    | some data => .ok data
    | none => .error .unreadableYaml
  else .error .unreadableYaml

/-- The number of seconds of an offset from universal time, if there is one. -/
def offsetSeconds? (cs : List Char) : Option Int :=
  match afterBlanks cs with
  | [] => none
  | ['Z'] => some 0
  | sign :: rest =>
    let (hours, behind) := spanDigits rest
    let seconds := 3600 * Digit.number hours + 60 * Digit.number (behind.drop 1)
    some (Numeral.signed (sign == '-') seconds)

/-- The number of microseconds that the digits of a fraction stand for. Digits
behind the sixth do not count. -/
def microseconds (fraction : List Char) : Nat :=
  let digits := fraction.take 6
  Digit.number (digits ++ List.replicate (6 - digits.length) '0')

/-- A moment. A line break at the end of its text does not count. -/
def readMoment (s : String) : Checked Moment :=
  let cs := s.toList
  match momentText? (if cs.getLast? = some '\n' then cs.dropLast else cs) with
  | none => faulty .notAMoment
  | some m =>
    let date : Date := ⟨Digit.number m.year, Digit.number m.month, Digit.number m.day⟩
    let clock := m.clock.map fun (hour, minute, second, fraction, offset) =>
      ((⟨Digit.number hour, Digit.number minute, Digit.number second, microseconds fraction⟩ :
        TimeOfDay), offsetSeconds? offset)
    match Moment.ofParts date clock with
    | .ok moment => .ok moment
    | .error cause => faulty (.moment cause)

/-! ## The value under a tag -/

/-- The value of a text under the tag of a type of scalars. Moments get the label
of their node. -/
def readLiteral (label : Option Label) (tag : Tag) (s : String) : Checked Value :=
  match tag with
  | .null => .ok .null
  | .bool => .bool <$> readTruth s
  | .int => .int <$> readInteger s
  | .float => .num <$> readNumber s
  | .binary => .bytes <$> readBytes s
  | .timestamp => .moment label <$> readMoment s
  | .str => .ok (.str s)
  | _ => .error .unreadableYaml

end Yaml

end DecoratorSets
