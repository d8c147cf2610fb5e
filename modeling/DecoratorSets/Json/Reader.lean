import DecoratorSets.Value.Access

/-!
# Reading JSON text

The reader takes the grammar of JSON literally, with the words `NaN`,
`Infinity` and `-Infinity` as further numbers. A number without fraction and
exponent is an integer, of any size up to a limit on its digits. A member that is
named twice has its last value, at its first place.
-/

namespace DecoratorSets

namespace Json

/-- A reader gives what it read and the characters after it. -/
abbrev Reading (α : Type) := Checked (α × List Char)

/-- Fails for text that is not JSON. -/
def malformed {α : Type} : Checked α := .error .unreadableJson

/-- The blanks of JSON. -/
def isBlank (c : Char) : Bool := c == ' ' || c == '\t' || c == '\n' || c == '\r'

/-- The characters from the first that is no blank. -/
def skipBlanks (cs : List Char) : List Char := cs.dropWhile isBlank

/-! ## Text -/

/-- The unit of sixteen bits that four hexadecimal digits name. -/
def readUnit? : List Char → Option (Nat × List Char)
  | a :: b :: c :: d :: rest => (Hexadecimal.value? [a, b, c, d]).map (·, rest)
  | _ => none

/-- The second half of a character beyond sixteen bits, after its first half
`high`. A half that stands alone reads as the replacement character. -/
def readSecondHalf (high : Nat) (cs : List Char) : Char × List Char :=
  let alone := (Char.ofNat 0xfffd, cs)
  match cs with
  | '\\' :: 'u' :: rest =>
    match readUnit? rest with
    | some (low, rest) =>
      if 0xdc00 ≤ low ∧ low < 0xe000 then
        (Char.ofNat (0x10000 + (high - 0xd800) * 0x400 + (low - 0xdc00)), rest)
      else alone
    | none => alone
  | _ => alone

/-- The character that an escape names, after the backslash. -/
def readEscape? : List Char → Option (Char × List Char)
  | '"' :: rest => some ('"', rest)
  | '\\' :: rest => some ('\\', rest)
  | '/' :: rest => some ('/', rest)
  | 'b' :: rest => some ('\x08', rest)
  | 'f' :: rest => some ('\x0c', rest)
  | 'n' :: rest => some ('\n', rest)
  | 'r' :: rest => some ('\r', rest)
  | 't' :: rest => some ('\t', rest)
  | 'u' :: rest =>
    (readUnit? rest).map fun (unit, rest) =>
      if 0xd800 ≤ unit ∧ unit < 0xdc00 then readSecondHalf unit rest
      else if 0xdc00 ≤ unit ∧ unit < 0xe000 then (Char.ofNat 0xfffd, rest)
      else (Char.ofNat unit, rest)
  | _ => none

/-- The text up to the closing quotation mark. -/
def readText : Nat → List Char → List Char → Reading String
  | 0, _, _ => malformed
  | _ + 1, _, [] => malformed
  | fuel + 1, seen, c :: rest =>
    if c = '"' then .ok (String.ofList seen.reverse, rest)
    else if c = '\\' then
      match readEscape? rest with
      | some (e, rest) => readText fuel (e :: seen) rest
      | none => malformed
    else if c.toNat < 0x20 then malformed
    else readText fuel (c :: seen) rest

/-! ## Numbers -/

/-- A fraction: a point and at least one digit. Without one, nothing is read. -/
def readFraction (cs : List Char) : List Char × List Char :=
  match cs with
  | '.' :: rest =>
    if (rest.takeWhile Digit.isAscii).isEmpty then ([], cs)
    else (rest.takeWhile Digit.isAscii, rest.dropWhile Digit.isAscii)
  | _ => ([], cs)

/-- The digits of an exponent behind its sign. -/
def readExponentDigits? (negative : Bool) (cs : List Char) : Option (Int × List Char) :=
  let digits := cs.takeWhile Digit.isAscii
  if digits.isEmpty then none
  else some (Numeral.signed negative (Digit.number digits), cs.dropWhile Digit.isAscii)

/-- An exponent: its mark, a sign or none, and at least one digit. -/
def readExponent? (cs : List Char) : Option (Int × List Char) :=
  match cs with
  | c :: rest =>
    if c = 'e' ∨ c = 'E' then
      match rest with
      | '-' :: rest => readExponentDigits? true rest
      | '+' :: rest => readExponentDigits? false rest
      | rest => readExponentDigits? false rest
    else none
  | [] => none

/-- The integer of some digits. -/
def integerOf (negative : Bool) (digits : List Char) : Checked Value :=
  if Numeral.digitLimit < digits.length then
    .error (.literal (.numeral (.tooManyDigits digits.length)))
  else .ok (.int (Numeral.signed negative (Digit.number digits)))

/-- A number after its sign. A whole part that begins with zero has no further
digit. -/
def readUnsigned (negative : Bool) (cs : List Char) : Reading Value :=
  let whole := match cs with
    | '0' :: _ => ['0']
    | _ => cs.takeWhile Digit.isAscii
  if whole.isEmpty then malformed
  else
    let (fraction, rest) := readFraction (cs.drop whole.length)
    let scaled (exponent : Int) : Value :=
      .num (.ofDecimal negative (Digit.number (whole ++ fraction)) (exponent - fraction.length))
    match readExponent? rest with
    | some (exponent, rest) => .ok (scaled exponent, rest)
    | none =>
      if fraction.isEmpty then (integerOf negative whole).map fun v => (v, rest)
      else .ok (scaled 0, rest)

/-! ## Values -/

/-- The rest of a text after a word it begins with. -/
def afterWord? (word : String) (cs : List Char) : Option (List Char) :=
  if word.toList.isPrefixOf cs then some (cs.drop word.length) else none

/-- The values that are written as a word. -/
def words : List (String × Value) :=
  [("null", .null), ("true", .bool true), ("false", .bool false), ("NaN", .num .nan),
   ("Infinity", .num (.infinite false)), ("-Infinity", .num (.infinite true))]

/-- A value that is a word or a number. -/
def readPlain (cs : List Char) : Reading Value :=
  match words.findSome? fun word => (afterWord? word.1 cs).map (word.2, ·) with
  | some reading => .ok reading
  | none =>
    match cs with
    | '-' :: rest => readUnsigned true rest
    | _ => readUnsigned false cs

mutual

/-- The value that the characters begin with. -/
def readValue : Nat → List Char → Reading Value
  | 0, _ => malformed
  | fuel + 1, cs =>
    match cs with
    | '"' :: rest =>
      (readText (rest.length + 1) [] rest).map fun (s, rest) => (.str s, rest)
    | '[' :: rest =>
      match skipBlanks rest with
      | ']' :: rest => .ok (.list none [], rest)
      | rest => readItems fuel [] rest
    | '\x7b' :: rest =>
      match skipBlanks rest with
      | '\x7d' :: rest => .ok (.object none [], rest)
      | rest => readMembers fuel [] rest
    | cs => readPlain cs

/-- The items of a list from the next one on, behind those already read, which
come last first. -/
def readItems : Nat → List Value → List Char → Reading Value
  | 0, _, _ => malformed
  | fuel + 1, seen, cs =>
    match readValue fuel cs with
    | .error e => .error e
    | .ok (v, rest) =>
      match skipBlanks rest with
      | ',' :: rest => readItems fuel (v :: seen) (skipBlanks rest)
      | ']' :: rest => .ok (.list none (v :: seen).reverse, rest)
      | _ => malformed

/-- The members of an object from the next one on, behind those already read. -/
def readMembers : Nat → Members → List Char → Reading Value
  | 0, _, _ => malformed
  | fuel + 1, seen, cs =>
    match cs with
    | '"' :: rest =>
      match readText (rest.length + 1) [] rest with
      | .error e => .error e
      | .ok (key, rest) =>
        match skipBlanks rest with
        | ':' :: rest =>
          match readValue fuel (skipBlanks rest) with
          | .error e => .error e
          | .ok (v, rest) =>
            match skipBlanks rest with
            | ',' :: rest => readMembers fuel (seen.put key v) (skipBlanks rest)
            | '\x7d' :: rest => .ok (.object none (seen.put key v), rest)
            | _ => malformed
        | _ => malformed
    | _ => malformed

end

/-- The value that a text is, blanks around it aside. Every step of the reader
consumes a character, so the length of the text bounds its depth. -/
def read (text : String) : Checked Value :=
  let cs := skipBlanks text.toList
  match readValue (cs.length + 1) cs with
  | .ok (v, rest) => if (skipBlanks rest).isEmpty then .ok v else malformed
  | .error e => .error e

end Json

end DecoratorSets
