import DecoratorSets.Text.Blank
import DecoratorSets.Text.Digit
import DecoratorSets.Text.Hexadecimal

/-!
# Parameters of tags

A tag of markup may name an action, with parameters: the name of a handler,
arguments in brackets behind it, or arguments alone. Arguments are literals: numbers,
quoted texts, three words, and tuples of those in brackets. Nothing happens here
when a tag is closed, but parameters that cannot be read are refused.

The reader of each part gives the characters behind it.
-/

namespace DecoratorSets

namespace TagParameters

/-- Characters without the blanks in front of them. -/
def afterBlanks (cs : List Char) : List Char := cs.dropWhile fun c => c == ' ' || c == '\t'

/-- Whether a character can be in the name of a handler. -/
def isNameCharacter (c : Char) : Bool :=
  c.isAlphanum || c == '_' || c == '.' || (decide (0x80 ≤ c.toNat) && !Blank.isBlank c)

/-- Reads the rest of a quoted text. -/
def afterText (quote : Char) : List Char → Option (List Char)
  | [] => none
  | '\n' :: _ => none
  | '\\' :: _ :: rest => afterText quote rest
  | c :: rest => if c = quote then some rest else afterText quote rest

/-- Whether characters are the digits of a number behind its first zero. -/
def continuesZero (cs : List Char) : Bool :=
  match cs with
  | mark :: digit :: rest =>
    if mark.toLower = 'x' then (digit :: rest).all fun d => (Hexadecimal.digit? d).isSome
    else if mark.toLower = 'o' then (digit :: rest).all fun d => decide ('0' ≤ d) && decide (d ≤ '7')
    else if mark.toLower = 'b' then (digit :: rest).all fun d => d == '0' || d == '1'
    else (mark :: digit :: rest).all (· == '0')
  | cs => cs.all (· == '0')

/-- Reads a number. -/
def afterNumber (cs : List Char) : Option (List Char) :=
  let whole := cs.takeWhile Digit.isAscii
  let (point, fraction, rest) := match cs.dropWhile Digit.isAscii with
    | '.' :: behind => (true, behind.takeWhile Digit.isAscii, behind.dropWhile Digit.isAscii)
    | rest => (false, [], rest)
  if whole.isEmpty ∧ fraction.isEmpty then none
  else
    match rest with
    | mark :: behind =>
      if mark.toLower = 'e' then
        let digits := match behind with
          | '+' :: digits => digits
          | '-' :: digits => digits
          | digits => digits
        if (digits.takeWhile Digit.isAscii).isEmpty then none
        else some (digits.dropWhile Digit.isAscii)
      else if point then some rest
      else afterWhole whole rest
    | [] => if point then some [] else afterWhole whole []
where
  /-- Reads the rest of a whole number, which begins with a zero only if there
  are no other digits or a mark of a base. -/
  afterWhole (whole rest : List Char) : Option (List Char) :=
    match whole with
    | '0' :: digits =>
      let more := rest.takeWhile Char.isAlphanum
      if continuesZero (digits ++ more) then some (rest.drop more.length) else none
    | _ => some rest

/-- The words that are literals. -/
def words : List String := ["True", "False", "None"]

/-- Reads a word. -/
def afterWord (cs : List Char) : Option (List Char) :=
  let word := cs.takeWhile isNameCharacter
  if words.contains (String.ofList word) then some (cs.drop word.length) else none

mutual

/-- Reads a literal. -/
def afterLiteral : Nat → List Char → Option (List Char)
  | 0, _ => none
  | fuel + 1, cs =>
    match afterBlanks cs with
    | '(' :: rest =>
      match afterItems fuel rest with
      | some (')' :: rest) => some rest
      | _ => none
    | '-' :: rest => afterNumber (afterBlanks rest)
    | '+' :: rest => afterNumber (afterBlanks rest)
    | '\'' :: rest => afterText '\'' rest
    | '"' :: rest => afterText '"' rest
    | rest => (afterNumber rest).or (afterWord rest)

/-- Reads literals between commas, as far as they go. -/
def afterItems : Nat → List Char → Option (List Char)
  | 0, _ => none
  | fuel + 1, cs =>
    match afterBlanks cs with
    | [] => some []
    | ')' :: rest => some (')' :: rest)
    | rest => do
      let rest ← afterLiteral fuel rest
      match afterBlanks rest with
      | ',' :: rest => afterItems fuel rest
      | rest => some rest

end

/-- Whether a text is a literal, or several between commas. -/
def isLiteral (cs : List Char) : Bool :=
  !(afterBlanks cs).isEmpty && afterItems (2 * cs.length + 2) cs == some []

/-- The part of parameters that has to be a literal: the arguments behind the
name of a handler, which may be absent, or all of them. -/
def arguments (cs : List Char) : List Char :=
  match cs.dropWhile isNameCharacter with
  | [] => ['(', ')']
  | '(' :: rest => if rest.getLast? == some ')' && !rest.contains '\n' then '(' :: rest else cs
  | _ => cs

/-- Whether parameters can be read. -/
def areReadable (parameters : String) : Bool :=
  isLiteral (arguments (Blank.strip Blank.isBlank parameters.toList))

end TagParameters

end DecoratorSets
