import DecoratorSets.Yaml.Cursor
import DecoratorSets.Yaml.Scalar

/-!
# How a text is written as a scalar

A text is written plain if it is allowed to stand without quotation marks and
would be read back as text; otherwise in single quotation marks, or in double
ones if it holds characters that have to be escaped, or blanks around a line
break that folding would lose.
-/

namespace DecoratorSets

namespace Yaml

/-- The ways to write a scalar. -/
inductive Style where
  | plain
  | single
  | double
deriving DecidableEq

/-- Characters at which a written line ends. -/
def endsLine (c : Char) : Bool := isBreak c || c == '\u0085'

/-- Whether a character separates words. -/
def separatesWords (c : Char) : Bool := c == ' ' || c == '\t' || c == '\r' || endsLine c

/-- Whether some characters begin with one that separates words, or end here. -/
def separated : List Char → Bool
  | [] => true
  | c :: _ => separatesWords c

/-- Characters that can only be written as escapes. -/
def isSpecial (c : Char) : Bool :=
  !(c == '\n' || decide (0x20 ≤ c.toNat ∧ c.toNat ≤ 0x7e))
    && !((c.toNat == 0x85 || decide (0xa0 ≤ c.toNat ∧ c.toNat ≤ 0xd7ff)
        || decide (0xe000 ≤ c.toNat ∧ c.toNat ≤ 0xfffd)
        || decide (0x10000 ≤ c.toNat ∧ c.toNat < 0x10ffff)) && c != '\ufeff')

/-- Whether a pair of neighbours passes a test. -/
def anyNeighbours (test : Char → Char → Bool) (cs : List Char) : Bool :=
  (cs.zip (cs.drop 1)).any fun pair => test pair.1 pair.2

/-- Whether a line inside the text begins with a blank. -/
def hasIndentedLine : List Char → Bool := anyNeighbours fun c d => endsLine c && d == ' '

/-- Whether a line inside the text ends with a blank. -/
def hasTrailingBlank : List Char → Bool := anyNeighbours fun c d => c == ' ' && endsLine d

/-- Whether the first characters would be read as a mark. -/
def beginsMark (cs : List Char) : Bool :=
  match cs with
  | '-' :: '-' :: '-' :: _ => true
  | '.' :: '.' :: '.' :: _ => true
  | c :: rest =>
    "#,[]\x7b\x7d&*!|>'\"%@\x60".contains c
      || ((c == '?' || c == ':' || c == '-') && separated rest)
  | [] => false

/-- Whether a colon ends a word behind the first character. -/
def hasKeyMark : List Char → Bool
  | [] => false
  | c :: rest => c == ':' && separated rest || hasKeyMark rest

/-- Whether a comment would begin behind the first character. -/
def hasCommentMark : List Char → Bool := anyNeighbours fun c d => separatesWords c && d == '#'

/-- Whether a text begins or ends with a blank or a line break. -/
def hasOuterBlank (cs : List Char) : Bool :=
  let outer (c : Option Char) : Bool := c.any fun c => c == ' ' || endsLine c
  outer cs.head? || outer cs.getLast?

/-- Whether a text can be written in double quotation marks only. -/
def needsDouble (cs : List Char) : Bool :=
  cs.any isSpecial || hasIndentedLine cs || hasTrailingBlank cs

/-- Whether a text can be written without quotation marks. -/
def admitsPlain (s : String) : Bool :=
  let cs := s.toList
  !(needsDouble cs || cs.any endsLine || hasOuterBlank cs || beginsMark cs
      || hasKeyMark (cs.drop 1) || hasCommentMark cs)
    && scalarTag s = .str

/-- The way to write a text. -/
def styleOf (s : String) : Style :=
  if admitsPlain s then .plain
  else if needsDouble s.toList then .double
  else .single

end Yaml

end DecoratorSets
