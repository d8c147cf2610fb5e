import DecoratorSets.Value.Access

/-!
# A place in YAML text

YAML gives meaning to the column in which something stands, so the reader
carries its place along with the characters that are left. A line may end in a
line feed or in one of the separators of lines and paragraphs; other ways to end
a line are turned into line feeds before the reader starts.
-/

namespace DecoratorSets

namespace Yaml

/-- Fails for text that is not YAML. -/
def malformed {α : Type} : Checked α := .error .unreadableYaml

/-- Characters at which a line ends. -/
def isBreak (c : Char) : Bool := c == '\n' || c == '\u2028' || c == '\u2029'

/-- Whether a word ends in front of some characters: at a blank, at the end of
the line, or at the end of the text. -/
def endsWord : List Char → Bool
  | [] => true
  | c :: _ => c == ' ' || c == '\t' || isBreak c

/-- Whether some characters begin with a mark between documents. -/
def isDocumentMark (cs : List Char) : Bool :=
  match cs with
  | '-' :: '-' :: '-' :: rest => endsWord rest
  | '.' :: '.' :: '.' :: rest => endsWord rest
  | _ => false

/-- Line feeds in place of carriage returns and next-line characters. -/
def unifyBreaks : List Char → List Char
  | [] => []
  | '\r' :: '\n' :: rest => '\n' :: unifyBreaks rest
  | '\r' :: rest => '\n' :: unifyBreaks rest
  | '\u0085' :: rest => '\n' :: unifyBreaks rest
  | c :: rest => c :: unifyBreaks rest

/-- Characters that may stand in YAML text. -/
def isAdmitted (c : Char) : Bool :=
  c == '\t' || c == '\n' || c == '\r' || decide (0x20 ≤ c.toNat ∧ c.toNat ≤ 0x7e)
    || c.toNat == 0x85 || decide (0xa0 ≤ c.toNat ∧ c.toNat ≤ 0xd7ff)
    || decide (0xe000 ≤ c.toNat ∧ c.toNat ≤ 0xfffd) || decide (0x10000 ≤ c.toNat)

/-- The characters that are left, and the place of the first of them. -/
structure Cursor where
  rest : List Char
  /-- The number of characters before. -/
  index : Nat
  /-- The number of lines before. -/
  line : Nat
  /-- The number of characters before in the line. -/
  column : Nat

namespace Cursor

/-- The beginning of a text. -/
def start (cs : List Char) : Cursor := ⟨cs, 0, 0, 0⟩

/-- The place behind the next character. -/
def next (k : Cursor) : Cursor :=
  match k.rest with
  | [] => k
  | c :: rest =>
    if isBreak c then ⟨rest, k.index + 1, k.line + 1, 0⟩
    else ⟨rest, k.index + 1, k.line, if c = '\ufeff' then k.column else k.column + 1⟩

/-- The place behind the next few characters. -/
def skip : Nat → Cursor → Cursor
  | 0, k => k
  | n + 1, k => skip n k.next

/-- The place of the first character that fails a test. -/
def skipWhile (test : Char → Bool) (k : Cursor) : Cursor :=
  k.skip (k.rest.takeWhile test).length

end Cursor

end Yaml

end DecoratorSets
