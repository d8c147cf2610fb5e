import DecoratorSets.CommandLine.Emoji
import DecoratorSets.CommandLine.TagParameters
import DecoratorSets.CommandLine.TextStyle
import DecoratorSets.Text.Parts

/-!
# Markup in messages

Words in square brackets are tags: they open a style of the text behind them, or
close one that is open. A closing tag names the style that it closes, in any of
its forms, or the style that was opened last if it names none. Tags do not show.
Backslashes in front of a tag keep it as text if their number is odd, and every
second one of them shows.

Brackets around anything else are text, and so is a backslash that is not in
front of a tag, unless a bracket follows it.
-/

namespace DecoratorSets

/-- A reason why markup has no text. -/
inductive MarkupFault where
  /-- A closing tag for a style that is not open. -/
  | notOpen (style : String)
  /-- A closing tag without a name where no style is open. -/
  | nothingOpen
  /-- Parameters of a tag that cannot be read. -/
  | unreadableParameters (parameters : String)
  /-- A part of a colour that is no number. -/
  | numeral (cause : NumeralFault)
deriving DecidableEq

namespace Markup

/-- A tag: its name, and what is behind an equals sign in it. -/
structure Tag where
  name : String
  parameters : Option String
deriving DecidableEq

/-- A tag or a stretch of text. -/
inductive Piece where
  | text (cs : List Char)
  | tag (t : Tag)

/-! ## Finding tags -/

/-- Whether a tag can begin with a character. -/
def beginsTag (c : Char) : Bool :=
  (decide ('a' ≤ c) && decide (c ≤ 'z')) || c == '#' || c == '/' || c == '@'

/-- The characters of a tag and those behind it, if some characters, which stand
behind an opening bracket, begin with one. -/
def cutTag? (cs : List Char) : Option (List Char × List Char) :=
  if !cs.head?.any beginsTag then none
  else
    match cutAt ']' cs with
    | (inside, some behind) => some (inside, behind)
    | (_, none) => none

/-- The tag of the characters between brackets. -/
def tagOf (cs : List Char) : Tag :=
  let (name, parameters) := cutAt '=' cs
  ⟨String.ofList name, parameters.map String.ofList⟩

/-- The piece of some text; there is none of no text. -/
def textPiece (cs : List Char) : List Piece := if cs.isEmpty then [] else [.text cs]

/-- The pieces of a tag and the text in front of it. -/
def tagPieces (before inside : List Char) : List Piece :=
  let slashes := (before.reverse.takeWhile (· = '\\')).length
  textPiece (before.take (before.length - slashes))
    ++ textPiece (List.replicate (slashes / 2) '\\')
    ++ [if slashes % 2 = 0 then .tag (tagOf inside) else .text ('[' :: inside ++ [']'])]

/-- The pieces of some text and of the parts behind it, an opening bracket in
front of each. -/
def piecesFrom (before : List Char) : List (List Char) → List Piece
  | [] => textPiece before
  | part :: rest =>
    match cutTag? part with
    | some (inside, behind) => tagPieces before inside ++ piecesFrom behind rest
    | none => piecesFrom (before ++ '[' :: part) rest

/-- The pieces of a message. -/
def pieces (cs : List Char) : List Piece :=
  match partsAt '[' cs with
  | first :: rest => piecesFrom first rest
  | [] => []

/-! ## Showing text -/

/-- Characters without the backslashes in front of opening brackets. -/
def withoutEscapes : List Char → List Char
  | '\\' :: '[' :: rest => '[' :: withoutEscapes rest
  | c :: rest => c :: withoutEscapes rest
  | [] => []

/-- A stretch of text as it shows. -/
def shownText (cs : List Char) : List Char := Emoji.draw (withoutEscapes cs)

/-- The normal form of a style. -/
def styleName (name : String) : Except MarkupFault String :=
  (TextStyle.normalForm name).mapError .numeral

/-- Takes the first tag of a name out of some tags. -/
def takeOut? (name : String) : List Tag → Option (Tag × List Tag)
  | [] => none
  | t :: rest =>
    if t.name = name then some (t, rest)
    else (takeOut? name rest).map fun (found, rest) => (found, t :: rest)

/-- Finds the tag that a closing tag closes, among the open ones, the last one
first, and gives the others that are open. -/
def close (name : String) (opened : List Tag) : Except MarkupFault (Tag × List Tag) := do
  let style := String.ofList (Blank.strip Blank.isBlank name.toList)
  if style = "" then
    match opened with
    | t :: rest => return (t, rest)
    | [] => throw .nothingOpen
  else
    match takeOut? (← styleName style) opened with
    | some found => return found
    | none => throw (.notOpen style)

/-- Checks the parameters of a tag that is closed, if it is one of an action. -/
def checkClosed (t : Tag) : Except MarkupFault Unit :=
  match t.name.toList.head?, t.parameters with
  | some '@', some parameters =>
    if parameters = "" ∨ TagParameters.areReadable parameters then .ok ()
    else .error (.unreadableParameters parameters)
  | _, _ => .ok ()

/-- The text of pieces, while some tags are open, the last one first. -/
def showPieces (opened : List Tag) : List Piece → Except MarkupFault (List Char)
  | [] => .ok []
  | .text cs :: rest => (shownText cs ++ ·) <$> showPieces opened rest
  | .tag t :: rest => do
    match t.name.toList with
    | '/' :: name =>
      let (closed, opened) ← close (String.ofList name) opened
      checkClosed closed
      showPieces opened rest
    | _ => showPieces ({ t with name := ← styleName t.name } :: opened) rest

/-- The text of a message. -/
def shown (cs : List Char) : Except MarkupFault (List Char) := showPieces [] (pieces cs)

end Markup

end DecoratorSets
