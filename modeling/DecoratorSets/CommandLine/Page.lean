import DecoratorSets.CommandLine.Markup
import DecoratorSets.Text.Cells

/-!
# Printed text

Everything that is printed passes through a console. It shows the markup of
messages, drops the characters that would move the cursor, replaces tabs by blanks
and keeps lines within its width: messages are folded, documents are cut off.
Documents are printed as they are, with the numbers of their lines.
-/

namespace DecoratorSets

namespace Page

/-- The cells of a line of the console. -/
def width : Nat := 4000

/-- Characters that would move the cursor or ring the bell. -/
def movesCursor (c : Char) : Bool :=
  c == '\x07' || c == '\x08' || c == '\x0b' || c == '\x0c' || c == '\r'

/-- The lines of a message as it is printed. -/
def messageLines (message : String) : Except MarkupFault (List String) := do
  let cs ← Markup.shown message.toList
  return (partsAt '\n' (cs.filter (!movesCursor ·))).flatMap fun line =>
    (Cells.fold width (Cells.expandTabs 8 0 line)).map String.ofList

/-! ## Documents -/

/-- A document with blanks up to the next multiple of a stop in place of each
tab. Every character counts as one column, and both ends of a line begin a new
one. -/
def expandTabs (stop column : Nat) : List Char → List Char
  | [] => []
  | '\t' :: rest =>
    let blanks := stop - column % stop
    List.replicate blanks ' ' ++ expandTabs stop (column + blanks) rest
  | c :: rest => c :: expandTabs stop (if c = '\n' ∨ c = '\r' then 0 else column + 1) rest

/-- A document whose lines all end in a line feed. -/
def withLineFeeds : List Char → List Char
  | [] => []
  | '\r' :: '\n' :: rest => '\n' :: withLineFeeds rest
  | c :: rest => (if c = '\r' then '\n' else c) :: withLineFeeds rest

/-- The lines of a document. A document that ends in a line feed has an empty
line behind it. -/
def documentLines (text : List Char) : List (List Char) :=
  let ended := if text.getLast? = some '\n' then text else text ++ ['\n']
  let lines := partsAt '\n'
    ((withLineFeeds (expandTabs 4 0 ended)).filter (!movesCursor ·))
  if text.getLast? = some '\n' then lines else lines.dropLast

/-- A number, set off to the right in a column of some width. -/
def rightAligned (width n : Nat) : String :=
  let digits := toString n
  String.ofList (List.replicate (width - digits.length) ' ') ++ digits

/-- A document with the numbers of its lines. The column of numbers is as wide as
the number of line feeds asks for. -/
def numbered (text : String) : List String :=
  let digits := (toString (text.toList.count '\n' + 1)).length
  (documentLines text.toList).zipIdx.map fun (line, i) =>
    "  " ++ rightAligned digits (i + 1) ++ " "
      ++ String.ofList (Cells.crop (width - (digits + 3)) line)

end Page

end DecoratorSets
