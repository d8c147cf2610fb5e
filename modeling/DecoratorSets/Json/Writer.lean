import DecoratorSets.Number.Notation
import DecoratorSets.Text.Hexadecimal
import DecoratorSets.Value.Writing

/-!
# JSON text of a value

Documents are written with one item a line, indented by the same blanks for
each level, and with every character that JSON allows left as it
is. The text of a command inside a message uses the same lines but spells out
everything beyond ASCII. A `JsonLayout` records these two choices.

Not every value has a JSON text. There is none for moments, bytes and sets, and
keys have to be text or a scalar that is written out; a pair is written as a
list. Numbers of very many digits are refused, and so is a part inside itself.
Of several faults the first in the order of the text is reported.
-/

namespace DecoratorSets

/-- How JSON text is laid out. -/
structure JsonLayout where
  /-- What stands in front of an item for each level of nesting, one item a line;
  or everything is on one line. -/
  indent : Option String
  /-- Whether characters beyond ASCII are spelled out. -/
  asciiOnly : Bool

namespace Json

/-- The layout of documents. -/
def document (indent : String) : JsonLayout := ⟨some indent, false⟩

/-- The layout of values inside messages. -/
def message : JsonLayout := ⟨some "  ", true⟩

/-- The layout of values that take one line. -/
def oneLine : JsonLayout := ⟨none, true⟩

/-- The escape that names a unit of sixteen bits. -/
def unitEscape (n : Nat) : List Char := '\\' :: 'u' :: Hexadecimal.padded 4 n

/-- The escapes that name a character: one, or two for a character beyond
sixteen bits. -/
def codeEscape (c : Char) : List Char :=
  if c.toNat < 0x10000 then unitEscape c.toNat
  else
    let offset := c.toNat - 0x10000
    unitEscape (0xd800 + offset / 0x400) ++ unitEscape (0xdc00 + offset % 0x400)

/-- A character inside quotation marks. -/
def escape (asciiOnly : Bool) (c : Char) : List Char :=
  if c = '"' ∨ c = '\\' then ['\\', c]
  else if c = '\n' then ['\\', 'n']
  else if c = '\r' then ['\\', 'r']
  else if c = '\t' then ['\\', 't']
  else if c = '\x08' then ['\\', 'b']
  else if c = '\x0c' then ['\\', 'f']
  else if c.toNat < 0x20 ∨ (asciiOnly ∧ 0x7e < c.toNat) then codeEscape c
  else [c]

/-- A text inside quotation marks. -/
def quote (asciiOnly : Bool) (s : String) : String :=
  String.ofList ('"' :: s.toList.flatMap (escape asciiOnly) ++ ['"'])

/-- The name of a member. Scalars that are no text are written out. -/
def keyText : Value → Except WritingFault String
  | .str s => .ok s
  | .null => .ok "null"
  | .bool true => .ok "true"
  | .bool false => .ok "false"
  | .int n => Value.integerText n
  | .num x => .ok (NumberForm.json.write x)
  | _ => .error .unwritable

end Json

namespace JsonLayout

/-- What stands before an item at some depth of nesting. -/
def lineStart (layout : JsonLayout) (depth : Nat) : String :=
  match layout.indent with
  | some step => "\n" ++ String.join (List.replicate depth step)
  | none => ""

/-- What stands between two items at some depth of nesting. -/
def separator (layout : JsonLayout) (depth : Nat) : String :=
  match layout.indent with
  | some _ => "," ++ layout.lineStart depth
  | none => ", "

/-- Brackets around items, at the depth of the brackets. Empty brackets take
no line of their own. -/
def bracket (layout : JsonLayout) (depth : Nat) (opening closing : String)
    (items : List String) : String :=
  if items.isEmpty then opening ++ closing
  else
    opening ++ layout.lineStart (depth + 1)
      ++ (layout.separator (depth + 1)).intercalate items
      ++ layout.lineStart depth ++ closing

/-- Brackets around the items of a part, which must not be inside itself. -/
def part (layout : JsonLayout) (depth : Nat) (around : List Label) (label : Option Label)
    (opening closing : String) (items : Except WritingFault (List String)) :
    Except WritingFault String :=
  if label.any around.contains then .error .circular
  else layout.bracket depth opening closing <$> items

mutual

/-- The text of a value at some depth of nesting, inside parts with some
labels. -/
def write (layout : JsonLayout) (depth : Nat) (around : List Label) :
    Value → Except WritingFault String
  | .null => .ok "null"
  | .bool true => .ok "true"
  | .bool false => .ok "false"
  | .int n => Value.integerText n
  | .num x => .ok (NumberForm.json.write x)
  | .str s => .ok (Json.quote layout.asciiOnly s)
  | .list label items =>
    layout.part depth around label "[" "]"
      (writeItems layout (depth + 1) (label.toList ++ around) items)
  | .pair a b => do
    let a ← write layout (depth + 1) around a
    let b ← write layout (depth + 1) around b
    return layout.bracket depth "[" "]" [a, b]
  | .object label members =>
    layout.part depth around label "\x7b" "\x7d"
      (writeMembers layout (depth + 1) (label.toList ++ around) members)
  | .moment _ _ => .error .unwritable
  | .bytes _ => .error .unwritable
  | .set _ _ => .error .unwritable

/-- The texts of a list's items. -/
def writeItems (layout : JsonLayout) (depth : Nat) (around : List Label) :
    List Value → Except WritingFault (List String)
  | [] => .ok []
  | v :: rest => do
    let item ← write layout depth around v
    return item :: (← writeItems layout depth around rest)

/-- The texts of an object's members. -/
def writeMembers (layout : JsonLayout) (depth : Nat) (around : List Label) :
    List (Value × Value) → Except WritingFault (List String)
  | [] => .ok []
  | (k, v) :: rest => do
    let key ← Json.keyText k
    let item ← write layout depth around v
    return (Json.quote layout.asciiOnly key ++ ": " ++ item)
      :: (← writeMembers layout depth around rest)

end

/-- The text of a whole document. -/
def render (layout : JsonLayout) (v : Value) : Except WritingFault String := layout.write 0 [] v

end JsonLayout

end DecoratorSets
