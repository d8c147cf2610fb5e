import DecoratorSets.Number.Notation
import DecoratorSets.Text.Quoted
import DecoratorSets.Value.Basic

/-!
# Values in messages

A message that names an unexpected value shows it in full: text in quotation
marks, lists and objects with their contents. `Value.inspect` is that form. A
part inside itself is shown once, and by dots where it occurs again.

Where a value is used as a piece of text – as the name of a type, the label of
a term – text stands for itself, a moment for its own text, and only other
values are shown (`Value.text`).
-/

namespace DecoratorSets

namespace Value

/-- The form of items between brackets, unless the part that they belong to is
among those around it. -/
def inspectPart (around : List Label) (label : Option Label) (opening closing : String)
    (items : List String) : String :=
  if label.any around.contains then opening ++ "..." ++ closing
  else opening ++ ", ".intercalate items ++ closing

mutual

/-- The form in which a message shows a value that is inside parts with some
labels. -/
def inspectWithin (around : List Label) : Value → String
  | .null => "None"
  | .bool true => "True"
  | .bool false => "False"
  | .int n => toString n
  | .num x => NumberForm.plain.write x
  | .str s => quoted s
  | .moment _ m => m.inspect
  | .bytes data => quotedBytes data
  | .list label items =>
    inspectPart around label "[" "]" (inspectItems (label.toList ++ around) items)
  | .pair a b => "(" ++ inspectWithin around a ++ ", " ++ inspectWithin around b ++ ")"
  | .set _ [] => "set()"
  | .set _ (x :: rest) =>
    "\x7b" ++ ", ".intercalate (inspectWithin around x :: inspectItems around rest) ++ "\x7d"
  | .object label members =>
    inspectPart around label "\x7b" "\x7d" (inspectMembers (label.toList ++ around) members)

/-- The forms of a list's items. -/
def inspectItems (around : List Label) : List Value → List String
  | [] => []
  | v :: rest => inspectWithin around v :: inspectItems around rest

/-- The forms of an object's members. -/
def inspectMembers (around : List Label) : List (Value × Value) → List String
  | [] => []
  | (k, v) :: rest =>
    (inspectWithin around k ++ ": " ++ inspectWithin around v) :: inspectMembers around rest

end

/-- The form in which a message shows a value. -/
def inspect (v : Value) : String := v.inspectWithin []

/-- The value as a piece of text. -/
def text : Value → String
  | .str s => s
  | .moment _ m => m.text
  | v => v.inspect

@[simp] theorem text_str (s : String) : (Value.str s).text = s := rfl

end Value

/-- The form in which a message shows a list of texts. -/
def inspectTexts (ss : List String) : String :=
  "[" ++ ", ".intercalate (ss.map quoted) ++ "]"

end DecoratorSets
