import DecoratorSets.Number.Notation
import DecoratorSets.Text.Base64
import DecoratorSets.Value.Writing
import DecoratorSets.Yaml.Pen

/-!
# Writing YAML text

Documents are written in block style: each entry of a mapping and each item of
a list in a line of its own, two blanks deeper than what holds it. The items of
a list that is the value of an entry are not indented, and the first entry of a
mapping that is an item stands behind the dash. Empty collections are written
as brackets.

A pair is written as a list with a tag, a set as a mapping with a tag, whose
entries have no values, and bytes as lines of text with a tag.
-/

namespace DecoratorSets

namespace Yaml

/-! ## Parts that occur several times -/

/-- The labels that were met once, and those that were met again, the first one
last. -/
structure Encounters where
  met : List Label
  again : List Label

namespace Encounters

/-- Meets a part with a label. What is in it is looked at the first time only. -/
def meet (label : Option Label) (look : Encounters → Encounters) (e : Encounters) : Encounters :=
  match label with
  | none => look e
  | some l =>
    if e.met.contains l then
      if e.again.contains l then e else { e with again := l :: e.again }
    else look { e with met := l :: e.met }

mutual

/-- Looks through a value. -/
def ofValue : Value → Encounters → Encounters
  | .moment label _, e => e.meet label id
  | .list label items, e => e.meet label (ofItems items)
  | .pair a b, e => ofValue b (ofValue a e)
  | .set label items, e => e.meet label (ofItems items)
  | .object label members, e => e.meet label (ofMembers members)
  | _, e => e

/-- Looks through values. -/
def ofItems : List Value → Encounters → Encounters
  | [], e => e
  | v :: rest, e => ofItems rest (ofValue v e)

/-- Looks through members. -/
def ofMembers : List (Value × Value) → Encounters → Encounters
  | [], e => e
  | (k, v) :: rest, e => ofMembers rest (ofValue v (ofValue k e))

end

end Encounters

/-- The labels of the parts of a value that occur several times, in the order in
which they do so. -/
def repeatedLabels (v : Value) : List Label := (Encounters.ofValue v ⟨[], []⟩).again.reverse

/-! ## Values -/

/-- The column of what is held by a collection at some column. -/
def deeper (indent : Option Nat) : Nat :=
  match indent with
  | none => 0
  | some n => n + 2

/-- The greatest length of a key with its tag and anchor. -/
def keyLimit : Nat := 127

/-- The text of a key with the name of its type, where it is a scalar that can be
written in a line. -/
def keyText? : Value → Option (String × String)
  | .null => some ("null", "null")
  | .bool b => some (if b then "true" else "false", "bool")
  | .int n => some (toString n, "int")
  | .num x => some (NumberForm.yaml.write x, "float")
  | .str s => if s = "" ∨ s.toList.any endsLine then none else some (s, "str")
  | .moment _ m => some (m.text, "timestamp")
  | _ => none

/-- The label of a value. -/
def labelOf : Value → Option Label
  | .moment label _ => label
  | .list label _ => label
  | .set label _ => label
  | .object label _ => label
  | _ => none

namespace Pen

/-- Whether a key can be written in front of a colon: it is an alias or a scalar
in one line that is not too long, the name of its type behind two marks
included. -/
def isSimpleKey (k : Value) (p : Pen) : Bool :=
  p.isAlias (labelOf k) ||
    match keyText? k with
    | some (text, typeName) =>
      decide (((p.anchor? (labelOf k)).getD "").length + (2 + typeName.length) + text.length
        ≤ keyLimit)
    | none => false

/-- A key in front of a colon. -/
def simpleKey (indent : Nat) (k : Value) (p : Pen) : Pen :=
  match k with
  | .str s => p.text false indent s
  | k => p.part (labelOf k) (plain false indent (((keyText? k).map Prod.fst).getD "").toList)

/-- A key and the colon behind it. A key that is not simple is written as a value
with a mark in front, and its colon in a line of its own. -/
def key (indent : Nat) (k : Value) (asValue : Pen → Pen) (p : Pen) : Pen :=
  let p := p.goTo indent
  if p.isSimpleKey k then (p.simpleKey (indent + 2) k).quotation ':'
  else ((asValue (p.mark '?')).goTo indent).mark ':'

/-- Bytes. -/
def binary (indent : Nat) (data : List UInt8) (p : Pen) : Pen :=
  let p := p.word "!!binary"
  if data.isEmpty then p.word "\"\""
  else
    (Base64.lines data).foldl (fun p line => ((p.goTo indent).inText.write line).newLine '\n')
      ((p.word "|").newLine '\n')

mutual

/-- A value below a collection at some column, as the value of an entry or as
an item. -/
def value (indent : Option Nat) (inMapping : Bool) : Value → Pen → Pen
  | .null, p => p.word "null"
  | .bool true, p => p.word "true"
  | .bool false, p => p.word "false"
  | .int n, p => p.word (toString n)
  | .num x, p => p.word (NumberForm.yaml.write x)
  | .str s, p => p.text true (deeper indent) s
  | .moment label m, p => p.part label (plain true (deeper indent) m.text.toList)
  | .bytes data, p => p.binary (deeper indent) data
  | .pair a b, p =>
    let p := p.word "!!python/tuple"
    let column := if inMapping then indent.getD 0 else deeper indent
    value (some column) false b ((value (some column) false a ((p.goTo column).mark '-')).goTo
      column |>.mark '-')
  | .list label content, p =>
    p.part label fun p =>
      if content.isEmpty then p.word "[]"
      else items (if inMapping && !p.fresh then indent.getD 0 else deeper indent) content p
  | .set label content, p =>
    p.part label fun p =>
      let p := p.word "!!set"
      if content.isEmpty then p.word "\x7b\x7d" else elements (deeper indent) content p
  | .object label content, p =>
    p.part label fun p =>
      if content.isEmpty then p.word "\x7b\x7d" else entries (deeper indent) content p

/-- Items at some column. -/
def items (column : Nat) : List Value → Pen → Pen
  | [], p => p
  | v :: rest, p => items column rest (value (some column) false v ((p.goTo column).mark '-'))

/-- The elements of a set at some column, as entries without values. -/
def elements (column : Nat) : List Value → Pen → Pen
  | [], p => p
  | v :: rest, p =>
    elements column rest ((p.key column v (value (some column) true v)).word "null")

/-- Entries at some column. -/
def entries (column : Nat) : List (Value × Value) → Pen → Pen
  | [], p => p
  | (k, v) :: rest, p =>
    entries column rest
      (value (some column) true v (p.key column k (value (some column) true k)))

end

end Pen

/-- The text of a document. -/
def render (v : Value) : Except WritingFault String :=
  if v.hasShortIntegers then
    .ok (String.ofList
      ((Pen.value none false v (.start (repeatedLabels v))).goTo 0).written.reverse)
  else .error .tooManyDigits

end Yaml

end DecoratorSets
