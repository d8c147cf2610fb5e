import DecoratorSets.Calendar.Date
import DecoratorSets.Value.Basic
import DecoratorSets.Yaml.Style

/-!
# Writing lines of YAML

The pen is at some column of the line that is being written. It knows whether
the last thing written was a blank, so that a mark is set off by one and not by
two, and whether the line holds only marks of collections so far, so that a
collection can begin in the line of the mark in front of it.

Long scalars are folded: at a blank between two words, once the line is longer
than eighty characters, the next word goes to a new line.

A part that occurs several times is written once, behind an anchor, and an alias
of the anchor stands for it from then on. Anchors are numbered.
-/

namespace DecoratorSets

namespace Yaml

/-- The text written so far, last character first, and the state of its last
line. -/
structure Pen where
  written : List Char
  column : Nat
  /-- Whether the last character is a blank or the line is empty. -/
  afterBlank : Bool
  /-- Whether nothing but marks of collections is in the line. -/
  fresh : Bool
  /-- The labels of the parts that occur several times, in the order of their
  anchors. -/
  repeated : List Label
  /-- The labels of the parts whose anchors are written. -/
  anchored : List Label

/-- The width that lines are folded at. -/
def lineWidth : Nat := 80

namespace Pen

/-- The pen on an empty page. -/
def start (repeated : List Label) : Pen := ⟨[], 0, true, true, repeated, []⟩

/-- Writes characters of a line. -/
def write (cs : List Char) (p : Pen) : Pen :=
  { p with written := cs.reverse ++ p.written, column := p.column + cs.length }

/-- Ends the line. -/
def newLine (ending : Char) (p : Pen) : Pen :=
  { p with written := ending :: p.written, column := 0, afterBlank := true, fresh := true }

/-- Goes to a column of a line that is empty or holds only marks, ending the
present one if need be. -/
def goTo (indent : Nat) (p : Pen) : Pen :=
  let p :=
    if ¬ p.fresh ∨ indent < p.column ∨ (p.column = indent ∧ ¬ p.afterBlank) then p.newLine '\n'
    else p
  if p.column < indent then
    { p.write (List.replicate (indent - p.column) ' ') with afterBlank := true }
  else p

/-- Says that the line holds text. -/
def inText (p : Pen) : Pen := { p with afterBlank := false, fresh := false }

/-- A blank, unless there is one. -/
def setOff (p : Pen) : Pen := if p.afterBlank then p else p.write [' ']

/-- A mark that a collection can follow in its line. -/
def mark (c : Char) (p : Pen) : Pen := { p.setOff.write [c] with afterBlank := false }

/-- A mark that belongs to the text in front of it or behind it. -/
def quotation (c : Char) (p : Pen) : Pen := (p.write [c]).inText

/-- A word set off from what is in front of it. -/
def word (s : String) (p : Pen) : Pen := (p.setOff.write s.toList).inText

/-! ## Anchors -/

/-- The name of the anchor of a part that occurs several times. -/
def anchor? (label : Option Label) (p : Pen) : Option String := do
  let i ← p.repeated.idxOf? (← label)
  return "id" ++ Date.padded 3 (i + 1)

/-- Whether an alias stands for a part. -/
def isAlias (label : Option Label) (p : Pen) : Bool := label.any p.anchored.contains

/-- A part with a label: its alias, or its anchor if it needs one and the part as
it is written without. -/
def part (label : Option Label) (content : Pen → Pen) (p : Pen) : Pen :=
  match p.anchor? label with
  | none => content p
  | some name =>
    if p.isAlias label then p.word ("*" ++ name)
    else content { p.word ("&" ++ name) with anchored := label.toList ++ p.anchored }

/-! ## Scalars -/

/-- What a stretch of text consists of. -/
inductive Stretch where
  | blanks
  | breaks
  | word
deriving DecidableEq

/-- The kind of stretch that a character belongs to. -/
def stretchOf (c : Char) : Stretch :=
  if c = ' ' then .blanks else if endsLine c then .breaks else .word

/-- The longest stretches of a text, in order. -/
def stretches : List Char → List (Stretch × List Char)
  | [] => []
  | c :: rest =>
    match stretches rest with
    | (kind, cs) :: others =>
      if kind = stretchOf c then (kind, c :: cs) :: others
      else (stretchOf c, [c]) :: (kind, cs) :: others
    | [] => [(stretchOf c, [c])]

/-- Whether a line may be folded at some blanks: there is only one, and the line
is too long. -/
def foldsAt (splits : Bool) (cs : List Char) (p : Pen) : Bool :=
  splits && cs.length == 1 && decide (lineWidth < p.column)

/-- A plain scalar, continued at a column if it may be folded. -/
def plain (splits : Bool) (indent : Nat) (cs : List Char) (p : Pen) : Pen :=
  if cs.isEmpty then p
  else
    (stretches cs).foldl
      (fun p stretch =>
        if stretch.1 = .blanks ∧ p.foldsAt splits stretch.2 then (p.goTo indent).inText
        else p.write stretch.2)
      p.setOff.inText

/-- Line breaks inside quotation marks: a line feed is written twice, so that
folding leaves it. -/
def quotedBreaks (indent : Nat) (cs : List Char) (p : Pen) : Pen :=
  let p := if cs.head? = some '\n' then p.newLine '\n' else p
  (cs.foldl (fun p c => p.newLine c) p).goTo indent

/-- The stretches of a text in single quotation marks. The first flag tells that
nothing is written yet. -/
def singleStretches (splits : Bool) (indent : Nat) :
    Bool → List (Stretch × List Char) → Pen → Pen
  | _, [], p => p
  | atStart, (kind, cs) :: rest, p =>
    singleStretches splits indent false rest <|
      match kind with
      | .blanks =>
        if p.foldsAt splits cs && !atStart && !rest.isEmpty then p.goTo indent else p.write cs
      | .breaks => p.quotedBreaks indent cs
      | .word => p.write (cs.flatMap fun c => if c = '\'' then ['\'', '\''] else [c])

/-- A text in single quotation marks. -/
def single (splits : Bool) (indent : Nat) (cs : List Char) (p : Pen) : Pen :=
  (singleStretches splits indent true (stretches cs) (p.setOff.quotation '\'')).quotation '\''

/-- Hexadecimal digits in upper case. -/
def upperHex (width n : Nat) : List Char := (Hexadecimal.padded width n).map Char.toUpper

/-- The escape of a character in double quotation marks, if it needs one. -/
def escape? (c : Char) : Option (List Char) :=
  match c with
  | '\x00' => some ['\\', '0']
  | '\x07' => some ['\\', 'a']
  | '\x08' => some ['\\', 'b']
  | '\t' => some ['\\', 't']
  | '\n' => some ['\\', 'n']
  | '\x0b' => some ['\\', 'v']
  | '\x0c' => some ['\\', 'f']
  | '\r' => some ['\\', 'r']
  | '\x1b' => some ['\\', 'e']
  | '"' => some ['\\', '"']
  | '\\' => some ['\\', '\\']
  | '\u0085' => some ['\\', 'N']
  | '\u2028' => some ['\\', 'L']
  | '\u2029' => some ['\\', 'P']
  | c =>
    let n := c.toNat
    if (0x20 ≤ n ∧ n ≤ 0x7e) ∨ (0xa0 ≤ n ∧ n ≤ 0xd7ff)
        ∨ (0xe000 ≤ n ∧ n ≤ 0xfffd ∧ n ≠ 0xfeff) then none
    else if n ≤ 0xff then some ('\\' :: 'x' :: upperHex 2 n)
    else if n ≤ 0xffff then some ('\\' :: 'u' :: upperHex 4 n)
    else some ('\\' :: 'U' :: upperHex 8 n)

/-- The characters of a text in double quotation marks from the next one on,
behind `pending`, which are read but not written yet. A line that grows too
long is broken at a blank or an escape, with a backslash at its end and another
in front of a blank that begins the next line. -/
def doubleRest (splits : Bool) (indent : Nat) : Bool → List Char → List Char → Pen → Pen
  | _, pending, [], p => p.write pending
  | atStart, pending, c :: rest, p =>
    let escaped := escape? c
    let p := match escaped with
      | some cs => (p.write pending).write cs
      | none => p
    let pending := if escaped.isSome then [] else pending
    let mayBreak := !atStart && !rest.isEmpty && splits && (c == ' ' || pending.isEmpty)
    let reach := p.column + pending.length
    let breaks := mayBreak
      && (if escaped.isSome then decide (lineWidth + 1 < reach) else decide (lineWidth < reach))
    if breaks then
      let p := ((p.write (pending ++ ['\\'])).goTo indent).inText
      let upcoming := if escaped.isSome then rest.head? else some c
      let p := if upcoming = some ' ' then p.write ['\\'] else p
      doubleRest splits indent false (if escaped.isSome then [] else [c]) rest p
    else
      doubleRest splits indent false (if escaped.isSome then [] else pending ++ [c]) rest p

/-- A text in double quotation marks. -/
def double (splits : Bool) (indent : Nat) (cs : List Char) (p : Pen) : Pen :=
  (doubleRest splits indent true [] cs (p.setOff.quotation '"')).quotation '"'

/-- A text, in the style that it needs. -/
def text (splits : Bool) (indent : Nat) (s : String) (p : Pen) : Pen :=
  match styleOf s with
  | .plain => p.plain splits indent s.toList
  | .single => p.single splits indent s.toList
  | .double => p.double splits indent s.toList

end Pen

end Yaml

end DecoratorSets
