import DecoratorSets.Yaml.Cursor

/-!
# The text of scalars

A scalar may run over several lines. Line breaks inside it are folded: one
break becomes a blank, and of several the first is dropped. Blanks around a
break do not count. Only in a block scalar with the mark `|` do lines stay as
they are.

Each reader takes the place where the scalar begins and gives its text with the
place behind it, or fails if the scalar is malformed.
-/

namespace DecoratorSets

namespace Yaml

/-- What a reader of scalars gives: characters, and the place behind them. -/
abbrev Phrase := Checked (List Char × Cursor)

/-- A line break and the empty lines behind it, as they appear in the text. -/
def fold (first : Char) (others : List Char) : List Char :=
  if first ≠ '\n' then first :: others
  else if others.isEmpty then [' '] else others

/-! ## Plain scalars -/

/-- The number of characters up to the end of a plain phrase in its line. It
ends at a blank, at a colon that ends a key, and within brackets at a mark of
the brackets. -/
def plainLength (inFlow : Bool) : List Char → Nat
  | [] => 0
  | c :: rest =>
    if c = ' ' ∨ c = '\t' ∨ isBreak c then 0
    else if c = ':' ∧ (endsWord rest ∨ (inFlow ∧ (rest.head?.any fun d => ",[]\x7b\x7d".contains d)))
    then 0
    else if inFlow ∧ ",?[]\x7b\x7d".contains c then 0
    else 1 + plainLength inFlow rest

/-- What stands between two phrases of a plain scalar. -/
structure Gap where
  /-- The characters that the gap contributes; none if the scalar ends here. -/
  text : List Char
  place : Cursor
  /-- Whether there was a line break. -/
  broke : Bool

/-- The blanks and empty lines behind a line break. A mark between documents
ends the scalar, of which the result tells by `none`. -/
def emptyLines : Nat → List Char → Cursor → Option (List Char) × Cursor
  | 0, seen, k => (some seen.reverse, k)
  | fuel + 1, seen, k =>
    match k.rest with
    | c :: _ =>
      if c = ' ' then emptyLines fuel seen k.next
      else if isBreak c then
        if isDocumentMark k.next.rest then (none, k.next)
        else emptyLines fuel (c :: seen) k.next
      else (some seen.reverse, k)
    | [] => (some seen.reverse, k)

/-- The gap behind a phrase of a plain scalar. -/
def gap (k : Cursor) : Gap :=
  let blanks := k.rest.takeWhile (· == ' ')
  let k := k.skip blanks.length
  match k.rest with
  | c :: _ =>
    if isBreak c then
      if isDocumentMark k.next.rest then ⟨[], k.next, true⟩
      else
        match emptyLines k.rest.length [] k.next with
        | (none, k) => ⟨[], k, true⟩
        | (some others, k) => ⟨fold c others, k, true⟩
    else ⟨blanks, k, false⟩
  | [] => ⟨blanks, k, false⟩

/-- Whether a character follows that begins a comment. -/
def atComment (k : Cursor) : Bool := k.rest.head? == some '#'

/-- The phrases of a plain scalar from a place on, behind what was read and the
gap behind that. Lines that are indented less than the scalar do not belong to
it. The flag tells whether the last gap had a line break. -/
def plainPhrases (inFlow : Bool) (indent : Int) :
    Nat → List Char → List Char → Bool → Cursor → List Char × Cursor × Bool
  | 0, seen, _, broke, k => (seen, k, broke)
  | fuel + 1, seen, pending, broke, k =>
    let length := plainLength inFlow k.rest
    if atComment k ∨ length = 0 then (seen, k, broke)
    else
      let seen := seen ++ pending ++ k.rest.take length
      let g := gap (k.skip length)
      if g.text.isEmpty ∨ atComment g.place ∨ (¬ inFlow ∧ (g.place.column : Int) < indent) then
        (seen, g.place, g.broke)
      else plainPhrases inFlow indent fuel seen g.text g.broke g.place

/-- A plain scalar. -/
def plainScalar (inFlow : Bool) (indent : Int) (k : Cursor) : List Char × Cursor × Bool :=
  plainPhrases inFlow indent (k.rest.length + 1) [] [] false k

/-! ## Quoted scalars -/

/-- The characters that an escape names, behind the backslash, and how many
characters the escape takes. -/
def simpleEscape? (c : Char) : Option Char :=
  match c with
  | '0' => some '\x00'
  | 'a' => some '\x07'
  | 'b' => some '\x08'
  | 't' => some '\t'
  | '\t' => some '\t'
  | 'n' => some '\n'
  | 'v' => some '\x0b'
  | 'f' => some '\x0c'
  | 'r' => some '\r'
  | 'e' => some '\x1b'
  | ' ' => some ' '
  | '"' => some '"'
  | '\\' => some '\\'
  | '/' => some '/'
  | 'N' => some '\u0085'
  | '_' => some '\u00a0'
  | 'L' => some '\u2028'
  | 'P' => some '\u2029'
  | _ => none

/-- The number of hexadecimal digits behind an escape that names a code point. -/
def escapeWidth? (c : Char) : Option Nat :=
  match c with
  | 'x' => some 2
  | 'u' => some 4
  | 'U' => some 8
  | _ => none

/-- Blanks and line breaks in a quoted scalar, behind a line break. No document
may end inside a scalar. -/
def quotedBreaks : Nat → List Char → Cursor → Phrase
  | 0, _, _ => malformed
  | fuel + 1, seen, k =>
    if isDocumentMark k.rest then malformed
    else
      let k := k.skipWhile fun c => c == ' ' || c == '\t'
      match k.rest with
      | c :: _ => if isBreak c then quotedBreaks fuel (c :: seen) k.next else .ok (seen.reverse, k)
      | [] => .ok (seen.reverse, k)

/-- The character beyond sixteen bits whose first half is `high`, if an escape
follows that names the second half. -/
def secondHalf? (high : Nat) (cs : List Char) : Option Char :=
  match cs with
  | '\\' :: 'u' :: rest =>
    (Hexadecimal.value? (rest.take 4)).bind fun low =>
      if 0xd800 ≤ high ∧ high < 0xdc00 ∧ 0xdc00 ≤ low ∧ low < 0xe000 then
        some (Char.ofNat (0x10000 + (high - 0xd800) * 0x400 + (low - 0xdc00)))
      else none
  | _ => none

/-- The character of a code point, and whether the escape behind it belongs to
it. A half of a character that stands alone reads as the replacement
character. -/
def escapedChar (n : Nat) (rest : List Char) : Checked (Char × Bool) :=
  if 0x7fffffff < n then .error (.literal .beyondWord)
  else if 0x10ffff < n then .error (.literal .beyondUnicode)
  else if n.isValidChar then .ok (Char.ofNat n, false)
  else
    match secondHalf? n rest with
    | some c => .ok (c, true)
    | none => .ok (Char.ofNat 0xfffd, false)

/-- The character that an escape in double quotation marks names, at the
backslash. An escaped line break contributes only the empty lines behind it. -/
def quotedEscape (k : Cursor) : Phrase :=
  match k.next.rest with
  | [] => malformed
  | c :: rest =>
    match simpleEscape? c, escapeWidth? c with
    | some d, _ => .ok ([d], k.skip 2)
    | none, some width =>
      match Hexadecimal.value? (rest.take width) with
      | some n =>
        if rest.length < width then malformed
        else
          (escapedChar n (rest.drop width)).map fun (d, isPair) =>
            ([d], k.skip (if isPair then 12 else 2 + width))
      | none => malformed
    | none, none =>
      if isBreak c then quotedBreaks (rest.length + 1) [] (k.skip 2) else malformed

/-- The rest of a quoted scalar, behind what was read. -/
def quotedRest (quote : Char) : Nat → List Char → Cursor → Phrase
  | 0, _, _ => malformed
  | fuel + 1, seen, k =>
    match k.rest with
    | [] => malformed
    | c :: rest =>
      if c = quote then
        if quote = '\'' ∧ rest.head? = some '\'' then
          quotedRest quote fuel ('\'' :: seen) (k.skip 2)
        else .ok (seen.reverse, k.next)
      else if c = '\\' ∧ quote = '"' then
        match quotedEscape k with
        | .ok (cs, k) => quotedRest quote fuel (cs.reverse ++ seen) k
        | .error e => .error e
      else if c = ' ' ∨ c = '\t' ∨ isBreak c then
        let blanks := k.rest.takeWhile fun d => d == ' ' || d == '\t'
        let k := k.skip blanks.length
        match k.rest with
        | [] => malformed
        | d :: rest =>
          if isBreak d then
            match quotedBreaks (rest.length + 1) [] k.next with
            | .ok (others, k) => quotedRest quote fuel ((fold d others).reverse ++ seen) k
            | .error e => .error e
          else quotedRest quote fuel (blanks.reverse ++ seen) k
      else quotedRest quote fuel (c :: seen) k.next

/-- A quoted scalar, at its opening mark. -/
def quotedScalar (quote : Char) (k : Cursor) : Phrase :=
  quotedRest quote (k.rest.length + 1) [] k.next

/-! ## Block scalars -/

/-- What happens to the line breaks at the end of a block scalar. -/
inductive Chomping where
  | strip
  | clip
  | keep
deriving DecidableEq

/-- The chomping that a mark asks for. -/
def chomping? (c : Char) : Option Chomping :=
  if c = '+' then some .keep else if c = '-' then some .strip else none

/-- The indentation that a digit asks for. -/
def increment? (c : Char) : Option Nat :=
  if '1' ≤ c ∧ c ≤ '9' then some (c.toNat - '0'.toNat) else none

/-- The marks behind `|` or `>`, in either order. -/
def blockMarks (k : Cursor) : Chomping × Option Nat × Cursor :=
  match k.rest with
  | c :: d :: _ =>
    match chomping? c, increment? c with
    | some chomping, _ =>
      match increment? d with
      | some n => (chomping, some n, k.skip 2)
      | none => (chomping, none, k.next)
    | _, some n =>
      match chomping? d with
      | some chomping => (chomping, some n, k.skip 2)
      | none => (.clip, some n, k.next)
    | none, none => (.clip, none, k)
  | [c] =>
    match chomping? c, increment? c with
    | some chomping, _ => (chomping, none, k.next)
    | _, some n => (.clip, some n, k.next)
    | none, none => (.clip, none, k)
  | [] => (.clip, none, k)

/-- The place behind a line that holds nothing but blanks and a comment. -/
def restOfLine (k : Cursor) : Checked Cursor :=
  let k := k.skipWhile (· == ' ')
  let k := if atComment k then k.skipWhile (!isBreak ·) else k
  match k.rest with
  | [] => .ok k
  | c :: _ => if isBreak c then .ok k.next else malformed

/-- The empty lines in front of the text of a block scalar, and the greatest
column up to which they or the text are indented. -/
def leadingLines : Nat → List Char → Nat → Cursor → List Char × Nat × Cursor
  | 0, seen, widest, k => (seen.reverse, widest, k)
  | fuel + 1, seen, widest, k =>
    match k.rest with
    | c :: _ =>
      if c = ' ' then leadingLines fuel seen (max widest k.next.column) k.next
      else if isBreak c then leadingLines fuel (c :: seen) widest k.next
      else (seen.reverse, widest, k)
    | [] => (seen.reverse, widest, k)

/-- The place behind blanks up to a column. -/
def skipIndent (indent : Nat) (k : Cursor) : Cursor :=
  k.skip ((k.rest.take (indent - k.column)).takeWhile (· == ' ')).length

/-- The empty lines of a block scalar at some indentation. -/
def blockBreaks (indent : Nat) : Nat → List Char → Cursor → List Char × Cursor
  | 0, seen, k => (seen.reverse, k)
  | fuel + 1, seen, k =>
    let k := skipIndent indent k
    match k.rest with
    | c :: _ => if isBreak c then blockBreaks indent fuel (c :: seen) k.next else (seen.reverse, k)
    | [] => (seen.reverse, k)

/-- Whether the next line begins with a blank beyond the indentation. -/
def startsBlank (k : Cursor) : Bool := k.rest.head?.any fun c => c == ' ' || c == '\t'

/-- The lines of a block scalar from a place on, behind what was read and the
empty lines behind that. -/
def blockLines (folded : Bool) (chomping : Chomping) (indent : Nat) :
    Nat → List Char → List Char → Cursor → List Char × Cursor
  | 0, seen, _, k => (seen, k)
  | fuel + 1, seen, breaks, k =>
    let flush := !startsBlank k
    let line := k.rest.takeWhile (!isBreak ·)
    let k := k.skip line.length
    let ending := k.rest.take 1
    let (others, k) := blockBreaks indent (k.rest.length + 1) [] k.next
    let seen := seen ++ breaks ++ line
    if k.column = indent ∧ ¬ k.rest.isEmpty then
      let joint :=
        if folded ∧ ending = ['\n'] ∧ flush ∧ ¬ startsBlank k then
          if others.isEmpty then [' '] else []
        else ending
      blockLines folded chomping indent fuel (seen ++ joint) others k
    else
      match chomping with
      | .strip => (seen, k)
      | .clip => (seen ++ ending, k)
      | .keep => (seen ++ ending ++ others, k)

/-- A block scalar, at its mark. Its text is indented more than the node that
holds it. -/
def blockScalar (folded : Bool) (outer : Int) (k : Cursor) : Phrase :=
  let (chomping, increment, k) := blockMarks k.next
  match k.rest.head? with
  | some c =>
    if c = ' ' ∨ isBreak c then (restOfLine k).map (content chomping increment) else malformed
  | none => .ok (content chomping increment k)
where
  /-- The text of the scalar, from the line behind its mark on. -/
  content (chomping : Chomping) (increment : Option Nat) (k : Cursor) : List Char × Cursor :=
    let least := (max (outer + 1) 1).toNat
    let (breaks, indent, k) := match increment with
      | some n =>
        let indent := least + n - 1
        let (breaks, k) := blockBreaks indent (k.rest.length + 1) [] k
        (breaks, indent, k)
      | none =>
        let (breaks, widest, k) := leadingLines (k.rest.length + 1) [] 0 k
        (breaks, max least widest, k)
    if k.column = indent ∧ ¬ k.rest.isEmpty then
      blockLines folded chomping indent (k.rest.length + 1) [] breaks k
    else (if chomping = .keep then breaks else [], k)

end Yaml

end DecoratorSets
