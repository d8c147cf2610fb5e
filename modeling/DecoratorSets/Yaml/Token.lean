import DecoratorSets.Yaml.Phrase

/-!
# Tokens of YAML text

The structure of a YAML document is in its indentation and in its marks. Here
the text becomes a list of tokens in which both are explicit: where the
indentation opens or closes a collection there is a token for it.

Only the colon behind it tells that a scalar is the key of a mapping. Whatever
could be a key is therefore remembered with its position in the list of tokens,
and the tokens that belong in front of a key are inserted there once the colon
is met. A key has to end in the line it begins in, within 1024 characters; where
the indentation demands a key, its absence is a fault.
-/

namespace DecoratorSets

namespace Yaml

/-- A token. -/
inductive Token where
  | scalar (text : String) (isPlain : Bool)
  | anchor (name : String)
  | alias (name : String)
  /-- A tag: the handle that stands for its beginning, unless it is given in full,
  and the rest of it. -/
  | tag (handle : Option String) (suffix : String)
  /-- The directive that gives the version of YAML. -/
  | version
  /-- The directive that says what a handle stands for. -/
  | handle (name stem : String)
  /-- Any other directive. -/
  | directive
  | documentStart
  | documentEnd
  | blockSequenceStart
  | blockMappingStart
  | blockEnd
  | flowSequenceStart
  | flowSequenceEnd
  | flowMappingStart
  | flowMappingEnd
  | blockEntry
  | flowEntry
  | key
  | value
  /-- A literal that stands for nothing. No token follows it. -/
  | fault (cause : LiteralFault)
deriving DecidableEq

/-- Something that may turn out to be a key. -/
structure KeyCandidate where
  /-- The depth of brackets at which it stands. -/
  level : Nat
  /-- The number of tokens in front of it. -/
  position : Nat
  /-- Whether the indentation demands that it is a key. -/
  required : Bool
  line : Nat
  column : Nat
  index : Nat

/-- The state of the reading: where it is, what it has read, and what the
indentation and the brackets have opened. -/
structure Scan where
  place : Cursor
  tokens : Array Token
  /-- The column of the innermost open block collection; `-1` outside all. -/
  indent : Int
  /-- The columns of the collections around it. -/
  outer : List Int
  /-- The depth of brackets. -/
  level : Nat
  /-- Whether a key may begin here. -/
  keyAllowed : Bool
  candidates : List KeyCandidate

namespace Scan

/-- The state before the first token. -/
def start (cs : List Char) : Scan := ⟨.start cs, #[], -1, [], 0, true, []⟩

/-- Whether the reading is inside brackets. -/
def inFlow (s : Scan) : Bool := s.level != 0

/-- Adds a token. -/
def push (t : Token) (s : Scan) : Scan := { s with tokens := s.tokens.push t }

/-- Moves on. -/
def goTo (place : Cursor) (s : Scan) : Scan := { s with place }

/-- Says whether a key may begin next. -/
def allow (keyAllowed : Bool) (s : Scan) : Scan := { s with keyAllowed }

/-! ## Candidates for keys -/

/-- The candidate of the present depth of brackets. -/
def candidate? (s : Scan) : Option KeyCandidate :=
  s.candidates.find? fun c => c.level == s.level

/-- Forgets the candidate of the present depth, which must not be required. -/
def dropCandidate (s : Scan) : Checked Scan :=
  if s.candidate?.any KeyCandidate.required then malformed
  else .ok { s with candidates := s.candidates.filter fun c => c.level != s.level }

/-- Remembers what comes next as a candidate, where a key may begin. -/
def addCandidate (s : Scan) : Checked Scan :=
  if s.keyAllowed then
    s.dropCandidate.map fun s =>
      { s with candidates :=
          ⟨s.level, s.tokens.size, !s.inFlow && s.indent == s.place.column, s.place.line,
            s.place.column, s.place.index⟩ :: s.candidates }
  else .ok s

/-- Whether a candidate cannot be a key any more. -/
def isStale (s : Scan) (c : KeyCandidate) : Bool :=
  c.line != s.place.line || decide (1024 < s.place.index - c.index)

/-- Forgets the candidates that cannot be keys any more. -/
def dropStale (s : Scan) : Checked Scan :=
  if s.candidates.any fun c => c.required && s.isStale c then malformed
  else .ok { s with candidates := s.candidates.filter (!s.isStale ·) }

/-! ## Indentation -/

/-- Closes the block collections that a column is outside of. -/
def closeTo (column : Int) (s : Scan) : Scan :=
  if s.inFlow then s else go s.outer s
where
  /-- Closes collections as long as they are indented more. -/
  go : List Int → Scan → Scan
    | [], s => s
    | enclosing :: rest, s =>
      if column < s.indent then
        go rest { s with indent := enclosing, outer := rest, tokens := s.tokens.push .blockEnd }
      else s

/-- Opens a block collection at a column, if it is indented more than the one
that is open. Its token goes to a position among the tokens. -/
def openAt (column : Int) (position : Nat) (t : Token) (s : Scan) : Scan :=
  if s.indent < column then
    { s with
      indent := column
      outer := s.indent :: s.outer
      tokens := s.tokens.insertIdxIfInBounds position t }
  else s

/-! ## Reading one token -/

/-- A mark of some characters that no key can contain. -/
def mark (t : Token) (length : Nat) (s : Scan) : Scan :=
  (s.push t).goTo (s.place.skip length)

/-- The beginning or end of a document. -/
def documentMark (t : Token) (length : Nat) (s : Scan) : Checked Scan := do
  let s ← (s.closeTo (-1)).dropCandidate
  return (s.allow false).mark t length

/-- Characters of the names of anchors and directives. -/
def isNameChar (c : Char) : Bool := c.isAlphanum || c == '-' || c == '_'

/-- The place behind blanks. -/
def afterBlanks (k : Cursor) : Cursor := k.skipWhile (· == ' ')

/-- Whether a directive can go on behind a word: there is a blank, or its line
ends. -/
def endsPart (cs : List Char) : Bool :=
  match cs with
  | [] => true
  | c :: _ => c == ' ' || isBreak c

/-! ### Tags -/

/-- Characters of tags, apart from escapes. -/
def isTagChar (c : Char) : Bool := c.isAlphanum || "-;/?:@&=+$,_.!~*'()[]".contains c

/-- The bytes that escapes of two hexadecimal digits name, and the place behind
them. -/
def escapedBytes : Nat → List UInt8 → Cursor → Checked (List UInt8 × Cursor)
  | 0, seen, k => .ok (seen.reverse, k)
  | fuel + 1, seen, k =>
    match k.rest with
    | '%' :: rest =>
      match Hexadecimal.value? (rest.take 2) with
      | some n =>
        if rest.length < 2 then malformed
        else escapedBytes fuel (UInt8.ofNat n :: seen) (k.skip 3)
      | none => malformed
    | _ => .ok (seen.reverse, k)

/-- The characters of a tag from a place on, and the place behind them. Escapes
name the bytes of characters. -/
def tagChars : Nat → List Char → Cursor → Checked (List Char × Cursor)
  | 0, seen, k => .ok (seen, k)
  | fuel + 1, seen, k =>
    match k.rest with
    | '%' :: _ =>
      match escapedBytes (k.rest.length + 1) [] k with
      | .ok (data, k) =>
        match String.fromUTF8? ⟨data.toArray⟩ with
        | some text => tagChars fuel (seen ++ text.toList) k
        | none => malformed
      | .error e => .error e
    | c :: _ => if isTagChar c then tagChars fuel (seen ++ [c]) k.next else .ok (seen, k)
    | [] => .ok (seen, k)

/-- The text of a tag, of which there is some, and the place behind it. -/
def tagText (k : Cursor) : Checked (String × Cursor) := do
  let (cs, behind) ← tagChars (k.rest.length + 1) [] k
  if behind.index = k.index then malformed else return (String.ofList cs, behind)

/-- The handle of a tag, between exclamation marks, and the place behind it. The
primary handle is a single mark, which in front of a blank stands alone. -/
def tagHandle (k : Cursor) : Checked (String × Cursor) :=
  match k.rest with
  | '!' :: ' ' :: _ => .ok ("!", k.next)
  | '!' :: rest =>
    let name := rest.takeWhile isNameChar
    if rest.drop name.length |>.head? |>.any (· == '!') then
      .ok (String.ofList ('!' :: name ++ ['!']), k.skip (name.length + 2))
    else malformed
  | _ => malformed

/-- The tag at a place: in full between angle brackets, a lone mark, or a handle
and the rest. -/
def tagAt (k : Cursor) : Checked (Token × Cursor) := do
  match k.next.rest with
  | '<' :: _ =>
    let (text, k) ← tagText (k.skip 2)
    match k.rest with
    | '>' :: _ => return (.tag none text, k.next)
    | _ => malformed
  | rest =>
    if endsWord rest then return (.tag none "!", k.next)
    else
      let word := rest.takeWhile fun c => !(c == ' ' || isBreak c)
      let (handle, k) ← if word.contains '!' then tagHandle k else pure ("!", k.next)
      let (text, k) ← tagText k
      return (.tag (some handle) text, k)

/-- A tag, which ends with its word. -/
def tagMark (s : Scan) : Checked Scan := do
  let s ← s.addCandidate
  let (t, place) ← tagAt s.place
  if endsPart place.rest then return ((s.allow false).push t).goTo place else malformed

/-! ### Directives -/

/-- The place behind a whole number. -/
def afterNumber (k : Cursor) : Checked Cursor :=
  if k.rest.head?.any Digit.isAscii then .ok (k.skipWhile Digit.isAscii) else malformed

/-- The version that a directive gives. Its first part has to be one. -/
def versionAt (k : Cursor) : Checked (Token × Cursor) := do
  let k := afterBlanks k
  let point ← afterNumber k
  match point.rest with
  | '.' :: _ =>
    let behind ← afterNumber point.next
    let major := Digit.number (k.rest.takeWhile Digit.isAscii)
    if endsPart behind.rest ∧ major = 1 then return (.version, behind) else malformed
  | _ => malformed

/-- The handle that a directive explains, and what it stands for. -/
def handleAt (k : Cursor) : Checked (Token × Cursor) := do
  let (name, k) ← tagHandle (afterBlanks k)
  match k.rest with
  | ' ' :: _ =>
    let (stem, k) ← tagText (afterBlanks k)
    if endsPart k.rest then return (.handle name stem, k) else malformed
  | _ => malformed

/-- A directive, which takes a whole line. -/
def directive (s : Scan) : Checked Scan := do
  let s ← (s.closeTo (-1)).dropCandidate
  let name := s.place.next.rest.takeWhile isNameChar
  let k := s.place.skip (1 + name.length)
  if name.isEmpty ∨ ¬ endsPart k.rest then malformed
  else
    let (t, k) ←
      if name = "YAML".toList then versionAt k
      else if name = "TAG".toList then handleAt k
      else pure (.directive, k.skipWhile (!isBreak ·))
    return ((s.allow false).push t).goTo (← restOfLine k)

/-! ### Marks -/

/-- An opening bracket. -/
def openFlow (t : Token) (s : Scan) : Checked Scan := do
  let s ← s.addCandidate
  return { s.mark t 1 with level := s.level + 1, keyAllowed := true }

/-- A closing bracket, which needs an open one. -/
def closeFlow (t : Token) (s : Scan) : Checked Scan := do
  let s ← s.dropCandidate
  if s.level = 0 then malformed
  else return { s.mark t 1 with level := s.level - 1, keyAllowed := false }

/-- A comma between brackets. -/
def flowEntry (s : Scan) : Checked Scan := do
  let s ← (s.allow true).dropCandidate
  return s.mark .flowEntry 1

/-- The dash of an item. -/
def blockEntry (s : Scan) : Checked Scan := do
  let s ←
    if s.inFlow then pure s
    else if s.keyAllowed then
      pure (s.openAt s.place.column s.tokens.size .blockSequenceStart)
    else malformed
  let s ← (s.allow true).dropCandidate
  return s.mark .blockEntry 1

/-- The question mark of a key. -/
def keyMark (s : Scan) : Checked Scan := do
  let s ←
    if s.inFlow then pure s
    else if s.keyAllowed then
      pure (s.openAt s.place.column s.tokens.size .blockMappingStart)
    else malformed
  let s ← (s.allow (!s.inFlow)).dropCandidate
  return s.mark .key 1

/-- The colon of a value. If there is a candidate, it is the key, and the tokens
that belong in front of it are inserted there. -/
def valueMark (s : Scan) : Checked Scan := do
  match s.candidate? with
  | some c =>
    let s := { s with
      candidates := s.candidates.filter fun c => c.level != s.level
      tokens := s.tokens.insertIdxIfInBounds c.position .key }
    let s := if s.inFlow then s else s.openAt c.column c.position .blockMappingStart
    return (s.allow false).mark .value 1
  | none =>
    let s ←
      if s.inFlow then pure s
      else if s.keyAllowed then
        pure (s.openAt s.place.column s.tokens.size .blockMappingStart)
      else malformed
    let s ← (s.allow (!s.inFlow)).dropCandidate
    return s.mark .value 1

/-- The name of an anchor or an alias behind its mark. -/
def anchorName (build : String → Token) (s : Scan) : Checked Scan := do
  let s ← s.addCandidate
  let name := s.place.next.rest.takeWhile isNameChar
  let place := s.place.skip (1 + name.length)
  let ended := endsWord place.rest || place.rest.head?.any fun c => "?:,]\x7d%@\x60".contains c
  if name.isEmpty ∨ ¬ ended then malformed
  else return ((s.allow false).push (build (String.ofList name))).goTo place

/-- A block scalar. -/
def blockText (folded : Bool) (s : Scan) : Checked Scan := do
  let s ← (s.allow true).dropCandidate
  let (text, place) ← blockScalar folded s.indent s.place
  return (s.push (.scalar (String.ofList text) false)).goTo place

/-- A quoted scalar. -/
def quotedText (quote : Char) (s : Scan) : Checked Scan := do
  let s ← s.addCandidate
  let (text, place) ← quotedScalar quote s.place
  return ((s.allow false).push (.scalar (String.ofList text) false)).goTo place

/-- A plain scalar. A key may begin behind it only in a new line. -/
def plainText (s : Scan) : Checked Scan := do
  let s ← s.addCandidate
  let (text, place, broke) := plainScalar s.inFlow (s.indent + 1) s.place
  return ((s.allow broke).push (.scalar (String.ofList text) true)).goTo place

/-- Whether a plain scalar can begin with a character in front of some others. -/
def beginsPlain (inFlow : Bool) (c : Char) (rest : List Char) : Bool :=
  !(endsWord [c] || "-?:,[]\x7b\x7d#&*!|>'\"%@\x60".contains c)
    || (!endsWord rest && (c == '-' || (!inFlow && (c == '?' || c == ':'))))

/-- Reads the token that begins with a character. -/
def token (c : Char) (rest : List Char) (s : Scan) : Checked Scan :=
  let atLineStart := s.place.column == 0
  if c = '%' ∧ atLineStart then s.directive
  else if atLineStart ∧ isDocumentMark (c :: rest) then
    s.documentMark (if c = '-' then .documentStart else .documentEnd) 3
  else if c = '[' then s.openFlow .flowSequenceStart
  else if c = '\x7b' then s.openFlow .flowMappingStart
  else if c = ']' then s.closeFlow .flowSequenceEnd
  else if c = '\x7d' then s.closeFlow .flowMappingEnd
  else if c = ',' then s.flowEntry
  else if c = '-' ∧ endsWord rest then s.blockEntry
  else if c = '?' ∧ (s.inFlow ∨ endsWord rest) then s.keyMark
  else if c = ':' ∧ (s.inFlow ∨ endsWord rest) then s.valueMark
  else if c = '*' then s.anchorName .alias
  else if c = '&' then s.anchorName .anchor
  else if c = '!' then s.tagMark
  else if c = '|' ∧ ¬ s.inFlow then s.blockText false
  else if c = '>' ∧ ¬ s.inFlow then s.blockText true
  else if c = '\'' ∨ c = '"' then s.quotedText c
  else if beginsPlain s.inFlow c rest then s.plainText
  else malformed

/-- Moves to the next token over blanks, comments and line breaks. Behind a line
break a key may begin, except inside brackets. -/
def toNextToken : Nat → Scan → Scan
  | 0, s => s
  | fuel + 1, s =>
    let k := s.place.skipWhile (· == ' ')
    let k := if atComment k then k.skipWhile (!isBreak ·) else k
    match k.rest with
    | c :: _ =>
      if isBreak c then toNextToken fuel ((s.goTo k.next).allow (s.keyAllowed || !s.inFlow))
      else s.goTo k
    | [] => s.goTo k

/-- Reads all tokens. A literal that stands for nothing ends the reading. -/
def readAll : Nat → Scan → Checked (Array Token)
  | 0, _ => malformed
  | fuel + 1, s => do
    let s ← (toNextToken (s.place.rest.length + 1) s).dropStale
    match s.place.rest with
    | [] =>
      let s ← (s.closeTo (-1)).dropCandidate
      return s.tokens
    | c :: rest =>
      let s := s.closeTo s.place.column
      match s.token c rest with
      | .ok s => readAll fuel s
      | .error (.literal cause) => return s.tokens.push (.fault cause)
      | .error e => throw e

end Scan

/-- The tokens of a text. A mark of byte order in front is skipped; characters
that YAML does not admit are a fault. -/
def readTokens (text : String) : Checked (List Token) :=
  if text.toList.all isAdmitted then
    let cs := match unifyBreaks text.toList with
      | '\ufeff' :: rest => rest
      | cs => cs
    (Scan.readAll (cs.length + 2) (.start cs)).map Array.toList
  else malformed

end Yaml

end DecoratorSets
