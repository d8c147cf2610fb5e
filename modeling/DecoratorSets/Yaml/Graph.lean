import DecoratorSets.Yaml.Scalar
import DecoratorSets.Yaml.Token

/-!
# The nodes of a YAML document

A document is a node: a scalar, a sequence of nodes, or a mapping whose keys are
nodes as well. A node may be marked with an anchor and be used again under an
alias, also inside itself; so the nodes form a graph, and are kept in a table in
which they refer to each other by their numbers. A node has its number before the
nodes in it have theirs. Nodes may be empty, where a mark promises one and none
follows.

Every node has a tag, which it was given or has by what it looks like. Tags are
written with a handle for their beginning; what the handles of a document stand
for is said in front of it.
-/

namespace DecoratorSets

namespace Yaml

/-- What is in a node. Other nodes are given by their numbers. -/
inductive Content where
  | scalar (text : String)
  | sequence (items : List Nat)
  | mapping (entries : List (Nat × Nat))

/-- A node. -/
structure Node where
  tag : Tag
  content : Content

/-- The node that is not there. -/
def Node.empty : Node := ⟨.null, .scalar ""⟩

/-- The nodes of a document. -/
structure Graph where
  nodes : Array Node
  root : Nat
  /-- Whether a node is used in several places. -/
  hasAlias : Bool

/-- A graph that is being read. -/
structure Draft where
  nodes : Array Node
  /-- The nodes that have anchors. -/
  anchors : List (String × Nat)
  /-- What the handles of tags stand for. -/
  handles : List (String × String)
  hasAlias : Bool

namespace Draft

/-- The handles that need no explanation. -/
def standardHandles : List (String × String) := [("!", "!"), ("!!", Tag.standardPrefix)]

/-- The draft of a document with some handles of its own. -/
def start (handles : List (String × String)) : Draft :=
  ⟨#[], [], handles ++ standardHandles, false⟩

/-- Adds a node. -/
def add (node : Node) (d : Draft) : Nat × Draft :=
  (d.nodes.size, { d with nodes := d.nodes.push node })

/-- Adds a node that is filled later, under its anchor if it has one. An anchor
must not be used twice. -/
def reserve (anchor : Option String) (d : Draft) : Checked (Nat × Draft) :=
  let (id, added) := d.add .empty
  match anchor with
  | none => .ok (id, added)
  | some name =>
    if (d.anchors.lookup name).isSome then malformed
    else .ok (id, { added with anchors := (name, id) :: d.anchors })

/-- Fills a node. -/
def fill (id : Nat) (node : Node) (d : Draft) : Draft :=
  { d with nodes := d.nodes.setIfInBounds id node }

/-- The name of a tag in full. The lone mark is the name that says nothing. -/
def tagName (d : Draft) (handle : Option String) (suffix : String) : Checked String :=
  match handle with
  | none => .ok suffix
  | some handle =>
    match d.handles.lookup handle with
    | some stem => .ok (stem ++ suffix)
    | none => malformed

end Draft

/-- What a reader of nodes gives: what it read, the tokens behind it, and the
draft so far. -/
abbrev Taken (α : Type) := α × List Token × Draft

/-- Fails for a token that is not expected, and at a literal that stands for
nothing. -/
def unexpected {α : Type} (ts : List Token) : Checked α :=
  match ts with
  | .fault cause :: _ => .error (.literal cause)
  | _ => malformed

/-- The marks in front of a node: its anchor and its tag, in either order. -/
structure Properties where
  anchor : Option String
  tag : Option (Option String × String)

/-- Whether there is a mark. -/
def Properties.isMarked (p : Properties) : Bool := p.anchor.isSome || p.tag.isSome

/-- The marks in front of a node, and the tokens behind them. -/
def properties : List Token → Properties × List Token
  | .anchor a :: .tag h t :: rest => (⟨some a, some (h, t)⟩, rest)
  | .tag h t :: .anchor a :: rest => (⟨some a, some (h, t)⟩, rest)
  | .anchor a :: rest => (⟨some a, none⟩, rest)
  | .tag h t :: rest => (⟨none, some (h, t)⟩, rest)
  | ts => (⟨none, none⟩, ts)

/-- The tag that a node was given, unless that says nothing. -/
def givenTag? (name : Option String) : Option Tag :=
  (name.filter (· ≠ "!")).map Tag.ofName

/-- The tag of a scalar. One that was given a tag that says nothing has the tag
of its looks, even in quotation marks. -/
def tagOfScalar (name : Option String) (isPlain : Bool) (text : String) : Tag :=
  match givenTag? name with
  | some tag => tag
  | none => if isPlain || name.isSome then scalarTag text else .str

/-- Whether no value follows the mark of an entry inside a block. -/
def endsBlockValue : List Token → Bool
  | .key :: _ | .value :: _ | .blockEnd :: _ => true
  | _ => false

/-- Whether no value follows a mark between brackets. -/
def endsFlowValue : List Token → Bool
  | .flowEntry :: _ | .flowSequenceEnd :: _ | .flowMappingEnd :: _ => true
  | _ => false

/-- Whether no key follows the mark of a key between brackets. -/
def endsFlowKey : List Token → Bool
  | .value :: _ => true
  | ts => endsFlowValue ts

/-- Whether no item follows the dash of an item. -/
def endsItem (indented : Bool) : List Token → Bool
  | .blockEntry :: _ | .blockEnd :: _ => true
  | .key :: _ | .value :: _ => !indented
  | _ => false

/-- The node that is not there, as a reading. -/
def readEmpty (d : Draft) (ts : List Token) : Checked (Taken Nat) :=
  let (id, d) := d.add .empty
  .ok (id, ts, d)

/-- Which collections may begin at a node. -/
inductive Setting where
  /-- Inside brackets: only other brackets. -/
  | flow
  /-- In a block: all. -/
  | block
  /-- As the value of a block mapping: also items that are not indented. -/
  | blockValue
deriving DecidableEq

mutual

/-- The node that the tokens begin with. -/
def readNode (setting : Setting) : Nat → Draft → List Token → Checked (Taken Nat)
  | 0, _, _ => malformed
  | fuel + 1, d, ts =>
    match ts with
    | .alias name :: rest =>
      match d.anchors.lookup name with
      | some id => .ok (id, rest, { d with hasAlias := true })
      | none => malformed
    | ts => do
      let (p, ts) := properties ts
      let name ← match p.tag with
        | some (handle, suffix) => some <$> d.tagName handle suffix
        | none => pure none
      match ts with
      | .fault _ :: _ => unexpected ts
      | ts =>
        let (id, d) ← d.reserve p.anchor
        readContent setting p.isMarked name id fuel d ts

/-- The content of a node, whose marks are read. -/
def readContent (setting : Setting) (isMarked : Bool) (name : Option String) (id : Nat) :
    Nat → Draft → List Token → Checked (Taken Nat)
  | 0, _, _ => malformed
  | fuel + 1, d, ts => do
    let sequence (reading : Checked (Taken (List Nat))) : Checked (Taken Nat) := do
      let (items, rest, d) ← reading
      return (id, rest, d.fill id ⟨(givenTag? name).getD .seq, .sequence items⟩)
    let mapping (reading : Checked (Taken (List (Nat × Nat)))) : Checked (Taken Nat) := do
      let (entries, rest, d) ← reading
      return (id, rest, d.fill id ⟨(givenTag? name).getD .map, .mapping entries⟩)
    let scalar (isPlain : Bool) (text : String) (rest : List Token) : Checked (Taken Nat) :=
      .ok (id, rest, d.fill id ⟨tagOfScalar name isPlain text, .scalar text⟩)
    match ts with
    | .scalar text isPlain :: rest => scalar isPlain text rest
    | .flowSequenceStart :: rest => sequence (readFlowItems fuel d [] rest)
    | .flowMappingStart :: rest => mapping (readFlowEntries fuel d [] rest)
    | .blockSequenceStart :: rest =>
      if setting = .flow then malformed else sequence (readItems true fuel d [] rest)
    | .blockMappingStart :: rest =>
      if setting = .flow then malformed else mapping (readEntries fuel d [] rest)
    | .blockEntry :: rest =>
      if setting = .blockValue then sequence (readItems false fuel d [] (.blockEntry :: rest))
      else if isMarked then scalar true "" (.blockEntry :: rest)
      else malformed
    | ts => if isMarked then scalar true "" ts else unexpected ts

/-- The items of a block sequence from the next one on. Items that are not
indented have no token at their end. -/
def readItems (indented : Bool) : Nat → Draft → List Nat → List Token → Checked (Taken (List Nat))
  | 0, _, _, _ => malformed
  | fuel + 1, d, seen, ts =>
    match ts with
    | .blockEntry :: rest => do
      let (id, rest, d) ←
        if endsItem indented rest then readEmpty d rest else readNode .block fuel d rest
      readItems indented fuel d (id :: seen) rest
    | ts =>
      if indented then
        match ts with
        | .blockEnd :: rest => .ok (seen.reverse, rest, d)
        | ts => unexpected ts
      else .ok (seen.reverse, ts, d)

/-- The entries of a block mapping from the next one on. -/
def readEntries : Nat → Draft → List (Nat × Nat) → List Token → Checked (Taken (List (Nat × Nat)))
  | 0, _, _, _ => malformed
  | fuel + 1, d, seen, ts =>
    match ts with
    | .blockEnd :: rest => .ok (seen.reverse, rest, d)
    | .key :: rest => do
      let (key, rest, d) ←
        if endsBlockValue rest then readEmpty d rest else readNode .blockValue fuel d rest
      let (value, rest, d) ← match rest with
        | .value :: rest =>
          if endsBlockValue rest then readEmpty d rest else readNode .blockValue fuel d rest
        | rest => readEmpty d rest
      readEntries fuel d ((key, value) :: seen) rest
    | ts => unexpected ts

/-- The value of an entry between brackets, if there is one. -/
def readFlowValue : Nat → Draft → List Token → Checked (Taken Nat)
  | 0, _, _ => malformed
  | fuel + 1, d, ts =>
    match ts with
    | .value :: rest =>
      if endsFlowValue rest then readEmpty d rest else readNode .flow fuel d rest
    | ts => readEmpty d ts

/-- A key and its value between brackets, behind the mark of the key. -/
def readFlowEntry : Nat → Draft → List Token → Checked (Taken (Nat × Nat))
  | 0, _, _ => malformed
  | fuel + 1, d, ts => do
    let (key, rest, d) ← if endsFlowKey ts then readEmpty d ts else readNode .flow fuel d ts
    let (value, rest, d) ← readFlowValue fuel d rest
    return ((key, value), rest, d)

/-- The items between brackets from the next one on. A lone entry of a mapping
may stand as an item. -/
def readFlowItems : Nat → Draft → List Nat → List Token → Checked (Taken (List Nat))
  | 0, _, _, _ => malformed
  | fuel + 1, d, seen, ts =>
    match ts with
    | .flowSequenceEnd :: rest => .ok (seen.reverse, rest, d)
    | ts => do
      let (id, rest, d) ← match ts with
        | .key :: rest => do
          let (id, d) ← d.reserve none
          let (entry, rest, d) ← readFlowEntry fuel d rest
          pure (id, rest, d.fill id ⟨.map, .mapping [entry]⟩)
        | ts => readNode .flow fuel d ts
      match rest with
      | .flowEntry :: rest => readFlowItems fuel d (id :: seen) rest
      | .flowSequenceEnd :: rest => return ((id :: seen).reverse, rest, d)
      | rest => unexpected rest

/-- The entries between braces from the next one on. -/
def readFlowEntries : Nat → Draft → List (Nat × Nat) → List Token →
    Checked (Taken (List (Nat × Nat)))
  | 0, _, _, _ => malformed
  | fuel + 1, d, seen, ts =>
    match ts with
    | .flowMappingEnd :: rest => .ok (seen.reverse, rest, d)
    | ts => do
      let (entry, rest, d) ← match ts with
        | .key :: rest => readFlowEntry fuel d rest
        | ts => do
          let (key, rest, d) ← readNode .flow fuel d ts
          let (value, d) := d.add .empty
          pure ((key, value), rest, d)
      match rest with
      | .flowEntry :: rest => readFlowEntries fuel d (entry :: seen) rest
      | .flowMappingEnd :: rest => return ((entry :: seen).reverse, rest, d)
      | rest => unexpected rest

end

/-! ## Documents -/

/-- Tokens without the ends of documents in front. -/
def skipDocumentEnds : List Token → List Token
  | .documentEnd :: rest => skipDocumentEnds rest
  | ts => ts

/-- What stands in front of a document: whether its version is given, and its
handles. -/
structure Prologue where
  hasVersion : Bool
  handles : List (String × String)

/-- The directives in front of a document and the tokens behind its start.
Nothing is to be said twice. -/
def readPrologue (p : Prologue) : List Token → Checked (Prologue × List Token)
  | .version :: rest =>
    if p.hasVersion then malformed else readPrologue { p with hasVersion := true } rest
  | .handle name stem :: rest =>
    if (p.handles.lookup name).isSome then malformed
    else readPrologue { p with handles := (name, stem) :: p.handles } rest
  | .directive :: rest => readPrologue p rest
  | .documentStart :: rest => .ok (p, rest)
  | ts => unexpected ts

/-- Whether a token stands in front of a document. -/
def isPrologue : Token → Bool
  | .version | .handle _ _ | .directive | .documentStart => true
  | _ => false

/-- Whether a document is empty. -/
def isEmptyDocument : List Token → Bool
  | [] => true
  | .documentEnd :: _ => true
  | t :: _ => isPrologue t

/-- The graph of a document without content. -/
def Graph.empty : Graph := ⟨#[.empty], 0, false⟩

/-- The graph of the document that the tokens hold. There must be no second
document; a text without any holds the empty node. -/
def Graph.ofTokens (ts : List Token) : Checked Graph :=
  if ts.isEmpty then .ok .empty
  else do
    let starts := ts.head?.any isPrologue
    let (prologue, content) ←
      if starts then readPrologue ⟨false, []⟩ ts else pure (⟨false, []⟩, ts)
    let draft := Draft.start prologue.handles
    let (root, rest, draft) ←
      if starts && isEmptyDocument content then readEmpty draft content
      else readNode .block (4 * content.length + 10) draft content
    match skipDocumentEnds rest with
    | [] => return ⟨draft.nodes, root, draft.hasAlias⟩
    | rest => unexpected rest

end Yaml

end DecoratorSets
