import DecoratorSets.Yaml.Graph
import DecoratorSets.Yaml.Literal

/-!
# What the nodes of a document become

Each node becomes a part of the value of the document: a scalar, or a collection
of other parts, which are given by the numbers of their nodes. Collections are
made empty at first and filled one after the other, those further out first; so
they can hold themselves, and of several faults the one furthest out is reported.

Before a mapping is filled, the mappings under its merge keys are put in front of
its own entries. This changes the mapping for good: whatever else uses it finds
the entries merged.
-/

namespace DecoratorSets

namespace Yaml

/-- What a node becomes. -/
inductive Part where
  | scalar (v : Value)
  | list (items : List Nat)
  /-- A list of entries in order. -/
  | entryList (entries : List (Nat × Nat))
  | set (keys : List Value)
  | object (members : List (Value × Nat))

/-- The parts that are made, and the nodes that they are made of. -/
structure Making where
  nodes : Array Node
  /-- The parts, by the numbers of their nodes. -/
  parts : Array (Option Part)
  /-- Collections that are not filled yet, in the order in which they are. -/
  waiting : Array Nat
  /-- Whether nodes are used in several places. -/
  hasAlias : Bool

namespace Making

/-- The parts before the first is made. -/
def start (g : Graph) : Making := ⟨g.nodes, Array.replicate g.nodes.size none, #[], g.hasAlias⟩

/-- The node of a number. -/
def node (m : Making) (id : Nat) : Node := m.nodes.getD id .empty

/-- The entries of a mapping. -/
def entries? (m : Making) (id : Nat) : Option (List (Nat × Nat)) :=
  match (m.node id).content with
  | .mapping entries => some entries
  | _ => none

/-- The mapping of a number with other entries. -/
def setEntries (id : Nat) (entries : List (Nat × Nat)) (m : Making) : Making :=
  { m with nodes := m.nodes.setIfInBounds id { m.node id with content := .mapping entries } }

/-- The node of a number with another tag. -/
def setTag (id : Nat) (tag : Tag) (m : Making) : Making :=
  { m with nodes := m.nodes.setIfInBounds id { m.node id with tag } }

/-- The part of a number. -/
def setPart (id : Nat) (part : Part) (m : Making) : Making :=
  { m with parts := m.parts.setIfInBounds id (some part) }

/-- The label of a node, where nodes are used in several places. -/
def label (m : Making) (id : Nat) : Option Label :=
  if m.hasAlias then some ⟨id, .document, [], []⟩ else none

/-! ## Merge keys -/

/-- The number of entries of all mappings. -/
def entryCount (m : Making) : Nat :=
  m.nodes.foldl (fun n node =>
    match node.content with
    | .mapping entries => n + entries.length
    | _ => n) 0

mutual

/-- Merges what the merge keys of a mapping name, from an entry on, behind the
entries merged so far. The key of a default value becomes an ordinary text. -/
def mergeFrom : Nat → Nat → Nat → List (Nat × Nat) → Making → Checked Making
  | 0, _, _, _, _ => malformed
  | fuel + 1, id, index, merged, m =>
    let entries := (m.entries? id).getD []
    match entries[index]? with
    | none => .ok (if merged.isEmpty then m else m.setEntries id (merged ++ entries))
    | some (key, value) =>
      match (m.node key).tag with
      | .merge => do
        let m := m.setEntries id (entries.eraseIdx index)
        match (m.node value).content with
        | .mapping _ =>
          let m ← mergeFrom fuel value 0 [] m
          mergeFrom fuel id index (merged ++ (m.entries? value).getD []) m
        | .sequence items =>
          let (lists, m) ← mergeEach fuel items m
          mergeFrom fuel id index (merged ++ lists.reverse.flatten) m
        | .scalar _ => malformed
      | .default => mergeFrom fuel id (index + 1) merged (m.setTag key .str)
      | _ => mergeFrom fuel id (index + 1) merged m

/-- Merges within each of some mappings, and gives their entries. -/
def mergeEach : Nat → List Nat → Making → Checked (List (List (Nat × Nat)) × Making)
  | 0, _, _ => malformed
  | _ + 1, [], m => .ok ([], m)
  | fuel + 1, id :: rest, m => do
    if (m.entries? id).isNone then malformed
    else
      let m ← mergeFrom fuel id 0 [] m
      let entries := (m.entries? id).getD []
      let (lists, m) ← mergeEach fuel rest m
      return (entries :: lists, m)

end

/-- The entries of a mapping, those of its merge keys among them. A merge key is
dropped before what it names is looked at, so merging ends; its steps are bounded
generously. -/
def mergedEntries (id : Nat) (m : Making) : Checked (List (Nat × Nat) × Making) := do
  if (m.entries? id).isNone then malformed
  else
    let size := m.entryCount + m.nodes.size + 2
    let m ← mergeFrom (64 * size * size) id 0 [] m
    return ((m.entries? id).getD [], m)

/-! ## Making parts -/

/-- The text of a node that is read as a scalar. A mapping stands for its default
value. -/
def scalarText (m : Making) : Nat → Nat → Checked String
  | 0, _ => malformed
  | fuel + 1, id =>
    match (m.node id).content with
    | .scalar text => .ok text
    | .sequence _ => malformed
    | .mapping entries =>
      match entries.find? fun entry => (m.node entry.1).tag = .default with
      | some entry => scalarText m fuel entry.2
      | none => malformed

/-- The scalar of a node. The text of a moment has to be its own. -/
def scalarValue (m : Making) (id : Nat) : Checked Value := do
  let node := m.node id
  let text ← m.scalarText (m.nodes.size + 1) id
  match node.tag, node.content with
  | .timestamp, .mapping _ => faulty .momentOfObject
  | tag, _ => readLiteral (m.label id) tag text

/-- The part of a collection that is not filled yet, if the tag is that of a
collection. -/
def emptyPart? : Tag → Option Part
  | .seq => some (.list [])
  | .omap | .pairs => some (.entryList [])
  | .set => some (.set [])
  | .map => some (.object [])
  | _ => none

/-- Makes the part of a node, unless it is made. Collections wait to be filled. -/
def make (id : Nat) (m : Making) : Checked Making :=
  match m.parts.getD id none with
  | some _ => .ok m
  | none =>
    match emptyPart? (m.node id).tag with
    | some part => .ok { m.setPart id part with waiting := m.waiting.push id }
    | none => do return m.setPart id (.scalar (← m.scalarValue id))

/-- Makes the parts of the nodes of an entry. -/
def makeEntry (entry : Nat × Nat) (m : Making) : Checked Making := do
  (← m.make entry.1).make entry.2

/-- Makes the parts of a mapping, and gives its members. A key has to be a
scalar; of two members with one key the later one stays. -/
def makeMembers (m : Making) : List (Nat × Nat) → List (Value × Nat) →
    Checked (List (Value × Nat) × Making)
  | [], members => .ok (members, m)
  | (keyId, valueId) :: rest, members => do
    let m ← m.make keyId
    match m.parts.getD keyId none with
    | some (.scalar key) =>
      let m ← m.make valueId
      makeMembers m rest (putMember key valueId members)
    | _ => malformed
where
  /-- Sets a member, which keeps its place and its key if it is there. -/
  putMember (key : Value) (id : Nat) : List (Value × Nat) → List (Value × Nat)
    | [] => [(key, id)]
    | (k, old) :: rest =>
      if k.sameKey key then (k, id) :: rest else (k, old) :: putMember key id rest

/-- The entry that a node of a list of entries consists of. -/
def soleEntry (m : Making) (id : Nat) : Checked (Nat × Nat) :=
  match (m.node id).content with
  | .mapping [entry] => .ok entry
  | _ => malformed

/-- Makes the parts of a list of entries, and gives the entries. -/
def makeEntries (m : Making) : List Nat → Checked (List (Nat × Nat) × Making)
  | [] => .ok ([], m)
  | id :: rest => do
    let entry ← m.soleEntry id
    let m ← m.makeEntry entry
    let (entries, m) ← makeEntries m rest
    return (entry :: entries, m)

/-- Fills a collection. -/
def fill (id : Nat) (m : Making) : Checked Making :=
  match (m.node id).tag, (m.node id).content with
  | .seq, .sequence items => do
    return (← items.foldlM (fun m item => m.make item) m).setPart id (.list items)
  | .omap, .sequence items | .pairs, .sequence items => do
    let (entries, m) ← m.makeEntries items
    return m.setPart id (.entryList entries)
  | .set, .mapping _ => do
    let (entries, m) ← m.mergedEntries id
    let (members, m) ← makeMembers m entries []
    return m.setPart id (.set (members.map Prod.fst))
  | .map, .mapping _ => do
    let (entries, m) ← m.mergedEntries id
    let (members, m) ← makeMembers m entries []
    return m.setPart id (.object members)
  | _, _ => malformed

/-- Fills the collections that wait, from one of them on. Every node waits once
at most, so their number bounds the steps. -/
def fillAll : Nat → Nat → Making → Checked Making
  | 0, _, m => .ok m
  | fuel + 1, next, m =>
    match m.waiting[next]? with
    | none => .ok m
    | some id => do fillAll fuel (next + 1) (← m.fill id)

end Making

/-- The parts of a document. -/
def Graph.parts (g : Graph) : Checked Making := do
  let m ← (Making.start g).make g.root
  m.fillAll (g.nodes.size + 1) 0

end Yaml

end DecoratorSets
