import DecoratorSets.Yaml.Part
import Std.Data.HashMap

/-!
# Reading YAML text

The text becomes tokens, the tokens a graph of nodes, the nodes parts of a value.
What is left is to unfold the parts into a tree. Where nodes are used in several
places the tree has labels, by which parts that are one can be told.

A part inside itself has no finite tree. It is unfolded a few times and then left
empty; nobody who heeds the labels looks further than its first recurrence, and
documents are read to a small depth only.
-/

namespace DecoratorSets

namespace Yaml

namespace Making

/-- The parts that are directly inside a part. -/
def inside : Part → List Nat
  | .scalar _ => []
  | .set _ => []
  | .list items => items
  | .entryList entries => entries.flatMap fun entry => [entry.1, entry.2]
  | .object members => members.map Prod.snd

/-- The value of a part, given those of the parts inside it. -/
def assemble (label : Option Label) (valueOf : Nat → Value) : Part → Value
  | .scalar v => v
  | .set keys => .set label keys
  | .list items => .list label (items.map valueOf)
  | .entryList entries =>
    .list label (entries.map fun entry => .pair (valueOf entry.1) (valueOf entry.2))
  | .object members => .object label (members.map fun member => (member.1, valueOf member.2))

/-- The value of a part that is left empty. -/
def assembleEmpty (label : Option Label) : Part → Value
  | .scalar v => v
  | .set keys => .set label keys
  | .list _ => .list label []
  | .entryList _ => .list label []
  | .object _ => .object label []

/-! ## Parts that do not lead to themselves -/

/-- The values of parts, as far as they are known. -/
abbrev Known := Array (Option Value)

/-- Adds the value of a part, if those of the parts inside it are known. -/
def learn (m : Making) (known : Known) (id : Nat) : Known :=
  match known.getD id none, m.parts.getD id none with
  | none, some part =>
    if (inside part).all fun child => (known.getD child none).isSome then
      known.setIfInBounds id
        (some (assemble (m.label id) (fun child => (known.getD child none).getD .null) part))
    else known
  | _, _ => known

/-- Adds the values of parts, last part first, as most parts come behind the one
that they are in. -/
def learnAll (m : Making) (known : Known) : Known :=
  (List.range m.parts.size).foldr (fun id known => m.learn known id) known

/-- Adds values as long as there are new ones. -/
def learnRounds (m : Making) : Nat → Known → Known
  | 0, known => known
  | fuel + 1, known =>
    let more := m.learnAll known
    if more.countP Option.isSome = known.countP Option.isSome then known
    else learnRounds m fuel more

/-! ## Parts that lead to themselves -/

/-- How often a part is unfolded inside itself. -/
def recurrences : Nat := 7

/-- What the value of a part depends on: its number, the recurrences that are
left, and the parts that it is inside of. -/
abbrev Situation := Nat × Nat × List Nat

/-- Adds a number to numbers in increasing order. -/
def insertSorted (n : Nat) : List Nat → List Nat
  | [] => [n]
  | m :: rest => if n < m then n :: m :: rest else m :: insertSorted n rest

/-- The value of a part. Each step goes into a part that it is not inside of, or
uses up a recurrence. -/
def unfold (m : Making) (known : Known) :
    Nat → Nat → List Nat → Nat → StateM (Std.HashMap Situation Value) Value
  | 0, _, _, _ => return .null
  | fuel + 1, left, around, id => do
    match known.getD id none, m.parts.getD id none with
    | some v, _ => return v
    | none, none => return .null
    | none, some part =>
      let recurs := around.contains id
      if recurs ∧ left = 0 then return assembleEmpty (m.label id) part
      else
        match (← get)[(id, left, around)]? with
        | some v => return v
        | none =>
          let left' := if recurs then left - 1 else left
          let around' := if recurs then around else insertSorted id around
          let values ← (inside part).mapM fun child =>
            return (child, ← unfold m known fuel left' around' child)
          let v := assemble (m.label id) (fun child => (values.lookup child).getD .null) part
          modify (·.insert (id, left, around) v)
          return v

end Making

/-- The value of the document that a text holds. -/
def read (text : String) : Checked Value := do
  let graph ← Graph.ofTokens (← readTokens text)
  let m ← graph.parts
  let size := m.parts.size
  let known := m.learnRounds size (Array.replicate size none)
  let making := m.unfold known (size + Making.recurrences + 1) Making.recurrences [] graph.root
  return (making.run ∅).run.1

end Yaml

end DecoratorSets
