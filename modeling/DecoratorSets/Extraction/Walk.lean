import DecoratorSets.Extraction.Index

/-!
# Finding the decorators of models

Extraction walks through the models: each model itself, then each of its
declarations followed by that declaration's properties. Every list of
decorators that is not empty is recorded at its place. On request the lists are
emptied on the way, each as soon as it is recorded; a list that was absent stays
absent.
-/

namespace DecoratorSets

/-- A walk that records what it finds in an index. -/
abbrev Walk (α : Type) := StateT ExtractionIndex Checked α

/-- A list of decorators after extraction. -/
def leaveBehind (remove : Bool) (ds : Option (List Decorator)) : Option (List Decorator) :=
  if remove then ds.map fun _ => [] else ds

/-- Records the decorators of one place. What a namespace is matters only where
there is something to record. -/
def ExtractionIndex.visit (index : ExtractionIndex) (namespaceName declaration property : Value)
    (ds : Option (List Decorator)) : Checked ExtractionIndex :=
  match ds.getD [] with
  | [] => .ok index
  | found => do
    return index.record (← namespaceName.asKey) ⟨declaration, property, found⟩

/-- Extracts the decorators of one place: they are recorded, and then the list is
left behind. -/
def extractAt (remove : Bool) (namespaceName declaration property : Value)
    (ds : Option (List Decorator)) : Walk (Option (List Decorator)) := do
  set (← (← get).visit namespaceName declaration property ds)
  return leaveBehind remove ds

/-- Extracts the decorators of a property of a declaration. -/
def Property.extract (remove : Bool) (namespaceName declaration : Value) (p : Property) :
    Walk Property := do
  return { p with
    decorators := ← extractAt remove namespaceName declaration p.name p.decorators }

/-- Extracts the decorators of the properties of a declaration, if it has a list of
them. -/
def extractProperties (remove : Bool) (namespaceName declaration : Value) :
    Option (List Property) → Walk (Option (List Property))
  | none => pure none
  | some ps => do return some (← ps.mapM (Property.extract remove namespaceName declaration))

/-- Extracts the decorators of a declaration, then those of its properties. -/
def Declaration.extract (remove : Bool) (namespaceName : Value) (d : Declaration) :
    Walk Declaration := do
  let decorators ← extractAt remove namespaceName d.name (.str "") d.decorators
  let properties ← extractProperties remove namespaceName d.name d.properties
  return { d with properties, decorators }

/-- Extracts the decorators of a model, then those of its declarations. -/
def Model.extract (remove : Bool) (m : Model) : Walk Model := do
  let decorators ← extractAt remove m.namespaceName (.str "") (.str "") m.decorators
  let declarations ← m.declarations.mapM (Declaration.extract remove m.namespaceName)
  return { m with declarations, decorators }

/-- The models after extraction, and the index of their decorators. -/
def Models.extract (ms : Models) (remove : Bool) : Checked (Models × ExtractionIndex) := do
  let (models, index) ← (ms.models.mapM (Model.extract remove)).run .empty
  return (⟨models⟩, index)

end DecoratorSets
