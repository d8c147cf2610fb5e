import DecoratorSets.Metamodel.Basic
import DecoratorSets.Value.Labels

/-!
# Labels in models

Labels tell which values of a document are one part. Decorators are copied each
on its own when commands are carried out, and arguments each on its own when
commands are made of decorators; so the labels in them reach no further. Before
models are written, such labels are given the place that they belong to
(`Models.placed`), which keeps the labels of different places apart.
-/

namespace DecoratorSets

/-- A reference with changed labels. -/
def TypeIdentifier.relabel (change : Label → Label) (ident : TypeIdentifier) : TypeIdentifier :=
  ⟨ident.name.relabel change, ident.namespaceName.relabel change⟩

/-- An argument with changed labels. -/
def Argument.relabel (change : Label → Label) : Argument → Argument
  | .literal kind value => .literal kind (value.relabel change)
  | .reference type isArray => .reference (type.relabel change) isArray

/-- A decorator with changed labels. -/
def Decorator.relabel (change : Label → Label) (d : Decorator) : Decorator where
  name := d.name.relabel change
  arguments := d.arguments.map (·.map (Argument.relabel change))
  extras := Value.relabelMembers change d.extras

/-- A property with changed labels. -/
def Property.relabel (change : Label → Label) (p : Property) : Property :=
  { p with
    name := p.name.relabel change
    type := p.type.map (TypeIdentifier.relabel change)
    decorators := p.decorators.map (·.map (Decorator.relabel change))
    extras := Value.relabelMembers change p.extras }

/-- A declaration with changed labels. -/
def Declaration.relabel (change : Label → Label) (d : Declaration) : Declaration :=
  { d with
    name := d.name.relabel change
    properties := d.properties.map (·.map (Property.relabel change))
    superType := d.superType.map (TypeIdentifier.relabel change)
    decorators := d.decorators.map (·.map (Decorator.relabel change))
    extras := Value.relabelMembers change d.extras }

/-! ## Places -/

/-- Gives each item of a list its place below another. -/
def placeEach {α : Type} (give : List Nat → α → α) (place : List Nat) (xs : List α) : List α :=
  xs.zipIdx.map fun (x, i) => give (place ++ [i]) x

/-- An argument at a place. -/
def Argument.placed (place : List Nat) (a : Argument) : Argument :=
  a.relabel (Label.placedAt .argument place)

/-- A decorator at a place. -/
def Decorator.placed (place : List Nat) (d : Decorator) : Decorator :=
  let d := d.relabel (Label.placedAt .decorator place)
  { d with arguments := d.arguments.map (placeEach Argument.placed place) }

/-- The decorators of a node at a place. -/
def placedDecorators (place : List Nat) (ds : Option (List Decorator)) :
    Option (List Decorator) :=
  ds.map (placeEach Decorator.placed (place ++ [0]))

/-- A property at a place. -/
def Property.placed (place : List Nat) (p : Property) : Property :=
  { p with decorators := placedDecorators place p.decorators }

/-- A declaration at a place. -/
def Declaration.placed (place : List Nat) (d : Declaration) : Declaration :=
  { d with
    properties := d.properties.map (placeEach Property.placed (place ++ [1]))
    decorators := placedDecorators place d.decorators }

/-- A model at a place. -/
def Model.placed (place : List Nat) (m : Model) : Model :=
  { m with
    declarations := placeEach Declaration.placed (place ++ [1]) m.declarations
    decorators := placedDecorators place m.decorators }

/-- Models whose labels know their places. -/
def Models.placed (ms : Models) : Models := ⟨placeEach Model.placed [] ms.models⟩

end DecoratorSets
