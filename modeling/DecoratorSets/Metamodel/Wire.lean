import DecoratorSets.Metamodel.Basic

/-!
# Models on the wire

On the wire every node is an object whose member `$class` names its kind. Each
type of node has a writer, `toDocument`, and a reader, `ofDocument`. The reader
takes more than the writer makes: class names may be short, flags may be left
out or be any value, and a bare argument may leave its kind to its value. What
the reader does not know it keeps, and the writer puts it back.

Readers look at the members of a node in a fixed order, so of two faults the
one that is met first is reported.
-/

namespace DecoratorSets

/-- The class name of a node. -/
def classOf (data : Value) : Checked String := do
  match ← data.member classKey with
  | .str className => .ok className
  | _ => .error (.missingClass data)

/-- A flag: any value that is not blank sets it. -/
def flag (data : Value) (key : String) : Checked Bool := do
  return !(← data.member key).isBlank

/-! ## References -/

namespace TypeIdentifier

/-- The document of a reference. -/
def toDocument (ident : TypeIdentifier) : Value :=
  .object none <| Members.putSome "namespace" ident.namespaceName.ifPresent
    [(classKey, .str (metamodelClass "TypeIdentifier")), ("name", ident.name)]

/-- Reads a reference. -/
def ofDocument (data : Value) : Checked TypeIdentifier := do
  let name ← data.required "name"
  let namespaceName ← data.member "namespace"
  return ⟨name, namespaceName⟩

/-- Reads a reference unless its document is blank. -/
def ofDocument? (data : Value) : Checked (Option TypeIdentifier) :=
  if data.isBlank then .ok none else some <$> ofDocument data

end TypeIdentifier

/-! ## Decorators -/

namespace Argument

/-- The document of an argument. -/
def toDocument : Argument → Value
  | .literal kind value =>
    .object none [(classKey, .str (ArgumentKind.literal kind).className), ("value", value)]
  | .reference type isArray =>
    .object none [(classKey, .str ArgumentKind.typeReference.className), ("type", type.toDocument),
      ("isArray", .bool isArray)]

/-- Whether an argument gives a value and no kind. -/
def isBare (data : Value) : Checked Bool := do
  if ← data.holds classKey then return false
  data.holds "value"

/-- Reads an argument. The kind of a bare argument is that of its value. -/
def ofDocument (data : Value) : Checked Argument := do
  if ← isBare data then
    let value ← data.required "value"
    return .literal (← LiteralKind.ofValue value) value
  else
    match ← ArgumentKind.ofClassName (← classOf data) with
    | .typeReference =>
      let type ← TypeIdentifier.ofDocument (← data.required "type")
      return .reference type (← flag data "isArray")
    | .literal kind => return .literal kind (← data.required "value")

end Argument

/-- Reads the items of a list, or nothing where the list is absent. -/
def readList? {α : Type} (read : Value → Checked α) (data : Value) : Checked (Option (List α)) :=
  match data with
  | .null => .ok none
  | data => do return some (← (← data.items).mapM read)

namespace Decorator

/-- The members that the reader interprets. -/
def knownKeys : List String := [classKey, "name", "arguments"]

/-- The document of a decorator. -/
def toDocument (d : Decorator) : Value :=
  .object none <| Members.putAll
    (Members.putSome "arguments" (d.arguments.map fun args => Value.list none (args.map Argument.toDocument))
      [(classKey, .str (metamodelClass "Decorator")), ("name", d.name)])
    d.extras

/-- Reads a decorator, whose class is not looked at. -/
def ofDocument (data : Value) : Checked Decorator := do
  let arguments ← data.member "arguments"
  let name ← data.required "name"
  let arguments ← readList? Argument.ofDocument arguments
  return { name, arguments, extras := Members.without knownKeys (← data.members) }

/-- The document of a list of decorators. -/
def listDocument (ds : List Decorator) : Value := .list none (ds.map toDocument)

/-- Reads the decorators of a node. -/
def listOf (data : Value) : Checked (Option (List Decorator)) := do
  readList? ofDocument (← data.member "decorators")

end Decorator

/-! ## Properties -/

namespace Property

/-- The members that the reader interprets. -/
def knownKeys : List String := [classKey, "name", "isArray", "isOptional", "type", "decorators"]

/-- The flags of a property; members of an enumeration have none. -/
def flagMembers (p : Property) : Members :=
  if p.kind = .enum then []
  else [("isArray", .bool p.isArray), ("isOptional", .bool p.isOptional)]

/-- The document of a property. -/
def toDocument (p : Property) : Value :=
  .object none <| Members.putSome "decorators" (p.decorators.map Decorator.listDocument) <|
    Members.putAll
      (Members.putSome "type" (p.type.map TypeIdentifier.toDocument)
        ((classKey, .str p.kind.className) :: ("name", p.name) :: p.flagMembers))
      p.extras

/-- Reads a property. -/
def ofDocument (data : Value) : Checked Property := do
  let kind ← PropertyKind.ofClassName (← classOf data)
  let name ← data.required "name"
  let isArray ← flag data "isArray"
  let isOptional ← flag data "isOptional"
  let type ← TypeIdentifier.ofDocument? (← data.member "type")
  let decorators ← Decorator.listOf data
  let extras := Members.without knownKeys (← data.members)
  return { name, kind, isArray, isOptional, type, decorators, extras }

end Property

/-! ## Declarations -/

namespace Declaration

/-- The members that the reader interprets. -/
def knownKeys : List String :=
  [classKey, "name", "properties", "isAbstract", "superType", "decorators"]

/-- The flag of a declaration that has instances. -/
def flagMembers (d : Declaration) : Members :=
  if d.kind.isClassLike then [("isAbstract", .bool d.isAbstract)] else []

/-- The document of a list of properties. -/
def propertiesDocument (ps : List Property) : Value := .list none (ps.map Property.toDocument)

/-- The document of a declaration. -/
def toDocument (d : Declaration) : Value :=
  .object none <| Members.putSome "decorators" (d.decorators.map Decorator.listDocument) <|
    Members.putAll
      (Members.putSome "properties" (d.properties.map propertiesDocument) <|
        Members.putSome "superType" (d.superType.map TypeIdentifier.toDocument)
          ((classKey, .str d.kind.className) :: ("name", d.name) :: d.flagMembers))
      d.extras

/-- Reads a declaration. -/
def ofDocument (data : Value) : Checked Declaration := do
  let kind ← DeclarationKind.ofClassName (← classOf data)
  let properties ← data.member "properties"
  let superType ← data.member "superType"
  let name ← data.required "name"
  let properties ← readList? Property.ofDocument properties
  let isAbstract ← flag data "isAbstract"
  let superType ← TypeIdentifier.ofDocument? superType
  let decorators ← Decorator.listOf data
  let extras := Members.without knownKeys (← data.members)
  return { name, kind, properties, isAbstract, superType, decorators, extras }

end Declaration

/-! ## Models -/

namespace Model

/-- The members that the reader interprets. -/
def knownKeys : List String := [classKey, "namespace", "declarations", "decorators"]

/-- The class name of a model. -/
def className : String := metamodelClass "Model"

/-- The document of a model. -/
def toDocument (m : Model) : Value :=
  .object none <| Members.putSome "decorators" (m.decorators.map Decorator.listDocument) <|
    Members.put "declarations" (.list none (m.declarations.map Declaration.toDocument)) <|
      Members.putAll [(classKey, .str className), ("namespace", m.namespaceName)] m.extras

/-- Reads a model. Its declarations may be left out, but a null is no list. -/
def ofDocument (data : Value) : Checked Model := do
  if !(← data.holds "namespace") then
    throw .missingNamespace
  let namespaceName ← data.required "namespace"
  let declarations ← match ← data.member? "declarations" with
    | none => pure []
    | some items => (← items.items).mapM Declaration.ofDocument
  let decorators ← Decorator.listOf data
  let extras := Members.without knownKeys (← data.members)
  return { namespaceName, declarations, decorators, extras }

end Model

namespace Models

/-- The document of a list of models. -/
def toDocument (ms : Models) : Value :=
  .object none [(classKey, .str (metamodelClass "Models")),
    ("models", .list none (ms.models.map Model.toDocument))]

/-- Reads a document of models. A single model stands for the document that
holds it alone. -/
def ofDocument (data : Value) : Checked Models := do
  let isModel := (← data.member classKey) == .str Model.className
  if isModel || !(← data.holds "models") then
    return ⟨[← Model.ofDocument data]⟩
  else
    return ⟨← (← (← data.required "models").items).mapM Model.ofDocument⟩

end Models

end DecoratorSets
