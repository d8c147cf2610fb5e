import DecoratorSets.Command.Basic
import DecoratorSets.Metamodel.Wire

/-!
# Command sets on the wire

The reader picks out the members that it knows and ignores all others, class
names included. The type of a command that is neither of the two known ones is
kept as text, so that the command can still be written and reported.
-/

namespace DecoratorSets

/-- The class name of a node of a command set. It carries no version, so that
documents outlive the versions of the schema. -/
def commandClass (name : String) : String :=
  typeName "org.accordproject.decoratorcommands" name

namespace CommandTarget

/-- The document of a target. Absent fields are left out. -/
def toDocument (t : CommandTarget) : Value :=
  .object none <| Members.putSome "type" t.type.ifPresent <|
    Members.putSome "properties" (t.properties.map (Value.list none)) <|
    Members.putSome "property" t.property.ifPresent <|
    Members.putSome "declaration" t.declaration.ifPresent <|
    Members.putSome "namespace" t.namespaceName.ifPresent
      [(classKey, .str (commandClass "CommandTarget"))]

/-- Reads a target. -/
def ofDocument (data : Value) : Checked CommandTarget := do
  let properties ← data.member "properties"
  let namespaceName ← data.member "namespace"
  let declaration ← data.member "declaration"
  let property ← data.member "property"
  let properties ← readList? .ok properties
  let type ← data.member "type"
  return { namespaceName, declaration, property, properties, type }

end CommandTarget

namespace Command

/-- The document of a command. -/
def toDocument (c : Command) : Value :=
  .object none [(classKey, .str (commandClass "Command")), ("type", c.type.toValue),
    ("target", c.target.toDocument), ("decorator", c.decorator.toDocument)]

/-- Reads the type of a command. A type that is not known is kept as text. -/
def readType (v : Value) : CommandType :=
  match CommandType.ofValue v with
  | .other v => .other (.str v.text)
  | known => known

/-- Reads a command. A blank target selects everything. -/
def ofDocument (data : Value) : Checked Command := do
  let type := readType (← data.member "type")
  let target ← data.member "target"
  let target ← CommandTarget.ofDocument (if target.isBlank then .object none [] else target)
  let decorator ← Decorator.ofDocument (← data.required "decorator")
  return { target, decorator, type }

/-- Refuses a command. It is reported with its JSON text; where it has none, that
is the failure. -/
def refuse {α : Type} (c : Command) (cause : CommandFault) : Checked α :=
  match Json.message.render c.toDocument with
  | .ok _ => .error (.command cause (some c.toDocument))
  | .error fault => .error (.unwritable fault)

end Command

namespace CommandSetReference

/-- The document of a reference. -/
def toDocument (ref : CommandSetReference) : Value :=
  .object none [(classKey, .str (commandClass "DecoratorCommandSetReference")), ("name", ref.name),
    ("version", ref.version)]

/-- Reads a reference. -/
def ofDocument (data : Value) : Checked CommandSetReference := do
  let name ← data.required "name"
  let version ← data.required "version"
  return { name, version }

end CommandSetReference

namespace CommandSet

/-- The document of a list of references. -/
def referencesDocument (refs : List CommandSetReference) : Value :=
  .list none (refs.map CommandSetReference.toDocument)

/-- The document of a command set. -/
def toDocument (cs : CommandSet) : Value :=
  .object none <| Members.put "commands" (.list none (cs.commands.map Command.toDocument)) <|
    Members.putSome "includes" (cs.includes.map referencesDocument)
      [(classKey, .str (commandClass "DecoratorCommandSet")), ("name", cs.name),
        ("version", cs.version)]

/-- Reads a command set. Name, version and commands may be left out, but a null
is no list of commands. -/
def ofDocument (data : Value) : Checked CommandSet := do
  let includes ← data.member "includes"
  let name := (← data.member? "name").getD (.str "")
  let version := (← data.member? "version").getD (.str "")
  let commands ← match ← data.member? "commands" with
    | none => pure []
    | some items => (← items.items).mapM Command.ofDocument
  let includes ← readList? CommandSetReference.ofDocument includes
  return { name, version, commands, includes }

end CommandSet

end DecoratorSets
