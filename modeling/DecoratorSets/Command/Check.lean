import DecoratorSets.Command.Schema
import DecoratorSets.Command.Wire
import DecoratorSets.Registry.Conformance

/-!
# Checking command sets

There are two checks. The structural one asks whether a payload conforms to the
schema of command sets; it knows nothing of the models that the commands are
meant for. It gives a strict registry of the schema together with those models,
and against this registry the second check asks of each command whether what
its target names exists.

The second check looks at the target in a fixed order – conflicting fields, the
kind, the namespace, the declaration, the properties – and reports the first
fault.
-/

namespace DecoratorSets

/-! ## Payloads -/

/-- A command set, as it was built or as a document. -/
inductive CommandSetSource where
  | built (set : CommandSet)
  | document (data : Value)

namespace Value

/-- One member from a sequence of a name and a value. -/
def memberOfPair (position : Nat) (entry : Value) : Checked (Value × Value) := do
  match ← entry.items with
  | [name, v] => return (← name.asKey, v)
  | parts => throw (.unevenPair position parts.length)

/-- The members of an object, or of a sequence of pairs. -/
def toMembers (v : Value) : Checked Members :=
  match v with
  | .object _ ms => .ok ms
  | v => do
    let entries ← v.items
    return Members.putAll [] (← entries.zipIdx.mapM fun (entry, i) => memberOfPair i entry)

end Value

namespace CommandSetSource

/-- The document of a command set. -/
def payload : CommandSetSource → Checked Value
  | .built set => .ok set.toDocument
  | .document data => .object none <$> data.toMembers

/-- The command set. -/
def read : CommandSetSource → Checked CommandSet
  | .built set => .ok set
  | .document data => do CommandSet.ofDocument (.object none (← data.toMembers))

/-! ## The structural check -/

/-- The strict registry of the schema and some models. -/
def schemaRegistry (files : List ModelFile) : Checked Registry := do
  let r ← (Registry.empty true).add Schema.metamodel
  match r.addFiles files with
  | (r, none) => r.add Schema.commands
  | (_, some e) => throw e

/-- The number of commands in a payload. Blank commands are none. A class of the
models may declare the commands to be something else, which cannot be counted. -/
def countCommands (payload : Value) : Checked Nat := do
  let commands ← payload.member "commands"
  if commands.isBlank then return 0
  return (← commands.items).length

/-- Checks that a command set conforms to the schema, and gives the registry
that its commands can be checked against. The commands of a set that conforms are
counted, even though nobody is told how many they are. -/
def validate (source : CommandSetSource) (files : List ModelFile) : Checked Registry := do
  let r ← schemaRegistry files
  let payload ← source.payload
  r.checkInstance payload (some Schema.commandSetClass)
  let _ ← countCommands payload
  return r

end CommandSetSource

/-! ## The check of a command's target -/

namespace Command

/-- Refuses a target with both a single property and a list of properties. -/
def checkConflict (c : Command) : Checked Unit :=
  if !c.target.property.isBlank && !(Value.list none (c.target.properties.getD [])).isBlank then
    c.refuse .conflictingTarget
  else .ok ()

/-- Refuses a kind of property that is no type. -/
def checkType (c : Command) (r : Registry) : Checked Unit :=
  if c.target.type.isBlank then .ok ()
  else do
    match r.requireType (.str "DecoratorCommand.type") (← c.target.type.asText) with
    | .error (.typeNotFound _ _) => c.refuse (.unknownType c.target.type)
    | result => result

/-- The file that the target names. A malformed namespace names none. -/
def targetFile (c : Command) (r : Registry) : Checked ModelFile :=
  match r.findOf c.target.namespaceName with
  | .ok (some file) => .ok file
  | .ok none | .error (.malformedNamespace _) =>
    c.refuse (.unknownNamespace c.target.namespaceName)
  | .error e => .error e

/-- The names of the properties that the target lists. -/
def listedProperties (c : Command) : List Value :=
  if c.target.property.isBlank then c.target.properties.getD [] else [c.target.property]

/-- Refuses listed properties that a declaration neither has nor inherits. -/
def checkProperties (c : Command) (r : Registry) (h : Handle) : List Value → Checked Unit
  | [] => .ok ()
  | name :: rest => do
    match ← r.property? h name with
    | some _ => c.checkProperties r h rest
    | none =>
      c.refuse (.unknownProperty c.target.namespaceName h.declaration.name name)

/-- Checks that what the target of a command names exists. -/
def check (c : Command) (r : Registry) : Checked Unit := do
  c.checkConflict
  c.checkType r
  if c.target.namespaceName.isBlank then return
  let file ← c.targetFile r
  if c.target.declaration.isBlank then return
  match r.lookup? (typeName file.namespaceText c.target.declaration.text) with
  | none => c.refuse (.unknownDeclaration c.target.namespaceName c.target.declaration)
  | some h => c.checkProperties r h c.listedProperties

/-- Checks commands one after the other. -/
def checkAll (r : Registry) : List Command → Checked Unit
  | [] => .ok ()
  | c :: rest => do
    c.check r
    checkAll r rest

end Command

end DecoratorSets
