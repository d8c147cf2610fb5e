import DecoratorSets.Command.Wire
import DecoratorSets.Decoration.Selector

/-!
# Applying commands

Every command of a set is tried on every declaration of every model, in the
order of the declarations first and of the commands second. A command whose
target names neither a single property nor a kind of property decorates the
declaration; any other decorates the properties that it selects among those of
the declaration.

A command can fail on its way through the properties of a declaration, after
some of them were decorated. `Declaration.execute` therefore gives the
declaration as far as it was decorated, together with the failure. A document
of models is decorated completely or not at all.
-/

namespace DecoratorSets

/-! ## Merging a decorator into a list -/

namespace Decorator

/-- Whether two decorators have the same name. -/
def sameName (a b : Decorator) : Bool := a.name.sameAs b.name

/-- Adds a decorator at the end. -/
def appendTo (d : Decorator) (ds : Option (List Decorator)) : List Decorator :=
  ds.getD [] ++ [d]

/-- Replaces the decorators of the same name, or adds the decorator where there
is none. -/
def upsertInto (d : Decorator) (ds : Option (List Decorator)) : List Decorator :=
  if (ds.getD []).any (·.sameName d) then
    (ds.getD []).map fun old => if old.sameName d then d else old
  else d.appendTo ds

/-- Merges a decorator into a list of decorators, or into the absence of one. -/
def mergeInto (d : Decorator) (type : CommandType) (ds : Option (List Decorator)) :
    Checked (Option (List Decorator)) :=
  match type with
  | .upsert => .ok (some (d.upsertInto ds))
  | .append => .ok (some (d.appendTo ds))
  | .other v => .error (.command (.unknownCommandType v) none)

end Decorator

/-- The model with one more decorator. -/
def Model.decorate (m : Model) (type : CommandType) (d : Decorator) : Checked Model := do
  return { m with decorators := ← d.mergeInto type m.decorators }

/-- The declaration with one more decorator. -/
def Declaration.decorate (decl : Declaration) (type : CommandType) (d : Decorator) :
    Checked Declaration := do
  return { decl with decorators := ← d.mergeInto type decl.decorators }

/-- The property with one more decorator. -/
def Property.decorate (p : Property) (type : CommandType) (d : Decorator) : Checked Property := do
  return { p with decorators := ← d.mergeInto type p.decorators }

/-! ## Carrying out a command -/

namespace CommandTarget

/-- Whether a target is about declarations, and not about their properties. -/
def isDeclarationLevel (t : CommandTarget) : Bool := t.property.isBlank && t.type.isBlank

/-- Whether a target selects a declaration of a namespace. -/
def selectsDeclaration (t : CommandTarget) (namespaceName : Value) (d : Declaration) :
    Checked Bool := do
  let short ← unversioned (← namespaceName.asText)
  if ← selects t.namespaceName [namespaceName, .str short] then
    selects t.declaration [d.name]
  else return false

/-- Whether a target selects a property of a declaration that it selects. -/
def selectsProperty (t : CommandTarget) (p : Property) : Checked Bool := do
  if ← selects t.propertySelector [p.name] then selects t.type [.str p.kind.className]
  else return false

end CommandTarget

/-- Carries out a command on a property, if its target selects it. -/
def Property.execute (p : Property) (c : Command) : Checked Property := do
  if ← c.target.selectsProperty p then p.decorate c.type c.decorator else return p

/-- Carries out a command on properties one after the other, up to the first
failure. -/
def executeOnProperties (c : Command) : List Property → Attempt (List Property)
  | [] => ([], none)
  | p :: rest =>
    match p.execute c with
    | .error e => (p :: rest, some e)
    | .ok p' =>
      let done := executeOnProperties c rest
      (p' :: done.1, done.2)

namespace Declaration

/-- Carries out a command on the properties of a declaration. -/
def executeBelow (d : Declaration) (c : Command) : Attempt Declaration :=
  match d.properties with
  | none => (d, none)
  | some ps =>
    let done := executeOnProperties c ps
    ({ d with properties := some done.1 }, done.2)

/-- Carries out a command on a declaration of a namespace or on its
properties. -/
def execute (namespaceName : Value) (d : Declaration) (c : Command) : Attempt Declaration :=
  match c.target.selectsDeclaration namespaceName d with
  | .error e => (d, some e)
  | .ok false => (d, none)
  | .ok true =>
    if c.target.isDeclarationLevel then attempt d (d.decorate c.type c.decorator)
    else d.executeBelow c

end Declaration

/-! ## Decorating models -/

/-- Carries out a command that has to succeed. A command whose type is not known
is refused. -/
def Declaration.apply (namespaceName : Value) (d : Declaration) (c : Command) :
    Checked Declaration :=
  match d.execute namespaceName c with
  | (d', none) => .ok d'
  | (_, some (.command (.unknownCommandType type) _)) => c.refuse (.unknownCommandType type)
  | (_, some e) => .error e

/-- Carries out commands on a declaration, one after the other. -/
def Declaration.applyAll (namespaceName : Value) (cs : List Command) (d : Declaration) :
    Checked Declaration :=
  cs.foldlM (fun d c => d.apply namespaceName c) d

/-- Carries out commands on the declarations of a model. -/
def Model.applyAll (cs : List Command) (m : Model) : Checked Model := do
  return { m with declarations := ← m.declarations.mapM (Declaration.applyAll m.namespaceName cs) }

/-- Decorates a document of models. -/
def Models.decorate (ms : Models) (set : CommandSet) : Checked Models := do
  return ⟨← ms.models.mapM (Model.applyAll set.commands)⟩

end DecoratorSets
