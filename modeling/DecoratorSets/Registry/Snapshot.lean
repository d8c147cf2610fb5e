import DecoratorSets.Registry.Lookup

/-!
# Models with their references resolved

A snapshot of a registry is the document of its models. In a resolved snapshot
every super type and every property type that omits its namespace has the
namespace that it is looked up in, as far as there is one.
-/

namespace DecoratorSets

namespace ModelFile

/-- A reference with its namespace filled in. -/
def resolveReference (f : ModelFile) (ident : TypeIdentifier) : Checked TypeIdentifier :=
  match ident.namespaceName with
  | .null => do return { ident with namespaceName := ← f.namespaceFor ident.name }
  | _ => .ok ident

/-- An optional reference with its namespace filled in. -/
def resolveReference? (f : ModelFile) (ident : Option TypeIdentifier) :
    Checked (Option TypeIdentifier) :=
  match ident with
  | none => .ok none
  | some ident => some <$> f.resolveReference ident

/-- A property with a resolved type. -/
def resolveProperty (f : ModelFile) (p : Property) : Checked Property := do
  return { p with type := ← f.resolveReference? p.type }

/-- A declaration with a resolved super type and resolved properties. -/
def resolveDeclaration (f : ModelFile) (d : Declaration) : Checked Declaration := do
  let superType ← f.resolveReference? d.superType
  let properties ← match d.properties with
    | none => pure none
    | some ps => some <$> ps.mapM f.resolveProperty
  return { d with superType, properties }

/-- The model of a file with its references resolved. -/
def resolvedModel (f : ModelFile) : Checked Model := do
  return { f.toModel with declarations := ← f.declarations.mapM f.resolveDeclaration }

end ModelFile

namespace Registry

/-- The document of all models with their references resolved. -/
def resolvedModels (r : Registry) : Checked Models := do
  return ⟨← r.files.mapM ModelFile.resolvedModel⟩

end Registry

end DecoratorSets
