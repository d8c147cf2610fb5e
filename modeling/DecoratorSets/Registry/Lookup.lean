import DecoratorSets.Registry.Basic

/-!
# Looking up namespaces and types

A namespace names the file that was loaded under it. An unversioned namespace
that no file was loaded under names the first file that differs from it by a
version alone. A type is looked up in the file of its namespace.

Inside a model a type may be named without its namespace. It is then a type of
the model itself, or one that an import brings in; the first import that fits
decides.
-/

namespace DecoratorSets

/-- A declaration and the file it was found in. -/
structure Handle where
  file : ModelFile
  declaration : Declaration
deriving DecidableEq

namespace Handle

/-- The full name of the type that the declaration defines. -/
def fullName (h : Handle) : String :=
  typeName h.file.namespaceText h.declaration.name.text

/-- The form in which a handle is shown. -/
def inspect (h : Handle) : String := "DeclarationHandle(" ++ quoted h.fullName ++ ")"

end Handle

namespace Registry

/-! ## Files -/

/-- The file that was loaded under a namespace. -/
def file? (r : Registry) (namespaceText : String) : Option ModelFile :=
  r.files.find? fun f => f.namespaceText == namespaceText

/-- The file that was loaded under a namespace given as a value. -/
def fileOf (r : Registry) (namespaceName : Value) : Checked (Option ModelFile) :=
  match namespaceName with
  | .str s => .ok (r.file? s)
  | v => (fun _ => none) <$> v.asKey

/-- The file that a namespace names: the one that was loaded under it, or for a
namespace without a version the first that has it with one. -/
def find (r : Registry) (namespaceText : String) : Checked (Option ModelFile) :=
  match r.file? namespaceText with
  | some f => .ok (some f)
  | none => do
    let ns ← Namespace.parse namespaceText
    return match ns.version with
      | none => r.files.find? fun f => f.unversioned == ns.name
      | some _ => none

/-- The file that a namespace names, where the namespace is any value. -/
def findOf (r : Registry) (namespaceName : Value) : Checked (Option ModelFile) := do
  find r (← (← namespaceName.asKey).asText)

/-! ## Types -/

/-- The declaration that a type name names. -/
def lookup? (r : Registry) (fullName : String) : Option Handle :=
  match splitTypeName fullName with
  | .error _ => none
  | .ok (namespaceText, name) =>
    match r.find namespaceText with
    | .ok (some file) => (file.declaration? (.str name)).map (Handle.mk file)
    | _ => none

/-- The declaration that a type name names; it has to exist. -/
def getType (r : Registry) (fullName : String) : Checked Handle :=
  match r.lookup? fullName with
  | some h => .ok h
  | none => .error (.typeNotFound (.str fullName) "")

/-- Checks that a type exists, on behalf of the element that refers to it. -/
def requireType (r : Registry) (context : Value) (fullName : String) : Checked Unit :=
  match r.lookup? fullName with
  | some _ => .ok ()
  | none => .error (.typeNotFound (.str fullName) context)

end Registry

/-! ## Imports -/

namespace ModelFile

/-- Whether an import brings in a name: it is the name of the import, or one of
its list of names. -/
def importsName (name statement : Value) : Checked Bool := do
  if (← statement.member "name").sameAs name then return true
  match ← statement.member? "types" with
  | none => return false
  | some names => names.holdsValue name

/-- Whether an import brings in everything. -/
def importsAll (statement : Value) : Checked Bool := do
  match ← statement.member? classKey with
  | none => return false
  | some v => return "ImportAll".toList.isSuffixOf v.text.toList

/-- The namespace of the first of some imports that brings in a name, or null. -/
def firstImport (name : Value) : List Value → Checked Value
  | [] => .ok .null
  | statement :: rest => do
    let namespaceName ← statement.member "namespace"
    if (← importsName name statement) || (← importsAll statement) then return namespaceName
    firstImport name rest

/-- The namespace that an import brings a name from, or null. -/
def importedNamespace (f : ModelFile) (name : Value) : Checked Value :=
  match Members.get? f.extras "imports" with
  | none => .ok .null
  | some statements => do firstImport name (← statements.items)

/-- The namespace of a type that is named without one inside a file, or null. -/
def namespaceFor (f : ModelFile) (name : Value) : Checked Value :=
  match f.declaration? name with
  | some _ => .ok (.str f.namespaceText)
  | none => f.importedNamespace name

end ModelFile

namespace Registry

/-- The declaration that a reference inside a file refers to. -/
def resolve (r : Registry) (file : ModelFile) (ident : TypeIdentifier) : Checked Handle := do
  let namespaceName ←
    if ident.namespaceName.isBlank then file.namespaceFor ident.name
    else pure ident.namespaceName
  match namespaceName with
  | .null => throw (.typeNotFound ident.name file.namespaceText)
  | ns => r.getType (typeName ns.text ident.name.text)

/-- The declaration that the type of a property refers to, seen from the
declaration that owns the property. -/
def propertyType (r : Registry) (owner : Handle) (p : Property) : Checked Handle :=
  match p.type with
  | none => .error (.typeNotFound p.name owner.fullName)
  | some ident => r.resolve owner.file ident

/-- The declaration that a declaration extends. -/
def superType (r : Registry) (h : Handle) : Checked (Option Handle) :=
  match h.declaration.superType with
  | none => .ok none
  | some ident => some <$> r.resolve h.file ident

end Registry

end DecoratorSets
