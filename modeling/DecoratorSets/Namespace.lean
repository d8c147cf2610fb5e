import DecoratorSets.Text.Parts
import DecoratorSets.Value.Access

/-!
# Namespaces and type names

A namespace is a dotted name, with or without a version behind an `@`. A type
is named by its namespace, a dot and its short name. The version may contain
dots of its own, so the short name is what follows the *last* dot, and the
namespace is everything before it.
-/

namespace DecoratorSets

/-- The two halves of a namespace. -/
structure Namespace where
  name : String
  version : Option String
deriving DecidableEq

namespace Namespace

/-- Reads a namespace. A second `@` makes it malformed. -/
def parse (s : String) : Checked Namespace :=
  match cutAt '@' s.toList with
  | (name, none) => .ok ⟨String.ofList name, none⟩
  | (name, some version) =>
    if version.contains '@' then .error (.malformedNamespace s)
    else .ok ⟨String.ofList name, some (String.ofList version)⟩

/-- The version, unless it is empty. -/
def properVersion (ns : Namespace) : Option String :=
  ns.version.filter (· ≠ "")

/-- The namespace as text. An empty version is left out, together with its
`@`. -/
def render (ns : Namespace) : String :=
  match ns.properVersion with
  | some version => ns.name ++ "@" ++ version
  | none => ns.name

end Namespace

/-- A namespace without its version. -/
def unversioned (s : String) : Checked String := Namespace.name <$> Namespace.parse s

/-- What follows the last dot of a type name; all of it where there is no
dot. -/
def shortName (s : String) : String :=
  String.ofList (cutAt '.' s.toList.reverse).1.reverse

/-- The namespace and the short name of a type name. -/
def splitTypeName (s : String) : Checked (String × String) :=
  match cutAt '.' s.toList.reverse with
  | (name, some (c :: front)) =>
    .ok (String.ofList (c :: front).reverse, String.ofList name.reverse)
  | _ => .error (.unqualifiedName s)

/-- The full name of a type. -/
def typeName (namespaceText name : String) : String := namespaceText ++ "." ++ name

end DecoratorSets
