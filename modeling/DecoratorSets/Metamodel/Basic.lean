import DecoratorSets.Metamodel.Kind

/-!
# Models

A document of models holds one model for each namespace; a model holds
declarations, and declarations hold properties. Each of the three carries a
list of decorators or none: *no list* and *an empty list* are different things
on the wire, and are kept apart.

Documents are taken as they come. Names, namespaces and the values of
arguments are therefore document values: whether they are text is found out
only when they are used as text. What the library does not interpret –
imports, validators, default values – is kept verbatim as `extras`, so that a
document loses nothing by being read and written.
-/

namespace DecoratorSets

/-- A reference to a type. A null namespace stands for an absent one. -/
structure TypeIdentifier where
  name : Value
  namespaceName : Value
deriving DecidableEq

/-- The full name of the type, where the namespace is given. -/
def TypeIdentifier.fullName? (ident : TypeIdentifier) : Option String :=
  ident.namespaceName.ifPresent.map fun ns => typeName ns.text ident.name.text

/-- The form in which a message shows a reference. -/
def TypeIdentifier.inspect (ident : TypeIdentifier) : String :=
  "TypeIdentifier(name=" ++ ident.name.inspect ++ ", namespace=" ++ ident.namespaceName.inspect
    ++ ")"

/-- An argument of a decorator: a literal, which is any value under the name of
a literal kind, or a reference to a type. -/
inductive Argument where
  | literal (kind : LiteralKind) (value : Value)
  | reference (type : TypeIdentifier) (isArray : Bool)
deriving DecidableEq

namespace Argument

/-- The kind of an argument. -/
def kind : Argument → ArgumentKind
  | .literal k _ => .literal k
  | .reference _ _ => .typeReference

/-- The argument as a piece of text. -/
def text : Argument → String
  | .literal _ value => value.text
  | .reference type _ => type.inspect

end Argument

/-- A named annotation, with a list of arguments or none. -/
structure Decorator where
  name : Value
  arguments : Option (List Argument)
  extras : Members
deriving DecidableEq

/-- A field of a declaration. -/
structure Property where
  name : Value
  kind : PropertyKind
  isArray : Bool
  isOptional : Bool
  type : Option TypeIdentifier
  decorators : Option (List Decorator)
  extras : Members
deriving DecidableEq

/-- A type defined by a model. Scalars and maps have no list of properties. -/
structure Declaration where
  name : Value
  kind : DeclarationKind
  properties : Option (List Property)
  isAbstract : Bool
  superType : Option TypeIdentifier
  decorators : Option (List Decorator)
  extras : Members
deriving DecidableEq

/-- The declarations of a namespace. -/
structure Model where
  namespaceName : Value
  declarations : List Declaration
  decorators : Option (List Decorator)
  extras : Members
deriving DecidableEq

/-- A document of models. -/
structure Models where
  models : List Model
deriving DecidableEq

namespace Declaration

/-- The properties of a declaration; none where it has no list of them. -/
def ownProperties (d : Declaration) : List Property := d.properties.getD []

/-- The first property of a name that the declaration itself declares. -/
def property? (d : Declaration) (name : Value) : Option Property :=
  d.ownProperties.find? fun p => p.name.sameAs name

end Declaration

namespace Model

/-- The first declaration of a name. -/
def declaration? (m : Model) (name : Value) : Option Declaration :=
  m.declarations.find? fun d => d.name.sameAs name

end Model

end DecoratorSets
