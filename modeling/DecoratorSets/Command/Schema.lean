import DecoratorSets.Command.Basic

/-!
# The schema of command sets

Command sets are described by two models of their own, so that a payload can be
checked like any other payload. One is the part of the metamodel that commands
refer to: decorators and their arguments, and a declaration for each kind of
declaration and property, so that the kind that a target names can be looked up
like a type. The other declares command sets, commands and targets.
-/

namespace DecoratorSets

namespace Schema

/-! ## Building declarations -/

/-- A reference to a type without its namespace. -/
def localType (name : String) : TypeIdentifier := ⟨.str name, .null⟩

/-- A property. -/
def field (name : String) (kind : PropertyKind) (type : Option String)
    (isArray isOptional : Bool) : Property where
  name := .str name
  kind := kind
  isArray := isArray
  isOptional := isOptional
  type := type.map localType
  decorators := none
  extras := []

/-- A property that has to be there and holds one primitive value. -/
def requiredField (name : String) (kind : PropertyKind) : Property :=
  field name kind none false false

/-- A property that may be left out and holds one primitive value. -/
def optionalField (name : String) (kind : PropertyKind) : Property :=
  field name kind none false true

/-- A declaration of a concept. -/
def concept (name : String) (superType : Option String) (isAbstract : Bool)
    (properties : List Property) : Declaration where
  name := .str name
  kind := .concept
  properties := some properties
  isAbstract := isAbstract
  superType := superType.map localType
  decorators := none
  extras := []

/-- A declaration of an enumeration. -/
def enumeration (name : String) (members : List String) : Declaration where
  name := .str name
  kind := .enum
  properties := some (members.map fun member => requiredField member .enum)
  isAbstract := false
  superType := none
  decorators := none
  extras := []

/-! ## The metamodel -/

/-- Decorators and their arguments. -/
def decoratorDeclarations : List Declaration :=
  [concept "TypeIdentifier" none false
     [requiredField "name" .string, optionalField "namespace" .string],
   concept "Decorator" none false
     [requiredField "name" .string, field "arguments" .object (some "DecoratorLiteral") true true],
   concept "DecoratorLiteral" none true [],
   concept "DecoratorString" (some "DecoratorLiteral") false [requiredField "value" .string],
   concept "DecoratorNumber" (some "DecoratorLiteral") false [requiredField "value" .double],
   concept "DecoratorBoolean" (some "DecoratorLiteral") false [requiredField "value" .boolean],
   concept "DecoratorTypeReference" (some "DecoratorLiteral") false
     [field "type" .object (some "TypeIdentifier") false false,
      optionalField "isArray" .boolean]]

/-- A declaration for every kind of declaration, below a common one. -/
def declarationDeclarations : List Declaration :=
  concept "Declaration" none true
      [requiredField "name" .string, field "decorators" .object (some "Decorator") true true]
    :: DeclarationKind.all.map fun kind => concept kind.typeName (some "Declaration") false []

/-- A declaration for every kind of property, below a common one. -/
def propertyDeclarations : List Declaration :=
  concept "Property" none true
      [requiredField "name" .string, optionalField "isArray" .boolean,
       optionalField "isOptional" .boolean, field "decorators" .object (some "Decorator") true true]
    :: PropertyKind.all.map fun kind => concept kind.typeName (some "Property") false []

/-- The part of the metamodel that command sets refer to. -/
def metamodel : Model where
  namespaceName := .str metamodelNamespace
  declarations := decoratorDeclarations ++ declarationDeclarations ++ propertyDeclarations
  decorators := none
  extras := []

/-! ## Command sets -/

/-- The namespace in which command sets are declared. -/
def commandsNamespace : String := "org.accordproject.decoratorcommands@0.3.0"

/-- The full name of the type of command sets. -/
def commandSetClass : String := typeName commandsNamespace "DecoratorCommandSet"

/-- The declarations of command sets and their parts. -/
def commandDeclarations : List Declaration :=
  [concept "DecoratorCommandSetReference" none false
     [requiredField "name" .string, requiredField "version" .string],
   enumeration "CommandType" ["UPSERT", "APPEND"],
   concept "CommandTarget" none false
     [optionalField "namespace" .string, optionalField "declaration" .string,
      optionalField "property" .string, field "properties" .string none true true,
      optionalField "type" .string],
   concept "Command" none false
     [field "target" .object (some "CommandTarget") false false,
      field "decorator" .object (some "Decorator") false false,
      field "type" .object (some "CommandType") false false],
   concept "DecoratorCommandSet" none false
     [requiredField "name" .string, requiredField "version" .string,
      field "includes" .object (some "DecoratorCommandSetReference") true true,
      field "commands" .object (some "Command") true false]]

/-- The import of decorators from the metamodel. -/
def decoratorImport : Value :=
  .object none [(classKey, .str (metamodelClass "ImportType")),
    ("namespace", .str metamodelNamespace), ("name", .str "Decorator")]

/-- The model that declares command sets. -/
def commands : Model where
  namespaceName := .str commandsNamespace
  declarations := commandDeclarations
  decorators := none
  extras := [("imports", .list none [decoratorImport])]

end Schema

end DecoratorSets
