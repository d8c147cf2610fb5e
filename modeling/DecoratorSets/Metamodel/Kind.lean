import DecoratorSets.Namespace

/-!
# Kinds of nodes

Declarations, properties and the arguments of decorators come in a fixed
number of kinds. On the wire a kind is the name of a type of the metamodel,
which may be given in full or by its short name alone; it is always written in
full.
-/

namespace DecoratorSets

/-- The name of the member that tells the kind of a node. -/
def classKey : String := "$class"

/-- The namespace of the metamodel. -/
def metamodelNamespace : String := "concerto.metamodel@1.0.0"

/-- The full name of a type of the metamodel. -/
def metamodelClass (name : String) : String := typeName metamodelNamespace name

/-- The kind of a family whose type name is the short form of a class name. -/
def kindOfClass {α : Type} (family : String) (kinds : List α) (nameOf : α → String)
    (className : String) : Checked α :=
  match kinds.find? fun kind => nameOf kind == shortName className with
  | some kind => .ok kind
  | none => .error (.unknownKind family className)

/-! ## Declarations -/

/-- The kinds of declarations of a model. -/
inductive DeclarationKind where
  | concept
  | asset
  | participant
  | transaction
  | event
  | enum
  | map
  | booleanScalar
  | integerScalar
  | longScalar
  | doubleScalar
  | stringScalar
  | dateTimeScalar
deriving DecidableEq

namespace DeclarationKind

/-- All kinds, in the order in which the metamodel lists them. -/
def all : List DeclarationKind :=
  [.concept, .asset, .participant, .transaction, .event, .enum, .map, .booleanScalar,
   .integerScalar, .longScalar, .doubleScalar, .stringScalar, .dateTimeScalar]

/-- The type of the metamodel that stands for a kind. -/
def typeName : DeclarationKind → String
  | .concept => "ConceptDeclaration"
  | .asset => "AssetDeclaration"
  | .participant => "ParticipantDeclaration"
  | .transaction => "TransactionDeclaration"
  | .event => "EventDeclaration"
  | .enum => "EnumDeclaration"
  | .map => "MapDeclaration"
  | .booleanScalar => "BooleanScalar"
  | .integerScalar => "IntegerScalar"
  | .longScalar => "LongScalar"
  | .doubleScalar => "DoubleScalar"
  | .stringScalar => "StringScalar"
  | .dateTimeScalar => "DateTimeScalar"

/-- The class name of a kind, in full. -/
def className (kind : DeclarationKind) : String := metamodelClass kind.typeName

/-- The kind that a class name stands for. -/
def ofClassName : String → Checked DeclarationKind :=
  kindOfClass "DeclarationKind" all typeName

/-- Declarations that name a restricted primitive. -/
def isScalar : DeclarationKind → Bool
  | .booleanScalar | .integerScalar | .longScalar | .doubleScalar | .stringScalar
  | .dateTimeScalar => true
  | _ => false

/-- Declarations that have instances with fields. -/
def isClassLike : DeclarationKind → Bool
  | .concept | .asset | .participant | .transaction | .event => true
  | _ => false

end DeclarationKind

/-! ## Properties -/

/-- The kinds of properties of a declaration. -/
inductive PropertyKind where
  | string
  | boolean
  | dateTime
  | double
  | integer
  | long
  | object
  | relationship
  | enum
deriving DecidableEq

namespace PropertyKind

/-- All kinds, in the order in which the metamodel lists them. -/
def all : List PropertyKind :=
  [.string, .boolean, .dateTime, .double, .integer, .long, .object, .relationship, .enum]

/-- The name of what a property of a kind holds. -/
def baseName : PropertyKind → String
  | .string => "String"
  | .boolean => "Boolean"
  | .dateTime => "DateTime"
  | .double => "Double"
  | .integer => "Integer"
  | .long => "Long"
  | .object => "Object"
  | .relationship => "Relationship"
  | .enum => "Enum"

/-- The type of the metamodel that stands for a kind. -/
def typeName (kind : PropertyKind) : String := kind.baseName ++ "Property"

/-- The class name of a kind, in full. -/
def className (kind : PropertyKind) : String := metamodelClass kind.typeName

/-- The kind that a class name stands for. -/
def ofClassName : String → Checked PropertyKind :=
  kindOfClass "PropertyKind" all typeName

end PropertyKind

/-! ## Arguments of decorators -/

/-- The kinds of literal arguments. -/
inductive LiteralKind where
  | string
  | number
  | boolean
deriving DecidableEq

/-- The kinds of arguments: literals of some kind, and references to types. -/
inductive ArgumentKind where
  | literal (kind : LiteralKind)
  | typeReference
deriving DecidableEq

namespace ArgumentKind

/-- All kinds, in the order in which the metamodel lists them. -/
def all : List ArgumentKind :=
  [.literal .string, .literal .number, .literal .boolean, .typeReference]

/-- The type of the metamodel that stands for a kind. -/
def typeName : ArgumentKind → String
  | .literal .string => "DecoratorString"
  | .literal .number => "DecoratorNumber"
  | .literal .boolean => "DecoratorBoolean"
  | .typeReference => "DecoratorTypeReference"

/-- The class name of a kind, in full. -/
def className (kind : ArgumentKind) : String := metamodelClass kind.typeName

/-- The kind that a class name stands for. -/
def ofClassName : String → Checked ArgumentKind :=
  kindOfClass "DecoratorLiteralKind" all typeName

end ArgumentKind

/-- The kind of literal that a bare value is. -/
def LiteralKind.ofValue : Value → Checked LiteralKind
  | .bool _ => .ok .boolean
  | .int _ | .num _ => .ok .number
  | .str _ => .ok .string
  | v => .error (.unknownLiteral v)

end DecoratorSets
