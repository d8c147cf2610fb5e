import DecoratorSets.Json.Writer
import DecoratorSets.Value.Inspect

/-!
# What can go wrong

Every failure of the library is one of the causes below, with what a caller
needs to tell what went wrong and where. The wording is in `Failure.message`
alone. Three families meet here: documents that are not what they should be,
models that cannot be loaded or whose types cannot be found, and commands that
are malformed or point at nothing.

Documents are read without a check of their shape, so a document of an
unexpected shape shows itself at the first operation that its values do not
admit. These are the cases of `Misuse`; they are named for the operation. The
text of a document may also hold a literal that stands for no value
(`LiteralFault`).
-/

namespace DecoratorSets

/-- An operation that a value of its shape does not admit. -/
inductive Misuse where
  /-- An optional member of something that is no object. -/
  | membersOfNonObject
  /-- A piece of something that is no text. -/
  | partsOfNonText
  /-- A text as a piece of bytes. -/
  | textInBytes
  /-- A required member of something that is no object. -/
  | indexOfNonObject
  /-- The items of something that has none. -/
  | itemsOfScalar
  /-- A search in something that holds nothing, or for something that it cannot
  hold. -/
  | searchInNonContainer
  /-- A list, a set or an object as a name in a table or a set. -/
  | compositeKey
  /-- A text built from something that is no text. -/
  | joinOfNonText
  /-- An argument marked as a type reference that holds no type. -/
  | typelessReference
deriving DecidableEq

/-- A literal of a document that stands for no value. -/
inductive LiteralFault where
  | numeral (cause : NumeralFault)
  /-- A number in base sixty with a place that is greater than all doubles. -/
  | beyondDoubles
  /-- A word that is no truth value. -/
  | notATruth (word : String)
  /-- A text that is not that of a moment. -/
  | notAMoment
  | moment (cause : MomentFault)
  /-- An object where the text of a moment was expected. -/
  | momentOfObject
  /-- A code point that is no character. -/
  | beyondUnicode
  /-- A number of a character that does not fit into a machine word. -/
  | beyondWord
deriving DecidableEq

/-- A way in which a payload does not conform to the declaration it is read
as. -/
inductive Nonconformity where
  | notAnObject (value : Value)
  | noClass
  | classNotText (value : Value)
  | unknownClass (className : String)
  | notAssignable (actual expected : String)
  | notInstantiable (typeName : String)
  | unknownField (field : Value) (typeName : String)
  | missingField (field : Value)
  | notAnArray (value : Value)
  | notPrimitive (kind : String) (value : Value)
  | notARelationship (value : Value)
  | unresolvedType (typeName context : Value)
  | notInEnum (value : Value) (typeName : String) (allowed : List String)
  | notAScalar (value : Value) (typeName : String)
deriving DecidableEq

/-- A reason to refuse a model. -/
inductive ModelFault where
  | malformedNamespace (namespaceText : String)
  | alreadyLoaded (namespaceText : String)
  | declaredTwice (namespaceText : String) (names : List String)
deriving DecidableEq

/-- A reason to refuse a command or a command set. -/
inductive CommandFault where
  | nonconforming (cause : Nonconformity) (path : String)
  | conflictingTarget
  | unknownNamespace (namespaceName : Value)
  | unknownDeclaration (namespaceName declaration : Value)
  | unknownProperty (namespaceName declaration property : Value)
  | unknownType (type : Value)
  | unknownCommandType (type : Value)
deriving DecidableEq

/-- A failure and its cause. -/
inductive Failure where
  /-- A namespace with more than one `@`. -/
  | malformedNamespace (namespaceText : String)
  /-- A type name without a namespace in front. -/
  | unqualifiedName (typeName : String)
  /-- A discriminator that names no kind of its family. -/
  | unknownKind (family className : String)
  /-- A node without a discriminator. -/
  | missingClass (node : Value)
  /-- A model without a namespace. -/
  | missingNamespace
  /-- A bare argument whose value is of no literal kind. -/
  | unknownLiteral (value : Value)
  /-- A sequence that should hold pairs, with an item of another length. -/
  | unevenPair (position length : Nat)
  /-- An object without a member that it has to have. -/
  | missingMember (key : String)
  | misuse (cause : Misuse)
  /-- A document that has no text. -/
  | unwritable (cause : WritingFault)
  | illegalModel (cause : ModelFault)
  | typeNotFound (typeName context : Value)
  /-- A refused command, with the document of the command where it is known. -/
  | command (cause : CommandFault) (document : Option Value)
  | unreadableJson
  | unreadableYaml
  | literal (cause : LiteralFault)
deriving DecidableEq

/-! ## Wording -/

/-- The wording of a type that cannot be found. -/
def typeNotFoundText (typeName context : Value) : String :=
  "Type " ++ typeName.inspect ++ " does not exist"
    ++ (if context.isBlank then "" else " (referenced by " ++ context.text ++ ")")

/-- The wording of a malformed namespace. -/
def malformedNamespaceText (namespaceText : String) : String :=
  "Invalid namespace " ++ quoted namespaceText

/-- The wording of a literal that stands for no value. -/
def LiteralFault.text : LiteralFault → String
  | .numeral cause => cause.text
  | .beyondDoubles => "int too large to convert to float"
  | .notATruth word => quoted word
  | .notAMoment => ""
  | .moment cause => cause.text
  | .momentOfObject => ""
  | .beyondUnicode => "chr() arg not in range(0x110000)"
  | .beyondWord => "Python int too large to convert to C int"

/-- The wording of a nonconformity, without the place where it was found. -/
def Nonconformity.text : Nonconformity → String
  | .notAnObject value => "Expected an object, got " ++ value.inspect
  | .noClass => "Object has no '$class'"
  | .classNotText value => "'$class' must be a string, got " ++ value.inspect
  | .unknownClass className => "Unknown $class " ++ quoted className
  | .notAssignable actual expected => actual ++ " is not a " ++ expected
  | .notInstantiable typeName => "Cannot create an instance of " ++ typeName
  | .unknownField field typeName => "Unknown field " ++ field.inspect ++ " for " ++ typeName
  | .missingField field => "Missing required field " ++ field.inspect
  | .notAnArray value => "Expected an array, got " ++ value.inspect
  | .notPrimitive kind value => "Expected a " ++ kind ++ " value, got " ++ value.inspect
  | .notARelationship value => "Expected a relationship URI, got " ++ value.inspect
  | .unresolvedType typeName context => typeNotFoundText typeName context
  | .notInEnum value typeName allowed =>
    "Invalid value " ++ value.inspect ++ " for enum " ++ typeName ++ "; expected one of "
      ++ ", ".intercalate allowed
  | .notAScalar value typeName =>
    "Invalid value " ++ value.inspect ++ " for scalar " ++ typeName

/-- The wording of a reason to refuse a model. -/
def ModelFault.text : ModelFault → String
  | .malformedNamespace namespaceText => malformedNamespaceText namespaceText
  | .alreadyLoaded namespaceText =>
    "Namespace " ++ quoted namespaceText ++ " is already loaded"
  | .declaredTwice namespaceText names =>
    "Namespace " ++ quoted namespaceText ++ " declares " ++ ", ".intercalate names
      ++ " more than once"

/-- The wording of a reason to refuse a command, without the command. -/
def CommandFault.description : CommandFault → String
  | .nonconforming cause path => cause.text ++ " at " ++ path
  | .conflictingTarget =>
    "Decorator Command references both property and properties. "
      ++ "You must either reference a single property or a list of properties"
  | .unknownNamespace namespaceName =>
    "Decorator Command references namespace " ++ namespaceName.inspect ++ " which does not exist"
  | .unknownDeclaration namespaceName declaration =>
    "Decorator Command references declaration " ++ declaration.inspect
      ++ " which does not exist in namespace " ++ namespaceName.inspect
  | .unknownProperty namespaceName declaration property =>
    "Decorator Command references property " ++ namespaceName.text ++ "." ++ declaration.text
      ++ "." ++ property.text ++ " which does not exist"
  | .unknownType type =>
    "Decorator Command references type " ++ type.inspect ++ " which does not exist"
  | .unknownCommandType type => "Unknown command type " ++ type.text

namespace Failure

/-- The wording of a failure. A refused command is shown in full behind the
reason for its refusal. -/
def message : Failure → String
  | .malformedNamespace namespaceText => malformedNamespaceText namespaceText
  | .unqualifiedName typeName => quoted typeName ++ " is not a fully qualified type name"
  | .unknownKind family className => "Unknown " ++ family ++ " " ++ quoted className
  | .missingClass node => "Node is missing its '$class' discriminator: " ++ node.inspect
  | .missingNamespace => "Model is missing its 'namespace'"
  | .unknownLiteral value => "Cannot infer a decorator literal kind for " ++ value.inspect
  | .unevenPair position length =>
    "dictionary update sequence element #" ++ toString position ++ " has length "
      ++ toString length ++ "; 2 is required"
  | .missingMember key => quoted key
  | .misuse _ => ""
  | .unwritable cause => cause.text
  | .illegalModel cause => cause.text
  | .typeNotFound typeName context => typeNotFoundText typeName context
  | .command cause none => cause.description
  | .command cause (some document) =>
    cause.description ++ ": " ++ (Json.message.render document).toOption.getD ""
  | .unreadableJson => ""
  | .unreadableYaml => ""
  | .literal cause => cause.text

end Failure

/-- The label under which a refused command is reported. -/
def CommandFault.label : CommandFault → String
  | .nonconforming _ _ => "StructuralValidationError"
  | .conflictingTarget => "ConflictingTargetError"
  | .unknownNamespace _ => "UnknownNamespaceError"
  | .unknownDeclaration _ _ => "UnknownDeclarationError"
  | .unknownProperty _ _ _ => "UnknownPropertyError"
  | .unknownType _ => "UnknownTypeError"
  | .unknownCommandType _ => "UnknownCommandTypeError"

/-- The label under which a literal that stands for no value is reported. -/
def LiteralFault.label? : LiteralFault → Option String
  | .numeral .empty => none
  | .numeral _ | .moment _ | .beyondUnicode => some "ValueError"
  | .notATruth _ => some "KeyError"
  | .notAMoment | .momentOfObject | .beyondWord | .beyondDoubles => none

/-- The label under which a failure is reported to a user. Failures without a
label are defects of the input that are not reported but end the program. -/
def Failure.label? : Failure → Option String
  | .malformedNamespace _ | .unqualifiedName _ | .unknownKind _ _ | .missingClass _
  | .missingNamespace | .unknownLiteral _ | .unevenPair _ _ => some "ValueError"
  | .missingMember _ => some "KeyError"
  | .unwritable .unwritable => none
  | .unwritable _ => some "ValueError"
  | .illegalModel _ => some "IllegalModelError"
  | .typeNotFound _ _ => some "TypeNotFoundError"
  | .command cause _ => some cause.label
  | .literal cause => cause.label?
  | .misuse _ | .unreadableJson | .unreadableYaml => none

/-- Failures about models and commands, as opposed to faults of a document. -/
def Failure.isDomain : Failure → Bool
  | .illegalModel _ | .typeNotFound _ _ | .command _ _ => true
  | _ => false

end DecoratorSets
