import DecoratorSets.Calendar.Timestamp
import DecoratorSets.Registry.Lineage
import DecoratorSets.Value.Table

/-!
# Payloads that conform to declarations

A payload conforms to a declaration if its type can have instances, every field
that it has is a property of the type or of one of its ancestors, every
property that is not optional has a value, and every value is of the type of
its property. An object may name its own type, which then has to be the
expected one or extend it; where it does not, the expected type is its type.

The check walks the payload. Properties are visited in the order of the
declarations, not of the payload, so the checks of the members are prepared
first – one for each member, by recursion on the payload – and the properties
then pick theirs by name.
-/

namespace DecoratorSets

/-! ## Primitive values -/

/-- The primitive types. -/
inductive Primitive where
  | string
  | boolean
  | integer
  | number
  | timestamp
deriving DecidableEq

namespace Primitive

/-- Whether a value is of a primitive type. Truth values are no numbers, and an
integer is a number. -/
def admits : Primitive → Value → Bool
  | .string, .str _ => true
  | .boolean, .bool _ => true
  | .integer, .int _ => true
  | .number, .int _ => true
  | .number, .num _ => true
  | .timestamp, .str s => isTimestamp s
  | _, _ => false

end Primitive

/-- The primitive type that properties of a kind hold, for the kinds that do
not refer to a declaration. -/
def PropertyKind.primitive? : PropertyKind → Option Primitive
  | .string => some .string
  | .boolean => some .boolean
  | .integer => some .integer
  | .long => some .integer
  | .double => some .number
  | .dateTime => some .timestamp
  | _ => none

/-- The primitive type that a scalar declaration names. -/
def DeclarationKind.primitive? : DeclarationKind → Option Primitive
  | .stringScalar => some .string
  | .booleanScalar => some .boolean
  | .integerScalar => some .integer
  | .longScalar => some .integer
  | .doubleScalar => some .number
  | .dateTimeScalar => some .timestamp
  | _ => none

namespace Registry

/-- Fails with a nonconformity at some place of the payload. -/
def reject {α : Type} (cause : Nonconformity) (path : String) : Checked α :=
  .error (.command (.nonconforming cause path) none)

/-- The check of a value against a property, which the first handle owns or
inherits, at some place of the payload. -/
abbrev FieldCheck := Handle → Property → String → Checked Unit

/-! ## Types of objects -/

/-- The declaration that the class name of an object names. -/
def classHandle (r : Registry) (className path : String) : Checked Handle :=
  match r.lookup? className with
  | some h => .ok h
  | none => reject (.unknownClass className) path

/-- The type of an object: the one that it names, which has to fit the expected
one, or else the expected one. -/
def objectType (r : Registry) (ms : Members) (expected : Option Handle) (path : String) :
    Checked Handle :=
  match (ms.get? classKey).getD .null with
  | .null =>
    match expected with
    | some h => .ok h
    | none => reject .noClass path
  | .str className => do
    let h ← r.classHandle className path
    match expected with
    | none => return h
    | some e =>
      if ← r.isAssignable h e then return h
      reject (.notAssignable h.fullName e.fullName) path
  | v => reject (.classNotText v) path

/-- Whether a declaration can have instances. -/
def isInstantiable (h : Handle) : Bool :=
  !h.declaration.isAbstract && h.declaration.kind.isClassLike

/-- The properties of a declaration by name. The nearest declaration of a name
counts, and of two in one declaration the last. -/
def propertyTable (r : Registry) (h : Handle) : Checked (Table Property) := do
  Table.byName Property.name (← r.properties h)

/-! ## Objects, given the checks of their members -/

/-- Checks that every member of an object is a property. -/
def checkKnown (h : Handle) (table : Table Property) (path : String) : List Value → Checked Unit
  | [] => .ok ()
  | key :: rest =>
    if key ≠ .str classKey ∧ !table.has key then
      reject (.unknownField key h.fullName) (path ++ "." ++ key.text)
    else checkKnown h table path rest

/-- What belongs to the member of an object under the name of a property. -/
def memberNamed {α : Type} (entries : List (Value × α)) (name : Value) : Option α :=
  (entries.find? fun entry => entry.1.sameKey name).map Prod.snd

/-- Checks the members of an object against its properties. -/
def checkProperties (h : Handle) (ms : Members) (checks : List (Value × FieldCheck))
    (path : String) : Table Property → Checked Unit
  | [] => .ok ()
  | (name, p) :: rest => do
    let fieldPath := path ++ "." ++ name.text
    match memberNamed ms name, memberNamed checks name with
    | none, _ | some .null, _ | _, none =>
      if !p.isOptional then reject (.missingField name) fieldPath
    | some _, some check => check h p fieldPath
    checkProperties h ms checks path rest

/-- Checks an object against an expected type. -/
def checkObject (r : Registry) (ms : Members) (checks : List (Value × FieldCheck))
    (expected : Option Handle) (path : String) : Checked Unit := do
  let h ← r.objectType ms expected path
  if !isInstantiable h then
    reject (.notInstantiable h.fullName) path
  let table ← r.propertyTable h
  checkKnown h table path ms.keys
  checkProperties h ms checks path table

/-! ## Values of properties -/

/-- The texts of the members of an enumeration, as a message lists them. -/
def listTexts (values : List Value) : Checked (List String) :=
  values.mapM fun v =>
    match v with
    | .str s => .ok s
    | _ => misuse .joinOfNonText

/-- Checks a value against the declaration that the type of its property refers
to. -/
def checkAgainst (r : Registry) (v : Value) (checks : List (Value × FieldCheck))
    (target : Handle) (path : String) : Checked Unit :=
  match target.declaration.kind, target.declaration.kind.primitive? with
  | .enum, _ => do
    let allowed := target.declaration.ownProperties.map Property.name
    if !allowed.any v.sameAs then
      reject (.notInEnum v target.fullName (← listTexts allowed)) path
  | _, some primitive =>
    if primitive.admits v then .ok () else reject (.notAScalar v target.fullName) path
  | _, none =>
    match v with
    | .object _ ms => r.checkObject ms checks (some target) path
    | v => reject (.notAnObject v) path

/-- Checks a single value against a property, given the checks of the members
that the value has if it is an object. -/
def checkSingle (r : Registry) (v : Value) (checks : List (Value × FieldCheck)) : FieldCheck :=
  fun owner p path =>
    match p.kind.primitive? with
    | some primitive =>
      if primitive.admits v then .ok () else reject (.notPrimitive p.kind.baseName v) path
    | none =>
      if p.kind = .relationship then
        match v with
        | .str _ => .ok ()
        | v => reject (.notARelationship v) path
      else
        match r.propertyType owner p with
        | .error (.typeNotFound name context) => reject (.unresolvedType name context) path
        | .error e => .error e
        | .ok target => r.checkAgainst v checks target path

/-- Checks items of a list one after the other, from a position on. -/
def checkEach (owner : Handle) (p : Property) (path : String) :
    Nat → List FieldCheck → Checked Unit
  | _, [] => .ok ()
  | i, check :: rest => do
    check owner p (path ++ "[" ++ toString i ++ "]")
    checkEach owner p path (i + 1) rest

/-- The check of a value that is no list: a property that holds an array refuses
it. -/
def unlessArray (v : Value) (check : FieldCheck) : FieldCheck :=
  fun owner p path => if p.isArray then reject (.notAnArray v) path else check owner p path

/-! ## The walk over the payload -/

mutual

/-- The check of a value as a single value. -/
def singleCheck (r : Registry) : Value → FieldCheck
  | .object l ms => r.checkSingle (.object l ms) (memberChecks r ms)
  | v => r.checkSingle v []

/-- The check of a value as the value of a property. -/
def fieldCheck (r : Registry) : Value → FieldCheck
  | .object l ms => unlessArray (.object l ms) (r.checkSingle (.object l ms) (memberChecks r ms))
  | .list l items => fun owner p path =>
    if p.isArray then checkEach owner p path 0 (itemChecks r items)
    else r.checkSingle (.list l items) [] owner p path
  | v => unlessArray v (r.checkSingle v [])

/-- The checks of the members of an object, by name. -/
def memberChecks (r : Registry) : List (Value × Value) → List (Value × FieldCheck)
  | [] => []
  | (key, v) :: rest => (key, fieldCheck r v) :: memberChecks r rest

/-- The checks of the items of a list. -/
def itemChecks (r : Registry) : List Value → List FieldCheck
  | [] => []
  | v :: rest => singleCheck r v :: itemChecks r rest

end

/-- Checks that a payload conforms to the type that it names, or else to the
default class, which has to exist where one is given. -/
def checkInstance (r : Registry) (payload : Value) (defaultClass : Option String) :
    Checked Unit := do
  let expected ← match defaultClass with
    | none => pure none
    | some className => some <$> r.classHandle className "$"
  match payload with
  | .object _ ms => r.checkObject ms (r.memberChecks ms) expected "$"
  | v => reject (.notAnObject v) "$"

end Registry

end DecoratorSets
