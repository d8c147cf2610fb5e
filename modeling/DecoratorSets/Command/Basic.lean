import DecoratorSets.Metamodel.Basic

/-!
# Decorator commands

A command puts one decorator on all elements of the models that its target
selects. A target has one field for each level – namespace, declaration,
property, kind of property – and a field that is absent or blank selects
everything at its level. A command either replaces the decorators of the same
name or adds another one.

A command set is a named and versioned list of commands. Its references to
other sets are carried along and never followed.
-/

namespace DecoratorSets

/-- How a command merges its decorator with those that are there. -/
inductive CommandType where
  /-- Replaces every decorator of the same name, or adds the decorator if there
  is none. -/
  | upsert
  /-- Adds the decorator. -/
  | append
  /-- A type that is not known. A command of this type cannot be carried out. -/
  | other (type : Value)
deriving DecidableEq

namespace CommandType

/-- The type that a value names; other values are kept as they are. -/
def ofValue (v : Value) : CommandType :=
  if v = .str "UPSERT" then .upsert
  else if v = .str "APPEND" then .append
  else .other v

/-- The value that names a type. -/
def toValue : CommandType → Value
  | .upsert => .str "UPSERT"
  | .append => .str "APPEND"
  | .other v => v

end CommandType

/-- What a command applies to. A null field stands for an absent one. -/
structure CommandTarget where
  namespaceName : Value
  declaration : Value
  property : Value
  properties : Option (List Value)
  type : Value
deriving DecidableEq

/-- The names of properties that a target selects: its single property, or else
its list of properties. -/
def CommandTarget.propertySelector (t : CommandTarget) : Value :=
  if t.property.isBlank then Value.ofOption (t.properties.map (Value.list none)) else t.property

/-- Puts a decorator on everything that the target selects. -/
structure Command where
  target : CommandTarget
  decorator : Decorator
  type : CommandType
deriving DecidableEq

/-- A reference to another command set. -/
structure CommandSetReference where
  name : Value
  version : Value
deriving DecidableEq

/-- A named and versioned list of commands. -/
structure CommandSet where
  name : Value
  version : Value
  commands : List Command
  includes : Option (List CommandSetReference)
deriving DecidableEq

end DecoratorSets
