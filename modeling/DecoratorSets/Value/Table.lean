import DecoratorSets.Value.Access

/-!
# Tables by name

Where elements are gathered under their names – the properties of a
declaration, the terms of a vocabulary – the names come from documents and may
be any value that has no parts. A table lists its entries in the order in which their names
first occurred. Two names are one if they are loosely equal.
-/

namespace DecoratorSets

/-- Entries by name, in the order in which the names first occurred. -/
abbrev Table (α : Type) := List (Value × α)

namespace Table

variable {α : Type}

/-- The entry of a name. -/
def get? (t : Table α) (name : Value) : Option α :=
  (t.find? fun entry => entry.1.sameAs name).map Prod.snd

/-- Whether a name has an entry. -/
def has (t : Table α) (name : Value) : Bool := t.any fun entry => entry.1.sameAs name

/-- Changes the entry of a name; a name without one gets the changed default at
the end. -/
def modify (name : Value) (default : α) (change : α → α) : Table α → Table α
  | [] => [(name, change default)]
  | (n, a) :: rest =>
    if n.sameAs name then (n, change a) :: rest
    else (n, a) :: modify name default change rest

/-- Sets the entry of a name. -/
def put (name : Value) (a : α) (t : Table α) : Table α := modify name a (fun _ => a) t

/-- The table of some elements by name; of two with one name the later one
stays, at the place of the first. Names that cannot name anything are refused. -/
def byName (nameOf : α → Value) (elements : List α) : Checked (Table α) :=
  elements.foldlM (fun t a => do return put (← (nameOf a).asKey) a t) []

end Table

end DecoratorSets
