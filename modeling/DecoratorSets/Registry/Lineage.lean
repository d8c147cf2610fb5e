import DecoratorSets.Registry.Lookup

/-!
# Lineages

The lineage of a declaration is the declaration itself, the one it extends, the
one that one extends, and so on. It ends at a declaration that extends nothing;
but super types may also go round in a circle, or refer to a type that does not
exist. The lineage is therefore a list together with the way it ends. A search
along it meets the ending only if it finds nothing before.

Climbing ends because every type name is passed once: the names that were not
passed yet become fewer at each step.
-/

namespace DecoratorSets

/-- How a lineage ends. -/
inductive Ending where
  /-- At a declaration that extends nothing. -/
  | complete
  /-- At a declaration that extends one of the lineage. -/
  | cycle
  /-- At a super type that cannot be looked up. -/
  | failed (cause : Failure)
deriving DecidableEq

/-- A declaration and its ancestors, nearest first. -/
structure Lineage where
  handles : List Handle
  ending : Ending
deriving DecidableEq

namespace Lineage

/-- The lineage below a declaration. -/
def below (h : Handle) (l : Lineage) : Lineage := ⟨h :: l.handles, l.ending⟩

/-- A search along a lineage: what was found, or the failure that it ends in. -/
def settle {α : Type} (l : Lineage) (found : Option α) : Checked (Option α) :=
  match found, l.ending with
  | some a, _ => .ok (some a)
  | none, .failed cause => .error cause
  | none, _ => .ok none

/-- All declarations of a lineage that does not end in a failure. -/
def all (l : Lineage) : Checked (List Handle) :=
  match l.ending with
  | .failed cause => .error cause
  | _ => .ok l.handles

end Lineage

namespace Registry

/-- The full names of all declarations. -/
def typeNames (r : Registry) : List String :=
  r.files.flatMap fun f => f.declarations.map fun d => (Handle.mk f d).fullName

/-- The names that remain once a name was passed. -/
def passing (name : String) (unseen : List String) : List String :=
  unseen.filter (· ≠ name)

theorem length_passing_lt {name : String} {unseen : List String} (h : name ∈ unseen) :
    (passing name unseen).length < unseen.length :=
  List.length_filter_lt_length_iff_exists.2 ⟨name, h, by simp⟩

/-- The lineage from a declaration upwards, along names that were not passed
yet. -/
def climb (r : Registry) (unseen : List String) (h : Handle) : Lineage :=
  match r.superType h with
  | .error cause => ⟨[h], .failed cause⟩
  | .ok none => ⟨[h], .complete⟩
  | .ok (some up) =>
    if up.fullName ∈ unseen then
      (climb r (passing up.fullName unseen) up).below h
    else ⟨[h], .cycle⟩
termination_by unseen.length
decreasing_by
  rename_i passed
  exact length_passing_lt passed

/-- The lineage of a declaration. -/
def lineage (r : Registry) (h : Handle) : Lineage :=
  r.climb (passing h.fullName r.typeNames) h

/-- The property of a name that a declaration has or inherits. -/
def property? (r : Registry) (h : Handle) (name : Value) : Checked (Option Property) :=
  let l := r.lineage h
  l.settle (l.handles.findSome? fun a => a.declaration.property? name)

/-- All properties of a declaration, inherited ones first. -/
def properties (r : Registry) (h : Handle) : Checked (List Property) := do
  return (← (r.lineage h).all).reverse.flatMap fun a => a.declaration.ownProperties

/-- Whether a declaration is another or extends it. -/
def isAssignable (r : Registry) (h other : Handle) : Checked Bool := do
  let l := r.lineage h
  return (← l.settle (l.handles.find? fun a => a.fullName == other.fullName)).isSome

end Registry

end DecoratorSets
