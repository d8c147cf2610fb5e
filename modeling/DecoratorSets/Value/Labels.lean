import DecoratorSets.Value.Basic

/-!
# Labels after copying

A label reaches as far as its part is copied as one. What is copied piece by
piece keeps the labels inside each piece only: their reach becomes shorter, or
the pieces become their owners. `Value.relabel` changes the labels of a value
and nothing else.
-/

namespace DecoratorSets

namespace Label

/-- The label inside parts of some reach only. -/
def within (reach : Reach) (l : Label) : Label := { l with reach }

/-- The label inside what an owner was copied with. -/
def ownedBy (owner : String) (l : Label) : Label := { l with owners := owner :: l.owners }

/-- The label at a place, if it does not reach beyond such places. -/
def placedAt (reach : Reach) (place : List Nat) (l : Label) : Label :=
  if l.reach = reach then { l with place } else l

end Label

namespace Value

mutual

/-- A value with changed labels. -/
def relabel (change : Label → Label) : Value → Value
  | .moment label m => .moment (label.map change) m
  | .list label items => .list (label.map change) (relabelItems change items)
  | .pair a b => .pair (relabel change a) (relabel change b)
  | .set label items => .set (label.map change) (relabelItems change items)
  | .object label members => .object (label.map change) (relabelMembers change members)
  | v => v

/-- Values with changed labels. -/
def relabelItems (change : Label → Label) : List Value → List Value
  | [] => []
  | v :: rest => relabel change v :: relabelItems change rest

/-- Members with changed labels. -/
def relabelMembers (change : Label → Label) : List (Value × Value) → List (Value × Value)
  | [] => []
  | (k, v) :: rest => (relabel change k, relabel change v) :: relabelMembers change rest

end

end Value

end DecoratorSets
