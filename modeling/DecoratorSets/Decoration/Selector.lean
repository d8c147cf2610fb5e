import DecoratorSets.Value.Access

/-!
# Selectors

One rule decides at every level of a target whether it selects an element: a
blank selector selects everything, a text selects the elements that go by it,
and a list selects what any of its items selects. An element may go by several
names, as a model does by its namespace with and without version.
-/

namespace DecoratorSets

/-- Whether some names and some items have one in common. Names are tried one
after the other; one that is a list or an object cannot be looked for. -/
def anyShared (items : List Value) : List Value → Checked Bool
  | [] => .ok false
  | name :: rest => do
    if items.any (← name.asKey).sameAs then return true
    anyShared items rest

/-- Whether a selector selects an element that goes by some names. -/
def selects (selector : Value) (names : List Value) : Checked Bool :=
  if selector.isBlank then .ok true
  else
    match selector with
    | .str _ => .ok (names.any selector.sameAs)
    | _ => do anyShared (← (← selector.items).mapM Value.asKey) names

end DecoratorSets
