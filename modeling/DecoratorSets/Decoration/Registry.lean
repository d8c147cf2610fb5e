import DecoratorSets.Command.Check
import DecoratorSets.Decoration.Apply
import DecoratorSets.Registry.Snapshot

/-!
# Decorating a registry

The models of a registry are decorated in their resolved form, after the checks
that are asked for, and make a new registry. Commands are checked only where
the structure of their set is.
-/

namespace DecoratorSets

/-- Which checks precede the decoration. -/
structure CheckLevel where
  structure? : Bool
  commands? : Bool

/-- The checks of a command set before it is carried out. -/
def CheckLevel.run (level : CheckLevel) (r : Registry) (source : CommandSetSource) :
    Checked CommandSet :=
  if level.structure? then do
    let schema ← source.validate r.files
    let set ← source.read
    if level.commands? then
      Command.checkAll schema set.commands
    return set
  else source.read

/-- A registry of the decorated models. -/
def Registry.decorate (r : Registry) (source : CommandSetSource) (level : CheckLevel) :
    Checked Registry := do
  let set ← level.run r source
  Registry.ofModels (← (← r.resolvedModels).decorate set) false

end DecoratorSets
