import DecoratorSets.Extraction.Compile
import DecoratorSets.Extraction.Walk
import DecoratorSets.Registry.Snapshot

/-!
# Extracting from a registry

Extraction looks at the models of a registry in their resolved form. It gives a
new registry of what is left of them, and the index of their decorators
together with the command sets and the vocabularies that come of it.
-/

namespace DecoratorSets

/-- What extraction gives. -/
structure Extraction where
  registry : Registry
  commandSets : List CommandSet
  vocabularies : List String
  index : ExtractionIndex

/-- A set whose decorators have arguments that are copies of their own. -/
def CommandSet.withOwnArguments (set : CommandSet) : CommandSet :=
  let own (d : Decorator) : Decorator :=
    { d with arguments := d.arguments.map (·.map (Argument.relabel (Label.within .argument))) }
  { set with commands := set.commands.map fun c => { c with decorator := own c.decorator } }

/-- Extracts the decorators of a registry. -/
def Registry.extract (r : Registry) (remove : Bool) (locale : String) : Checked Extraction := do
  let (left, index) ← (← r.resolvedModels).extract remove
  let registry ← Registry.ofModels left false
  let commandSets := (← index.commandSets).map CommandSet.withOwnArguments
  let vocabularies ← index.vocabularies locale
  return { registry, commandSets, vocabularies, index }

end DecoratorSets
