import DecoratorSets.Command.Basic
import DecoratorSets.Extraction.Vocabulary

/-!
# Command sets from recorded decorators

Each namespace of an index becomes a command set that puts the recorded
decorators back where they were found. The set goes by the name of the
namespace, which has to be text, and its version. Decorators that carry the words of a vocabulary are
left to the vocabulary.
-/

namespace DecoratorSets

/-- The version of the command set of a namespace that has none. -/
def defaultVersion : String := "1.0.0"

namespace IndexEntry

/-- The target of exactly the place of an entry. Blank names become absent. -/
def target (e : IndexEntry) (namespaceName : Value) : CommandTarget where
  namespaceName := namespaceName
  declaration := if e.declaration.isBlank then .null else e.declaration
  property := if e.property.isBlank then .null else e.property
  properties := none
  type := .null

/-- Whether a name is that of a decorator for vocabularies. A list or an object
is no name. -/
def isVocabularyName (name : Value) : Checked Bool := do
  let name ← name.asKey
  return name.sameAs (.str Terms.termName) || name.sameAs (.str Terms.descriptionName)

/-- A decorator as a command carries it: its name and arguments alone, and no
list of arguments in place of an empty one. -/
def commandDecorator (d : Decorator) : Decorator where
  name := d.name
  arguments := d.arguments.filter (!·.isEmpty)
  extras := []

/-- The command for one decorator of an entry, if it is not for vocabularies. -/
def command? (e : IndexEntry) (namespaceName : Value) (d : Decorator) :
    Checked (Option Command) := do
  if ← isVocabularyName d.name then return none
  return some ⟨e.target namespaceName, commandDecorator d, .upsert⟩

/-- The commands of an entry. -/
def commands (e : IndexEntry) (namespaceName : Value) : Checked (List Command) := do
  return (← e.decorators.mapM (e.command? namespaceName)).filterMap id

end IndexEntry

/-- The command set of a namespace. -/
def compileNamespace (namespaceName : Value) (es : List IndexEntry) : Checked CommandSet := do
  let ns ← Namespace.parse (← namespaceName.asText)
  let commands ← es.mapM (·.commands namespaceName)
  return {
    name := .str ns.name
    version := .str (ns.properVersion.getD defaultVersion)
    commands := commands.flatten
    includes := none }

/-- The command sets of an index, one for each namespace. -/
def ExtractionIndex.commandSets (index : ExtractionIndex) : Checked (List CommandSet) :=
  index.buckets.mapM fun bucket => compileNamespace bucket.1 bucket.2

end DecoratorSets
