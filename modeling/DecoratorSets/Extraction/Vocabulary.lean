import DecoratorSets.Extraction.Index
import DecoratorSets.Value.Table

/-!
# Vocabularies

Two decorators carry the words under which an element is shown to people:
`Term`, its label, and `Term_description`, a longer description. A vocabulary
gathers them for the declarations of a namespace and their properties, and is
written as a document with one line a word.

Where an element has several terms, the last one counts, even if it has no
argument. Only a declaration with a label of its own is written, and with it
every property that has either decorator: labelled by its term, or else by its
description. The description of the declaration is repeated below each of its
properties.
-/

namespace DecoratorSets

/-- The words of one element. -/
structure Terms where
  term : Option String
  description : Option String
deriving DecidableEq

/-- The words of a declaration and of its properties. -/
structure DeclarationTerms where
  own : Terms
  properties : Table Terms

namespace Terms

/-- The name of the decorator that carries a label. -/
def termName : String := "Term"

/-- The name of the decorator that carries a description. -/
def descriptionName : String := "Term_description"

/-- No words. -/
def none : Terms := ⟨.none, .none⟩

/-- Text that is there and not empty. -/
def shown (text : Option String) : Option String := text.filter (· ≠ "")

/-- The label of a property. -/
def label (t : Terms) : String := ((shown t.term).or (shown t.description)).getD ""

end Terms

/-- The text that a decorator carries. -/
def Decorator.carriedText (d : Decorator) : Option String :=
  (d.arguments.getD []).head?.map Argument.text

/-- The change that a decorator makes to the words of its element; most
decorators make none. -/
def Decorator.termChange? (d : Decorator) : Option (Terms → Terms) :=
  if d.name.sameAs (.str Terms.termName) then
    some fun t => { t with term := d.carriedText }
  else if d.name.sameAs (.str Terms.descriptionName) then
    some fun t => { t with description := d.carriedText }
  else none

/-- The words of the declarations of a namespace, in the order in which the
declarations were first recorded. -/
abbrev Vocabulary := Table DeclarationTerms

namespace Vocabulary

/-- A declaration without words. -/
def blank : DeclarationTerms := ⟨.none, []⟩

/-- Changes the words of one element. -/
def change (e : IndexEntry) (f : Terms → Terms) (d : DeclarationTerms) :
    Checked DeclarationTerms :=
  if e.property.isBlank then .ok { d with own := f d.own }
  else do
    return { d with properties := Table.modify (← e.property.asKey) .none f d.properties }

/-- The words of a declaration after the decorators of one of its entries. -/
def addDecorators (e : IndexEntry) (d : DeclarationTerms) : Checked DeclarationTerms :=
  (e.decorators.filterMap Decorator.termChange?).foldlM (fun d f => change e f d) d

/-- The words of a declaration. -/
def wordsOf (v : Vocabulary) (declaration : Value) : DeclarationTerms :=
  (Table.get? v declaration).getD blank

/-- Takes in an entry. Entries about the model itself carry no words. -/
def addEntry (v : Vocabulary) (e : IndexEntry) : Checked Vocabulary :=
  if e.isModelLevel then .ok v
  else do
    let name ← e.declaration.asKey
    return Table.put name (← addDecorators e (v.wordsOf name)) v

/-- The vocabulary of some entries. -/
def ofEntries (es : List IndexEntry) : Checked Vocabulary := es.foldlM addEntry []

/-! ## The document -/

/-- The line of a description, at some depth, if there is one. -/
def descriptionLines (indent : String) (t : Terms) : List String :=
  ((Terms.shown t.description).map fun s => indent ++ "description: " ++ s).toList

/-- The lines of a property of a declaration. -/
def propertyLines (own : Terms) (entry : Value × Terms) : List String :=
  ("      - " ++ entry.1.text ++ ": " ++ entry.2.label) :: descriptionLines "        " own

/-- The lines of a declaration. -/
def declarationLines (entry : Value × DeclarationTerms) : List String :=
  match Terms.shown entry.2.own.term with
  | none => []
  | some term =>
    ("  - " ++ entry.1.text ++ ": " ++ term)
      :: descriptionLines "    " entry.2.own
      ++ (if entry.2.properties.isEmpty then []
          else "    properties:" :: entry.2.properties.flatMap (propertyLines entry.2.own))

/-- The document of a vocabulary. -/
def render (locale : String) (namespaceName : Value) (v : Vocabulary) : String :=
  "\n".intercalate
      (["locale: " ++ locale, "namespace: " ++ namespaceName.text, "declarations:"]
        ++ v.flatMap declarationLines)
    ++ "\n"

end Vocabulary

/-- The vocabulary documents of an index, one for each namespace. -/
def ExtractionIndex.vocabularies (index : ExtractionIndex) (locale : String) :
    Checked (List String) :=
  index.buckets.mapM fun bucket => do
    return Vocabulary.render locale bucket.1 (← Vocabulary.ofEntries bucket.2)

end DecoratorSets
