import DecoratorSets.Extraction.Vocabulary
import DecoratorSets.Proofs.Names

/-!
# Decorators that carry words

Two decorators carry the words of a vocabulary: `Term` a label, and `Term_description` a
description. They go by their names alone (`Decorator.CarriesWord`), whatever arguments
they have. The word itself is the text of the first argument, unless it is empty
(`Decorator.word?`).

Of several decorators of one name the last one counts, even if it carries no word
(`lastWord`). A property is labelled by the last label, and where that one carries no word
by the last description (`propertyLabel`).

The definitions here are what vocabularies are compared with. So they do not use the
functions that gather vocabularies, not even for the two names.
-/

namespace DecoratorSets

namespace Decorator

/-- **A decorator carries a word** if it goes by one of the two names for labels and
descriptions, with or without an argument. -/
def CarriesWord (d : Decorator) : Prop :=
  d.name = .str "Term" ∨ d.name = .str "Term_description"

instance (d : Decorator) : Decidable d.CarriesWord := inferInstanceAs (Decidable (_ ∨ _))

/-- **The word of a decorator**: the text of its first argument, unless it is empty. -/
def word? (d : Decorator) : Option String :=
  match d.arguments with
  | some (a :: _) => if a.text = "" then none else some a.text
  | some [] => none
  | none => none

/-- The text that a decorator carries is shown if it is a word. -/
theorem shown_carriedText (d : Decorator) : Terms.shown d.carriedText = d.word? := by
  unfold Terms.shown carriedText word?
  cases d.arguments with
  | none => rfl
  | some args =>
    cases args with
    | nil => rfl
    | cons a args => by_cases h : a.text = "" <;> simp [h]

/-- A decorator changes the words of its element if it carries one. -/
theorem termChange?_eq_none_iff {d : Decorator} : d.termChange? = none ↔ ¬ d.CarriesWord := by
  unfold termChange? CarriesWord Terms.termName Terms.descriptionName
  simp only [Value.sameAs_str_iff]
  split
  · rename_i hterm
    simp [hterm]
  · rename_i hterm
    split
    · rename_i hdescription
      simp [hdescription]
    · rename_i hdescription
      simp [hterm, hdescription]

end Decorator

/-! ## The words of an element -/

/-- **The last word of a name**: that of the last decorator of the name, which may carry
none. -/
def lastWord (name : String) (ds : List Decorator) : Option String :=
  (ds.filter fun d => d.name = .str name).getLast?.bind Decorator.word?

/-- **The label of a property**: its last label, or else its last description, or else
nothing. -/
def propertyLabel (ds : List Decorator) : String :=
  match lastWord "Term" ds, lastWord "Term_description" ds with
  | some label, _ => label
  | none, some description => description
  | none, none => ""

end DecoratorSets
