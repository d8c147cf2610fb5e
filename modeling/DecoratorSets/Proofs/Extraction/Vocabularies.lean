import Mathlib.Data.List.Induction
import Mathlib.Data.List.Nodup
import Mathlib.Logic.Function.Basic
import DecoratorSets.Proofs.Extraction.Words

/-!
# What a vocabulary says

A vocabulary is gathered entry by entry, in tables that grow and whose words change as it
goes on. What it comes to can be said without the tables. The words of an element are given
by its decorators alone, wherever in the entries they stand: the last decorator of a name
counts, even if it carries nothing (`Terms.ofDecorators`).

A declaration is listed where it first occurs in an entry that is not about the model, be it
for one of its properties; a property where it first has a word. `Vocabulary.ofEntries_eq`
says that the tables come to exactly this. What is written of them is a block for each
declaration that has a label (`Vocabulary.blocks`), and the document of an index is a head
with these blocks, for each namespace in order
(`ExtractionIndex.vocabularies_eq_documents`). A block is read off the decorators of a
declaration and of its properties, and the words in it are those of `lastWord` and
`propertyLabel`.
-/

namespace DecoratorSets

/-! ## Lists with one more item -/

section Repetitions

variable {α : Type} [DecidableEq α]

/-- An item at the end that is there before is a repetition. -/
theorem eraseDups_concat (xs : List α) (x : α) :
    (xs ++ [x]).eraseDups = if x ∈ xs then xs.eraseDups else xs.eraseDups ++ [x] := by
  rw [List.eraseDups_append]
  by_cases h : x ∈ xs <;> simp [List.removeAll, h, List.eraseDups_cons]

theorem nodup_eraseDups (xs : List α) : xs.eraseDups.Nodup := by
  induction xs using List.reverseRecOn with
  | nil => exact List.nodup_nil
  | append_singleton xs x ih =>
    rw [eraseDups_concat]
    split
    · exact ih
    · rename_i h
      exact ih.append (List.nodup_singleton x)
        (List.disjoint_singleton.mpr (mt List.mem_eraseDups.mp h))

end Repetitions

section Choices

variable {α β : Type} (chosen : α → Prop) [DecidablePred chosen] (xs : List α) (x : α)

/-- What is chosen of a list with one more item. -/
theorem map_filter_concat (f : α → β) : ((xs ++ [x]).filter fun y => chosen y).map f
    = (xs.filter fun y => chosen y).map f ++ (if chosen x then [f x] else []) := by
  rw [List.filter_append, List.map_append]
  by_cases h : chosen x <;> simp [h]

/-- What belongs to the items that are chosen of a list with one more item. -/
theorem flatMap_filter_concat (f : α → List β) : ((xs ++ [x]).filter fun y => chosen y).flatMap f
    = (xs.filter fun y => chosen y).flatMap f ++ (if chosen x then f x else []) := by
  rw [List.filter_append, List.flatMap_append]
  by_cases h : chosen x <;> simp [h]

end Choices

/-! ## Tables over lists of names -/

namespace Table

variable {α : Type} {names : List Value} {f g : Value → α} {s : String} {default : α}
  {change change' : α → α}

/-- **The table with an entry for each of some names**, in the order in which they first
occur. -/
def tabulate (names : List Value) (f : Value → α) : Table α :=
  names.eraseDups.map fun name => (name, f name)

theorem tabulate_congr (h : ∀ name ∈ names, f name = g name) :
    tabulate names f = tabulate names g :=
  List.map_congr_left fun name hname => by rw [h name (List.mem_eraseDups.mp hname)]

theorem get?_tabulate (names : List Value) (f : Value → α) (s : String) :
    get? (tabulate names f) (.str s) = if .str s ∈ names then some (f (.str s)) else none := by
  have hfind : ∀ ks : List Value,
      (ks.map fun name => (name, f name)).find? (fun entry => entry.1.sameAs (.str s))
        = if .str s ∈ ks then some (.str s, f (.str s)) else none := by
    intro ks
    induction ks with
    | nil => rfl
    | cons k ks ih =>
      rw [List.map_cons, List.find?_cons]
      by_cases hk : k = .str s
      · simp [hk]
      · simp [Value.sameAs_str_of_ne hk, ih, Ne.symm hk]
  unfold get? tabulate
  rw [hfind]
  simp only [List.mem_eraseDups]
  split <;> rfl

/-- Changing the entry of a name in a table with an entry for each name once. -/
theorem modify_map {ks : List Value} (hks : ks.Nodup) :
    modify (.str s) default change (ks.map fun name => (name, f name))
      = if .str s ∈ ks then
          ks.map fun name => (name, Function.update f (.str s) (change (f (.str s))) name)
        else (ks.map fun name => (name, f name)) ++ [(.str s, change default)] := by
  induction ks with
  | nil => rfl
  | cons k ks ih =>
    obtain ⟨hk, hks⟩ := List.nodup_cons.mp hks
    rw [List.map_cons, modify]
    by_cases heq : k = .str s
    · subst heq
      have hrest : ks.map (fun name => (name, f name)) = ks.map fun name =>
          (name, Function.update f (.str s) (change (f (.str s))) name) :=
        List.map_congr_left fun name hname => by
          rw [Function.update_of_ne (ne_of_mem_of_not_mem hname hk)]
      simp [hrest]
    · rw [Value.sameAs_str_of_ne heq, if_neg Bool.false_ne_true, ih hks]
      by_cases hmem : .str s ∈ ks
      · simp [hmem, Function.update_of_ne heq]
      · simp [hmem, Ne.symm heq]

/-- **Changing the entry of a name** adds the name, if it is not there. -/
theorem modify_tabulate (h : .str s ∉ names → change default = change (f (.str s))) :
    modify (.str s) default change (tabulate names f)
      = tabulate (names ++ [.str s]) (Function.update f (.str s) (change (f (.str s)))) := by
  unfold tabulate
  rw [modify_map (nodup_eraseDups names), eraseDups_concat]
  simp only [List.mem_eraseDups]
  by_cases hmem : .str s ∈ names
  · rw [if_pos hmem, if_pos hmem]
  · rw [if_neg hmem, if_neg hmem, List.map_append, List.map_singleton, Function.update_self,
      h hmem]
    refine congrArg (· ++ _) (List.map_congr_left fun name hname => ?_)
    rw [Function.update_of_ne (ne_of_mem_of_not_mem (List.mem_eraseDups.mp hname) hmem)]

/-- Two changes of one entry are one. -/
theorem modify_modify (t : Table α) :
    modify (.str s) default change' (modify (.str s) default change t)
      = modify (.str s) default (change' ∘ change) t := by
  induction t with
  | nil => simp [modify]
  | cons entry t ih =>
    obtain ⟨name, a⟩ := entry
    by_cases h : name.sameAs (.str s) = true
    · simp [modify, h]
    · simp [modify, h, ih]

/-- Some changes of one entry are one. -/
theorem foldl_modify {changes : List (α → α)} (hne : changes ≠ []) (t : Table α) :
    changes.foldl (fun t change => modify (.str s) default change t) t
      = modify (.str s) default (fun a => changes.foldl (fun a change => change a) a) t := by
  induction changes generalizing t with
  | nil => exact absurd rfl hne
  | cons change changes ih =>
    by_cases hnil : changes = []
    · subst hnil
      rfl
    · rw [List.foldl_cons, ih hnil, modify_modify]
      rfl

end Table

/-! ## Words -/

/-- The text of **the last decorator of a name**, if it has an argument. -/
def lastText (name : String) (ds : List Decorator) : Option String :=
  (ds.filter fun d => d.name = .str name).getLast?.bind Decorator.carriedText

/-- What is shown of the last text is the last word. -/
theorem shown_lastText (name : String) (ds : List Decorator) :
    Terms.shown (lastText name ds) = lastWord name ds := by
  unfold lastText lastWord
  cases (ds.filter fun d => d.name = .str name).getLast? with
  | none => rfl
  | some d => exact d.shown_carriedText

namespace Terms

/-- **The words that decorators give to an element**: for each kind of word the text of the
last decorator that carries one. -/
def ofDecorators (ds : List Decorator) : Terms :=
  ⟨lastText termName ds, lastText descriptionName ds⟩

/-- The label that is shown of the words of a property. -/
theorem label_ofDecorators (ds : List Decorator) : (ofDecorators ds).label = propertyLabel ds := by
  unfold label ofDecorators propertyLabel
  rw [shown_lastText, shown_lastText]
  show ((lastWord "Term" ds).or (lastWord "Term_description" ds)).getD "" = _
  cases lastWord "Term" ds with
  | some term => rfl
  | none => cases lastWord "Term_description" ds <;> rfl

/-- The words of an element after some decorators. -/
def after (ds : List Decorator) (t : Terms) : Terms :=
  (ds.filterMap Decorator.termChange?).foldl (fun t change => change t) t

/-- One more decorator gives its own text to the words of its name. -/
theorem ofDecorators_concat (ds : List Decorator) (d : Decorator) :
    ofDecorators (ds ++ [d])
      = match d.termChange? with
        | some change => change (ofDecorators ds)
        | Option.none => ofDecorators ds := by
  have hnames : Value.str termName ≠ .str descriptionName := by decide
  unfold ofDecorators lastText Decorator.termChange?
  simp only [List.filter_append, Value.sameAs_str_iff]
  by_cases hterm : d.name = .str termName
  · simp [hterm, hnames]
  · by_cases hdescription : d.name = .str descriptionName
    · simp [hdescription, Ne.symm hnames]
    · simp [hterm, hdescription]

/-- **Words are taken in** decorator by decorator. -/
theorem after_ofDecorators (ds more : List Decorator) :
    (ofDecorators ds).after more = ofDecorators (ds ++ more) := by
  induction more generalizing ds with
  | nil => rw [List.append_nil]; rfl
  | cons d more ih =>
    rw [List.append_cons, ← ih, ofDecorators_concat]
    unfold after
    cases h : d.termChange? <;> simp [h]

/-- Decorators without words make no change. -/
theorem filterMap_termChange?_eq_nil {ds : List Decorator} (h : ∀ d ∈ ds, ¬ d.CarriesWord) :
    ds.filterMap Decorator.termChange? = [] :=
  List.filterMap_eq_nil_iff.mpr fun d hd => Decorator.termChange?_eq_none_iff.mpr (h d hd)

theorem after_of_no_word {ds : List Decorator} (h : ∀ d ∈ ds, ¬ d.CarriesWord) (t : Terms) :
    t.after ds = t := by
  rw [after, filterMap_termChange?_eq_nil h, List.foldl_nil]

theorem ofDecorators_of_no_word {ds : List Decorator} (h : ∀ d ∈ ds, ¬ d.CarriesWord) :
    ofDecorators ds = none :=
  (after_ofDecorators [] ds).symm.trans (after_of_no_word h none)

end Terms

/-! ## The words in some entries -/

/-- The names of an entry are texts. -/
structure IndexEntry.NamedByTexts (e : IndexEntry) : Prop where
  declaration : ∃ s, e.declaration = .str s
  property : ∃ s, e.property = .str s

theorem IndexEntry.namedByTexts_text (declaration property : String) (ds : List Decorator) :
    NamedByTexts ⟨.str declaration, .str property, ds⟩ :=
  ⟨⟨declaration, rfl⟩, ⟨property, rfl⟩⟩

/-- **An entry is about the model itself** if both of its names are empty. -/
def IndexEntry.IsOfModel (e : IndexEntry) : Prop :=
  e.declaration = .str "" ∧ e.property = .str ""

instance (e : IndexEntry) : Decidable e.IsOfModel := inferInstanceAs (Decidable (_ ∧ _))

/-- The declarations that entries are about. -/
def declarationsIn (es : List IndexEntry) : List Value :=
  (es.filter fun e => ¬ e.IsOfModel).map IndexEntry.declaration

/-- The decorators of a declaration itself. -/
def decoratorsOf (es : List IndexEntry) (declaration : Value) : List Decorator :=
  (es.filter fun e => ¬ e.IsOfModel ∧ e.declaration = declaration ∧ e.property = .str "").flatMap
    IndexEntry.decorators

/-- The properties of a declaration that have a word. -/
def wordedProperties (es : List IndexEntry) (declaration : Value) : List Value :=
  (es.filter fun e => e.declaration = declaration ∧ e.property ≠ .str ""
    ∧ ∃ d ∈ e.decorators, d.CarriesWord).map IndexEntry.property

/-- The decorators of a property of a declaration. -/
def decoratorsOfProperty (es : List IndexEntry) (declaration property : Value) : List Decorator :=
  (es.filter fun e => e.declaration = declaration ∧ e.property = property).flatMap
    IndexEntry.decorators

/-- **The words of a declaration** and of its properties. -/
def termsIn (es : List IndexEntry) (declaration : Value) : DeclarationTerms where
  own := .ofDecorators (decoratorsOf es declaration)
  properties := Table.tabulate (wordedProperties es declaration) fun property =>
    .ofDecorators (decoratorsOfProperty es declaration property)

namespace Vocabulary

variable {es : List IndexEntry} {e : IndexEntry}

/-- The words of a declaration after an entry about the declaration itself. -/
theorem addDecorators_of_empty (h : e.property = .str "") (d : DeclarationTerms) :
    addDecorators e d = .ok { d with own := d.own.after e.decorators } := by
  unfold addDecorators Terms.after
  rw [Checked.foldlM_eq_ok_foldl (g := fun d f => { d with own := f d.own })
    (fun d f _ => by rw [change, h]; rfl)]
  generalize e.decorators.filterMap Decorator.termChange? = fs
  induction fs generalizing d with
  | nil => rfl
  | cons f fs ih => exact ih { d with own := f d.own }

/-- The words of a declaration after an entry about one of its properties. -/
theorem addDecorators_of_property {p : String} (hp : e.property = .str p) (hne : p ≠ "")
    (d : DeclarationTerms) :
    addDecorators e d = .ok { d with
      properties := if ∃ d ∈ e.decorators, d.CarriesWord then
          Table.modify (.str p) .none (Terms.after e.decorators) d.properties
        else d.properties } := by
  unfold addDecorators
  have hstep : ∀ d, ∀ f ∈ e.decorators.filterMap Decorator.termChange?, change e f d
      = .ok { d with properties := Table.modify (.str p) .none f d.properties } := by
    intro d f _
    rw [change, hp, if_neg (by simpa [Value.isBlank] using hne)]
    rfl
  have hfold : ∀ (fs : List (Terms → Terms)) (d : DeclarationTerms),
      fs.foldl (fun d f => { d with properties := Table.modify (.str p) .none f d.properties }) d
        = { d with properties :=
            fs.foldl (fun t f => Table.modify (.str p) .none f t) d.properties } := by
    intro fs
    induction fs with
    | nil => exact fun _ => rfl
    | cons f fs ih => exact fun d => ih _
  rw [Checked.foldlM_eq_ok_foldl hstep, hfold]
  by_cases hworded : ∃ d ∈ e.decorators, d.CarriesWord
  · have hne : e.decorators.filterMap Decorator.termChange? ≠ [] := by
      obtain ⟨x, hx, hword⟩ := hworded
      intro hnil
      exact Decorator.termChange?_eq_none_iff.mp (List.filterMap_eq_nil_iff.mp hnil x hx) hword
    rw [if_pos hworded, Table.foldl_modify hne]
    rfl
  · rw [if_neg hworded,
      Terms.filterMap_termChange?_eq_nil (fun d hd hword => hworded ⟨d, hd, hword⟩)]
    rfl

/-! ## One more entry -/

section Concat

variable (es : List IndexEntry) (e : IndexEntry) (declaration property : Value)

theorem declarationsIn_concat : declarationsIn (es ++ [e])
    = declarationsIn es ++ (if ¬ e.IsOfModel then [e.declaration] else []) :=
  map_filter_concat _ es e _

theorem decoratorsOf_concat : decoratorsOf (es ++ [e]) declaration
    = decoratorsOf es declaration
      ++ (if ¬ e.IsOfModel ∧ e.declaration = declaration ∧ e.property = .str "" then e.decorators
        else []) :=
  flatMap_filter_concat _ es e _

theorem wordedProperties_concat : wordedProperties (es ++ [e]) declaration
    = wordedProperties es declaration
      ++ (if e.declaration = declaration ∧ e.property ≠ .str ""
        ∧ ∃ d ∈ e.decorators, d.CarriesWord then [e.property] else []) :=
  map_filter_concat _ es e _

theorem decoratorsOfProperty_concat : decoratorsOfProperty (es ++ [e]) declaration property
    = decoratorsOfProperty es declaration property
      ++ (if e.declaration = declaration ∧ e.property = property then e.decorators else []) :=
  flatMap_filter_concat _ es e _

end Concat

/-- A property with a word does not go by the empty text. -/
theorem ne_empty_of_mem_wordedProperties {declaration property : Value}
    (h : property ∈ wordedProperties es declaration) : property ≠ .str "" := by
  obtain ⟨e, he, rfl⟩ := List.mem_map.mp h
  exact (of_decide_eq_true (List.mem_filter.mp he).2).2.1

/-- An entry that is not about a property changes the words of none. -/
theorem properties_termsIn_concat (hempty : e.property = .str "") (declaration : Value) :
    (termsIn (es ++ [e]) declaration).properties = (termsIn es declaration).properties := by
  unfold termsIn
  rw [wordedProperties_concat, if_neg (by simp [hempty]), List.append_nil]
  refine Table.tabulate_congr fun property hproperty => ?_
  have hne : e.property ≠ property := by
    rintro rfl
    exact ne_empty_of_mem_wordedProperties hproperty hempty
  rw [decoratorsOfProperty_concat, if_neg (by simp [hne]), List.append_nil]

/-- An entry about the model changes the words of no declaration, and one about a
declaration those of no other. -/
theorem termsIn_concat_of_other {declaration : Value}
    (h : e.IsOfModel ∨ e.declaration ≠ declaration) :
    termsIn (es ++ [e]) declaration = termsIn es declaration := by
  have hown : decoratorsOf (es ++ [e]) declaration = decoratorsOf es declaration := by
    rw [decoratorsOf_concat, if_neg, List.append_nil]
    rcases h with h | h <;> simp [h]
  refine congrArg₂ DeclarationTerms.mk (congrArg Terms.ofDecorators hown) ?_
  rcases h with h | h
  · exact properties_termsIn_concat h.2 declaration
  · simp [wordedProperties_concat, decoratorsOfProperty_concat, h]

/-- A declaration that no entry is about has no words. -/
theorem termsIn_of_not_mem {declaration : Value} (h : declaration ∉ declarationsIn es) :
    termsIn es declaration = blank := by
  induction es using List.reverseRecOn with
  | nil => rfl
  | append_singleton es e ih =>
    rw [declarationsIn_concat, List.mem_append, not_or] at h
    rw [termsIn_concat_of_other, ih h.1]
    by_cases hmodel : e.IsOfModel
    · exact .inl hmodel
    · exact .inr fun heq => h.2 (by simp [hmodel, heq])

/-- An entry about a declaration itself changes the words of its own. -/
theorem termsIn_concat_of_empty (hmodel : ¬ e.IsOfModel) (hempty : e.property = .str "") :
    termsIn (es ++ [e]) e.declaration = { termsIn es e.declaration with
      own := (termsIn es e.declaration).own.after e.decorators } := by
  refine congrArg₂ DeclarationTerms.mk ?_ (properties_termsIn_concat hempty e.declaration)
  rw [decoratorsOf_concat, if_pos ⟨hmodel, rfl, hempty⟩]
  exact (Terms.after_ofDecorators _ _).symm

/-- A property is listed with its declaration as soon as it has a word. -/
theorem ofDecorators_of_not_mem_wordedProperties {declaration property : Value}
    (hne : property ≠ .str "") (h : property ∉ wordedProperties es declaration) :
    Terms.ofDecorators (decoratorsOfProperty es declaration property) = .none := by
  refine Terms.ofDecorators_of_no_word fun d hd hword => h ?_
  obtain ⟨e, he, hde⟩ := List.mem_flatMap.mp hd
  obtain ⟨hmem, hcond⟩ := List.mem_filter.mp he
  obtain ⟨hdeclaration, rfl⟩ := of_decide_eq_true hcond
  exact List.mem_map.mpr ⟨e, List.mem_filter.mpr
    ⟨hmem, decide_eq_true ⟨hdeclaration, hne, d, hde, hword⟩⟩, rfl⟩

/-- An entry about a property changes the words of the property, and lists it with the
declaration if it has a word. -/
theorem termsIn_concat_of_property {p : String} (hp : e.property = .str p) (hne : p ≠ "") :
    termsIn (es ++ [e]) e.declaration = { termsIn es e.declaration with
      properties := if ∃ d ∈ e.decorators, d.CarriesWord then
          Table.modify (.str p) .none (Terms.after e.decorators)
            (termsIn es e.declaration).properties
        else (termsIn es e.declaration).properties } := by
  have hnonempty : e.property ≠ .str "" := fun heq => hne (Value.str.inj (hp.symm.trans heq))
  have hproperty : ∀ property,
      Terms.ofDecorators (decoratorsOfProperty (es ++ [e]) e.declaration property)
        = Function.update (fun property =>
            Terms.ofDecorators (decoratorsOfProperty es e.declaration property)) (.str p)
          ((Terms.ofDecorators (decoratorsOfProperty es e.declaration (.str p))).after e.decorators)
          property := by
    intro property
    rw [decoratorsOfProperty_concat, Terms.after_ofDecorators, hp]
    by_cases heq : property = .str p
    · simp [heq]
    · simp [heq, Ne.symm heq]
  unfold termsIn
  rw [decoratorsOf_concat, if_neg (fun h => hnonempty h.2.2), List.append_nil,
    wordedProperties_concat]
  refine congrArg _ ((Table.tabulate_congr fun property _ => hproperty property).trans ?_)
  by_cases hworded : ∃ d ∈ e.decorators, d.CarriesWord
  · rw [if_pos ⟨rfl, hnonempty, hworded⟩, if_pos hworded, hp, Table.modify_tabulate]
    intro hmem
    rw [ofDecorators_of_not_mem_wordedProperties (hp ▸ hnonempty) hmem]
  · rw [if_neg (fun h => hworded h.2.2), if_neg hworded, List.append_nil,
      Terms.after_of_no_word (fun d hd hword => hworded ⟨d, hd, hword⟩), Function.update_eq_self]

/-- An entry whose names are texts is about the model itself if both are empty. -/
theorem isModelLevel_iff (hnamed : e.NamedByTexts) : e.isModelLevel = true ↔ e.IsOfModel := by
  obtain ⟨⟨n, hn⟩, ⟨p, hp⟩⟩ := hnamed
  unfold IndexEntry.isModelLevel IndexEntry.IsOfModel
  rw [hn, hp, Bool.and_eq_true, Value.isBlank_str, Value.isBlank_str, Value.str.injEq,
    Value.str.injEq]

/-- **An entry about a declaration** or one of its properties changes its words. -/
theorem addDecorators_termsIn (hnamed : e.NamedByTexts) (hmodel : ¬ e.IsOfModel) :
    addDecorators e (termsIn es e.declaration) = .ok (termsIn (es ++ [e]) e.declaration) := by
  obtain ⟨p, hp⟩ := hnamed.property
  by_cases hempty : p = ""
  · rw [hempty] at hp
    rw [addDecorators_of_empty hp, termsIn_concat_of_empty hmodel hp]
  · rw [addDecorators_of_property hp hempty, termsIn_concat_of_property hp hempty]

/-- **An entry is taken in** to the words of those before it. -/
theorem addEntry_tabulate (hnamed : e.NamedByTexts) :
    addEntry (Table.tabulate (declarationsIn es) (termsIn es)) e
      = .ok (Table.tabulate (declarationsIn (es ++ [e])) (termsIn (es ++ [e]))) := by
  unfold addEntry
  rw [declarationsIn_concat]
  by_cases hmodel : e.IsOfModel
  · rw [if_pos ((isModelLevel_iff hnamed).mpr hmodel), if_neg (not_not_intro hmodel),
      List.append_nil]
    exact congrArg Except.ok (Table.tabulate_congr fun name _ =>
      (termsIn_concat_of_other (.inl hmodel)).symm)
  · obtain ⟨n, hn⟩ := hnamed.declaration
    have hwords : wordsOf (Table.tabulate (declarationsIn es) (termsIn es)) e.declaration
        = termsIn es e.declaration := by
      unfold wordsOf
      rw [hn, Table.get?_tabulate]
      split
      · rfl
      · rename_i h
        exact (termsIn_of_not_mem h).symm
    have hkey : e.declaration.asKey = .ok e.declaration := by
      rw [hn]
      rfl
    rw [if_neg (mt (isModelLevel_iff hnamed).mp hmodel), if_pos hmodel, hkey, Checked.ok_bind,
      hwords, addDecorators_termsIn hnamed hmodel, Checked.ok_bind]
    refine congrArg Except.ok ?_
    rw [Table.put, hn, Table.modify_tabulate]
    · refine Table.tabulate_congr fun name _ => ?_
      by_cases heq : name = .str n
      · rw [heq, Function.update_self]
      · rw [Function.update_of_ne heq, termsIn_concat_of_other (.inr (hn ▸ Ne.symm heq))]
    · exact fun _ => rfl

/-- **The words of some entries** are gathered by declaration, in the order in which the
declarations first occur. -/
theorem ofEntries_eq (hnamed : ∀ e ∈ es, e.NamedByTexts) :
    ofEntries es = .ok (Table.tabulate (declarationsIn es) (termsIn es)) := by
  unfold ofEntries
  induction es using List.reverseRecOn with
  | nil => rfl
  | append_singleton es e ih =>
    rw [List.foldlM_append, ih (fun e' he' => hnamed e' (List.mem_append_left _ he')),
      Checked.ok_bind, List.foldlM_cons,
      addEntry_tabulate (hnamed e (List.mem_append_right es (List.mem_singleton_self e)))]
    rfl

/-! ## What is written -/

/-- **A block of a document**: a declaration with its label, its description if there is
one, and its properties with their labels. -/
structure Block where
  name : String
  term : String
  description : Option String
  properties : List (String × String)
deriving DecidableEq

namespace Block

/-- The description of the declaration, at some depth. -/
def descriptionLines (b : Block) (indent : String) : List String :=
  (b.description.map fun s => indent ++ "description: " ++ s).toList

/-- A property, followed by the description of the declaration. -/
def propertyLines (b : Block) (property : String × String) : List String :=
  ("      - " ++ property.1 ++ ": " ++ property.2) :: b.descriptionLines "        "

/-- The properties, if there are any. -/
def propertiesLines (b : Block) : List String :=
  if b.properties.isEmpty then []
  else "    properties:" :: b.properties.flatMap b.propertyLines

/-- **The lines of a block.** -/
def lines (b : Block) : List String :=
  ("  - " ++ b.name ++ ": " ++ b.term) :: b.descriptionLines "    " ++ b.propertiesLines

end Block

/-- **The document of some blocks.** -/
def document (locale namespaceName : String) (blocks : List Block) : String :=
  "\n".intercalate
      (["locale: " ++ locale, "namespace: " ++ namespaceName, "declarations:"]
        ++ blocks.flatMap Block.lines)
    ++ "\n"

/-- **The block of a declaration**, if its last label carries a word. The label and the
description are the last words of the declaration itself. -/
def block? (es : List IndexEntry) (declaration : Value) : Option Block :=
  (lastWord "Term" (decoratorsOf es declaration)).map fun term =>
    { name := declaration.text
      term
      description := lastWord "Term_description" (decoratorsOf es declaration)
      properties := (wordedProperties es declaration).eraseDups.map fun property =>
        (property.text, propertyLabel (decoratorsOfProperty es declaration property)) }

/-- **The blocks of some entries**, in the order in which their declarations first occur. -/
def blocks (es : List IndexEntry) : List Block :=
  (declarationsIn es).eraseDups.filterMap (block? es)

/-- The line of a description shows the last word. -/
theorem descriptionLines_ofDecorators (indent : String) (ds : List Decorator) :
    descriptionLines indent (.ofDecorators ds)
      = ((lastWord "Term_description" ds).map fun s => indent ++ "description: " ++ s).toList := by
  rw [descriptionLines, Terms.ofDecorators, shown_lastText]
  rfl

theorem declarationLines_termsIn (declaration : Value) :
    declarationLines (declaration, termsIn es declaration)
      = (block? es declaration).toList.flatMap Block.lines := by
  have hterm : Terms.shown (termsIn es declaration).own.term
      = lastWord "Term" (decoratorsOf es declaration) := shown_lastText _ _
  unfold declarationLines block?
  simp only [hterm]
  cases lastWord "Term" (decoratorsOf es declaration) with
  | none => rfl
  | some term =>
    rw [Option.map_some, Option.toList_some, List.flatMap_singleton]
    simp only [Block.lines, Block.propertiesLines, Block.propertyLines, Block.descriptionLines,
      propertyLines, descriptionLines_ofDecorators, termsIn, Table.tabulate, List.isEmpty_map,
      List.flatMap_map, Terms.label_ofDecorators]

/-- **The words of some entries are written** as their blocks. -/
theorem render_tabulate (locale : String) (namespaceName : Value) :
    render locale namespaceName (Table.tabulate (declarationsIn es) (termsIn es))
      = document locale namespaceName.text (blocks es) := by
  have hlines : (Table.tabulate (declarationsIn es) (termsIn es)).flatMap declarationLines
      = (blocks es).flatMap Block.lines := by
    unfold Table.tabulate blocks
    rw [List.flatMap_map, List.filterMap_eq_flatMap_toList, List.flatMap_assoc]
    exact List.flatMap_congr fun declaration _ => declarationLines_termsIn declaration
  rw [render, hlines, document]

/-- The document of one namespace. -/
theorem map_render_ofEntries (hnamed : ∀ e ∈ es, e.NamedByTexts) (locale : String)
    (namespaceName : Value) :
    (do return render locale namespaceName (← ofEntries es) : Checked String)
      = .ok (document locale namespaceName.text (blocks es)) := by
  rw [ofEntries_eq hnamed, Checked.ok_bind, render_tabulate]
  rfl

end Vocabulary

namespace People

/-- The decorator for labels. -/
def label (text : String) : Decorator := ⟨.str "Term", some [.literal .string (.str text)], []⟩

/-- The decorator for descriptions. -/
def description (text : String) : Decorator :=
  ⟨.str "Term_description", some [.literal .string (.str text)], []⟩

/-- An index of two namespaces. In the first a person is met at one of its properties, and
labelled twice after that; the label of a pet is taken back by a decorator without argument.
The properties of the person have words of all kinds. In the second a label and a description
are empty. -/
def index : ExtractionIndex where
  buckets :=
    [(.str "org.acme@1.0.0",
      [⟨.str "", .str "", [label "People and pets"]⟩,
        ⟨.str "Person", .str "name", [label "", description "Full name"]⟩,
        ⟨.str "Pet", .str "", [label "A pet"]⟩,
        ⟨.str "Person", .str "", [label "Somebody", description "A human being"]⟩,
        ⟨.str "Person", .str "age", [⟨.str "Hidden", none, []⟩]⟩,
        ⟨.str "Person", .str "", [⟨.str "Term", some [.literal .string (.str "A person"),
          .literal .string (.str "Eine Person")], []⟩]⟩,
        ⟨.str "Person", .str "pets", [description "All animals", label "Their pets"]⟩,
        ⟨.str "Person", .str "rank", [⟨.str "Term", some [.literal .number (.int 7)], []⟩]⟩,
        ⟨.str "Person", .str "home",
          [⟨.str "Term", some [.reference ⟨.str "Address", .null⟩ false], []⟩]⟩,
        ⟨.str "Person", .str "name", [⟨.str "Term", some [], []⟩]⟩,
        ⟨.str "Person", .str "note", [label "Remark", label ""]⟩,
        ⟨.str "Pet", .str "", [⟨.str "Term", none, []⟩]⟩]),
      (.str "org.acme.shops@1.0.0",
        [⟨.str "Shop", .str "", [label "A shop", description "Sells", description ""]⟩,
          ⟨.str "Stall", .str "", [description "Sells outside", label ""]⟩])]

end People

end DecoratorSets
