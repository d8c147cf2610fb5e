import DecoratorSets.Extraction.Registry
import DecoratorSets.Proofs.Extraction.Places
import DecoratorSets.Proofs.Extraction.Words

/-!
# What extraction gives

Compiling goes bucket by bucket, entry by entry and decorator by decorator. Said of a
model as a whole, its commands are those of its places: for each decorator found at a
place that does not carry the words of a vocabulary, one command with the target of
the place (`Model.commands`). The command puts back what is left of the decorator
(`Decorator.restored`), and that is what the compiler makes of it
(`Decorator.withOwnArguments_commandDecorator`).

Whenever extraction succeeds, its command sets are the commands of the models that
have decorators, one set for each (`Registry.commands_of_extract`). It does succeed
whenever the models can be resolved and the names in them can be compared
(`Registry.exists_extract`).
-/

namespace DecoratorSets

/-! ## The commands of a place -/

/-- **The decorator that a command puts back**: its name and copies of its arguments, and
no list of arguments in place of an empty one. Nothing else that it carries is put back. -/
def Decorator.restored (d : Decorator) : Decorator where
  name := d.name
  arguments :=
    match d.arguments with
    | some (a :: args) => some ((a :: args).map (Argument.relabel (Label.within .argument)))
    | some [] => none
    | none => none
  extras := []

/-- The target that the entry of a place is compiled to. -/
def Place.target (place : Place) (ns : Value) : CommandTarget :=
  IndexEntry.target ⟨place.declarationName, place.propertyName, []⟩ ns

/-- The commands that put back what was found at a place. -/
def Site.commands (ns : Value) (site : Site) : List Command :=
  (site.2.filter fun d => ¬ d.CarriesWord).map fun d => ⟨site.1.target ns, d.restored, .upsert⟩

/-- **The commands that put back what was found in a model.** -/
def Model.commands (m : Model) : List Command :=
  m.sites.flatMap (Site.commands m.namespaceName)

/-! ## Compiling -/

/-- The decorator with arguments that are copies of their own. -/
def Decorator.withOwnArguments (d : Decorator) : Decorator :=
  { d with arguments := d.arguments.map (·.map (Argument.relabel (Label.within .argument))) }

/-- **What the compiler makes of a decorator** is what is put back of it, once its arguments
are copies. -/
theorem Decorator.withOwnArguments_commandDecorator (d : Decorator) :
    (IndexEntry.commandDecorator d).withOwnArguments = d.restored := by
  unfold IndexEntry.commandDecorator withOwnArguments restored
  cases d.arguments with
  | none => rfl
  | some args => cases args <;> rfl

namespace IndexEntry

variable {e : IndexEntry} {ns : Value} {d : Decorator}

/-- The commands of an entry, before their arguments become copies. -/
def compiled (ns : Value) (e : IndexEntry) : List Command :=
  (e.decorators.filter fun d => ¬ d.CarriesWord).map fun d =>
    ⟨e.target ns, commandDecorator d, .upsert⟩

/-- The compiler leaves to the vocabularies what carries a word. -/
theorem isVocabularyName_eq_ok {b : Bool} :
    isVocabularyName d.name = .ok b ↔ d.name.canName = true ∧ decide d.CarriesWord = b := by
  have hword : (d.name.sameAs (.str Terms.termName) || d.name.sameAs (.str Terms.descriptionName))
      = decide d.CarriesWord := by
    rw [Bool.eq_iff_iff, Bool.or_eq_true, Value.sameAs_str_iff, Value.sameAs_str_iff,
      decide_eq_true_iff]
    rfl
  unfold isVocabularyName
  rw [← hword, Checked.bind_eq_ok]
  constructor
  · rintro ⟨name, hname, h⟩
    obtain ⟨hcan, rfl⟩ := Value.asKey_eq_ok.mp hname
    exact ⟨hcan, Except.ok.inj h⟩
  · rintro ⟨hcan, h⟩
    exact ⟨d.name, Value.asKey_eq_ok.mpr ⟨hcan, rfl⟩, congrArg Except.ok h⟩

/-- A decorator becomes a command unless it carries words of a vocabulary. Its name
has to be comparable. -/
theorem command?_eq_ok {c : Option Command} :
    e.command? ns d = .ok c ↔ d.name.canName = true
      ∧ (if d.CarriesWord then none else some ⟨e.target ns, commandDecorator d, .upsert⟩)
        = c := by
  unfold command?
  rw [Checked.bind_eq_ok]
  simp only [isVocabularyName_eq_ok]
  by_cases hword : d.CarriesWord
  · constructor
    · rintro ⟨b, ⟨hcan, rfl⟩, h⟩
      rw [decide_eq_true hword] at h
      exact ⟨hcan, (if_pos hword).trans (Except.ok.inj h)⟩
    · rintro ⟨hcan, rfl⟩
      exact ⟨true, ⟨hcan, decide_eq_true hword⟩, congrArg Except.ok (if_pos hword).symm⟩
  · constructor
    · rintro ⟨b, ⟨hcan, rfl⟩, h⟩
      rw [decide_eq_false hword] at h
      exact ⟨hcan, (if_neg hword).trans (Except.ok.inj h)⟩
    · rintro ⟨hcan, rfl⟩
      exact ⟨false, ⟨hcan, decide_eq_false hword⟩, congrArg Except.ok (if_neg hword).symm⟩

/-- What remains of some decorators where words are left out. -/
theorem filterMap_compiled (ds : List Decorator) (target : CommandTarget) :
    (ds.map fun d => if d.CarriesWord then none
        else some (Command.mk target (commandDecorator d) .upsert)).filterMap id
      = (ds.filter fun d => ¬ d.CarriesWord).map fun d =>
          ⟨target, commandDecorator d, .upsert⟩ := by
  induction ds with
  | nil => rfl
  | cons d ds ih =>
    by_cases hword : d.CarriesWord
    · simpa [hword] using ih
    · simpa [hword] using ih

/-- **The commands of an entry**, where all names are comparable. -/
theorem commands_eq_ok {cs : List Command} :
    e.commands ns = .ok cs
      ↔ (∀ d ∈ e.decorators, d.name.canName = true) ∧ e.compiled ns = cs := by
  unfold commands
  rw [Checked.bind_eq_ok]
  simp only [Checked.mapM_eq_ok_iff (fun d c => command?_eq_ok), Checked.pure_eq_ok]
  constructor
  · rintro ⟨found, ⟨hcan, rfl⟩, rfl⟩
    exact ⟨hcan, (filterMap_compiled e.decorators (e.target ns)).symm⟩
  · rintro ⟨hcan, rfl⟩
    exact ⟨_, ⟨hcan, rfl⟩, filterMap_compiled e.decorators (e.target ns)⟩

end IndexEntry

/-- Commands whose decorators have arguments of their own. -/
def Command.withOwnArguments (c : Command) : Command :=
  { c with decorator := c.decorator.withOwnArguments }

/-- The entries of a place are compiled to its commands. -/
theorem Site.flatMap_compiled (ns : Value) (site : Site) :
    (site.entries.flatMap (IndexEntry.compiled ns)).map Command.withOwnArguments
      = site.commands ns := by
  obtain ⟨place, ds⟩ := site
  cases ds with
  | nil => rfl
  | cons d ds =>
    show (IndexEntry.compiled ns ⟨_, _, d :: ds⟩ ++ []).map Command.withOwnArguments = _
    unfold IndexEntry.compiled Site.commands
    rw [List.append_nil, List.map_map]
    refine List.map_congr_left fun d _ => ?_
    rw [← d.withOwnArguments_commandDecorator]
    rfl

/-- **The entries of a model are compiled to its commands.** -/
theorem Model.map_compiled (m : Model) :
    (m.entries.flatMap (IndexEntry.compiled m.namespaceName)).map Command.withOwnArguments
      = m.commands := by
  unfold Model.entries Model.commands
  rw [List.flatMap_assoc, List.map_flatMap]
  exact congrArg (List.flatMap · m.sites) (funext (Site.flatMap_compiled m.namespaceName))

/-- What a compiled namespace gives. -/
theorem commands_of_compileNamespace {ns : Value} {es : List IndexEntry} {set : CommandSet}
    (h : compileNamespace ns es = .ok set) :
    set.withOwnArguments.commands
      = (es.flatMap (IndexEntry.compiled ns)).map Command.withOwnArguments := by
  obtain ⟨s, _, h⟩ := Checked.bind_eq_ok.mp h
  obtain ⟨info, _, h⟩ := Checked.bind_eq_ok.mp h
  obtain ⟨css, hcss, h⟩ := Checked.bind_eq_ok.mp h
  obtain ⟨_, rfl⟩ := (Checked.mapM_eq_ok_iff (fun _ _ => IndexEntry.commands_eq_ok)).mp hcss
  obtain rfl := Except.ok.inj h
  rw [List.flatMap_def]
  rfl

/-- A namespace that can be read is compiled if the names of its decorators are
comparable. -/
theorem exists_compileNamespace {s : String} (hs : Namespace.IsWellFormed s)
    {es : List IndexEntry} (hes : ∀ e ∈ es, ∀ d ∈ e.decorators, d.name.canName = true) :
    ∃ set, compileNamespace (.str s) es = .ok set := by
  obtain ⟨version, hparse⟩ := Namespace.parse_of_isWellFormed hs
  have hcommands : es.mapM (·.commands (.str s)) = .ok (es.map (IndexEntry.compiled (.str s))) :=
    Checked.mapM_eq_ok_map (fun e he => IndexEntry.commands_eq_ok.mpr ⟨hes e he, rfl⟩)
  unfold compileNamespace
  rw [show (Value.str s).asText = .ok s from rfl, Checked.ok_bind, hparse, Checked.ok_bind,
    hcommands]
  exact ⟨_, rfl⟩

/-! ## Vocabularies -/

namespace Vocabulary

/-- The words of an entry are taken in if its names are comparable. -/
theorem exists_addEntry {v : Vocabulary} {e : IndexEntry}
    (hdecl : e.declaration.canName = true) (hprop : e.property.canName = true) :
    ∃ v', v.addEntry e = .ok v' := by
  unfold addEntry
  split
  · exact ⟨v, rfl⟩
  · have hchange : ∀ (d : DeclarationTerms), ∀ f ∈ e.decorators.filterMap Decorator.termChange?,
        ∃ d', change e f d = .ok d' := by
      intro d f _
      unfold change
      split
      · exact ⟨_, rfl⟩
      · rw [Value.asKey_eq_ok.mpr ⟨hprop, rfl⟩]
        exact ⟨_, rfl⟩
    obtain ⟨d, hd⟩ := Checked.exists_foldlM hchange (v.wordsOf e.declaration)
    rw [Value.asKey_eq_ok.mpr ⟨hdecl, rfl⟩, Checked.ok_bind, addDecorators, hd]
    exact ⟨_, rfl⟩

/-- The vocabulary of entries whose names are comparable. -/
theorem exists_ofEntries {es : List IndexEntry}
    (hes : ∀ e ∈ es, e.declaration.canName = true ∧ e.property.canName = true) :
    ∃ v, ofEntries es = .ok v :=
  Checked.exists_foldlM (fun _ e he => exists_addEntry (hes e he).1 (hes e he).2) []

end Vocabulary

/-! ## Extracting from a registry -/

/-- The names in a model can be compared: those of its places and those of the
decorators that are found there. -/
def Model.Comparable (m : Model) : Prop :=
  ∀ site ∈ m.sites, site.1.declarationName.canName = true ∧ site.1.propertyName.canName = true
    ∧ ∀ d ∈ site.2, d.name.canName = true

/-- **Texts can be compared.** -/
theorem Model.comparable_of_texts {m : Model}
    (hdeclarations : ∀ d ∈ m.declarations, ∃ s, d.name = .str s)
    (hproperties : ∀ d ∈ m.declarations, ∀ p ∈ d.ownProperties, ∃ s, p.name = .str s)
    (hdecorators : ∀ site ∈ m.sites, ∀ d ∈ site.2, ∃ s, d.name = .str s) : m.Comparable := by
  have htext {v : Value} (h : ∃ s, v = .str s) : v.canName = true := by
    obtain ⟨s, rfl⟩ := h
    rfl
  rintro ⟨place, ds⟩ hsite
  have hplace : place ∈ m.places := List.mem_map_of_mem hsite
  have hnames : place.declarationName.canName = true ∧ place.propertyName.canName = true := by
    rcases Model.mem_places.mp hplace with rfl | ⟨d, hd, rfl | ⟨p, hp, rfl⟩⟩
    · exact ⟨rfl, rfl⟩
    · exact ⟨htext (hdeclarations d hd), rfl⟩
    · exact ⟨htext (hdeclarations d hd), htext (hproperties d hd p hp)⟩
  exact ⟨hnames.1, hnames.2, fun d hd => htext (hdecorators _ hsite d hd)⟩

/-- The names that tell the elements of a model apart can be compared. -/
theorem Model.Named.comparable {m : Model} (hnamed : m.Named)
    (hdecorators : ∀ site ∈ m.sites, ∀ d ∈ site.2, ∃ s, d.name = .str s) : m.Comparable :=
  Model.comparable_of_texts (fun d hd => (hnamed.declarations d hd).imp fun _ => And.left)
    (fun d hd p hp => (hnamed.properties d hd p hp).imp fun _ => And.left) hdecorators

/-- The names in the entries of a model can be compared if the names in it can. -/
theorem Model.Comparable.entries {m : Model} (h : m.Comparable) {e : IndexEntry}
    (he : e ∈ m.entries) : e.declaration.canName = true ∧ e.property.canName = true
      ∧ ∀ d ∈ e.decorators, d.name.canName = true := by
  obtain ⟨⟨place, ds⟩, hsite, he⟩ := List.mem_flatMap.mp he
  cases ds with
  | nil => exact absurd he List.not_mem_nil
  | cons d ds =>
    obtain rfl := List.mem_singleton.mp he
    exact h _ hsite

/-- The index that the models of a document make up. -/
def Models.recordedIndex (ms : Models) : ExtractionIndex :=
  ⟨ms.recorded.map fun m => (m.namespaceName, m.entries)⟩

namespace Models

variable {ms : Models} {namespaces : List String}

theorem mem_models_of_mem_recorded {m : Model} (h : m ∈ ms.recorded) : m ∈ ms.models :=
  List.mem_of_mem_filter h

/-- Models that can be loaded are compiled if the names in them can be compared. -/
theorem exists_commandSets (hload : ms.Loadable namespaces)
    (hnames : ∀ m ∈ ms.models, m.Comparable) :
    ∃ sets, ms.recordedIndex.commandSets = .ok sets := by
  refine Checked.exists_mapM (fun bucket hbucket => ?_)
  obtain ⟨m, hm, rfl⟩ := List.mem_map.mp hbucket
  have hmem := mem_models_of_mem_recorded hm
  have hns : m.namespaceName ∈ namespaces.map Value.str := by
    rw [← hload.texts]
    exact List.mem_map_of_mem hmem
  obtain ⟨s, hs, heq⟩ := List.mem_map.mp hns
  rw [← heq]
  exact exists_compileNamespace (hload.wellFormed s hs)
    (fun e he => ((hnames m hmem).entries he).2.2)

/-- The words of models can be gathered if the names in them can be compared. -/
theorem exists_vocabularies (hnames : ∀ m ∈ ms.models, m.Comparable) (locale : String) :
    ∃ vs, ms.recordedIndex.vocabularies locale = .ok vs := by
  refine Checked.exists_mapM (fun bucket hbucket => ?_)
  obtain ⟨m, hm, rfl⟩ := List.mem_map.mp hbucket
  have hmem := mem_models_of_mem_recorded hm
  have hwords : ∃ v, Vocabulary.ofEntries m.entries = .ok v :=
    Vocabulary.exists_ofEntries (fun e he =>
      ⟨((hnames m hmem).entries he).1, ((hnames m hmem).entries he).2.1⟩)
  obtain ⟨v, hv⟩ := hwords
  exact ⟨_, Checked.bind_eq_ok.mpr ⟨v, hv, rfl⟩⟩

end Models

namespace Registry

variable {r : Registry} {ms : Models} {remove : Bool} {locale : String}

/-- **What an extraction is made of**: the index of the models and what is compiled from
it. -/
theorem eq_of_extract (hms : r.resolvedModels = .ok ms) {ex : Extraction}
    (h : r.extract remove locale = .ok ex) :
    ∃ registry sets vocabularies, ms.recordedIndex.commandSets = .ok sets
      ∧ ex = ⟨registry, sets.map CommandSet.withOwnArguments, vocabularies, ms.recordedIndex⟩ := by
  unfold extract at h
  rw [hms, Checked.ok_bind, Models.extract_eq, Models.index_eq (resolvedModels_loadable hms)] at h
  obtain ⟨⟨left, index⟩, hpair, h⟩ := Checked.bind_eq_ok.mp h
  obtain ⟨rfl, rfl⟩ := Prod.mk.inj (Except.ok.inj hpair)
  obtain ⟨registry, _, h⟩ := Checked.bind_eq_ok.mp h
  obtain ⟨sets, hsets, h⟩ := Checked.bind_eq_ok.mp h
  obtain ⟨vocabularies, _, h⟩ := Checked.bind_eq_ok.mp h
  exact ⟨registry, sets, vocabularies, hsets, (Except.ok.inj h).symm⟩

/-- The index of an extraction is that of the models. -/
theorem index_of_extract (hms : r.resolvedModels = .ok ms) {ex : Extraction}
    (h : r.extract remove locale = .ok ex) : ex.index = ms.recordedIndex := by
  obtain ⟨_, _, _, _, rfl⟩ := eq_of_extract hms h
  rfl

/-- The command sets of an extraction are compiled from the index of the models. -/
theorem commandSets_of_extract (hms : r.resolvedModels = .ok ms) {ex : Extraction}
    (h : r.extract remove locale = .ok ex) : ∃ sets, ms.recordedIndex.commandSets = .ok sets
      ∧ ex.commandSets = sets.map CommandSet.withOwnArguments := by
  obtain ⟨_, sets, _, hsets, rfl⟩ := eq_of_extract hms h
  exact ⟨sets, hsets, rfl⟩

/-- **The command sets of an extraction** hold the commands of the models that have
decorators, one set for each. -/
theorem commands_of_extract (hms : r.resolvedModels = .ok ms) {ex : Extraction}
    (h : r.extract remove locale = .ok ex) :
    ex.commandSets.map CommandSet.commands = ms.recorded.map Model.commands := by
  obtain ⟨sets, hsets, heq⟩ := commandSets_of_extract hms h
  have hcommands : sets.map (fun set => set.withOwnArguments.commands)
      = (ms.recorded.map fun m => (m.namespaceName, m.entries)).map fun bucket =>
        (bucket.2.flatMap (IndexEntry.compiled bucket.1)).map Command.withOwnArguments :=
    Checked.map_eq_map_of_mapM (fun _ _ _ => commands_of_compileNamespace) hsets
  rw [heq, List.map_map]
  rw [List.map_map] at hcommands
  exact hcommands.trans (List.map_congr_left (fun m _ => m.map_compiled))

/-- **Extraction succeeds** if the models can be resolved and the names in them can be
compared. It leaves the models without their decorators where these are removed. -/
theorem exists_extract (hms : r.resolvedModels = .ok ms) (hnames : ∀ m ∈ ms.models, m.Comparable)
    (remove : Bool) (locale : String) :
    ∃ ex, r.extract remove locale = .ok ex
      ∧ ex.registry.toModels = ⟨ms.models.map (Model.leaveBehind remove)⟩ := by
  have hload := resolvedModels_loadable hms
  have hleft : Models.Loadable ⟨ms.models.map (Model.leaveBehind remove)⟩ r.namespaces := by
    refine hload.of_namespaces ?_
    rw [List.map_map]
    rfl
  obtain ⟨registry, hregistry, hmodels⟩ := exists_ofModels hleft
  obtain ⟨sets, hsets⟩ := Models.exists_commandSets hload hnames
  obtain ⟨vs, hvs⟩ := Models.exists_vocabularies hnames locale
  refine ⟨⟨registry, sets.map CommandSet.withOwnArguments, vs, ms.recordedIndex⟩, ?_, hmodels⟩
  unfold extract
  rw [hms, Checked.ok_bind, Models.extract_eq, Models.index_eq hload]
  refine Checked.bind_eq_ok.mpr
    ⟨(⟨ms.models.map (Model.leaveBehind remove)⟩, ms.recordedIndex), rfl, ?_⟩
  refine Checked.bind_eq_ok.mpr ⟨registry, hregistry, ?_⟩
  refine Checked.bind_eq_ok.mpr ⟨sets, hsets, ?_⟩
  exact Checked.bind_eq_ok.mpr ⟨vs, hvs, rfl⟩

end Registry

end DecoratorSets
