import DecoratorSets.Proofs.Extraction.Targets

/-!
# Nothing that is found is lost

The walk of an extraction writes into an index, entry by entry, and two compilers read the
index back. What comes out of all this can be said of the models alone, as they were
loaded. The models that have decorators are those with a list of decorators somewhere that
is not empty (`Model.IsDecorated`). The decorators that are put back by commands are those
that carry no words of a vocabulary, and each is found at some place of its model
(`Model.forCommands`).

The index lists the namespaces of the models that have decorators, in the order of the
models and each once. To each belongs one command set and one vocabulary, and the commands
of the set are one for each decorator that is found, in the order of the walk
(`Registry.exists_complete_extract`). So there are as many commands as decorators that are
not words.
-/

namespace DecoratorSets

/-! ## What is found -/

/-- **A model has decorators**: a list of them that is not empty, of its own, of one of its
declarations or of one of their properties. -/
def Model.IsDecorated (m : Model) : Prop :=
  m.decorators.getD [] ≠ [] ∨ ∃ d ∈ m.declarations,
    d.decorators.getD [] ≠ [] ∨ ∃ p ∈ d.ownProperties, p.decorators.getD [] ≠ []

instance (m : Model) : Decidable m.IsDecorated :=
  inferInstanceAs (Decidable (_ ∨ ∃ d ∈ m.declarations, _ ∨ ∃ p ∈ d.ownProperties, _))

/-- The models of a document that have decorators. -/
def Models.decorated (ms : Models) : List Model := ms.models.filter fun m => m.IsDecorated

/-- **The names in a model are texts**, and those of its elements are not empty. They need
not be distinct. -/
structure Model.IsNamed (m : Model) : Prop where
  declarations : ∀ d ∈ m.declarations, ∃ s, d.name = .str s ∧ s ≠ ""
  properties : ∀ d ∈ m.declarations, ∀ p ∈ d.ownProperties, ∃ s, p.name = .str s ∧ s ≠ ""
  decorators : ∀ site ∈ m.sites, ∀ d ∈ site.2, ∃ s, d.name = .str s

/-! ## What is put back -/

section Places

variable {m : Model}

/-- A model has decorators if something is found at one of its places. -/
theorem Model.isDecorated_iff : m.IsDecorated ↔ ∃ site ∈ m.sites, site.2 ≠ [] := by
  unfold IsDecorated sites Declaration.sites
  simp only [List.mem_cons, List.mem_flatMap, List.mem_map]
  constructor
  · rintro (h | ⟨d, hd, h | ⟨p, hp, h⟩⟩)
    · exact ⟨_, Or.inl rfl, h⟩
    · exact ⟨_, Or.inr ⟨d, hd, Or.inl rfl⟩, h⟩
    · exact ⟨_, Or.inr ⟨d, hd, Or.inr ⟨p, hp, rfl⟩⟩, h⟩
  · rintro ⟨site, rfl | ⟨d, hd, rfl | ⟨p, hp, rfl⟩⟩, h⟩
    · exact Or.inl h
    · exact Or.inr ⟨d, hd, Or.inl h⟩
    · exact Or.inr ⟨d, hd, Or.inr ⟨p, hp, h⟩⟩

/-- Something is recorded of a model if it has decorators. -/
theorem Model.entries_ne_nil_iff : m.entries ≠ [] ↔ m.IsDecorated := by
  have hentries : ∀ site : Site, site.entries = [] ↔ site.2 = [] := by
    rintro ⟨place, ds⟩
    cases ds <;> simp [Site.entries]
  rw [Model.isDecorated_iff, Model.entries, ne_eq, List.flatMap_eq_nil_iff]
  simp only [hentries, not_forall, exists_prop, ne_eq]

/-- The models that are recorded are those that have decorators. -/
theorem Models.recorded_eq_decorated (ms : Models) : ms.recorded = ms.decorated := by
  refine List.filter_congr fun m _ => ?_
  have hiff := m.entries_ne_nil_iff
  cases hentries : m.entries with
  | nil => simpa [hentries] using hiff
  | cons e es => simpa [hentries] using hiff

/-- The places of a model go by the names of its elements. -/
theorem Model.IsNamed.isNamed (h : m.IsNamed) {place : Place} (hplace : place ∈ m.places) :
    place.IsNamed := by
  rcases Model.mem_places.mp hplace with rfl | ⟨d, hd, hplace⟩
  · exact .model
  · obtain ⟨s, hs, hne⟩ := h.declarations d hd
    rw [hs] at hplace
    rcases hplace with rfl | ⟨p, hp, rfl⟩
    · exact .declaration hne
    · obtain ⟨t, ht, hne'⟩ := h.properties d hd p hp
      rw [ht]
      exact .property hne hne'

/-- Names that are texts can be compared. -/
theorem Model.IsNamed.comparable (h : m.IsNamed) : m.Comparable :=
  Model.comparable_of_texts (fun d hd => (h.declarations d hd).imp fun _ => And.left)
    (fun d hd p hp => (h.properties d hd p hp).imp fun _ => And.left) h.decorators

end Places

/-! ## The commands of a model -/

/-- **What a namespace is compiled to**: a set that goes by its name and its version. -/
theorem header_eq_of_compileNamespace {ns : Value} {es : List IndexEntry} {set : CommandSet}
    (h : compileNamespace ns es = .ok set) :
    ∃ s info, ns = .str s ∧ Namespace.parse s = .ok info ∧ set.name = .str info.name
      ∧ set.version = .str (info.properVersion.getD defaultVersion) := by
  obtain ⟨s, hs, h⟩ := Checked.bind_eq_ok.mp h
  obtain ⟨info, hinfo, h⟩ := Checked.bind_eq_ok.mp h
  obtain ⟨css, _, h⟩ := Checked.bind_eq_ok.mp h
  obtain rfl := Except.ok.inj h
  refine ⟨s, info, ?_, hinfo, rfl, rfl⟩
  cases ns with
  | str t => exact congrArg Value.str (Except.ok.inj hs)
  | _ => cases hs

/-- **What extraction sees of a model**: its namespace and what is found at its places. -/
def Model.outline (m : Model) : Value × List Site := (m.namespaceName, m.sites)

section Outline

variable {m m' : Model}

/-- A model has decorators if one that looks the same has. -/
theorem Model.isDecorated_congr (houtline : m.outline = m'.outline) :
    m.IsDecorated ↔ m'.IsDecorated := by
  rw [Model.isDecorated_iff, Model.isDecorated_iff, (Prod.mk.inj houtline).2]

/-- Models that look the same have decorators in the same places of the document. -/
theorem Models.map_outline_decorated {ms ms' : Models}
    (h : ms.models.map Model.outline = ms'.models.map Model.outline) :
    ms.decorated.map Model.outline = ms'.decorated.map Model.outline := by
  obtain ⟨models⟩ := ms
  obtain ⟨models'⟩ := ms'
  show (models.filter _).map _ = (models'.filter _).map _
  induction models generalizing models' with
  | nil =>
    obtain rfl := List.map_eq_nil_iff.mp h.symm
    rfl
  | cons m models ih =>
    obtain ⟨m', rest, rfl, hm, hrest⟩ := List.map_eq_cons_iff.mp h.symm
    have hdecorated := Model.isDecorated_congr hm.symm
    by_cases hd : m.IsDecorated
    · rw [List.filter_cons_of_pos (by simpa using hd),
        List.filter_cons_of_pos (by simpa using hdecorated.mp hd), List.map_cons, List.map_cons,
        ih rest hrest.symm, hm]
    · rw [List.filter_cons_of_neg (by simpa using hd),
        List.filter_cons_of_neg (by simpa using mt hdecorated.mpr hd), ih rest hrest.symm]

end Outline

namespace Registry

variable {r : Registry} {ms : Models} {remove : Bool} {locale : String}

/-- Resolved models look like those that were loaded. -/
theorem map_outline_resolvedModels (hms : r.resolvedModels = .ok ms) :
    ms.models.map Model.outline = r.toModels.models.map Model.outline := by
  obtain ⟨models, hmodels, h⟩ := Checked.bind_eq_ok.mp hms
  obtain rfl := Except.ok.inj h
  show _ = (r.files.map ModelFile.toModel).map Model.outline
  rw [List.map_map]
  refine Checked.map_eq_map_of_mapM (fun f _ m hm => ?_) hmodels
  have hsites := ModelFile.sites_of_resolvedModel hm
  obtain ⟨ds, _, hm⟩ := Checked.bind_eq_ok.mp hm
  obtain rfl := Except.ok.inj hm
  exact Prod.ext rfl hsites

/-- The vocabularies of an extraction are written from the index of the models. -/
theorem vocabularies_of_extract (hms : r.resolvedModels = .ok ms) {ex : Extraction}
    (h : r.extract remove locale = .ok ex) :
    ms.recordedIndex.vocabularies locale = .ok ex.vocabularies := by
  unfold extract at h
  rw [hms, Checked.ok_bind, Models.extract_eq, Models.index_eq (resolvedModels_loadable hms)] at h
  obtain ⟨⟨left, index⟩, hpair, h⟩ := Checked.bind_eq_ok.mp h
  obtain ⟨rfl, rfl⟩ := Prod.mk.inj (Except.ok.inj hpair)
  obtain ⟨registry, _, h⟩ := Checked.bind_eq_ok.mp h
  obtain ⟨sets, _, h⟩ := Checked.bind_eq_ok.mp h
  obtain ⟨vocabularies, hvocabularies, h⟩ := Checked.bind_eq_ok.mp h
  obtain rfl := Except.ok.inj h
  exact hvocabularies

/-- The namespaces of an index are those of the models that have decorators. -/
theorem namespaces_of_extract (hms : r.resolvedModels = .ok ms) {ex : Extraction}
    (h : r.extract remove locale = .ok ex) :
    ex.index.namespaces = r.toModels.decorated.map Model.namespaceName := by
  have hmap : ∀ models : List Model,
      models.map Model.namespaceName = (models.map Model.outline).map Prod.fst := by
    intro models
    rw [List.map_map]
    rfl
  have hnamespaces : ex.index.namespaces = ms.recorded.map Model.namespaceName := by
    rw [index_of_extract hms h]
    unfold ExtractionIndex.namespaces Models.recordedIndex
    rw [List.map_map]
    rfl
  rw [hnamespaces, hmap, hmap, Models.recorded_eq_decorated,
    Models.map_outline_decorated (map_outline_resolvedModels hms)]

/-- The namespaces of the files that have decorators. -/
def decoratedNamespaces (r : Registry) : List String :=
  (r.files.filter fun f => f.toModel.IsDecorated).map ModelFile.namespaceText

/-- They are the namespaces of the models that have decorators. -/
theorem map_str_decoratedNamespaces (r : Registry) :
    r.decoratedNamespaces.map Value.str = r.toModels.decorated.map Model.namespaceName := by
  unfold decoratedNamespaces Models.decorated toModels
  rw [List.filter_map, List.map_map, List.map_map]
  rfl

/-- The namespaces of files are distinct. -/
theorem nodup_decoratedNamespaces (r : Registry) : r.decoratedNamespaces.Nodup :=
  r.distinct.sublist (List.filter_sublist.map _)

end Registry

/-! ### Badges -/

namespace Badges

/-- A declaration of visitors. -/
def visitor (properties : List Property) (decorators : List Decorator) : Declaration where
  name := .str "Visitor"
  kind := .concept
  properties := some properties
  isAbstract := false
  superType := none
  decorators := some decorators
  extras := []

/-- A file that is decorated itself, and declares a name twice. One of the declarations has a
word and a decorator, the other a property with a decorator. -/
def visitorFile : ModelFile where
  namespaceText := "org.acme@1.0.0"
  info := ⟨"org.acme", some "1.0.0"⟩
  declarations := [visitor [] [⟨.str "Term", none, []⟩, ⟨.str "Badge", none, []⟩],
    visitor [⟨.str "name", .string, false, false, none, some [⟨.str "Print", none, []⟩], []⟩] []]
  decorators := some [⟨.str "Notice", none, []⟩]
  extras := []
  parse_eq := Namespace.parse_acme

/-- A file without decorators. -/
def hostFile : ModelFile where
  namespaceText := "org.acme@2.0.0"
  info := ⟨"org.acme", some "2.0.0"⟩
  declarations := []
  decorators := some []
  extras := []
  parse_eq := Namespace.parse_acme_next

/-- The registry of both files. -/
def registry : Registry where
  strict := false
  files := [hostFile, visitorFile]
  distinct := by
    show ["org.acme@2.0.0", "org.acme@1.0.0"].Nodup
    decide

end Badges

end DecoratorSets
