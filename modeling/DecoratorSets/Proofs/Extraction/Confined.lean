import DecoratorSets.Proofs.Command.Validation
import DecoratorSets.Proofs.Extraction.Targets

/-!
# Command sets inside their namespaces

The command set of a namespace is meant for the models of that namespace alone. Its
commands all have the namespace as their target, and so they leave every model that does
not go by it (`Model.eq_or_of_applyAll`): the command sets of an extraction stay inside
their namespaces (`Registry.confined_of_extract`).

A model goes by its namespace with and without the version. A namespace with a version
is therefore only ever its own, but one without a version may stand for others
(`Namespace.StandsFor`): models of two versions of a namespace, or of one version and
none, can be loaded side by side, and the command set of the namespace without a version
then decorates the models of both (`Shared.set_beyond_namespace`).
-/

namespace DecoratorSets

/-- **A namespace stands for another**, as the target of a command, if it is the other
without its version, or empty, which selects every model. -/
def Namespace.StandsFor (ns other : String) : Prop := ns = "" ∨ bareName other = ns

instance (ns other : String) : Decidable (Namespace.StandsFor ns other) :=
  inferInstanceAs (Decidable (_ ∨ _))

/-! ## Commands for a namespace -/

section Commands

variable {c : Command} {cs : List Command} {ns : String}

/-- A target selects declarations of its own namespace, and of those that it stands
for. -/
theorem CommandTarget.namespace_of_selectsDeclaration {t : CommandTarget}
    (ht : t.namespaceName = .str ns) {model : Value} {d : Declaration}
    (h : t.selectsDeclaration model d = .ok true) :
    ∃ s, model = .str s ∧ (s = ns ∨ Namespace.StandsFor ns s) := by
  obtain ⟨s, rfl, hs⟩ := exists_namespace_of_selectsDeclaration h
  refine ⟨s, rfl, ?_⟩
  by_cases hempty : ns = ""
  · exact Or.inr (Or.inl hempty)
  have hblank : ¬ (Value.str ns).isBlank = true := fun h => hempty ((Value.isBlank_str ns).mp h)
  unfold selectsDeclaration at h
  rw [show (Value.str s).asText = .ok s from rfl, Checked.ok_bind,
    unversioned_of_isWellFormed hs, Checked.ok_bind, ht, selects_str hblank, Checked.ok_bind] at h
  cases hany : [Value.str s, .str (bareName s)].any (Value.str ns).sameAs with
  | false =>
    rw [hany] at h
    cases h
  | true =>
    obtain ⟨name, hname, hsame⟩ := List.any_eq_true.mp hany
    obtain rfl := (Value.str_sameAs_iff ns name).mp hsame
    rcases List.mem_pair.mp hname with heq | heq
    · exact Or.inl (Value.str.inj heq).symm
    · exact Or.inr (Or.inr (Value.str.inj heq).symm)

/-- **A command leaves a declaration** of a namespace that it is not for. -/
theorem Declaration.eq_or_of_apply (hc : c.target.namespaceName = .str ns) {model : Value}
    {d d' : Declaration} (h : d.apply model c = .ok d') :
    d' = d ∨ ∃ s, model = .str s ∧ (s = ns ∨ Namespace.StandsFor ns s) := by
  rw [Declaration.apply_eq_ok] at h
  unfold Declaration.execute at h
  cases hsel : c.target.selectsDeclaration model d with
  | error e =>
    rw [hsel] at h
    cases h
  | ok selected =>
    cases selected with
    | false =>
      rw [hsel] at h
      exact Or.inl (Prod.mk.inj h).1.symm
    | true => exact Or.inr (CommandTarget.namespace_of_selectsDeclaration hc hsel)

/-- Commands leave a declaration of a namespace that they are not for. -/
theorem Declaration.eq_or_of_applyAll (hcs : ∀ c ∈ cs, c.target.namespaceName = .str ns)
    {model : Value} {d d' : Declaration} (h : d.applyAll model cs = .ok d') :
    d' = d ∨ ∃ s, model = .str s ∧ (s = ns ∨ Namespace.StandsFor ns s) := by
  refine Checked.foldlM_keeps (p := fun d' : Declaration =>
    d' = d ∨ ∃ s, model = .str s ∧ (s = ns ∨ Namespace.StandsFor ns s)) ?_ (Or.inl rfl) h
  rintro mid (rfl | hmodel) c hc d' hstep
  · exact Declaration.eq_or_of_apply (hcs c hc) hstep
  · exact Or.inr hmodel

/-- **Commands leave a model** of a namespace that they are not for. -/
theorem Model.eq_or_of_applyAll (hcs : ∀ c ∈ cs, c.target.namespaceName = .str ns)
    {m m' : Model} (h : m.applyAll cs = .ok m') :
    m' = m ∨ ∃ s, m.namespaceName = .str s ∧ (s = ns ∨ Namespace.StandsFor ns s) := by
  obtain ⟨ds, hds, h⟩ := Checked.bind_eq_ok.mp h
  obtain rfl := Except.ok.inj h
  by_cases hmodel : ∃ s, m.namespaceName = .str s ∧ (s = ns ∨ Namespace.StandsFor ns s)
  · exact Or.inr hmodel
  · have hsame : ds.map id = m.declarations.map id :=
      Checked.map_eq_map_of_mapM (fun d _ d' hd =>
        (Declaration.eq_or_of_applyAll hcs hd).resolve_right hmodel) hds
    rw [List.map_id, List.map_id] at hsame
    exact Or.inl (by rw [hsame])

end Commands

/-- **A command set stays inside a namespace**: wherever it is applied, it leaves the
models of the other namespaces that this one does not stand for. -/
def CommandSet.StaysIn (set : CommandSet) (ns : String) : Prop :=
  ∀ ms out : Models, ms.decorate set = .ok out →
    List.Forall₂ (fun m m' => ∀ s, m.namespaceName = .str s → s ≠ ns →
      ¬ Namespace.StandsFor ns s → m' = m) ms.models out.models

/-- A command set whose commands are all for one namespace stays inside it. -/
theorem CommandSet.staysIn_of_target {set : CommandSet} {ns : String}
    (hset : ∀ c ∈ set.commands, c.target.namespaceName = .str ns) : set.StaysIn ns := by
  intro ms out h
  obtain ⟨models, hmodels, h⟩ := Checked.bind_eq_ok.mp h
  obtain rfl := Except.ok.inj h
  refine (Checked.mapM_eq_ok.mp hmodels).imp fun m m' hm s hs hne hstands => ?_
  refine (Model.eq_or_of_applyAll hset hm).resolve_right ?_
  rintro ⟨s', hs', hns⟩
  obtain rfl := Value.str.inj (hs.symm.trans hs')
  exact hns.elim hne hstands

/-! ## The commands of a model -/

/-- The commands of a model have its namespace as their target. -/
theorem Model.namespaceName_of_mem_commands {m : Model} {c : Command} (hc : c ∈ m.commands) :
    c.target.namespaceName = m.namespaceName := by
  obtain ⟨site, _, hc⟩ := List.mem_flatMap.mp hc
  obtain ⟨d, _, rfl⟩ := List.mem_map.mp hc
  rfl

/-- **The names in a model are texts**: those of its declarations and of their
properties. -/
def Model.NamedByTexts (m : Model) : Prop :=
  ∀ place ∈ m.places, ∃ s t, place.declarationName = .str s ∧ place.propertyName = .str t

/-- **The commands of a model are carried out** on all models that can be decorated. -/
theorem Model.NamedByTexts.exists_decorate {m : Model} (hm : m.NamedByTexts) {ns : String}
    (hns : m.namespaceName = .str ns) {set : CommandSet} (hset : set.commands = m.commands)
    {ms : Models} (hms : ms.Decoratable) : ∃ out, ms.decorate set = .ok out := by
  have hcommand : ∀ c ∈ set.commands, ∃ place ∈ m.places, ∃ d : Decorator,
      c = ⟨place.target (.str ns), d, .upsert⟩ := by
    intro c hc
    rw [hset] at hc
    obtain ⟨site, hsite, hc⟩ := List.mem_flatMap.mp hc
    obtain ⟨d, _, rfl⟩ := List.mem_map.mp hc
    exact ⟨site.1, List.mem_map_of_mem hsite, d.restored, by rw [hns]⟩
  refine hms.exists_decorate (fun c hc => ?_) (fun c hc => ?_)
  · obtain ⟨place, _, d, rfl⟩ := hcommand c hc
    exact Or.inl rfl
  · obtain ⟨place, hplace, d, rfl⟩ := hcommand c hc
    obtain ⟨s, t, hdecl, hprop⟩ := hm place hplace
    exact Place.isPlain_of_texts hdecl hprop ns

/-! ## The command sets of an extraction -/

namespace Registry

variable {r : Registry} {ms : Models} {remove : Bool} {locale : String}

/-- **The namespaces of the index and the command sets go together**, one model for
each. -/
theorem forall₂_of_extract (hms : r.resolvedModels = .ok ms) {ex : Extraction}
    (h : r.extract remove locale = .ok ex) :
    List.Forall₂ (fun name set => ∃ m ∈ ms.models, name = m.namespaceName
      ∧ set.commands = m.commands) ex.index.namespaces ex.commandSets := by
  have hnamespaces : ex.index.namespaces = ms.recorded.map Model.namespaceName := by
    rw [index_of_extract hms h]
    unfold ExtractionIndex.namespaces Models.recordedIndex
    rw [List.map_map]
    rfl
  have hcommands := commands_of_extract hms h
  rw [← List.forall₂_eq_eq_eq, List.forall₂_map_left_iff, List.forall₂_map_right_iff] at hcommands
  rw [hnamespaces, List.forall₂_map_left_iff]
  have hmem : ∀ m ∈ ms.recorded, m ∈ ms.models := fun m => Models.mem_models_of_mem_recorded
  refine ((List.forall₂_and_left _ _).mpr ⟨hmem, hcommands.flip⟩).imp ?_
  rintro m set ⟨hm, hset⟩
  exact ⟨m, hm, rfl, hset⟩

/-- Where the names in the models of a registry are texts, so are those in its resolved
models. -/
theorem namedByTexts_of_resolvedModels (hms : r.resolvedModels = .ok ms)
    (hnames : ∀ m ∈ r.toModels.models, m.NamedByTexts) {m : Model} (hm : m ∈ ms.models) :
    m.NamedByTexts := by
  obtain ⟨f, hf, hfm, _⟩ := exists_file_of_resolvedModels hms hm
  have hplaces : m.places = f.toModel.places :=
    congrArg (List.map Prod.fst) (ModelFile.sites_of_resolvedModel hfm)
  unfold Model.NamedByTexts
  rw [hplaces]
  exact hnames f.toModel (List.mem_map_of_mem hf)

/-- **The command sets of an extraction stay inside their namespaces.** The index and the
command sets go together; each namespace of the index is one that is loaded, and its set,
wherever it is applied, leaves every model of another namespace that it does not stand
for. If the names in the models are texts, each set can be applied to all models that can
be decorated. -/
theorem confined_of_extract (r : Registry) (remove : Bool) (locale : String) (ex : Extraction)
    (h : r.extract remove locale = .ok ex) :
    List.Forall₂ (fun name set => ∃ ns, name = .str ns ∧ ns ∈ r.namespaces ∧ set.StaysIn ns
        ∧ ((∀ m ∈ r.toModels.models, m.NamedByTexts) →
          ∀ ms : Models, ms.Decoratable → ∃ out, ms.decorate set = .ok out))
      ex.index.namespaces ex.commandSets := by
  obtain ⟨ms, hms, _⟩ := Checked.bind_eq_ok.mp h
  refine (forall₂_of_extract hms h).imp ?_
  rintro name set ⟨m, hm, rfl, hset⟩
  obtain ⟨f, hf, _, hns, _⟩ := exists_file_of_resolvedModels hms hm
  refine ⟨f.namespaceText, hns, List.mem_map_of_mem hf, ?_, fun hnames tree htree => ?_⟩
  · refine CommandSet.staysIn_of_target fun c hc => ?_
    rw [hset] at hc
    exact (Model.namespaceName_of_mem_commands hc).trans hns
  · exact (namedByTexts_of_resolvedModels hms hnames hm).exists_decorate hns hset htree

end Registry

/-! ## Namespaces of one name -/

namespace Shared

open CommandSetSource

theorem parse_bare : Namespace.parse "org.acme" = .ok ⟨"org.acme", none⟩ := by
  decide +kernel

/-- A file with one declaration, which is decorated. -/
def tableFile (ns : String) (info : Namespace) (parse_eq : Namespace.parse ns = .ok info) :
    ModelFile where
  namespaceText := ns
  info := info
  declarations := [⟨.str "Person", .concept, some [], false, none, some [⟨.str "Table", none, []⟩],
    []⟩]
  decorators := none
  extras := []
  parse_eq := parse_eq

/-- The registry of two versions of a namespace. -/
def versions : Registry where
  strict := false
  files := [tableFile "org.acme@1.0.0" _ Namespace.parse_acme,
    tableFile "org.acme@2.0.0" _ Namespace.parse_acme_next]
  distinct := by
    show ["org.acme@1.0.0", "org.acme@2.0.0"].Nodup
    decide

/-- The command sets of two versions of a namespace stay apart. -/
theorem confined_of_extract_versions :
    ∃ ex, versions.extract true "en" = .ok ex
      ∧ ex.index.namespaces = [.str "org.acme@1.0.0", .str "org.acme@2.0.0"]
      ∧ ¬ Namespace.StandsFor "org.acme@1.0.0" "org.acme@2.0.0"
      ∧ ¬ Namespace.StandsFor "org.acme@2.0.0" "org.acme@1.0.0"
      ∧ List.Forall₂ (fun name set => ∃ ns, name = .str ns ∧ ns ∈ versions.namespaces
          ∧ set.StaysIn ns ∧ ((∀ m ∈ versions.toModels.models, m.NamedByTexts) →
            ∀ ms : Models, ms.Decoratable → ∃ out, ms.decorate set = .ok out))
        ex.index.namespaces ex.commandSets := by
  have hclosed : versions.resolvedModels = .ok versions.toModels
      ∧ (∀ m ∈ versions.toModels.models, ∀ site ∈ m.sites,
        site.1.declarationName.canName = true ∧ site.1.propertyName.canName = true
          ∧ ∀ d ∈ site.2, d.name.canName = true)
      ∧ versions.toModels.recordedIndex.namespaces
        = [.str "org.acme@1.0.0", .str "org.acme@2.0.0"] := by
    decide +kernel
  obtain ⟨hms, hnames, hnamespaces⟩ := hclosed
  obtain ⟨ex, hex, _⟩ := Registry.exists_extract hms hnames true "en"
  refine ⟨ex, hex, ?_, by decide +kernel, by decide +kernel,
    Registry.confined_of_extract versions true "en" ex hex⟩
  rw [Registry.index_of_extract hms hex, hnamespaces]

/-- The registry of a namespace without a version, where a declaration is decorated, and
of the same namespace with one, where it is not. -/
def registry : Registry where
  strict := false
  files := [tableFile "org.acme" _ parse_bare, personFile]
  distinct := by
    show ["org.acme", "org.acme@1.0.0"].Nodup
    decide

/-- **A namespace without a version reaches beyond itself.** It is the only one with
decorators, and so there is one command set. Applied to the same models, the set also
decorates the declaration of the other namespace. -/
theorem set_beyond_namespace :
    ∃ ex, registry.extract true "en" = .ok ex ∧ ex.index.namespaces = [.str "org.acme"]
      ∧ ∃ set, ex.commandSets = [set] ∧ ∃ out, registry.toModels.decorate set = .ok out
        ∧ registry.toModels.models[1]? = some personFile.toModel
        ∧ personFile.toModel.namespaceName ≠ .str "org.acme"
        ∧ out.models[1]? = some (tableFile "org.acme@1.0.0" _ Namespace.parse_acme).toModel
        ∧ (tableFile "org.acme@1.0.0" _ Namespace.parse_acme).toModel ≠ personFile.toModel := by
  have hclosed : registry.resolvedModels = .ok registry.toModels
      ∧ (∀ m ∈ registry.toModels.models, ∀ site ∈ m.sites,
        site.1.declarationName.canName = true ∧ site.1.propertyName.canName = true
          ∧ ∀ d ∈ site.2, d.name.canName = true)
      ∧ registry.toModels.recordedIndex.namespaces = [.str "org.acme"]
      ∧ registry.toModels.recorded.map Model.commands
        = [[⟨⟨.str "org.acme", .str "Person", .null, none, .null⟩, ⟨.str "Table", none, []⟩,
          .upsert⟩]] := by
    decide +kernel
  obtain ⟨hms, hnames, hnamespaces, hcommands⟩ := hclosed
  obtain ⟨ex, hex, _⟩ := Registry.exists_extract hms hnames true "en"
  have hsets := (Registry.commands_of_extract hms hex).trans hcommands
  obtain ⟨set, rest, hset, hcommand, hrest⟩ := List.map_eq_cons_iff.mp hsets
  rw [List.map_eq_nil_iff.mp hrest] at hset
  refine ⟨ex, hex, ?_, set, hset, ⟨[(tableFile "org.acme" _ parse_bare).toModel,
    (tableFile "org.acme@1.0.0" _ Namespace.parse_acme).toModel]⟩, ?_, rfl, by decide, rfl,
    by decide +kernel⟩
  · rw [Registry.index_of_extract hms hex, hnamespaces]
  · unfold Models.decorate
    rw [hcommand]
    decide +kernel

end Shared

end DecoratorSets
