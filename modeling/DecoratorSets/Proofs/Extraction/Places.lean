import Mathlib.Data.List.Induction
import Mathlib.Data.List.Nodup
import DecoratorSets.Proofs.Extraction.Walk
import DecoratorSets.Proofs.Registry.Resolution

/-!
# Where decorators are found

A model has a place for each of its elements: one for itself, one for each of its
declarations and one for each of their properties. As long as the names in it are
distinct (`Model.Named`), no two elements share a place (`Model.Named.nodup_places`).
The places of a model and what is found there do not change when its references are
resolved (`ModelFile.sites_of_resolvedModel`).

Extraction visits the places of a model in order and records what it finds at each.
So the index of a document is simply the list of its models that have decorators,
each with the entries of its places (`Models.index_eq`).
-/

namespace DecoratorSets

/-- An element of a model, by its names. -/
inductive Place where
  | model
  | declaration (name : Value)
  | property (declaration name : Value)
deriving DecidableEq

namespace Place

/-- The name under which the declaration of a place is recorded. -/
def declarationName : Place → Value
  | .model => .str ""
  | .declaration name => name
  | .property owner _ => owner

/-- The name under which the property of a place is recorded. -/
def propertyName : Place → Value
  | .model => .str ""
  | .declaration _ => .str ""
  | .property _ name => name

end Place

/-- A place and the decorators found there. -/
abbrev Site := Place × List Decorator

/-- What is recorded of a place: nothing, if there are no decorators. -/
def Site.entries : Site → List IndexEntry
  | (_, []) => []
  | (place, d :: ds) => [⟨place.declarationName, place.propertyName, d :: ds⟩]

/-- The places of a declaration and its properties. -/
def Declaration.sites (d : Declaration) : List Site :=
  (.declaration d.name, d.decorators.getD [])
    :: d.ownProperties.map fun p => (.property d.name p.name, p.decorators.getD [])

/-- **The places of a model**, in the order in which they are visited. -/
def Model.sites (m : Model) : List Site :=
  (.model, m.decorators.getD []) :: m.declarations.flatMap Declaration.sites

/-- The places of a model. -/
def Model.places (m : Model) : List Place := m.sites.map Prod.fst

/-- The entries of a model. -/
def Model.entries (m : Model) : List IndexEntry := m.sites.flatMap Site.entries

/-- The models that have decorators. -/
def Models.recorded (ms : Models) : List Model := ms.models.filter fun m => !m.entries.isEmpty

/-! ## Names that tell elements apart -/

/-- **Names that tell the elements of a model apart**: texts that are not empty, no
two alike among the declarations of the model or among the properties of one
declaration. -/
structure Model.Named (m : Model) : Prop where
  declarations : ∀ d ∈ m.declarations, ∃ s, d.name = .str s ∧ s ≠ ""
  properties : ∀ d ∈ m.declarations, ∀ p ∈ d.ownProperties, ∃ s, p.name = .str s ∧ s ≠ ""
  distinctDeclarations : (m.declarations.map Declaration.name).Nodup
  distinctProperties : ∀ d ∈ m.declarations, (d.ownProperties.map Property.name).Nodup

/-- The places of a declaration and its properties. -/
theorem Declaration.map_fst_sites (d : Declaration) :
    d.sites.map Prod.fst
      = .declaration d.name :: d.ownProperties.map fun p => .property d.name p.name := by
  unfold Declaration.sites
  rw [List.map_cons, List.map_map]
  rfl

/-- A place of a declaration goes by its name. -/
theorem Declaration.declarationName_of_mem_sites {d : Declaration} {place : Place}
    (h : place ∈ d.sites.map Prod.fst) : place ≠ .model ∧ place.declarationName = d.name := by
  rw [Declaration.map_fst_sites] at h
  rcases List.mem_cons.mp h with rfl | h
  · exact ⟨Place.noConfusion, rfl⟩
  · obtain ⟨p, _, rfl⟩ := List.mem_map.mp h
    exact ⟨Place.noConfusion, rfl⟩

/-- **No two elements share a place.** -/
theorem Model.Named.nodup_places {m : Model} (h : m.Named) : m.places.Nodup := by
  have hbelow : ∀ d ∈ m.declarations, (d.sites.map Prod.fst).Nodup := by
    intro d hd
    rw [Declaration.map_fst_sites, List.nodup_cons]
    refine ⟨fun hmem => ?_, ?_⟩
    · obtain ⟨p, _, heq⟩ := List.mem_map.mp hmem
      cases heq
    · have hprops := h.distinctProperties d hd
      rw [show (d.ownProperties.map fun p => Place.property d.name p.name)
        = (d.ownProperties.map Property.name).map (Place.property d.name) from
          (List.map_map).symm]
      exact hprops.map (fun a b hab => (Place.property.inj hab).2)
  have happart : m.declarations.Pairwise
      (fun d d' => (d.sites.map Prod.fst).Disjoint (d'.sites.map Prod.fst)) := by
    refine (List.pairwise_map.mp h.distinctDeclarations).imp ?_
    intro d d' hne place hplace hplace'
    refine hne ?_
    rw [← (Declaration.declarationName_of_mem_sites hplace).2,
      (Declaration.declarationName_of_mem_sites hplace').2]
  unfold Model.places Model.sites
  rw [List.map_cons, List.map_flatMap, List.nodup_cons]
  refine ⟨fun hmem => ?_, List.nodup_flatMap.mpr ⟨hbelow, happart⟩⟩
  obtain ⟨d, _, hplace⟩ := List.mem_flatMap.mp hmem
  exact (Declaration.declarationName_of_mem_sites hplace).1 rfl

/-- A place whose names are texts that are not empty. -/
inductive Place.IsNamed : Place → Prop where
  | model : IsNamed .model
  | declaration {s : String} (hs : s ≠ "") : IsNamed (.declaration (.str s))
  | property {s t : String} (hs : s ≠ "") (ht : t ≠ "") : IsNamed (.property (.str s) (.str t))

/-- **The places of a model** are those of its elements. -/
theorem Model.mem_places {m : Model} {place : Place} :
    place ∈ m.places ↔ place = .model ∨ ∃ d ∈ m.declarations,
      place = .declaration d.name ∨ ∃ p ∈ d.ownProperties, place = .property d.name p.name := by
  unfold Model.places Model.sites
  rw [List.map_cons, List.map_flatMap, List.mem_cons, List.mem_flatMap]
  refine or_congr_right (exists_congr fun d => and_congr_right fun _ => ?_)
  rw [Declaration.map_fst_sites, List.mem_cons, List.mem_map]
  simp only [eq_comm]

/-- The places of a model go by the names of its elements. -/
theorem Model.Named.isNamed {m : Model} (h : m.Named) {place : Place} (hplace : place ∈ m.places) :
    place.IsNamed := by
  rcases Model.mem_places.mp hplace with rfl | ⟨d, hd, hplace⟩
  · exact .model
  · obtain ⟨s, hs, hne⟩ := h.declarations d hd
    rw [hs] at hplace
    rcases hplace with rfl | ⟨p, hp, rfl⟩
    · exact .declaration hne
    · obtain ⟨t, ht, hne'⟩ := h.properties d hd p hp
      rw [ht]
      exact .property hne hne'

/-- Resolving a declaration leaves its places and what is found there. -/
theorem ModelFile.sites_of_resolveDeclaration {f : ModelFile} {d d' : Declaration}
    (h : f.resolveDeclaration d = .ok d') : d'.sites = d.sites := by
  obtain ⟨superType, properties, _, hps, rfl⟩ := ModelFile.resolveDeclaration_eq_ok.mp h
  unfold Declaration.sites Declaration.ownProperties
  cases hown : d.properties with
  | none =>
    rw [hown] at hps
    obtain rfl := Except.ok.inj hps
    rfl
  | some ps =>
    rw [hown] at hps
    obtain ⟨ps', hps', rfl⟩ := Checked.map_eq_ok.mp hps
    refine congrArg (_ :: ·) (Checked.map_eq_map_of_mapM (fun p _ p' hp => ?_) hps')
    obtain ⟨type, _, hp⟩ := Checked.bind_eq_ok.mp hp
    obtain rfl := Except.ok.inj hp
    rfl

/-- **Resolving a model leaves its places** and what is found there. -/
theorem ModelFile.sites_of_resolvedModel {f : ModelFile} {m : Model}
    (h : f.resolvedModel = .ok m) : m.sites = f.toModel.sites := by
  obtain ⟨ds, hds, h⟩ := Checked.bind_eq_ok.mp h
  obtain rfl := Except.ok.inj h
  have hsites : ds.map Declaration.sites = f.declarations.map Declaration.sites :=
    Checked.map_eq_map_of_mapM (fun _ _ _ => sites_of_resolveDeclaration) hds
  show _ :: ds.flatMap Declaration.sites = _ :: f.declarations.flatMap Declaration.sites
  rw [List.flatMap_def, List.flatMap_def, hsites]

/-- Resolving a declaration leaves the names of its properties. -/
theorem ModelFile.propertyNames_of_resolveDeclaration {f : ModelFile} {d d' : Declaration}
    (h : f.resolveDeclaration d = .ok d') :
    d'.ownProperties.map Property.name = d.ownProperties.map Property.name := by
  have hnames (decl : Declaration) : decl.ownProperties.map Property.name
      = decl.sites.tail.map fun site => site.1.propertyName := by
    unfold Declaration.sites
    rw [List.tail_cons, List.map_map]
    rfl
  rw [hnames, hnames, sites_of_resolveDeclaration h]

/-- **Resolving a model leaves the names that tell its elements apart.** -/
theorem ModelFile.named_of_resolvedModel {f : ModelFile} {m : Model} (hnamed : f.toModel.Named)
    (h : f.resolvedModel = .ok m) : m.Named := by
  obtain ⟨ds, hds, h⟩ := Checked.bind_eq_ok.mp h
  obtain rfl := Except.ok.inj h
  have hnames : ds.map Declaration.name = f.declarations.map Declaration.name :=
    Checked.map_eq_map_of_mapM (fun _ _ _ => name_of_resolveDeclaration) hds
  refine ⟨fun d hd => ?_, fun d hd p hp => ?_, ?_, fun d hd => ?_⟩
  · obtain ⟨loaded, hloaded, hd⟩ := Checked.exists_of_mapM_eq_ok hds hd
    rw [name_of_resolveDeclaration hd]
    exact hnamed.declarations loaded hloaded
  · obtain ⟨loaded, hloaded, hd⟩ := Checked.exists_of_mapM_eq_ok hds hd
    have hmem : p.name ∈ d.ownProperties.map Property.name := List.mem_map_of_mem hp
    rw [propertyNames_of_resolveDeclaration hd] at hmem
    obtain ⟨q, hq, heq⟩ := List.mem_map.mp hmem
    rw [← heq]
    exact hnamed.properties loaded hloaded q hq
  · exact hnames ▸ hnamed.distinctDeclarations
  · obtain ⟨loaded, hloaded, hd⟩ := Checked.exists_of_mapM_eq_ok hds hd
    rw [propertyNames_of_resolveDeclaration hd]
    exact hnamed.distinctProperties loaded hloaded

/-- A resolved model of a registry comes from a file of its namespace. -/
theorem Registry.exists_file_of_resolvedModels {r : Registry} {ms : Models}
    (h : r.resolvedModels = .ok ms) {m : Model} (hm : m ∈ ms.models) :
    ∃ f ∈ r.files, f.resolvedModel = .ok m ∧ m.namespaceName = .str f.namespaceText
      ∧ m.decorators = f.decorators := by
  obtain ⟨models, hmodels, h⟩ := Checked.bind_eq_ok.mp h
  obtain rfl := Except.ok.inj h
  obtain ⟨f, hf, hfm⟩ := Checked.exists_of_mapM_eq_ok hmodels hm
  refine ⟨f, hf, hfm, ?_⟩
  obtain ⟨ds, _, hfm⟩ := Checked.bind_eq_ok.mp hfm
  rw [← Except.ok.inj hfm]
  exact ⟨rfl, rfl⟩

/-! ## The index of a document -/

namespace ExtractionIndex

/-- The index after some entries of a namespace. -/
def recordAll (ns : Value) (es : List IndexEntry) (index : ExtractionIndex) : ExtractionIndex :=
  es.foldl (fun index e => index.record ns e) index

/-- Visiting a place records its entries. -/
theorem visit_eq (index : ExtractionIndex) (s : String) (place : Place)
    (ds : Option (List Decorator)) :
    index.visit (.str s) place.declarationName place.propertyName ds
      = .ok (index.recordAll (.str s) (Site.entries (place, ds.getD []))) := by
  unfold visit
  cases ds.getD [] <;> rfl

/-- Visiting elements one after the other records the entries of all of them. -/
theorem foldlM_eq_recordAll {α : Type} {visit : ExtractionIndex → α → Checked ExtractionIndex}
    {ns : Value} {entries : α → List IndexEntry} {xs : List α}
    (h : ∀ index, ∀ x ∈ xs, visit index x = .ok (index.recordAll ns (entries x)))
    (index : ExtractionIndex) :
    xs.foldlM visit index = .ok (index.recordAll ns (xs.flatMap entries)) := by
  rw [Checked.foldlM_eq_ok_foldl h, recordAll, List.foldl_flatMap]
  rfl

/-- A new namespace is looked for behind the others. -/
theorem addTo_append {ns : Value} {e : IndexEntry} {bs rest : List (Value × List IndexEntry)}
    (h : ∀ b ∈ bs, b.1.sameKey ns = false) :
    addTo ns e (bs ++ rest) = bs ++ addTo ns e rest := by
  induction bs with
  | nil => rfl
  | cons b bs ih =>
    rw [List.cons_append, addTo, h b List.mem_cons_self, if_neg Bool.false_ne_true,
      ih (fun b' hb' => h b' (List.mem_cons_of_mem b hb')), List.cons_append]

/-- **The entries of a new namespace** make up a bucket at the end. -/
theorem recordAll_of_new {index : ExtractionIndex} {s : String}
    (h : ∀ b ∈ index.buckets, b.1 ≠ .str s) {es : List IndexEntry} (hes : es ≠ []) :
    index.recordAll (.str s) es = ⟨index.buckets ++ [(.str s, es)]⟩ := by
  have hkey : ∀ b ∈ index.buckets, b.1.sameKey (.str s) = false := by
    intro b hb
    rw [Bool.eq_false_iff, ne_eq, Value.sameKey_str_iff]
    exact h b hb
  have hself : (Value.str s).sameKey (.str s) = true := (Value.sameKey_str_iff _ s).mpr rfl
  -- an entry goes into the bucket that those before it have made, so the induction is on the last
  induction es using List.reverseRecOn with
  | nil => exact absurd rfl hes
  | append_singleton es e ih =>
    by_cases hnil : es = []
    · subst hnil
      have hadd : addTo (.str s) e (index.buckets ++ []) = index.buckets ++ [(.str s, [e])] :=
        addTo_append hkey
      rw [List.append_nil] at hadd
      exact congrArg ExtractionIndex.mk hadd
    · unfold recordAll at ih ⊢
      rw [List.foldl_append, ih hnil]
      show ExtractionIndex.mk (addTo (.str s) e (index.buckets ++ [(.str s, es)])) = _
      rw [addTo_append hkey, addTo, hself]
      rfl

end ExtractionIndex

/-- The entries of a declaration and its properties are recorded in order. -/
theorem Declaration.recordIn_eq (s : String) (index : ExtractionIndex) (d : Declaration) :
    d.recordIn (.str s) index
      = .ok (index.recordAll (.str s) (d.sites.flatMap Site.entries)) := by
  unfold Declaration.recordIn Declaration.sites
  rw [show index.visit (.str s) d.name (.str "") d.decorators = _ from
    index.visit_eq s (.declaration d.name) d.decorators, Checked.ok_bind, List.flatMap_cons,
    List.flatMap_map, ExtractionIndex.foldlM_eq_recordAll (fun index p _ =>
      index.visit_eq s (.property d.name p.name) p.decorators)]
  unfold ExtractionIndex.recordAll
  rw [List.foldl_append]

/-- **The entries of a model are recorded in order.** -/
theorem Model.recordIn_eq {m : Model} {s : String} (hm : m.namespaceName = .str s)
    (index : ExtractionIndex) :
    m.recordIn index = .ok (index.recordAll (.str s) m.entries) := by
  unfold Model.recordIn Model.entries Model.sites
  rw [hm, show index.visit (.str s) (.str "") (.str "") m.decorators = _ from
    index.visit_eq s .model m.decorators, Checked.ok_bind, List.flatMap_cons,
    List.flatMap_assoc, ExtractionIndex.foldlM_eq_recordAll (fun index d _ =>
      d.recordIn_eq s index)]
  unfold ExtractionIndex.recordAll
  rw [List.foldl_append]

/-- Models are recorded behind those that are there, as long as no namespace occurs
twice. -/
theorem foldlM_recordIn_eq {ms : List Model} {namespaces : List String} {index : ExtractionIndex}
    (htexts : ms.map Model.namespaceName = namespaces.map Value.str) (hdistinct : namespaces.Nodup)
    (hnew : ∀ b ∈ index.buckets, ∀ s ∈ namespaces, b.1 ≠ .str s) :
    ms.foldlM Model.recordIn index
      = .ok ⟨index.buckets ++ (ms.filter fun m => !m.entries.isEmpty).map
          fun m => (m.namespaceName, m.entries)⟩ := by
  induction ms generalizing namespaces index with
  | nil => exact congrArg (Except.ok ∘ ExtractionIndex.mk) (List.append_nil _).symm
  | cons m ms ih =>
    obtain ⟨s, rest, rfl, hm, hrest⟩ := List.map_eq_cons_iff.mp htexts.symm
    obtain ⟨hs, hdistinct⟩ := List.nodup_cons.mp hdistinct
    have hnew' : ∀ b ∈ index.buckets, ∀ t ∈ rest, b.1 ≠ .str t :=
      fun b hb t ht => hnew b hb t (List.mem_cons_of_mem s ht)
    rw [List.foldlM_cons, Model.recordIn_eq hm.symm, Checked.ok_bind]
    -- a model without entries makes no bucket and leaves the index to the next as it is
    by_cases hes : m.entries = []
    · rw [hes, List.filter_cons_of_neg (by rw [hes]; simp)]
      exact ih hrest.symm hdistinct hnew'
    · rw [ExtractionIndex.recordAll_of_new (fun b hb => hnew b hb s List.mem_cons_self) hes,
        ih hrest.symm hdistinct, List.filter_cons_of_pos (by simpa using hes), List.map_cons,
        ← hm, List.append_assoc]
      · rfl
      · intro b hb t ht
        rcases List.mem_append.mp hb with hb | hb
        · exact hnew' b hb t ht
        · rw [List.mem_singleton.mp hb]
          exact fun heq => hs (Value.str.inj heq ▸ ht)

/-- **The index of a document** lists its models that have decorators, each with the
entries of its places. -/
theorem Models.index_eq {ms : Models} {namespaces : List String} (h : ms.Loadable namespaces) :
    ms.index = .ok ⟨ms.recorded.map fun m => (m.namespaceName, m.entries)⟩ :=
  foldlM_recordIn_eq h.texts h.distinct (fun _ hb => absurd hb List.not_mem_nil)

end DecoratorSets
