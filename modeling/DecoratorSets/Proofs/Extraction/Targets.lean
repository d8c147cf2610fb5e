import DecoratorSets.Proofs.Decoration.Nodewise
import DecoratorSets.Proofs.Extraction.Compiling

/-!
# What the compiled commands reach

The command for a decorator is meant for the element that the decorator was found on,
and for no other element of its model. What a command decorates is said without
looking at its target: `Command.DecoratesExactly` holds of a command, a model and some
of its places if carrying out the command alone merges its decorator at these places
and changes nothing else, whatever decorators the model has by then.

A declaration or a property is reached exactly, since its names are not blank and its
declaration is named along with it. A model has no level of its own in a target: the
fields that would name an element in it are absent, and absent fields select
everything. So what was found on a model is put on all its declarations, and never on
the model (`Place.reached`).
-/

namespace DecoratorSets

/-! ## Decorating some places of a model -/

/-- The decorators of a place after a decorator was merged in, if the place is
chosen. -/
def upsertIf (isChosen : Bool) (d : Decorator) (ds : Option (List Decorator)) :
    Option (List Decorator) :=
  if isChosen then some (d.upsertInto ds) else ds

/-- The property with one more decorator, if its place is chosen. -/
def Property.upsertAt (chosen : Place → Bool) (owner : Value) (d : Decorator) (p : Property) :
    Property :=
  { p with decorators := upsertIf (chosen (.property owner p.name)) d p.decorators }

/-- The declaration with one more decorator at the chosen places. -/
def Declaration.upsertAt (chosen : Place → Bool) (d : Decorator) (decl : Declaration) :
    Declaration :=
  { decl with
    properties := decl.properties.map (·.map (Property.upsertAt chosen decl.name d))
    decorators := upsertIf (chosen (.declaration decl.name)) d decl.decorators }

/-- **The model with one more decorator at the chosen places**, and nothing else
changed. -/
def Model.upsertAt (chosen : Place → Bool) (d : Decorator) (m : Model) : Model :=
  { m with
    declarations := m.declarations.map (Declaration.upsertAt chosen d)
    decorators := upsertIf (chosen .model) d m.decorators }

/-- The set of one command. -/
def CommandSet.single (c : Command) : CommandSet where
  name := .str ""
  version := .str ""
  commands := [c]
  includes := none

/-- **A command decorates exactly some places of a model** if that is what it does to
every model with the same elements, whatever decorators these have. -/
def Command.DecoratesExactly (c : Command) (m : Model) (chosen : Place → Bool) : Prop :=
  ∀ m' : Model, m'.undecorated = m.undecorated →
    Models.decorate ⟨[m']⟩ (.single c) = .ok ⟨[m'.upsertAt chosen c.decorator]⟩

/-! ## Compiled targets -/

namespace Place

/-- Whether a place is that of a declaration. -/
def isDeclaration : Place → Bool
  | .declaration _ => true
  | _ => false

/-- **What the command of a place reaches**: the place, unless it is the model. -/
def reached : Place → Place → Bool
  | .model => isDeclaration
  | place => fun other => other == place

variable {place : Place} {s : String}

/-- A text that is not empty is not blank. -/
theorem isBlank_eq_false (hs : s ≠ "") : (Value.str s).isBlank = false := by
  rw [Bool.eq_false_iff, ne_eq, Value.isBlank_str]
  exact hs

/-- The target of a declaration. -/
theorem target_declaration (hs : s ≠ "") (ns : Value) :
    (Place.declaration (.str s)).target ns = ⟨ns, .str s, .null, none, .null⟩ := by
  unfold target IndexEntry.target declarationName propertyName
  rw [isBlank_eq_false hs]
  rfl

/-- The target of a property. -/
theorem target_property {t : String} (hs : s ≠ "") (ht : t ≠ "") (ns : Value) :
    (Place.property (.str s) (.str t)).target ns = ⟨ns, .str s, .str t, none, .null⟩ := by
  unfold target IndexEntry.target declarationName propertyName
  rw [isBlank_eq_false hs, isBlank_eq_false ht]
  rfl

/-- The target of a place whose names are texts is made of texts. -/
theorem isPlain_of_texts {t : String}
    (hdecl : place.declarationName = .str s) (hprop : place.propertyName = .str t) (ns : String) :
    (place.target (.str ns)).IsPlain
      ∧ ∀ label items, (place.target (.str ns)).declaration ≠ .list label items := by
  have hselector : ∀ text : String,
      (if (Value.str text).isBlank then Value.null else .str text).IsSelector := by
    intro text
    split
    · exact .absent
    · exact .text text
  unfold target IndexEntry.target
  rw [hdecl, hprop]
  refine ⟨⟨.text ns, hselector s, hselector t, ?_, .absent⟩, fun label items hlist => ?_⟩
  · exact fun names hnames => absurd hnames (Option.not_mem_none names)
  · dsimp only at hlist
    split at hlist <;> cases hlist

/-- A compiled target is made of texts. -/
theorem IsNamed.isPlain (h : place.IsNamed) (s : String) : (place.target (.str s)).IsPlain := by
  cases h with
  | model => exact (isPlain_of_texts rfl rfl s).1
  | declaration hs => exact (isPlain_of_texts rfl rfl s).1
  | property hs ht => exact (isPlain_of_texts rfl rfl s).1

/-- A compiled target covers its own model. -/
theorem covers_model (s : String) :
    ∃ name ∈ modelNames (.str s), (Value.str s).Covers name :=
  ⟨.str s, List.mem_cons_self, Or.inr List.mem_cons_self⟩

theorem null_covers (name : Value) : Value.null.Covers name :=
  Value.covers_of_isBlank rfl name

/-- **The declarations that a compiled target reaches** in its model. -/
theorem IsNamed.reachesDeclaration_iff (h : place.IsNamed) (s : String) (name : Value) :
    (place.target (.str s)).ReachesDeclaration (modelNames (.str s)) name
      ↔ place.reached (.declaration name) = true := by
  unfold CommandTarget.ReachesDeclaration CommandTarget.CoversDeclaration
  cases h with
  | model => exact iff_of_true ⟨⟨covers_model s, null_covers name⟩, rfl, rfl⟩ rfl
  | declaration hs =>
    rw [target_declaration hs, and_iff_right (covers_model s), Value.str_covers_iff hs,
      and_iff_left ⟨rfl, rfl⟩]
    simp [reached]
  | property hs ht =>
    rw [target_property hs ht, isBlank_eq_false ht]
    simp [reached]

/-- **The properties that a compiled target reaches** in its model. -/
theorem IsNamed.reachesProperty_iff (h : place.IsNamed) (s : String) (owner : Value)
    (p : Property) :
    (place.target (.str s)).ReachesProperty (modelNames (.str s)) owner p
      ↔ place.reached (.property owner p.name) = true := by
  unfold CommandTarget.ReachesProperty CommandTarget.CoversDeclaration
  cases h with
  | model => exact iff_of_false (fun hr => hr.2.1 ⟨rfl, rfl⟩) Bool.false_ne_true
  | declaration hs =>
    rw [target_declaration hs]
    refine iff_of_false (fun hr => hr.2.1 ⟨rfl, rfl⟩) ?_
    simp [reached]
  | @property s' t hs ht =>
    rw [target_property hs ht, and_iff_right (covers_model s), Value.str_covers_iff hs,
      isBlank_eq_false ht]
    unfold CommandTarget.CoversProperty
    rw [isBlank_eq_false ht, if_neg Bool.false_ne_true, Value.str_covers_iff ht,
      and_iff_left (null_covers _)]
    simp [reached]

end Place

/-! ## Carrying out a compiled command -/

section Single

variable {place : Place} {s : String} {d : Decorator}

/-- The decorators of an element after a single command. -/
theorem mergeAll_filter_singleton {c : Command} (hc : c.type = .upsert) {p : Command → Bool}
    {b : Bool} (h : p c = b) (ds : Option (List Decorator)) :
    mergeAll ([c].filter p) ds = .ok (upsertIf b c.decorator ds) := by
  subst h
  cases hp : p c with
  | false =>
    rw [List.filter_cons_of_neg (by rw [hp]; exact Bool.false_ne_true)]
    rfl
  | true =>
    rw [List.filter_cons_of_pos hp, List.filter_nil, mergeAll_singleton, hc]
    rfl

/-- **A compiled command decorates the declarations and properties that it
reaches.** -/
theorem Declaration.nodewise_target (hplace : place.IsNamed) (decl : Declaration) :
    decl.nodewise (modelNames (.str s)) [⟨place.target (.str s), d, .upsert⟩]
      = .ok (decl.upsertAt place.reached d) := by
  have hprop : ∀ p : Property, p.nodewise (modelNames (.str s)) decl.name
      [⟨place.target (.str s), d, .upsert⟩] = .ok (p.upsertAt place.reached decl.name d) := by
    intro p
    unfold Property.nodewise
    rw [mergeAll_filter_singleton rfl (b := place.reached (.property decl.name p.name))
      (by rw [Bool.eq_iff_iff, decide_eq_true_iff, hplace.reachesProperty_iff]), Checked.ok_bind]
    rfl
  have hprops : nodewiseProperties (modelNames (.str s)) decl.name
      [⟨place.target (.str s), d, .upsert⟩] decl.properties
        = .ok (decl.properties.map (·.map (Property.upsertAt place.reached decl.name d))) := by
    cases decl.properties with
    | none => rfl
    | some ps =>
      rw [nodewiseProperties, Checked.mapM_eq_ok_map (fun p _ => hprop p), Checked.map_ok]
      rfl
  unfold Declaration.nodewise
  rw [mergeAll_filter_singleton rfl (b := place.reached (.declaration decl.name))
    (by rw [Bool.eq_iff_iff, decide_eq_true_iff, hplace.reachesDeclaration_iff]),
    Checked.ok_bind, hprops, Checked.ok_bind]
  rfl

/-- Commands can be tried on declarations with proper names. -/
theorem Declaration.admits_of_named {m : Model} (hnamed : m.Named)
    {decl : Declaration} (hdecl : decl ∈ m.declarations) (c : Command) : decl.Admits c := by
  refine ⟨fun _ _ _ => ?_, fun p hp => ?_⟩
  · obtain ⟨t, ht, _⟩ := hnamed.declarations decl hdecl
    rw [ht]
    rfl
  · obtain ⟨t, ht, _⟩ := hnamed.properties decl hdecl p hp
    rw [ht]
    rfl

/-- The model itself is reached by no command. -/
theorem Place.reached_model (place : Place) : place = .model ∨ place.reached .model = false := by
  cases place with
  | model => exact Or.inl rfl
  | declaration name => exact Or.inr rfl
  | property owner name => exact Or.inr rfl

/-- **A compiled command decorates exactly what it reaches**, in any model that has the
elements of its own. -/
theorem Model.decoratesExactly_reached {m : Model} (hnamed : m.Named)
    (hm : m.namespaceName = .str s) (hs : Namespace.IsWellFormed s) (hplace : place.IsNamed)
    (d : Decorator) :
    Command.DecoratesExactly ⟨place.target (.str s), d, .upsert⟩ m place.reached := by
  intro m' hsame
  have hm' : m'.namespaceName = .str s := (Model.namespaceName_eq_of_undecorated hsame).trans hm
  have hdecls : m'.declarations.mapM
      (Declaration.nodewise (modelNames (.str s)) [⟨place.target (.str s), d, .upsert⟩])
        = .ok (m'.declarations.map (Declaration.upsertAt place.reached d)) :=
    Checked.mapM_eq_ok_map (fun decl _ => Declaration.nodewise_target hplace decl)
  have hself : place.reached .model = false := by
    rcases place.reached_model with rfl | h
    · rfl
    · exact h
  have hmodel : m'.nodewise [⟨place.target (.str s), d, .upsert⟩]
      = .ok (m'.upsertAt place.reached d) := by
    refine Model.nodewise_eq_ok.mpr ⟨_, by rw [hm']; exact hdecls, ?_⟩
    unfold Model.upsertAt
    rw [hself]
    rfl
  -- the document has this one model: its namespace, its names and its elements
  refine Models.decorate_of_nodewise ?_ ?_ ?_
  · intro other hother
    obtain rfl := List.mem_singleton.mp hother
    exact ⟨s, hm', hs⟩
  · intro c hc
    obtain rfl := List.mem_singleton.mp hc
    refine ⟨hplace.isPlain s, fun other hother decl' hdecl' => ?_⟩
    obtain rfl := List.mem_singleton.mp hother
    obtain ⟨decl, hdecl, heq⟩ := Model.exists_declaration_of_undecorated hsame hdecl'
    exact (Declaration.admits_of_named hnamed hdecl _).of_undecorated heq
  · refine Checked.bind_eq_ok.mpr ⟨[m'.upsertAt place.reached d], ?_, rfl⟩
    exact Checked.mapM_eq_ok.mpr (.cons hmodel .nil)

/-- **The command of a place decorates exactly that place**, unless the place is the
model. -/
theorem Model.decoratesExactly_iff {m : Model} (hnamed : m.Named)
    (hm : m.namespaceName = .str s) (hs : Namespace.IsWellFormed s) (hplace : place.IsNamed)
    (d : Decorator) :
    Command.DecoratesExactly ⟨place.target (.str s), d, .upsert⟩ m (· == place)
      ↔ place ≠ .model := by
  have hreached := Model.decoratesExactly_reached hnamed hm hs hplace d
  constructor
  · rintro hself rfl
    -- on the undecorated model the two descriptions differ in the decorators of the model
    have hsame := Model.undecorated_undecorated m
    have heq := (hself m.undecorated hsame).symm.trans (hreached m.undecorated hsame)
    have hmodels := congrArg Models.models (Except.ok.inj heq)
    have hdecorators := congrArg Model.decorators (List.singleton_inj.mp hmodels)
    exact Option.some_ne_none _ hdecorators
  · intro hne
    have hfun : place.reached = (· == place) := by
      cases place with
      | model => exact absurd rfl hne
      | declaration name => rfl
      | property owner name => rfl
    exact hfun ▸ hreached

end Single

/-! ## The commands of an extraction -/

/-- **What the commands of an extraction decorate.** Each of them puts a decorator back
that was found at one place of one model, a place that no two elements of the model
share. Within that model it decorates exactly the element at this place, unless it is
the model itself; what was found on the model, the command puts on all declarations
instead. -/
theorem Registry.targets_of_extract (r : Registry) (remove : Bool) (locale : String)
    (ex : Extraction) (hnamed : ∀ m ∈ r.toModels.models, m.Named)
    (h : r.extract remove locale = .ok ex) (set : CommandSet) (hset : set ∈ ex.commandSets)
    (c : Command) (hc : c ∈ set.commands) :
    ∃ ms, r.resolvedModels = .ok ms ∧ ∃ m ∈ ms.models, ∃ place ds d,
      (place, ds) ∈ m.sites ∧ d ∈ ds ∧ m.places.count place = 1
        ∧ c = ⟨place.target m.namespaceName, d.restored, .upsert⟩
        ∧ (c.DecoratesExactly m (· == place) ↔ place ≠ .model)
        ∧ (place = .model → c.DecoratesExactly m Place.isDeclaration) := by
  obtain ⟨ms, hms, _⟩ := Checked.bind_eq_ok.mp h
  refine ⟨ms, hms, ?_⟩
  have hsets : set.commands ∈ ms.recorded.map Model.commands := by
    rw [← commands_of_extract hms h]
    exact List.mem_map_of_mem hset
  obtain ⟨m, hm, hcommands⟩ := List.mem_map.mp hsets
  have hmem := Models.mem_models_of_mem_recorded hm
  obtain ⟨f, hf, hfm, hns, _⟩ := exists_file_of_resolvedModels hms hmem
  have hmNamed := ModelFile.named_of_resolvedModel (hnamed _ (List.mem_map_of_mem hf)) hfm
  rw [← hcommands] at hc
  obtain ⟨⟨place, ds⟩, hsite, hc⟩ := List.mem_flatMap.mp hc
  obtain ⟨d, hd, rfl⟩ := List.mem_map.mp hc
  have hplace : place ∈ m.places := List.mem_map_of_mem hsite
  have hwf := f.namespaceText_isWellFormed
  refine ⟨m, hmem, place, ds, d, hsite, List.mem_of_mem_filter hd, ?_, rfl, ?_, ?_⟩
  · exact List.count_eq_one_of_mem hmNamed.nodup_places hplace
  · rw [hns]
    exact Model.decoratesExactly_iff hmNamed hns hwf (hmNamed.isNamed hplace) d.restored
  · rintro rfl
    rw [hns]
    exact Model.decoratesExactly_reached hmNamed hns hwf .model d.restored

/-- A file whose model, declaration and property have one decorator each. -/
def noticeFile : ModelFile where
  namespaceText := "org.acme@1.0.0"
  info := ⟨"org.acme", some "1.0.0"⟩
  declarations := [{
    name := .str "Person"
    kind := .concept
    properties := some [
      ⟨.str "name", .string, false, false, none, some [⟨.str "Index", none, []⟩], []⟩]
    isAbstract := false
    superType := none
    decorators := some [⟨.str "Table", none, []⟩]
    extras := [] }]
  decorators := some [⟨.str "Notice", none, []⟩]
  extras := []
  parse_eq := Namespace.parse_acme

/-- The registry of that file. -/
def noticeRegistry : Registry where
  strict := false
  files := [noticeFile]
  distinct := List.nodup_singleton _

theorem noticeFile_named : noticeFile.toModel.Named where
  declarations := by
    intro d hd
    obtain rfl := List.mem_singleton.mp hd
    exact ⟨"Person", rfl, by decide⟩
  properties := by
    intro d hd p hp
    obtain rfl := List.mem_singleton.mp hd
    obtain rfl := List.mem_singleton.mp hp
    exact ⟨"name", rfl, by decide⟩
  distinctDeclarations := List.nodup_singleton _
  distinctProperties := by
    intro d hd
    obtain rfl := List.mem_singleton.mp hd
    exact List.nodup_singleton _

/-- The commands that are extracted from that registry. -/
theorem exists_extract_notice :
    ∃ ex, noticeRegistry.extract true "en" = .ok ex
      ∧ ∃ set ∈ ex.commandSets, set.commands = noticeFile.toModel.commands := by
  have hms : noticeRegistry.resolvedModels = .ok ⟨[noticeFile.toModel]⟩ := by decide +kernel
  have hnames : ∀ m ∈ [noticeFile.toModel], m.Comparable := by
    intro m hm
    obtain rfl := List.mem_singleton.mp hm
    refine noticeFile_named.comparable ?_
    intro site hsite d hd
    rcases List.mem_cons.mp hsite with rfl | hsite
    · exact ⟨"Notice", congrArg Decorator.name (List.mem_singleton.mp hd)⟩
    · rcases List.mem_pair.mp hsite with rfl | rfl
      · exact ⟨"Table", congrArg Decorator.name (List.mem_singleton.mp hd)⟩
      · exact ⟨"Index", congrArg Decorator.name (List.mem_singleton.mp hd)⟩
  obtain ⟨ex, hex, _⟩ := Registry.exists_extract hms hnames true "en"
  have hsets : ex.commandSets.map CommandSet.commands = [noticeFile.toModel.commands] :=
    Registry.commands_of_extract hms hex
  obtain ⟨set, rest, hset, hcommands, _⟩ := List.map_eq_cons_iff.mp hsets
  exact ⟨ex, hex, set, by rw [hset]; exact List.mem_cons_self, hcommands⟩

/-- The decorator of the property is put back on the property. -/
theorem Registry.targets_of_extract_notice :
    noticeFile.toModel.Named
      ∧ ∃ ex, noticeRegistry.extract true "en" = .ok ex ∧ ∃ set ∈ ex.commandSets,
        ∃ c ∈ set.commands, c.decorator.name = .str "Index"
          ∧ ∃ ms, noticeRegistry.resolvedModels = .ok ms ∧ ∃ m ∈ ms.models, ∃ place ds d,
            (place, ds) ∈ m.sites ∧ d ∈ ds ∧ m.places.count place = 1
              ∧ c = ⟨place.target m.namespaceName, d.restored, .upsert⟩
              ∧ (c.DecoratesExactly m (· == place) ↔ place ≠ .model)
              ∧ (place = .model → c.DecoratesExactly m Place.isDeclaration) := by
  obtain ⟨ex, hex, set, hset, hcommands⟩ := exists_extract_notice
  have hnamed : ∀ m ∈ noticeRegistry.toModels.models, m.Named := by
    intro m hm
    obtain rfl := List.mem_singleton.mp hm
    exact noticeFile_named
  have hc : (⟨(Place.property (.str "Person") (.str "name")).target (.str "org.acme@1.0.0"),
      ⟨.str "Index", none, []⟩, .upsert⟩ : Command) ∈ set.commands := by
    rw [hcommands]
    exact List.mem_cons_of_mem _ (List.mem_cons_of_mem _ List.mem_cons_self)
  exact ⟨noticeFile_named, ex, hex, set, hset, _, hc, rfl,
    Registry.targets_of_extract noticeRegistry true "en" ex hnamed hex set hset _ hc⟩

/-- **What was found on a model is put on its declarations.** The command for the one
decorator of that name, which is on the model, does not decorate exactly the model, but
exactly the declarations. -/
theorem Registry.model_notice_on_declarations :
    noticeFile.toModel.Named
      ∧ (∀ site ∈ noticeFile.toModel.sites, ∀ d ∈ site.2,
          d.name = .str "Notice" → site.1 = .model)
      ∧ ∃ ex, noticeRegistry.extract true "en" = .ok ex ∧ ∃ set ∈ ex.commandSets,
        ∃ c ∈ set.commands, c.decorator.name = .str "Notice"
          ∧ ¬ c.DecoratesExactly noticeFile.toModel (· == .model)
          ∧ c.DecoratesExactly noticeFile.toModel Place.isDeclaration := by
  obtain ⟨ex, hex, set, hset, hcommands⟩ := exists_extract_notice
  have hwf := noticeFile.namespaceText_isWellFormed
  refine ⟨noticeFile_named, by decide +kernel, ex, hex, set, hset,
    ⟨Place.model.target (.str "org.acme@1.0.0"), ⟨.str "Notice", none, []⟩, .upsert⟩, ?_, rfl,
    fun h => ?_, ?_⟩
  · rw [hcommands]
    exact List.mem_cons_self
  · exact (Model.decoratesExactly_iff noticeFile_named rfl hwf .model _).mp h rfl
  · exact Model.decoratesExactly_reached noticeFile_named rfl hwf .model _

end DecoratorSets
