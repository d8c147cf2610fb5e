import DecoratorSets.Proofs.Command.WellTyped
import DecoratorSets.Proofs.Decoration.Nodewise

/-!
# What the structural check is good for

The structural check of a payload, the reader of command sets and the application of
commands do not know of each other. They fit together all the same: a payload that
passes the check is read, what is read is well typed, it can be applied to all models,
and its document passes the check again (`CommandSetSource.sound_of_validate`).

Models can be decorated whatever they are, as long as their namespaces can be read and
the names of their properties can be looked for in a list
(`Models.Decoratable`, `CommandSet.WellTyped.exists_decorate`).
-/

namespace DecoratorSets

open Schema

/-! ## Applying well-typed command sets -/

/-- **Models that can be decorated**: their namespaces are texts with at most one `@`, and
the names of their properties are no lists, sets or objects. -/
structure Models.Decoratable (ms : Models) : Prop where
  namespaces : ∀ m ∈ ms.models, ∃ s, m.namespaceName = .str s ∧ Namespace.IsWellFormed s
  properties : ∀ m ∈ ms.models, ∀ d ∈ m.declarations, ∀ p ∈ d.ownProperties,
    p.name.canName = true

/-- A text or nothing is a selector. -/
theorem Value.IsOptionalText.isSelector {v : Value} (h : v.IsOptionalText) : v.IsSelector := by
  rcases h with rfl | ⟨s, rfl⟩
  · exact .absent
  · exact .text s

/-- Well-typed targets are plain. -/
theorem CommandTarget.WellTyped.isPlain {t : CommandTarget} (h : t.WellTyped) : t.IsPlain where
  namespaceName := h.namespaceName.isSelector
  declaration := h.declaration.isSelector
  property := h.property.isSelector
  properties := h.properties
  type := h.type.isSelector

/-- A well-typed target lists no declarations. -/
theorem CommandTarget.WellTyped.declaration_ne_list {t : CommandTarget} (h : t.WellTyped)
    (label : Option Label) (items : List Value) : t.declaration ≠ .list label items := by
  intro hlist
  rcases h.declaration with heq | ⟨s, heq⟩
  · rw [heq] at hlist
    cases hlist
  · rw [heq] at hlist
    cases hlist

/-- **Models that can be decorated are decorated** by commands of a known type whose
targets are plain and list no declarations. -/
theorem Models.Decoratable.exists_decorate {ms : Models} (hms : ms.Decoratable)
    {set : CommandSet} (htypes : ∀ c ∈ set.commands, c.type = .upsert ∨ c.type = .append)
    (htargets : ∀ c ∈ set.commands, c.target.IsPlain
      ∧ ∀ label items, c.target.declaration ≠ .list label items) :
    ∃ out, ms.decorate set = .ok out := by
  obtain ⟨models, hmodels⟩ := Checked.exists_mapM (fun m (_ : m ∈ ms.models) =>
    Model.exists_nodewise htypes m)
  refine ⟨⟨models⟩, Models.decorate_of_nodewise hms.namespaces (fun c hc => ?_)
    (Checked.bind_eq_ok.mpr ⟨models, hmodels, rfl⟩)⟩
  obtain ⟨hplain, hlist⟩ := htargets c hc
  refine ⟨hplain, fun m hm d hd => ⟨?_, hms.properties m hm d hd⟩⟩
  exact fun label items heq => absurd heq (hlist label items)

/-- **A well-typed command set is applied** to all models that can be decorated. -/
theorem CommandSet.WellTyped.exists_decorate {set : CommandSet} (h : set.WellTyped)
    {ms : Models} (hms : ms.Decoratable) : ∃ out, ms.decorate set = .ok out := by
  refine hms.exists_decorate (fun c hc => (h.commands c hc).type) (fun c hc => ?_)
  have htarget := (h.commands c hc).target
  exact ⟨htarget.isPlain, htarget.declaration_ne_list⟩

namespace CommandSetSource

/-! ## The structural check -/

/-- **A payload passes the check** if it is an instance of the type of command sets and its
commands can be counted. -/
theorem validate_eq_ok {source : CommandSetSource} {label : Option Label} {ms : Members}
    (hpayload : source.payload = .ok (.object label ms)) {fs : List ModelFile} {r : Registry} :
    source.validate fs = .ok r
      ↔ schemaRegistry fs = .ok r ∧ r.ObjectConforms (some commandSetType) ms
        ∧ ∃ n, countCommands (.object label ms) = .ok n := by
  rw [validate_eq_ok_iff]
  constructor
  · rintro ⟨hr, payload, hpayload', hcheck, hcount⟩
    obtain rfl := Except.ok.inj (hpayload.symm.trans hpayload')
    have hfound := (hasSchema_of_schemaRegistry hr).lookup?_fullName isLeaf_commandSetType.1
    obtain ⟨t, _, ms', ht, heq, hconforms⟩ := (r.checkInstance_eq_ok _ _).mp hcheck
    obtain rfl := Option.some.inj (hfound.symm.trans ht)
    obtain ⟨_, rfl⟩ := Value.object.inj heq
    exact ⟨hr, hconforms, hcount⟩
  · rintro ⟨hr, hconforms, hcount⟩
    have hfound := (hasSchema_of_schemaRegistry hr).lookup?_fullName isLeaf_commandSetType.1
    exact ⟨hr, _, hpayload, (r.checkInstance_eq_ok _ _).mpr
      ⟨commandSetType, label, ms, hfound, rfl, hconforms⟩, hcount⟩

/-- The commands in the document of a set are counted. -/
theorem countCommands_toDocument (set : CommandSet) :
    countCommands set.toDocument = .ok set.commands.length := by
  have hcommands : set.toDocument.member "commands"
      = .ok (.list none (set.commands.map Command.toDocument)) := by
    show Except.ok ((Members.get? (Members.put "commands" _ _) "commands").getD .null) = _
    rw [Members.get?_put, if_pos rfl]
    rfl
  unfold countCommands
  rw [hcommands, Checked.ok_bind]
  cases set.commands with
  | nil => rfl
  | cons c cs => exact congrArg Except.ok (List.length_map Command.toDocument)

/-- **A well-typed command set passes the check**, as it is and as its document, where
class names without a version lead to the schema. -/
theorem validate_of_wellTyped {fs : List ModelFile} {r : Registry}
    (hschema : schemaRegistry fs = .ok r) (hleads : r.Leads) {set : CommandSet}
    (hwell : set.WellTyped) :
    (built set).validate fs = .ok r ∧ (document set.toDocument).validate fs = .ok r := by
  obtain ⟨label, ms, heq, hconforms⟩ :=
    (hasSchema_of_schemaRegistry hschema).isInstance_commandSet hleads hwell
  have hbuilt : (built set).payload = .ok (.object label ms) := congrArg Except.ok heq
  have hdocument : (document (.object label ms)).payload = .ok (.object none ms) := rfl
  have hcount : ∃ n, countCommands (.object label ms) = .ok n :=
    ⟨_, heq ▸ countCommands_toDocument set⟩
  rw [heq]
  exact ⟨(validate_eq_ok hbuilt).mpr ⟨hschema, hconforms, hcount⟩,
    (validate_eq_ok hdocument).mpr ⟨hschema, hconforms, hcount⟩⟩

/-- **The structural check is sound.** A payload that passes it is read as a command set
that is well typed, that can be applied to all models that can be decorated, and whose
document passes the check again where class names without a version lead to the
schema. -/
theorem sound_of_validate {label : Option Label} {ms : Members} {fs : List ModelFile}
    {r : Registry} (hclosed : r.SchemaClosed)
    (h : (document (.object label ms)).validate fs = .ok r) :
    ∃ set, CommandSet.ofDocument (.object label ms) = .ok set ∧ set.WellTyped
      ∧ (∀ tree : Models, tree.Decoratable → ∃ out, tree.decorate set = .ok out)
      ∧ (r.Leads → (document set.toDocument).validate fs = .ok r) := by
  obtain ⟨hschema, hconforms, -⟩ := (validate_eq_ok rfl).mp h
  have hr := hasSchema_of_schemaRegistry hschema
  obtain ⟨set, hread, hwell⟩ := hr.exists_commandSet hclosed ⟨label, ms, rfl, hconforms⟩
  refine ⟨set, hread, hwell, fun _ htree => hwell.exists_decorate htree, fun hleads => ?_⟩
  -- the document conforms since the set is well typed; the payload it was read from is done with
  exact (validate_of_wellTyped hschema hleads hwell).2

/-! ### A payload that passes -/

/-- A file with one declaration. -/
def personFile : ModelFile where
  namespaceText := "org.acme@1.0.0"
  info := ⟨"org.acme", some "1.0.0"⟩
  declarations := [⟨.str "Person", .concept, some [], false, none, none, []⟩]
  decorators := none
  extras := []
  parse_eq := Namespace.parse_acme

/-- The registry of the schema and that file. -/
def personRegistry : Registry where
  strict := true
  files := [metamodelFile, personFile, commandsFile]
  distinct := by decide +kernel

/-- A payload that leaves out what it can: no class, no references, a blank target, and
a class name without a version for the only argument. -/
def formPayload : Members :=
  [("name", "web"), ("version", "1.0.0"), ("includes", .null),
    ("commands", .list none [.object none [("type", "APPEND"), ("target", .object none []),
      ("decorator", .object none [("name", "Form"), ("arguments", .list none
        [.object none [("$class", "concerto.metamodel.DecoratorNumber"), ("value", .int 1)]])])]])]

/-- No declaration of the file extends anything. -/
theorem personRegistry_closed : personRegistry.SchemaClosed := by
  intro h hf hd hns up hup
  rcases List.mem_cons.mp hf with heq | hf
  · exact absurd (heq ▸ by decide +kernel) hns
  rcases List.mem_cons.mp hf with heq | hf
  · rw [heq] at hd
    obtain ⟨f, d⟩ := h
    obtain rfl := List.mem_singleton.mp hd
    cases hup
  · exact absurd (List.mem_singleton.mp hf ▸ by decide +kernel) hns

/-- The class names of command sets lead to the schema there. -/
theorem personRegistry_leads : personRegistry.Leads := by
  unfold Registry.Leads
  decide +kernel

theorem sound_of_validate_form :
    (document (.object none formPayload)).validate [personFile] = .ok personRegistry
      ∧ personRegistry.SchemaClosed ∧ personModels.Decoratable ∧ personRegistry.Leads
      ∧ ∃ set, CommandSet.ofDocument (.object none formPayload) = .ok set ∧ set.WellTyped
        ∧ (∃ out, personModels.decorate set = .ok out)
        ∧ (document set.toDocument).validate [personFile] = .ok personRegistry := by
  have h : (document (.object none formPayload)).validate [personFile] = .ok personRegistry := by
    decide +kernel
  have hmodels : personModels.Decoratable := by
    refine ⟨fun m hm => ?_, by decide +kernel⟩
    obtain rfl := List.mem_singleton.mp hm
    exact ⟨"org.acme@1.0.0", rfl, by decide +kernel⟩
  refine ⟨h, personRegistry_closed, hmodels, personRegistry_leads, ?_⟩
  obtain ⟨set, hread, hwell, hdecorate, hagain⟩ := sound_of_validate personRegistry_closed h
  exact ⟨set, hread, hwell, hdecorate personModels hmodels, hagain personRegistry_leads⟩

/-! ### A name that is a list -/

/-- A payload with a command for the properties of a list of names. -/
def listPayload : Members :=
  [("name", "s"), ("version", "1.0.0"),
    ("commands", .list none [.object none [("type", "UPSERT"),
      ("target", .object none [("properties", .list none ["a"]),
        ("type", "concerto.metamodel@1.0.0.StringProperty")]),
      ("decorator", .object none [("name", "D")])]])]

/-- A model with a property whose name is a list. -/
def listNamedModels : Models where
  models := [{
    namespaceName := .str "org.acme@1.0.0"
    declarations := [{
      name := .str "Person"
      kind := .concept
      properties := some [⟨.list none [.str "x"], .string, false, false, none, none, []⟩]
      isAbstract := false
      superType := none
      decorators := none
      extras := [] }]
    decorators := none
    extras := [] }]

/-- **Names that are lists cannot be decorated around.** The payload passes the check and
is read, and yet it cannot be applied to a model whose namespace is well formed. -/
theorem list_name_not_decorated :
    (document (.object none listPayload)).validate [personFile] = .ok personRegistry
      ∧ personRegistry.SchemaClosed
      ∧ (∀ m ∈ listNamedModels.models, m.namespaceName = .str "org.acme@1.0.0")
      ∧ Namespace.IsWellFormed "org.acme@1.0.0"
      ∧ ∃ set, CommandSet.ofDocument (.object none listPayload) = .ok set
        ∧ listNamedModels.decorate set = .error (.misuse .compositeKey) := by
  refine ⟨by decide +kernel, personRegistry_closed, by decide +kernel, by decide +kernel, ?_⟩
  refine ⟨⟨.str "s", .str "1.0.0",
    [⟨⟨.null, .null, .null, some [.str "a"], .str "concerto.metamodel@1.0.0.StringProperty"⟩,
      ⟨.str "D", none, []⟩, .upsert⟩], none⟩, ?_, ?_⟩
  · decide +kernel
  · decide +kernel

end CommandSetSource

end DecoratorSets
