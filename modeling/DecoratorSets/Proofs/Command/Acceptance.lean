import DecoratorSets.Proofs.Command.Validation
import DecoratorSets.Proofs.Registry.Growth

/-!
# What stays accepted

The structural check knows two kinds of registries: the schema alone
(`Schema.registry`), and the schema with models loaded between its two files. Against
the schema alone, everything that is written is accepted: the document of a well-typed
command set passes the check (`CommandSetSource.validate_toDocument`).

A payload that passes against the schema alone also passes next to models, as long as no
model takes a namespace that the payload uses (`CommandSetSource.validate_of_validate_nil`).
Class names with a version, and payloads without class names, are out of their reach:
the registry of the schema grows into the other one (`Schema.registry_growsInto`). A
class name without a version is not. It stands for the first file of its namespace, and
the model of command sets is loaded last; so a model of another version of that
namespace takes the class names that documents of command sets carry, and their
documents are rejected (`CommandSetSource.set_rejected_next_to_version`).
-/

namespace DecoratorSets

open Schema

namespace Schema

/-! ## The schema alone -/

/-- The registry of the schema and no other models. -/
def registry : Registry where
  strict := true
  files := schemaFiles
  distinct := by decide +kernel

/-- In the schema alone, the class names of command sets lead to the schema. -/
theorem registry_leads : registry.Leads := by
  intro f hf hname
  rcases List.mem_pair.mp hf with rfl | rfl
  · exact absurd hname (by decide)
  · rfl

end Schema

namespace CommandSetSource

/-- Without models the structural check uses the schema alone. -/
theorem schemaRegistry_nil : schemaRegistry [] = .ok Schema.registry := by
  decide +kernel

/-- **What is written is accepted.** A well-typed command set passes the structural check,
as it is and as its document. -/
theorem validate_toDocument {set : CommandSet} (hwell : set.WellTyped) :
    (built set).validate [] = .ok Schema.registry
      ∧ (document set.toDocument).validate [] = .ok Schema.registry :=
  validate_of_wellTyped schemaRegistry_nil Schema.registry_leads hwell

/-- A command set with a reference to another set, with both types of commands and with
arguments of all kinds. -/
def webSet : CommandSet where
  name := .str "web"
  version := .str "1.0.0"
  commands := [
    ⟨⟨.str "org.acme", .str "Person", .null, none, .null⟩, ⟨.str "Table", none, []⟩, .upsert⟩,
    ⟨⟨.null, .null, .null, some [.str "name", .str "age"],
        .str "concerto.metamodel@1.0.0.StringProperty"⟩,
      ⟨.str "Form", some [.literal .string (.str "text"), .literal .number (.int 1),
        .literal .boolean (.bool true), .reference ⟨.str "Person", .str "org.acme@1.0.0"⟩ false],
        []⟩, .append⟩]
  includes := some [⟨.str "base", .str "1.0.0"⟩]

theorem webSet_wellTyped : webSet.WellTyped where
  name := ⟨"web", rfl⟩
  version := ⟨"1.0.0", rfl⟩
  commands := by
    have hargs : ∀ args ∈ (none : Option (List Argument)), ∀ a ∈ args, a.WellTyped :=
      fun args hargs => absurd hargs (Option.not_mem_none args)
    intro c hc
    rcases List.mem_pair.mp hc with rfl | rfl
    · refine ⟨Or.inl rfl, ⟨Or.inr ⟨_, rfl⟩, Or.inr ⟨_, rfl⟩, Or.inl rfl, ?_, Or.inl rfl⟩,
        ⟨⟨_, rfl⟩, hargs, rfl⟩⟩
      exact fun names hnames => absurd hnames (Option.not_mem_none names)
    · refine ⟨Or.inr rfl, ⟨Or.inl rfl, Or.inl rfl, Or.inl rfl, ?_, Or.inr ⟨_, rfl⟩⟩,
        ⟨⟨_, rfl⟩, ?_, rfl⟩⟩
      · exact fun names hnames => ⟨["name", "age"], (Option.some.inj hnames).symm⟩
      · intro args hargs
        obtain rfl := Option.some.inj hargs
        exact List.forall_mem_cons.mpr ⟨rfl, List.forall_mem_cons.mpr ⟨rfl,
          List.forall_mem_cons.mpr ⟨rfl, List.forall_mem_singleton.mpr
            ⟨⟨_, rfl⟩, Or.inr ⟨_, rfl⟩⟩⟩⟩⟩
  includes := by
    intro refs hrefs
    obtain rfl := Option.some.inj hrefs
    exact List.forall_mem_singleton.mpr ⟨⟨_, rfl⟩, ⟨_, rfl⟩⟩

theorem validate_toDocument_web :
    webSet.WellTyped ∧ (built webSet).validate [] = .ok Schema.registry
      ∧ (document webSet.toDocument).validate [] = .ok Schema.registry :=
  ⟨webSet_wellTyped, validate_toDocument webSet_wellTyped⟩

end CommandSetSource

/-! ## Models next to the schema -/

/-- **A model takes a namespace of the schema** that is written without its version: that
of command sets if it has it in any version, since the model of command sets is loaded
last; that of the metamodel, which is loaded first, only if it has no version either. -/
def ModelFile.Takes (f : ModelFile) (ns : String) : Prop :=
  (ns = commandsFile.unversioned ∧ f.unversioned = ns)
    ∨ (ns = metamodelFile.unversioned ∧ f.namespaceText = ns)

namespace CommandSetSource

section NextTo

variable {fs : List ModelFile} {r : Registry}

/-- No file of the registry of the schema is loaded under a namespace of the schema
without its version, unless a model takes it. -/
theorem namespaceText_ne (hload : schemaRegistry fs = .ok r) {ns : String}
    (hns : ns ∈ schemaFiles.map ModelFile.unversioned)
    (hparse : Namespace.parse ns = .ok ⟨ns, none⟩) (hfree : ∀ f ∈ fs, ¬ f.Takes ns) :
    ∀ f ∈ r.files, f.namespaceText ≠ ns := by
  have hschema : ∀ f ∈ schemaFiles, f.namespaceText ∉ schemaFiles.map ModelFile.unversioned := by
    decide +kernel
  intro f hf htext
  rw [files_of_schemaRegistry hload] at hf
  rcases List.mem_cons.mp hf with rfl | hf
  · exact hschema _ List.mem_cons_self (htext ▸ hns)
  rcases List.mem_append.mp hf with hf | hf
  · obtain ⟨g, hg, rfl⟩ := List.mem_map.mp hf
    have hname : g.unversioned = ns := g.unversioned_eq_of_parse hparse htext
    rcases List.mem_pair.mp hns with heq | heq
    · exact hfree g hg (Or.inr ⟨heq, htext⟩)
    · exact hfree g hg (Or.inl ⟨heq, hname⟩)
  · obtain rfl := List.mem_singleton.mp hf
    exact hschema _ (List.mem_cons_of_mem _ List.mem_cons_self) (htext ▸ hns)

/-- **A namespace that no model takes** names the same file of the schema next to
models. -/
theorem find_of_find_registry (hload : schemaRegistry fs = .ok r) {ns : String} {f : ModelFile}
    (hfind : Schema.registry.find ns = .ok (some f)) (hfree : ∀ g ∈ fs, ¬ g.Takes ns) :
    r.find ns = .ok (some f) := by
  obtain ⟨hf, rfl | ⟨hparse, rfl⟩⟩ := Registry.namespaceText_of_find hfind
  · exact Registry.find_of_mem ((hasSchema_of_schemaRegistry hload).mem_files hf)
  have hne := namespaceText_ne hload (List.mem_map_of_mem hf) hparse hfree
  rw [Registry.find_of_unversioned hparse hne, files_of_schemaRegistry hload]
  refine congrArg Except.ok ?_
  rcases List.mem_pair.mp hf with rfl | rfl
  · exact List.find?_cons_of_pos (beq_self_eq_true _)
  · -- the metamodel has another name, and so has each model, or it would take this one
    have hmodels : (fs.map ModelFile.copied).find?
        (fun g => g.unversioned == commandsFile.unversioned) = none := by
      refine List.find?_eq_none.mpr fun g hg heq => ?_
      obtain ⟨model, hmodel, rfl⟩ := List.mem_map.mp hg
      exact hfree model hmodel (Or.inl ⟨rfl, beq_iff_eq.mp heq⟩)
    rw [List.find?_cons_of_neg (by decide), List.find?_append, hmodels, Option.none_or]
    exact List.find?_cons_of_pos (beq_self_eq_true _)

end NextTo

end CommandSetSource

namespace Schema

/-- **A reference of the schema** is a name without dots that stands for a type of a
namespace of the schema, or for nothing. -/
def IsReference (ident : TypeIdentifier) : Prop :=
  ident.namespaceName = .null ∧ '.' ∉ ident.name.text.toList
    ∧ ∀ f ∈ schemaFiles, f.namespaceFor ident.name
      ∈ (Except.ok .null : Checked Value)
        :: schemaFiles.map fun g => Except.ok (.str g.namespaceText)

instance (ident : TypeIdentifier) : Decidable (IsReference ident) :=
  inferInstanceAs (Decidable (_ ∧ _ ∧ _))

theorem isReference_of_mem : ∀ f ∈ schemaFiles, ∀ d ∈ f.declarations,
    (∀ ident ∈ d.superType, IsReference ident)
      ∧ ∀ p ∈ d.ownProperties, ∀ ident ∈ p.type, IsReference ident := by
  decide +kernel

/-- The references that the schema makes. -/
theorem isReference_of_refers {ident : TypeIdentifier} (h : registry.Refers ident) :
    IsReference ident := by
  obtain ⟨f, hf, d, hd, hident | ⟨p, hp, hident⟩⟩ := h
  · exact (isReference_of_mem f hf d hd).1 ident hident
  · exact (isReference_of_mem f hf d hd).2 p hp ident hident

/-- **The registry of the schema grows** by models that take no namespace of the class
names that matter. -/
theorem registry_growsInto {fs : List ModelFile} {r : Registry}
    (hload : CommandSetSource.schemaRegistry fs = .ok r) {named : String → Prop}
    (hfree : ∀ className, named className → ∀ ns name, splitTypeName className = .ok (ns, name) →
      ∀ f ∈ fs, ¬ f.Takes ns) : registry.GrowsInto r named where
  references := by
    intro f hf ident hrefers h hresolve
    obtain ⟨hblank, hdot, hns⟩ := isReference_of_refers hrefers
    obtain ⟨name, _⟩ := ident
    obtain rfl : _ = Value.null := hblank
    rw [Registry.resolve_of_blank name rfl] at hresolve ⊢
    rcases List.mem_cons.mp (hns f hf) with hnull | hmem
    · rw [hnull] at hresolve
      cases hresolve
    obtain ⟨g, hg, heq⟩ := List.mem_map.mp hmem
    have hnamespace : f.namespaceFor name = .ok (.str g.namespaceText) := heq.symm
    rw [hnamespace, Checked.ok_bind] at hresolve ⊢
    -- the reference stands for a type of the schema by its full name, which nothing can take
    have hfound : registry.lookup? (typeName g.namespaceText name.text) = some h :=
      Registry.getType_eq_ok.mp hresolve
    obtain ⟨ns, short, hsplit, hfind, hd⟩ := Registry.lookup?_eq_some.mp hfound
    have hparts := hsplit.symm.trans (splitTypeName_typeName (namespaceText_ne_empty g hg) hdot)
    obtain ⟨rfl, rfl⟩ := Prod.mk.inj (Except.ok.inj hparts)
    have hmem := (CommandSetSource.hasSchema_of_schemaRegistry hload).mem_files hg
    have hfile := (Registry.find_of_mem hmem).trans ((Registry.find_of_mem hg).symm.trans hfind)
    exact Registry.getType_eq_ok.mpr (Registry.lookup?_eq_some.mpr ⟨_, _, hsplit, hfile, hd⟩)
  names := by
    intro className hnamed h hfound
    obtain ⟨ns, name, hsplit, hfind, hd⟩ := Registry.lookup?_eq_some.mp hfound
    exact Registry.lookup?_eq_some.mpr ⟨ns, name, hsplit,
      CommandSetSource.find_of_find_registry hload hfind (hfree className hnamed ns name hsplit),
      hd⟩

end Schema

namespace CommandSetSource

/-- **What is accepted stays accepted next to models** that can be loaded there and take
none of the namespaces that the payload names classes in. -/
theorem validate_of_validate_nil {source : CommandSetSource} {payload : Value}
    (hpayload : source.payload = .ok payload) {r₀ : Registry} (hnil : source.validate [] = .ok r₀)
    {fs : List ModelFile} {r : Registry} (hload : schemaRegistry fs = .ok r)
    (hfree : ∀ ns name, payload.NamesClass (typeName ns name) → ∀ f ∈ fs, ¬ f.Takes ns) :
    source.validate fs = .ok r := by
  obtain ⟨hr₀, _, hpayload', hcheck, hcount⟩ := validate_eq_ok_iff.mp hnil
  obtain rfl := Except.ok.inj (hpayload.symm.trans hpayload')
  obtain rfl := Except.ok.inj (hr₀.symm.trans schemaRegistry_nil)
  have hdefault : splitTypeName commandSetClass
      = .ok (commandsNamespace, "DecoratorCommandSet") := by
    decide +kernel
  have hgrow : Schema.registry.GrowsInto r fun className =>
      className = commandSetClass ∨ payload.NamesClass className := by
    refine Schema.registry_growsInto hload ?_
    rintro className (rfl | hnamed) ns name hsplit f hf
    · obtain ⟨rfl, _⟩ := Prod.mk.inj (Except.ok.inj (hdefault.symm.trans hsplit))
      rintro (⟨heq, _⟩ | ⟨heq, _⟩)
      · exact absurd heq (by decide)
      · exact absurd heq (by decide)
    · obtain ⟨rfl, _⟩ := splitTypeName_eq_ok hsplit
      exact hfree ns name hnamed f hf
  -- whether the commands can be counted depends on the payload alone
  refine validate_eq_ok_iff.mpr
    ⟨hload, payload, hpayload, hgrow.checkInstance ?_ ?_ hcheck, hcount⟩
  · rintro className hclass
    exact Or.inl (Option.some.inj hclass).symm
  · exact fun className hnamed => Or.inr hnamed

/-- The document of a command set, which names classes without a version, next to a model
of another namespace. -/
theorem validate_of_validate_nil_web :
    (document webSet.toDocument).validate [] = .ok Schema.registry
      ∧ schemaRegistry [personFile] = .ok personRegistry
      ∧ (document webSet.toDocument).validate [personFile] = .ok personRegistry := by
  have haccepted : (document webSet.toDocument).validate [] = .ok Schema.registry :=
    (validate_of_wellTyped schemaRegistry_nil Schema.registry_leads webSet_wellTyped).2
  have hload : schemaRegistry [personFile] = .ok personRegistry := by decide +kernel
  refine ⟨haccepted, hload, validate_of_validate_nil rfl haccepted hload ?_⟩
  intro ns name _ f hf
  obtain rfl := List.mem_singleton.mp hf
  rintro (⟨rfl, heq⟩ | ⟨rfl, heq⟩)
  · exact absurd heq (by decide)
  · exact absurd heq (by decide)

/-! ### An earlier version of the schema -/

/-- A file of the namespace of command sets in another version. -/
def earlierFile : ModelFile where
  namespaceText := "org.accordproject.decoratorcommands@0.2.0"
  info := ⟨"org.accordproject.decoratorcommands", some "0.2.0"⟩
  declarations := []
  decorators := none
  extras := []
  parse_eq := by decide +kernel

/-- The registry of the schema and that file. -/
def earlierRegistry : Registry where
  strict := true
  files := [metamodelFile, earlierFile, commandsFile]
  distinct := by decide +kernel

/-- **Next to another version of the schema, what is written is rejected.** The document
of a command set is accepted. The file can be loaded next to the schema, and then takes
the class name of the document, which it does not declare. -/
theorem set_rejected_next_to_version :
    (document webSet.toDocument).validate [] = .ok Schema.registry
      ∧ schemaRegistry [earlierFile] = .ok earlierRegistry
      ∧ (document webSet.toDocument).validate [earlierFile]
        = .error (.command (.nonconforming
          (.unknownClass "org.accordproject.decoratorcommands.DecoratorCommandSet") "$") none) := by
  refine ⟨?_, ?_⟩
  · exact (validate_of_wellTyped schemaRegistry_nil Schema.registry_leads webSet_wellTyped).2
  · decide +kernel

end CommandSetSource

end DecoratorSets
