import DecoratorSets.Command.Check
import DecoratorSets.Proofs.Decoration.Nodewise
import DecoratorSets.Proofs.Registry.Lineage

/-!
# The namespace of a target, checked and applied

Two rules say which models the namespace of a target means. The check of targets looks
for one file: the one that is loaded under the namespace, or else, where the namespace
has no version, the first that has it with one. The application of commands tries every
model and selects those that go by the namespace, with their version or without it.
Neither rule is written in terms of the other.

They meet in what a file goes by (`ModelFile.GoesBy`). A file is found exactly if some
file goes by the namespace (`Registry.exists_find_iff`), a model is selected exactly if
its file does (`ModelFile.selectsNamespace_iff`), and so the file that is found is one of
those whose models are selected. A namespace with two versions, or with an empty one, is
no exception: no file goes by it unless it is loaded under it.

The check of a command that names a declaration is therefore a promise. A command that
passes it decorates at least one declaration, namely that of the file that is found
(`Registry.check_agrees_with_application`).
-/

namespace DecoratorSets

/-! ## What a file goes by -/

/-- **A file goes by a namespace**: its own, or its own without the version. -/
def ModelFile.GoesBy (f : ModelFile) (ns : String) : Prop :=
  f.namespaceText = ns ∨ f.unversioned = ns

instance (f : ModelFile) (ns : String) : Decidable (f.GoesBy ns) :=
  inferInstanceAs (Decidable (_ ∨ _))

/-- The name of a file's namespace has no version. -/
theorem ModelFile.parse_unversioned (f : ModelFile) :
    Namespace.parse f.unversioned = .ok ⟨f.unversioned, none⟩ :=
  Namespace.parse_name f.parse_eq

/-- The namespace of a file without its version. -/
theorem unversioned_namespaceText (f : ModelFile) :
    unversioned f.namespaceText = .ok f.unversioned :=
  Checked.map_eq_ok.mpr ⟨f.info, f.parse_eq, rfl⟩

namespace Registry

variable {r : Registry} {ns : String} {f : ModelFile}

/-- What is found under a namespace goes by it. -/
theorem goesBy_of_find (h : r.find ns = .ok (some f)) : f ∈ r.files ∧ f.GoesBy ns := by
  obtain ⟨hf, hns⟩ := namespaceText_of_find h
  exact ⟨hf, hns.imp_right And.right⟩

/-- **A namespace names a file** exactly if some file goes by it. -/
theorem exists_find_iff :
    (∃ f, r.find ns = .ok (some f)) ↔ ∃ f ∈ r.files, f.GoesBy ns := by
  constructor
  · rintro ⟨f, hfind⟩
    exact ⟨f, goesBy_of_find hfind⟩
  · rintro ⟨f, hf, hns | hns⟩
    · exact ⟨f, hns ▸ find_of_mem hf⟩
    · -- a file that is loaded under the bare name comes before those that have a version
      by_cases hexact : ∃ g ∈ r.files, g.namespaceText = ns
      · obtain ⟨g, hg, hgns⟩ := hexact
        exact ⟨g, hgns ▸ find_of_mem hg⟩
      · have hother : ∀ g ∈ r.files, g.namespaceText ≠ ns := fun g hg hgns =>
          hexact ⟨g, hg, hgns⟩
        obtain ⟨g, hg⟩ := Option.isSome_iff_exists.mp
          (List.find?_isSome (p := fun g => g.unversioned == ns).mpr ⟨f, hf, beq_iff_eq.mpr hns⟩)
        exact ⟨g, by rw [find_of_unversioned (hns ▸ f.parse_unversioned) hother, hg]⟩

end Registry

/-! ## The test of a namespace -/

/-- Whether a selector selects the models of a namespace. -/
def selectsNamespace (selector namespaceName : Value) : Checked Bool := do
  let short ← unversioned (← namespaceName.asText)
  selects selector [namespaceName, .str short]

/-- A declaration is selected by its model first and by its own name second. -/
theorem CommandTarget.selectsDeclaration_eq (t : CommandTarget) (namespaceName : Value)
    (d : Declaration) : t.selectsDeclaration namespaceName d
      = (do
        if ← selectsNamespace t.namespaceName namespaceName then
          selects t.declaration [d.name]
        else return false) := by
  unfold selectsDeclaration selectsNamespace
  simp only [bind_assoc]

/-- When a declaration is selected: its model and its name are. -/
theorem CommandTarget.selectsDeclaration_eq_true {t : CommandTarget} {namespaceName : Value}
    {d : Declaration} : t.selectsDeclaration namespaceName d = .ok true
      ↔ selectsNamespace t.namespaceName namespaceName = .ok true
        ∧ selects t.declaration [d.name] = .ok true := by
  rw [selectsDeclaration_eq]
  exact Checked.and_eq_ok_true

/-- When a property is selected: its name and its kind are. -/
theorem CommandTarget.selectsProperty_eq_true {t : CommandTarget} {p : Property} :
    t.selectsProperty p = .ok true ↔ selects t.propertySelector [p.name] = .ok true
      ∧ selects t.type [.str p.kind.className] = .ok true :=
  Checked.and_eq_ok_true

/-- **A text selects the models of the files that go by it.** -/
theorem ModelFile.selectsNamespace_iff (f : ModelFile) {ns : String} (hns : ns ≠ "") :
    selectsNamespace (.str ns) (.str f.namespaceText) = .ok true ↔ f.GoesBy ns := by
  have hblank : ¬ (Value.str ns).isBlank = true := mt (Value.isBlank_str ns).mp hns
  unfold selectsNamespace
  rw [show (Value.str f.namespaceText).asText = .ok f.namespaceText from rfl, Checked.ok_bind,
    unversioned_namespaceText, Checked.ok_bind, selects_str hblank, Except.ok.injEq,
    List.any_eq_true]
  simp only [List.mem_pair, exists_eq_or_imp, exists_eq_left, Value.str_sameAs_iff,
    Value.str.injEq]
  rfl

/-! ## Commands that pass the check -/

namespace Command

variable {c : Command} {r : Registry} {f : ModelFile} {ns name : String}

/-- The file of a target is the one that its namespace names. -/
theorem targetFile_eq_ok :
    c.targetFile r = .ok f ↔ r.findOf c.target.namespaceName = .ok (some f) := by
  unfold targetFile
  constructor
  · intro h
    split at h
    · rename_i hfile
      rw [hfile, Except.ok.inj h]
    · exact absurd h (refuse_ne_ok _ _ _)
    · exact absurd h (refuse_ne_ok _ _ _)
    · cases h
  · intro h
    rw [h]

/-- **When a command passes the check**: its target is no contradiction, its kind of
property is a type, and the file, the declaration and the properties that it names are
there. What is blank is not looked for, nor is anything below it. -/
theorem check_eq_ok : c.check r = .ok ()
    ↔ c.checkConflict = .ok () ∧ c.checkType r = .ok ()
      ∧ (c.target.namespaceName.isBlank = true ∨ ∃ f, c.targetFile r = .ok f
        ∧ (c.target.declaration.isBlank = true
          ∨ ∃ h, r.lookup? (typeName f.namespaceText c.target.declaration.text) = some h
            ∧ c.checkProperties r h c.listedProperties = .ok ())) := by
  have hunit : ∀ {p : Unit → Prop}, (∃ u, p u) ↔ p () :=
    ⟨fun ⟨_, h⟩ => h, fun h => ⟨(), h⟩⟩
  unfold check
  rw [Checked.bind_eq_ok, hunit, Checked.bind_eq_ok, hunit]
  refine and_congr_right fun _ => and_congr_right fun _ => ?_
  by_cases hns : c.target.namespaceName.isBlank = true
  · rw [if_pos hns]
    exact iff_of_true rfl (Or.inl hns)
  rw [if_neg hns, or_iff_right hns, Checked.bind_eq_ok]
  refine exists_congr fun f => and_congr_right fun _ => ?_
  by_cases hname : c.target.declaration.isBlank = true
  · rw [if_pos hname]
    exact iff_of_true rfl (Or.inl hname)
  rw [if_neg hname, or_iff_right hname]
  cases r.lookup? (typeName f.namespaceText c.target.declaration.text) with
  | none => exact iff_of_false (refuse_ne_ok _ _ _) (by simp)
  | some h => simp

/-- **What a command that passes the check names**: the file that its namespace names, and
the declaration of that file. -/
theorem exists_declaration_of_check (hns : c.target.namespaceName = .str ns) (hne : ns ≠ "")
    (hname : c.target.declaration = .str name) (hname' : name ≠ "") (hdot : '.' ∉ name.toList)
    (h : c.check r = .ok ()) :
    ∃ f d, r.find ns = .ok (some f) ∧ f.declaration? (.str name) = some d := by
  obtain ⟨-, -, hblank | ⟨f, hfile, hblank | ⟨a, hfound, -⟩⟩⟩ := check_eq_ok.mp h
  · rw [hns, Value.isBlank_str] at hblank
    exact absurd hblank hne
  · rw [hname, Value.isBlank_str] at hblank
    exact absurd hblank hname'
  · have hfind : r.find ns = .ok (some f) := by
      rw [targetFile_eq_ok, hns] at hfile
      exact hfile
    -- the full name is taken apart where it was put together, so the file is found again
    obtain ⟨ns', name', hsplit, hfile', hd⟩ := Registry.lookup?_eq_some.mp hfound
    obtain ⟨heq, -, hdot'⟩ := splitTypeName_eq_ok hsplit
    rw [hname] at heq
    obtain ⟨rfl, rfl⟩ := typeName_inj hdot hdot' heq
    have hsame : f = a.file := by
      have hself := Registry.find_of_mem (Registry.mem_of_find hfind)
      exact Option.some.inj (Except.ok.inj (hself.symm.trans hfile'))
    exact ⟨f, a.declaration, hfind, hsame ▸ hd⟩

end Command

/-- A declaration of a selected model is selected by its name, and then decorated. -/
theorem Declaration.execute_of_selected {c : Command} {f : ModelFile} {d : Declaration}
    {name : String}
    (hmodel : selectsNamespace c.target.namespaceName (.str f.namespaceText) = .ok true)
    (hname : c.target.declaration = .str name) (hne : name ≠ "") (hd : d.name = .str name)
    (hlevel : c.target.isDeclarationLevel = true) :
    c.target.selectsDeclaration (.str f.namespaceText) d = .ok true
      ∧ d.execute (.str f.namespaceText) c = attempt d (d.decorate c.type c.decorator) := by
  have hselects : c.target.selectsDeclaration (.str f.namespaceText) d = .ok true := by
    refine CommandTarget.selectsDeclaration_eq_true.mpr ⟨hmodel, ?_⟩
    rw [hname, selects_str_singleton hne]
    exact hd
  refine ⟨hselects, ?_⟩
  unfold execute
  rw [hselects]
  simp only [hlevel, if_true]

/-- **The check of targets and the application of commands agree** on namespaces and on
declarations. A namespace that is not empty names a file exactly if the models of some
file are selected by it, and the models of the file it names are. So a command that
passes the check, for a declaration and not for its properties, decorates a declaration:
the one of that name in the file that its namespace names. -/
theorem Registry.check_agrees_with_application (r : Registry) {ns : String} (hne : ns ≠ "") :
    ((∃ f, r.find ns = .ok (some f))
        ↔ ∃ f ∈ r.files, selectsNamespace (.str ns) (.str f.namespaceText) = .ok true)
      ∧ (∀ f, r.find ns = .ok (some f) →
        f ∈ r.files ∧ selectsNamespace (.str ns) (.str f.namespaceText) = .ok true)
      ∧ ∀ (c : Command) (name : String), c.target.namespaceName = .str ns →
        c.target.declaration = .str name → name ≠ "" → '.' ∉ name.toList →
        c.target.property.isBlank = true → c.target.type.isBlank = true → c.check r = .ok () →
        ∃ f d, r.find ns = .ok (some f) ∧ f ∈ r.files ∧ f.declaration? (.str name) = some d
          ∧ c.target.selectsDeclaration (.str f.namespaceText) d = .ok true
          ∧ d.execute (.str f.namespaceText) c = attempt d (d.decorate c.type c.decorator) := by
  have hselected : ∀ f, r.find ns = .ok (some f) →
      f ∈ r.files ∧ selectsNamespace (.str ns) (.str f.namespaceText) = .ok true := by
    intro f hfind
    obtain ⟨hf, hgoes⟩ := goesBy_of_find hfind
    exact ⟨hf, (f.selectsNamespace_iff hne).mpr hgoes⟩
  refine ⟨?_, hselected, ?_⟩
  · simp only [exists_find_iff, ModelFile.selectsNamespace_iff _ hne]
  · intro c name hns hname hname' hdot hproperty htype hcheck
    obtain ⟨f, d, hfind, hd⟩ :=
      Command.exists_declaration_of_check hns hne hname hname' hdot hcheck
    obtain ⟨hf, hmodel⟩ := hselected f hfind
    exact ⟨f, d, hfind, hf, hd, Declaration.execute_of_selected (hns ▸ hmodel) hname hname'
      (ModelFile.name_of_declaration? hd)
      (CommandTarget.isDeclarationLevel_iff.mpr ⟨hproperty, htype⟩)⟩

/-! ## Invoices of two versions -/

namespace Invoice

/-- A file that declares invoices. -/
def invoiceFile (ns : String) (info : Namespace) (h : Namespace.parse ns = .ok info) :
    ModelFile where
  namespaceText := ns
  info := info
  declarations := [⟨.str "Invoice", .concept, some [], false, none, none, []⟩]
  decorators := none
  extras := []
  parse_eq := h

/-- The registry of two versions of the file. -/
def registry : Registry where
  strict := true
  files := [invoiceFile "org.acme@1.0.0" _ Namespace.parse_acme,
    invoiceFile "org.acme@2.0.0" ⟨"org.acme", some "2.0.0"⟩ (by decide +kernel)]
  distinct := by
    show ["org.acme@1.0.0", "org.acme@2.0.0"].Nodup
    decide

/-- A command for invoices, whatever their version. -/
def stamp : Command where
  target := ⟨.str "org.acme", .str "Invoice", .null, none, .null⟩
  decorator := ⟨.str "Stamp", none, []⟩
  type := .append

theorem check_agrees_with_application_invoice :
    stamp.check registry = .ok ()
      ∧ ∃ f d, registry.find "org.acme" = .ok (some f) ∧ f ∈ registry.files
        ∧ f.declaration? (.str "Invoice") = some d
        ∧ stamp.target.selectsDeclaration (.str f.namespaceText) d = .ok true
        ∧ d.execute (.str f.namespaceText) stamp
          = attempt d (d.decorate stamp.type stamp.decorator) := by
  have hcheck : stamp.check registry = .ok () := by
    decide +kernel
  obtain ⟨-, -, hdecorates⟩ :=
    registry.check_agrees_with_application (show "org.acme" ≠ "" by decide)
  exact ⟨hcheck, hdecorates stamp "Invoice" rfl rfl (by decide) (by decide) rfl rfl hcheck⟩

end Invoice

end DecoratorSets
