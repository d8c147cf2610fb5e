import DecoratorSets.Command.Check
import DecoratorSets.Proofs.Registry.Fields
import DecoratorSets.Proofs.Registry.Loading

/-!
# The registry of the schema

The registry that a command set is checked against has the two models of the schema
around the models that are given (`CommandSetSource.hasSchema_of_schemaRegistry`). There
is such a registry for all models of other namespaces that declare no name twice
(`CommandSetSource.exists_schemaRegistry`). The structural check comes to an instance of the
schema in it whose commands can be counted (`CommandSetSource.validate_eq_ok_iff`).

Given models can get in the way of the schema in one point only: a declaration may
extend a type of the schema, and its objects then fit where those of the schema are
expected. A registry is closed if there is no such declaration
(`Registry.SchemaClosed`).

In a closed registry only the types of the schema itself extend others, so that most
types of the schema are extended by nothing (`Registry.superType_ne_of_leaf`). The
exception that matters is the type of arguments, which is abstract and is extended by
the four kinds of arguments (`Registry.eq_argumentType_of_extends`).
-/

namespace DecoratorSets

namespace Schema

/-! ## The files of the schema -/

/-- The metamodel as a file. -/
def metamodelFile : ModelFile where
  namespaceText := metamodelNamespace
  info := ⟨"concerto.metamodel", some "1.0.0"⟩
  declarations := metamodel.declarations
  decorators := none
  extras := []
  parse_eq := by decide +kernel

/-- The model of command sets as a file. -/
def commandsFile : ModelFile where
  namespaceText := commandsNamespace
  info := ⟨"org.accordproject.decoratorcommands", some "0.3.0"⟩
  declarations := commandDeclarations
  decorators := none
  extras := commands.extras
  parse_eq := by decide +kernel

/-- The files of the schema. -/
def schemaFiles : List ModelFile := [metamodelFile, commandsFile]

/-- A type of the schema: the first declaration of its name in a file of the schema. -/
def IsType (t : Handle) : Prop :=
  t.file ∈ schemaFiles ∧ '.' ∉ t.declaration.name.text.toList
    ∧ t.file.declaration? (.str t.declaration.name.text) = some t.declaration

instance (t : Handle) : Decidable (IsType t) := inferInstanceAs (Decidable (_ ∧ _))

/-- The types of the schema that others extend. -/
def superNames : List String := ["DecoratorLiteral", "Declaration", "Property"]

/-! ## The types of the schema -/

/-- The type of references to types. -/
def typeIdentifierType : Handle := ⟨metamodelFile, decoratorDeclarations[0]⟩

/-- The type of decorators. -/
def decoratorType : Handle := ⟨metamodelFile, decoratorDeclarations[1]⟩

/-- The type of all arguments of decorators. -/
def literalType : Handle := ⟨metamodelFile, decoratorDeclarations[2]⟩

/-- The type of the arguments of a kind. -/
def argumentType : ArgumentKind → Handle
  | .literal .string => ⟨metamodelFile, decoratorDeclarations[3]⟩
  | .literal .number => ⟨metamodelFile, decoratorDeclarations[4]⟩
  | .literal .boolean => ⟨metamodelFile, decoratorDeclarations[5]⟩
  | .typeReference => ⟨metamodelFile, decoratorDeclarations[6]⟩

/-- The type of references to command sets. -/
def referenceType : Handle := ⟨commandsFile, commandDeclarations[0]⟩

/-- The enumeration of the types of commands. -/
def commandTypeType : Handle := ⟨commandsFile, commandDeclarations[1]⟩

/-- The type of targets. -/
def targetType : Handle := ⟨commandsFile, commandDeclarations[2]⟩

/-- The type of commands. -/
def commandType : Handle := ⟨commandsFile, commandDeclarations[3]⟩

/-- The type of command sets. -/
def commandSetType : Handle := ⟨commandsFile, commandDeclarations[4]⟩

/-! ## What is checked once and for all -/

/-- The properties of a type have different texts as names. -/
def HasDistinctNames (ps : List Property) : Prop :=
  ps.map Property.name = (ps.map fun p => p.name.text).map Value.str
    ∧ (ps.map fun p => p.name.text).Nodup

instance (ps : List Property) : Decidable (HasDistinctNames ps) :=
  inferInstanceAs (Decidable (_ ∧ _))

/-- A type of the schema that has instances and that nothing in the schema extends. -/
def IsLeaf (t : Handle) : Prop :=
  IsType t ∧ t.declaration.name.text ∉ superNames ∧ Registry.isInstantiable t = true
    ∧ HasDistinctNames t.declaration.ownProperties

instance (t : Handle) : Decidable (IsLeaf t) := inferInstanceAs (Decidable (_ ∧ _))

/-- The types of the schema that have instances and that nothing there extends, apart from
those of arguments. -/
def leafTypes : List Handle :=
  [typeIdentifierType, decoratorType, referenceType, targetType, commandType, commandSetType]

theorem isLeaf_of_mem : ∀ t ∈ leafTypes ++ ArgumentKind.all.map argumentType, IsLeaf t := by
  decide +kernel

theorem isLeaf_typeIdentifierType : IsLeaf typeIdentifierType :=
  isLeaf_of_mem _ (List.mem_append_left _ (by simp [leafTypes]))

theorem isLeaf_decoratorType : IsLeaf decoratorType :=
  isLeaf_of_mem _ (List.mem_append_left _ (by simp [leafTypes]))

theorem isLeaf_argumentType (kind : ArgumentKind) : IsLeaf (argumentType kind) := by
  refine isLeaf_of_mem _ (List.mem_append_right _ (List.mem_map_of_mem ?_))
  rcases kind with (_ | _ | _) | _ <;> decide

theorem isLeaf_referenceType : IsLeaf referenceType :=
  isLeaf_of_mem _ (List.mem_append_left _ (by simp [leafTypes]))

theorem isLeaf_targetType : IsLeaf targetType :=
  isLeaf_of_mem _ (List.mem_append_left _ (by simp [leafTypes]))

theorem isLeaf_commandType : IsLeaf commandType :=
  isLeaf_of_mem _ (List.mem_append_left _ (by simp [leafTypes]))

theorem isLeaf_commandSetType : IsLeaf commandSetType :=
  isLeaf_of_mem _ (List.mem_append_left _ (by simp [leafTypes]))

theorem isType_literalType : IsType literalType := by decide +kernel

theorem isType_commandTypeType : IsType commandTypeType := by decide +kernel

/-- The namespaces of the schema are not empty. -/
theorem namespaceText_ne_empty : ∀ f ∈ schemaFiles, f.namespaceText ≠ "" := by
  decide +kernel

/-- The super types that the schema names are types of the file that names them. -/
theorem superType_of_mem_files : ∀ f ∈ schemaFiles, ∀ d ∈ f.declarations,
    d.superType = none ∨ ∃ name ∈ superNames, d.superType = some (localType name)
      ∧ '.' ∉ name.toList ∧ (f.declaration? (.str name)).isSome := by
  decide +kernel

/-- The declarations of the schema that extend the type of arguments. -/
theorem argumentType_of_superType : ∀ f ∈ schemaFiles, ∀ d ∈ f.declarations,
    d.superType = some (localType "DecoratorLiteral") →
    ∃ kind ∈ ArgumentKind.all, Handle.mk f d = argumentType kind := by
  decide +kernel

end Schema

open Schema

/-- **A registry has the schema**: its two files are loaded as they are. -/
structure Registry.HasSchema (r : Registry) : Prop where
  metamodel : metamodelFile ∈ r.files
  commands : commandsFile ∈ r.files

/-- **A registry is closed** if no declaration outside the schema extends one of the
schema. -/
def Registry.SchemaClosed (r : Registry) : Prop :=
  ∀ h : Handle, h.file ∈ r.files → h.declaration ∈ h.file.declarations →
    h.file.namespaceText ∉ schemaFiles.map ModelFile.namespaceText →
    ∀ up, r.superType h = .ok (some up) →
      up.file.namespaceText ∉ schemaFiles.map ModelFile.namespaceText

/-- **The declarations of a file have different texts as names.** -/
def ModelFile.DeclaresTexts (f : ModelFile) : Prop :=
  ∃ texts : List String, f.declarations.map Declaration.name = texts.map Value.str ∧ texts.Nodup

/-- A copy of a file declares the same texts. -/
theorem ModelFile.DeclaresTexts.copied {f : ModelFile} (h : f.DeclaresTexts) :
    f.copied.DeclaresTexts := by
  obtain ⟨texts, htexts, hdistinct⟩ := h
  refine ⟨texts, ?_, hdistinct⟩
  rw [← htexts]
  show (f.declarations.map (Declaration.relabel _)).map Declaration.name = _
  rw [List.map_map]
  refine List.map_congr_left fun d hd => ?_
  have hname : d.name ∈ texts.map Value.str := htexts ▸ List.mem_map_of_mem hd
  obtain ⟨s, -, hs⟩ := List.mem_map.mp hname
  show d.name.relabel _ = d.name
  rw [← hs]
  rfl

namespace CommandSetSource

/-! ## Loading the schema -/

/-- **The registry of the schema** is that of copies of files between the two of the
schema. -/
theorem schemaRegistry_eq_ok {fs : List ModelFile} {r : Registry} : schemaRegistry fs = .ok r
    ↔ (metamodelFile :: (fs.map ModelFile.copied ++ [commandsFile])).foldlM Registry.addFile
      (.empty true) = .ok r := by
  have hmetamodel : (Registry.empty true).add Schema.metamodel
      = (Registry.empty true).addFile metamodelFile := Registry.add_toModel _ metamodelFile
  have hcommands : ∀ mid : Registry,
      [commandsFile].foldlM Registry.addFile mid = mid.add Schema.commands := by
    intro mid
    show (mid.addFile commandsFile >>= pure) = _
    rw [bind_pure]
    exact (mid.add_toModel commandsFile).symm
  unfold schemaRegistry
  rw [List.foldlM_cons, hmetamodel, Checked.bind_eq_ok, Checked.bind_eq_ok]
  refine exists_congr fun r₀ => and_congr_right fun _ => ?_
  rw [List.foldlM_append, Checked.bind_eq_ok]
  constructor
  · intro h
    split at h
    · rename_i mid hmid
      exact ⟨mid, Registry.addFiles_eq_ok.mp hmid, (hcommands mid).trans h⟩
    · cases h
  · rintro ⟨mid, hmid, h⟩
    rw [Registry.addFiles_eq_ok.mpr hmid]
    exact (hcommands mid).symm.trans h

/-- **The files of the registry of the schema**: the given ones, as copies, between the
two of the schema. -/
theorem files_of_schemaRegistry {fs : List ModelFile} {r : Registry}
    (h : schemaRegistry fs = .ok r) :
    r.files = metamodelFile :: (fs.map ModelFile.copied ++ [commandsFile]) :=
  Registry.files_of_foldlM_addFile rfl (schemaRegistry_eq_ok.mp h)

theorem hasSchema_of_schemaRegistry {fs : List ModelFile} {r : Registry}
    (h : schemaRegistry fs = .ok r) : r.HasSchema := by
  have hfiles := files_of_schemaRegistry h
  refine ⟨?_, ?_⟩
  · rw [hfiles]
    exact List.mem_cons_self
  · rw [hfiles]
    exact List.mem_cons_of_mem _ (List.mem_append_right _ (List.mem_singleton_self _))

/-! ## The structural check -/

/-- The structural check succeeds if the models can be loaded, the payload is accepted as a
command set, and its commands can be counted. -/
theorem validate_eq_ok_iff {source : CommandSetSource} {fs : List ModelFile} {r : Registry} :
    source.validate fs = .ok r ↔ schemaRegistry fs = .ok r ∧ ∃ payload,
      source.payload = .ok payload ∧ r.checkInstance payload (some commandSetClass) = .ok ()
        ∧ ∃ n, countCommands payload = .ok n := by
  unfold validate
  rw [Checked.bind_eq_ok]
  constructor
  · rintro ⟨r', hr', h⟩
    obtain ⟨payload, hpayload, h⟩ := Checked.bind_eq_ok.mp h
    obtain ⟨_, hcheck, h⟩ := Checked.bind_eq_ok.mp h
    obtain ⟨n, hcount, h⟩ := Checked.bind_eq_ok.mp h
    obtain rfl := Checked.pure_eq_ok.mp h
    exact ⟨hr', payload, hpayload, hcheck, n, hcount⟩
  · rintro ⟨hr, payload, hpayload, hcheck, n, hcount⟩
    exact ⟨r, hr, Checked.bind_eq_ok.mpr ⟨payload, hpayload, Checked.bind_eq_ok.mpr ⟨(), hcheck,
      Checked.bind_eq_ok.mpr ⟨n, hcount, rfl⟩⟩⟩⟩

end CommandSetSource

namespace Registry

variable {r : Registry}

/-! ## Looking up the types of the schema -/

/-- The files of the schema are loaded. -/
theorem HasSchema.mem_files (hr : r.HasSchema) {f : ModelFile} (hf : f ∈ schemaFiles) :
    f ∈ r.files := by
  rcases List.mem_pair.mp hf with rfl | rfl
  · exact hr.metamodel
  · exact hr.commands

/-- A file with a namespace of the schema is a file of the schema. -/
theorem HasSchema.mem_files_of_namespaceText (hr : r.HasSchema) {f : ModelFile}
    (hf : f ∈ r.files) (hns : f.namespaceText ∈ schemaFiles.map ModelFile.namespaceText) :
    f ∈ schemaFiles := by
  obtain ⟨g, hg, heq⟩ := List.mem_map.mp hns
  rw [eq_of_namespaceText hf (hr.mem_files hg) heq.symm]
  exact hg

/-- The types of the schema are listed. -/
theorem HasSchema.lists (hr : r.HasSchema) {t : Handle} (ht : IsType t) : r.Lists t :=
  ⟨hr.mem_files ht.1, t.declaration.name.text, ht.2.1, ht.2.2⟩

/-- A type of the schema is found under its full name. -/
theorem HasSchema.lookup?_fullName (hr : r.HasSchema) {t : Handle} (ht : IsType t) :
    r.lookup? t.fullName = some t :=
  lookup?_of_mem (hr.mem_files ht.1) (namespaceText_ne_empty t.file ht.1) ht.2.1 ht.2.2

/-- A name inside a file of the schema refers to the type of that file. -/
theorem HasSchema.resolve_local (hr : r.HasSchema) {f : ModelFile} (hf : f ∈ schemaFiles)
    {name : String} {d : Declaration} (hname : '.' ∉ name.toList)
    (hd : f.declaration? (.str name) = some d) : r.resolve f (localType name) = .ok ⟨f, d⟩ :=
  Registry.resolve_local (hr.mem_files hf) (namespaceText_ne_empty f hf) hname hd

/-- A type of the schema is referred to by its name inside its file. -/
theorem HasSchema.resolve_type (hr : r.HasSchema) {t : Handle} (ht : IsType t) :
    r.resolve t.file (localType t.declaration.name.text) = .ok t :=
  hr.resolve_local ht.1 ht.2.1 ht.2.2

/-- The metamodel refers to the type of arguments. -/
theorem HasSchema.resolve_literal (hr : r.HasSchema) :
    r.resolve metamodelFile (localType "DecoratorLiteral") = .ok literalType :=
  hr.resolve_type isType_literalType

/-- The model of command sets imports decorators from the metamodel. -/
theorem HasSchema.resolve_decorator (hr : r.HasSchema) :
    r.resolve commandsFile (localType "Decorator") = .ok decoratorType := by
  have himport : commandsFile.namespaceFor (.str "Decorator") = .ok (.str metamodelNamespace) :=
    rfl
  unfold localType
  rw [resolve_of_blank (.str "Decorator") rfl, himport, Checked.ok_bind]
  exact getType_eq_ok.mpr (hr.lookup?_fullName isLeaf_decoratorType.1)

/-! ## What extends the types of the schema -/

/-- What a declaration of the schema extends. -/
theorem HasSchema.superType_eq (hr : r.HasSchema) {h up : Handle} (hf : h.file ∈ schemaFiles)
    (hd : h.declaration ∈ h.file.declarations) (hup : r.superType h = .ok (some up)) :
    ∃ name ∈ superNames, h.declaration.superType = some (localType name)
      ∧ up.declaration.name = .str name := by
  rcases superType_of_mem_files h.file hf h.declaration hd with hnone | ⟨name, hname, hsuper,
    hdot, hsome⟩
  · unfold superType at hup
    rw [hnone] at hup
    cases hup
  · obtain ⟨d, hfound⟩ := Option.isSome_iff_exists.mp hsome
    have hresolve := hr.resolve_local hf hdot hfound
    unfold superType at hup
    rw [hsuper] at hup
    simp only [hresolve, Checked.map_ok, Except.ok.injEq, Option.some.injEq] at hup
    refine ⟨name, hname, hsuper, ?_⟩
    rw [← hup]
    exact ModelFile.name_of_declaration? hfound

/-- **In a closed registry only the schema extends the schema.** -/
theorem HasSchema.mem_files_of_superType (hr : r.HasSchema) (hclosed : r.SchemaClosed)
    {h up : Handle} (hh : r.Lists h) (hup : r.superType h = .ok (some up))
    (hf : up.file ∈ schemaFiles) : h.file ∈ schemaFiles ∧ h.declaration ∈ h.file.declarations := by
  obtain ⟨name, _, hd⟩ := hh.declaration
  have hmem := ModelFile.mem_of_declaration? hd
  refine ⟨hr.mem_files_of_namespaceText hh.file ?_, hmem⟩
  by_contra hns
  exact hclosed h hh.file hmem hns up hup (List.mem_map_of_mem hf)

/-- **A type of the schema that no declaration there names as its super type** is
extended by nothing. -/
theorem HasSchema.superType_ne_of_leaf (hr : r.HasSchema) (hclosed : r.SchemaClosed) {t : Handle}
    (ht : IsLeaf t) (h : Handle) (hh : r.Lists h) : r.superType h ≠ .ok (some t) := by
  intro hup
  obtain ⟨htype, hleaf, _⟩ := ht
  obtain ⟨hf, hd⟩ := hr.mem_files_of_superType hclosed hh hup htype.1
  obtain ⟨name, hname, _, heq⟩ := hr.superType_eq hf hd hup
  rw [heq] at hleaf
  exact hleaf hname

/-- **The kinds of arguments are all that extends the type of arguments.** -/
theorem HasSchema.eq_argumentType_of_extends (hr : r.HasSchema) (hclosed : r.SchemaClosed)
    {h a : Handle} (hh : r.Lists h) (hext : r.Extends h a) (ha : a = literalType) :
    h = literalType ∨ ∃ kind, h = argumentType kind := by
  induction hext with
  | refl h => exact Or.inl ha
  | @step h up a hup _ ih =>
    -- what the declaration extends is the type of arguments, or a kind, which nothing extends
    rcases ih (lists_of_superType hup) ha with rfl | ⟨kind, rfl⟩
    · obtain ⟨hf, hd⟩ := hr.mem_files_of_superType hclosed hh hup isType_literalType.1
      obtain ⟨name, _, hsuper, hname⟩ := hr.superType_eq hf hd hup
      obtain rfl : "DecoratorLiteral" = name := Value.str.inj hname
      obtain ⟨kind, _, heq⟩ := argumentType_of_superType h.file hf h.declaration hd hsuper
      exact Or.inr ⟨kind, heq⟩
    · exact absurd hup (hr.superType_ne_of_leaf hclosed (isLeaf_argumentType kind) h hh)

end Registry

end DecoratorSets
