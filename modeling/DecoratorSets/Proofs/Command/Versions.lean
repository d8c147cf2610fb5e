import DecoratorSets.Proofs.Command.Targets
import DecoratorSets.Proofs.Command.WellTyped

/-!
# Declarations in one of several versions

Several versions of a file go by one namespace without a version. The application of a
command tries each of them, and decorates the declaration of the name wherever there is
one. The check of the command settles on a single file, the one that the namespace names,
and asks for the declaration there. So it refuses some commands that would decorate
something: those for a declaration that this file lacks and another version has.

Nothing else keeps a command for declarations from its acceptance. Where it would decorate
something, the namespace names a file, since some file goes by it, and the check can only
miss the declaration (`Registry.check_of_decorates`). It looks for the declaration under a
full name, which is taken apart at its last dot. So if the name of the declaration has no
dot, the check is exactly whether the file has the declaration, and with a single version
it has it.
-/

namespace DecoratorSets

/-- **A target for declarations**: it selects no properties. -/
structure CommandTarget.ForDeclarations (t : CommandTarget) : Prop where
  property : t.property.isBlank = true
  properties : t.properties.getD [] = []
  type : t.type.isBlank = true

/-- **A command decorates a declaration** of a namespace: its target selects the
declaration, and what comes out is the declaration with the decorator of the command. -/
def Command.Decorates (c : Command) (namespaceName : Value) (d : Declaration) : Prop :=
  c.target.selectsDeclaration namespaceName d = .ok true
    ∧ ∃ d', d.decorate c.type c.decorator = .ok d' ∧ d.execute namespaceName c = (d', none)

/-! ## What is selected -/

namespace CommandTarget

variable {t : CommandTarget} {f : ModelFile} {d : Declaration} {ns name : String}

/-- A namespace selects declarations of the files that go by it. -/
theorem goesBy_of_selectsDeclaration (hns : t.namespaceName = .str ns) (hne : ns ≠ "")
    (h : t.selectsDeclaration (.str f.namespaceText) d = .ok true) : f.GoesBy ns := by
  have hmodel := (selectsDeclaration_eq_true.mp h).1
  rw [hns] at hmodel
  exact (f.selectsNamespace_iff hne).mp hmodel

/-- A name selects declarations that go by it. -/
theorem name_of_selectsDeclaration (hname : t.declaration = .str name) (hne : name ≠ "")
    (h : t.selectsDeclaration (.str f.namespaceText) d = .ok true) : d.name = .str name := by
  have hselects := (selectsDeclaration_eq_true.mp h).2
  rw [hname] at hselects
  exact (selects_str_singleton hne d.name).mp hselects

end CommandTarget

/-- A file that goes by a namespace is not loaded under the empty text. -/
theorem ModelFile.GoesBy.namespaceText_ne {f : ModelFile} {ns : String} (h : f.GoesBy ns)
    (hne : ns ≠ "") : f.namespaceText ≠ "" := by
  intro hempty
  have hparse := f.parse_eq
  rw [hempty] at hparse
  have hinfo : f.info = ⟨"", none⟩ := (Except.ok.inj hparse).symm
  rcases h with hns | hns
  · exact hne (hns.symm.trans hempty)
  · exact hne (hns.symm.trans (congrArg Namespace.name hinfo))

/-! ## The check of a target for declarations -/

/-- What may be left out is a text if it is not blank. -/
theorem Value.IsOptionalText.exists_text {v : Value} (h : v.IsOptionalText)
    (hv : ¬ v.isBlank = true) : ∃ s, v = .str s ∧ s ≠ "" := by
  rcases h with rfl | ⟨s, rfl⟩
  · exact absurd rfl hv
  · exact ⟨s, rfl, mt (isBlank_str s).mpr hv⟩

namespace Command

variable {c : Command} {r : Registry} {f : ModelFile} {ns name : String}

/-- **The file that the target names has the declaration that it names**, if it names a
declaration of a namespace. -/
def FindsDeclaration (c : Command) (r : Registry) : Prop :=
  ∀ ns name, c.target.namespaceName = .str ns → ns ≠ "" → c.target.declaration = .str name →
    name ≠ "" → ∃ f, r.find ns = .ok (some f) ∧ ∃ d ∈ f.declarations, d.name = .str name

/-- A single file at most goes by the namespace of the target. -/
def HasOneVersion (c : Command) (r : Registry) : Prop :=
  ∀ ns, c.target.namespaceName = .str ns →
    ∀ f ∈ r.files, ∀ g ∈ r.files, f.GoesBy ns → g.GoesBy ns → f = g

/-- **The check of a target for declarations** looks for a file and for a declaration, and
for nothing where either is left open. -/
theorem check_forDeclarations (hlevel : c.target.ForDeclarations) :
    c.check r = if c.target.namespaceName.isBlank then .ok () else
      c.targetFile r >>= fun file =>
        if c.target.declaration.isBlank then .ok () else
          match r.lookup? (typeName file.namespaceText c.target.declaration.text) with
          | none => c.refuse (.unknownDeclaration c.target.namespaceName c.target.declaration)
          | some _ => .ok () := by
  have hconflict : c.checkConflict = .ok () := by
    unfold checkConflict
    rw [hlevel.property]
    rfl
  have htype : c.checkType r = .ok () := if_pos hlevel.type
  have hlisted : c.listedProperties = [] :=
    (if_pos hlevel.property).trans hlevel.properties
  unfold check
  rw [hconflict, Checked.ok_bind, htype, Checked.ok_bind, hlisted]
  rfl

/-- A target that leaves the namespace open passes. -/
theorem check_of_blank_namespace (hlevel : c.target.ForDeclarations)
    (hns : c.target.namespaceName.isBlank = true) : c.check r = .ok () := by
  rw [check_forDeclarations hlevel, if_pos hns]

/-- Where the namespace names a file, the declaration is left to check. -/
theorem check_of_find (hlevel : c.target.ForDeclarations) (hns : c.target.namespaceName = .str ns)
    (hne : ns ≠ "") (hfind : r.find ns = .ok (some f)) :
    c.check r = if c.target.declaration.isBlank then .ok () else
      match r.lookup? (typeName f.namespaceText c.target.declaration.text) with
      | none => c.refuse (.unknownDeclaration c.target.namespaceName c.target.declaration)
      | some _ => .ok () := by
  have hfile : c.targetFile r = .ok f := by
    rw [targetFile_eq_ok, hns]
    exact hfind
  rw [check_forDeclarations hlevel, hfile, Checked.ok_bind, if_neg]
  rw [hns, Value.isBlank_str]
  exact hne

/-- Where the namespace names a file, **nothing but a missing declaration** is refused. -/
theorem check_eq_or_of_find (hlevel : c.target.ForDeclarations)
    (hns : c.target.namespaceName = .str ns) (hne : ns ≠ "") (hfind : r.find ns = .ok (some f)) :
    c.check r = .ok () ∨ c.check r
      = c.refuse (.unknownDeclaration c.target.namespaceName c.target.declaration) := by
  rw [check_of_find hlevel hns hne hfind]
  split
  · exact Or.inl rfl
  · split
    · exact Or.inr rfl
    · exact Or.inl rfl

/-- Where the namespace names a file and the declaration has a name without a dot, **the
check is whether the file has the declaration**. -/
theorem check_of_find_eq_ok (hlevel : c.target.ForDeclarations)
    (hns : c.target.namespaceName = .str ns) (hne : ns ≠ "") (hfind : r.find ns = .ok (some f))
    (hname : c.target.declaration = .str name) (hname' : name ≠ "") (hdot : '.' ∉ name.toList) :
    c.check r = .ok () ↔ ∃ d ∈ f.declarations, d.name = .str name := by
  rw [← ModelFile.exists_declaration?_iff]
  constructor
  · intro h
    obtain ⟨f', d, hfind', hd⟩ := exists_declaration_of_check hns hne hname hname' hdot h
    obtain rfl := Option.some.inj (Except.ok.inj (hfind.symm.trans hfind'))
    exact ⟨d, hd⟩
  · rintro ⟨d, hd⟩
    obtain ⟨hf, hgoes⟩ := Registry.goesBy_of_find hfind
    have hlookup : r.lookup? (typeName f.namespaceText c.target.declaration.text)
        = some ⟨f, d⟩ := by
      rw [hname]
      exact Registry.lookup?_of_mem hf (hgoes.namespaceText_ne hne) hdot hd
    rw [check_of_find hlevel hns hne hfind, hlookup]
    exact ite_self _

/-- **The check is whether the declaration is found**, where it has a name without a dot
and the namespace names a file. -/
theorem check_eq_ok_iff_finds (ht : c.target.WellTyped) (hlevel : c.target.ForDeclarations)
    (hfile : ∀ ns, c.target.namespaceName = .str ns → ns ≠ "" → ∃ f, r.find ns = .ok (some f))
    (hdot : ∀ name, c.target.declaration = .str name → '.' ∉ name.toList) :
    c.check r = .ok () ↔ c.FindsDeclaration r := by
  by_cases hblank : c.target.namespaceName.isBlank = true
  · refine iff_of_true (check_of_blank_namespace hlevel hblank) fun ns name hns hne => ?_
    exact absurd ((Value.isBlank_str ns).mp (hns ▸ hblank)) hne
  obtain ⟨ns, hns, hne⟩ := ht.namespaceName.exists_text hblank
  obtain ⟨f, hfind⟩ := hfile ns hns hne
  by_cases hopen : c.target.declaration.isBlank = true
  · refine iff_of_true ?_ fun _ name _ _ hname hname' => ?_
    · rw [check_of_find hlevel hns hne hfind, if_pos hopen]
    · exact absurd ((Value.isBlank_str name).mp (hname ▸ hopen)) hname'
  obtain ⟨name, hname, hname'⟩ := ht.declaration.exists_text hopen
  rw [check_of_find_eq_ok hlevel hns hne hfind hname hname' (hdot name hname)]
  constructor
  · intro hdeclares ns' name' hns' _ hname'' _
    obtain rfl := Value.str.inj (hns.symm.trans hns')
    obtain rfl := Value.str.inj (hname.symm.trans hname'')
    exact ⟨f, hfind, hdeclares⟩
  · intro hfinds
    obtain ⟨f', hfind', hdeclares⟩ := hfinds ns name hns hne hname hname'
    obtain rfl := Option.some.inj (Except.ok.inj (hfind.symm.trans hfind'))
    exact hdeclares

end Command

/-- **What can keep a command for declarations from its acceptance** if it would decorate
something: only that the declaration is not found. For a name without a dot this is whether
the file that the namespace names – the one loaded under it, or else its first version –
has a declaration of the name; and it always has one if no other file goes by the
namespace. -/
theorem Registry.check_of_decorates (r : Registry) (c : Command) (ht : c.target.WellTyped)
    (hlevel : c.target.ForDeclarations)
    (hsome : ∃ m ∈ r.toModels.models, ∃ d ∈ m.declarations, c.Decorates m.namespaceName d) :
    (c.check r = .ok () ∨ c.check r
        = c.refuse (.unknownDeclaration c.target.namespaceName c.target.declaration))
      ∧ ((∀ name, c.target.declaration = .str name → '.' ∉ name.toList) →
        (c.check r = .ok () ↔ c.FindsDeclaration r)
          ∧ (c.HasOneVersion r → c.check r = .ok ())) := by
  obtain ⟨_, hm, d, hd, hselects, -⟩ := hsome
  obtain ⟨f, hf, rfl⟩ := List.mem_map.mp hm
  have hselects : c.target.selectsDeclaration (.str f.namespaceText) d = .ok true := hselects
  have hgoes : ∀ ns, c.target.namespaceName = .str ns → ns ≠ "" → f.GoesBy ns :=
    fun _ hns hne => CommandTarget.goesBy_of_selectsDeclaration hns hne hselects
  have hfile : ∀ ns, c.target.namespaceName = .str ns → ns ≠ "" →
      ∃ f, r.find ns = .ok (some f) :=
    fun ns hns hne => exists_find_iff.mpr ⟨f, hf, hgoes ns hns hne⟩
  refine ⟨?_, fun hdot => ?_⟩
  · by_cases hblank : c.target.namespaceName.isBlank = true
    · exact Or.inl (Command.check_of_blank_namespace hlevel hblank)
    · obtain ⟨ns, hns, hne⟩ := ht.namespaceName.exists_text hblank
      obtain ⟨g, hfind⟩ := hfile ns hns hne
      exact Command.check_eq_or_of_find hlevel hns hne hfind
  · have hiff := Command.check_eq_ok_iff_finds ht hlevel hfile hdot
    refine ⟨hiff, fun hone => hiff.mpr fun ns name hns hne hname hname' => ?_⟩
    -- the file that is found can only be the one with the declaration that is decorated
    obtain ⟨g, hfind⟩ := hfile ns hns hne
    obtain ⟨hg, hggoes⟩ := goesBy_of_find hfind
    obtain rfl := hone ns hns f hf g hg (hgoes ns hns hne) hggoes
    exact ⟨f, hfind, d, hd, CommandTarget.name_of_selectsDeclaration hname hname' hselects⟩

/-! ## Waybills of the second version -/

namespace Waybill

/-- A file that declares some names. -/
def waybillFile (ns : String) (info : Namespace) (h : Namespace.parse ns = .ok info)
    (names : List String) : ModelFile where
  namespaceText := ns
  info := info
  declarations := names.map fun name => ⟨.str name, .concept, some [], false, none, none, []⟩
  decorators := none
  extras := []
  parse_eq := h

/-- The first version of a file, which has no waybills. -/
def firstVersion : ModelFile := waybillFile "org.acme@1.0.0" _ Namespace.parse_acme ["Parcel"]

/-- The second version of the file. -/
def secondVersion : ModelFile :=
  waybillFile "org.acme@2.0.0" _ Namespace.parse_acme_next ["Parcel", "Waybill"]

/-- The registry of the two versions in their order. -/
def oldFirst : Registry where
  strict := true
  files := [firstVersion, secondVersion]
  distinct := by
    show ["org.acme@1.0.0", "org.acme@2.0.0"].Nodup
    decide

/-- The registry of the two versions with the later one first. -/
def newFirst : Registry where
  strict := true
  files := [secondVersion, firstVersion]
  distinct := by
    show ["org.acme@2.0.0", "org.acme@1.0.0"].Nodup
    decide

/-- A file that declares a name with a dot. -/
def dottedFile : ModelFile := waybillFile "org.acme@1.0.0" _ Namespace.parse_acme ["Way.Bill"]

/-- The registry of this file alone. -/
def dotted : Registry := ⟨true, [dottedFile], List.nodup_singleton _⟩

/-- A command for declarations of a name in any version of the file. -/
def stamp (name : String) : Command where
  target := ⟨.str "org.acme", .str name, .null, none, .null⟩
  decorator := ⟨.str "Stamp", none, []⟩
  type := .append

theorem stamp_wellTyped (name : String) : (stamp name).target.WellTyped :=
  ⟨Or.inr ⟨_, rfl⟩, Or.inr ⟨_, rfl⟩, Or.inl rfl, fun _ h => (Option.not_mem_none _ h).elim,
    Or.inl rfl⟩

theorem stamp_forDeclarations (name : String) : (stamp name).target.ForDeclarations :=
  ⟨rfl, rfl, rfl⟩

/-- A declaration of the name is decorated in every file that goes by the namespace. -/
theorem stamp_decorates {name : String} (hne : name ≠ "") {f : ModelFile}
    (hf : f.GoesBy "org.acme") {d : Declaration} (hd : d.name = .str name) :
    (stamp name).Decorates (.str f.namespaceText) d := by
  have hmodel : selectsNamespace (.str "org.acme") (.str f.namespaceText) = .ok true :=
    (f.selectsNamespace_iff (by decide)).mpr hf
  obtain ⟨hselects, hexecute⟩ := Declaration.execute_of_selected (c := stamp name) hmodel rfl hne
    hd rfl
  exact ⟨hselects, _, rfl, hexecute⟩

/-- With the later version first the command passes. -/
theorem check_of_decorates_newFirst :
    (stamp "Waybill").target.WellTyped ∧ (stamp "Waybill").target.ForDeclarations
      ∧ (∃ m ∈ newFirst.toModels.models, ∃ d ∈ m.declarations,
        (stamp "Waybill").Decorates m.namespaceName d)
      ∧ (stamp "Waybill").check newFirst = .ok () := by
  have hsome : ∃ m ∈ newFirst.toModels.models, ∃ d ∈ m.declarations,
      (stamp "Waybill").Decorates m.namespaceName d :=
    ⟨secondVersion.toModel, List.mem_cons_self, _, List.mem_cons_of_mem _ List.mem_cons_self,
      stamp_decorates (by decide) (Or.inr rfl) rfl⟩
  obtain ⟨-, hcheck⟩ := newFirst.check_of_decorates (stamp "Waybill") (stamp_wellTyped _)
    (stamp_forDeclarations _) hsome
  obtain ⟨hiff, -⟩ := hcheck fun name hname => by
    obtain rfl := Value.str.inj hname
    decide
  refine ⟨stamp_wellTyped _, stamp_forDeclarations _, hsome,
    hiff.mpr fun ns name hns _ hname _ => ?_⟩
  obtain rfl := Value.str.inj hns
  obtain rfl := Value.str.inj hname
  exact ⟨secondVersion, by decide +kernel, _, List.mem_cons_of_mem _ List.mem_cons_self, rfl⟩

/-- **A command can be refused although it would decorate something**: where the version
that is found lacks the declaration, and where the name has a dot. -/
theorem refused_though_decorating :
    (∀ name, (stamp name).target.WellTyped ∧ (stamp name).target.ForDeclarations
        ∧ (stamp name).type = .append)
      ∧ ((∃ m ∈ oldFirst.toModels.models, ∃ d ∈ m.declarations,
          (stamp "Waybill").Decorates m.namespaceName d)
        ∧ (stamp "Waybill").check oldFirst ≠ .ok ())
      ∧ (∃ m ∈ dotted.toModels.models, ∃ d ∈ m.declarations,
          (stamp "Way.Bill").Decorates m.namespaceName d)
        ∧ (stamp "Way.Bill").check dotted ≠ .ok () := by
  refine ⟨fun name => ⟨stamp_wellTyped name, stamp_forDeclarations name, rfl⟩, ⟨?_, ?_⟩, ?_, ?_⟩
  · exact ⟨secondVersion.toModel, List.mem_cons_of_mem _ List.mem_cons_self, _,
      List.mem_cons_of_mem _ List.mem_cons_self, stamp_decorates (by decide) (Or.inr rfl) rfl⟩
  · decide +kernel
  · exact ⟨dottedFile.toModel, List.mem_cons_self, _, List.mem_cons_self,
      stamp_decorates (by decide) (Or.inr rfl) rfl⟩
  · decide +kernel

end Waybill

end DecoratorSets
