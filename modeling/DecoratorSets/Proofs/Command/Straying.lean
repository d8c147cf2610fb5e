import DecoratorSets.Proofs.Command.Decision

/-!
# Declarations beyond the namespace

The check of a command looks for the declaration of its target by a full name, made up of the
namespace of the file, a dot, and the name of the declaration. To look it up, the full name is
taken apart again at its last dot. A name without dots comes back as it was put in. A name with
a dot does not: what stands before its last dot goes over to the namespace, so that
`billing.Invoice` in `org.acme` is looked for as `Invoice` in `org.acme.billing`
(`Registry.LeadsAstray`).

These are the two ways to pass (`Registry.exists_lookup?_typeName_iff`), and it is the second
that lets commands pass for declarations that their namespace does not have. It takes a file
whose namespace continues that of the target, so that the target alone does not tell, except
that a name without dots is safe (`Registry.declares_of_check`).
-/

namespace DecoratorSets

/-! ## Names with dots -/

/-- It does not matter at which of two dots a text is put together. -/
theorem typeName_assoc (ns front short : String) :
    typeName ns (typeName front short) = typeName (typeName ns front) short := by
  rw [← String.toList_inj]
  simp [toList_typeName]

/-- A text with a dot has a last one. -/
theorem exists_typeName_of_dot {name : String} (h : '.' ∈ name.toList) :
    ∃ front short, name = typeName front short ∧ '.' ∉ short.toList := by
  obtain ⟨short, front, hsplit, hfree⟩ := List.eq_append_cons_of_mem (List.mem_reverse.mpr h)
  refine ⟨String.ofList front.reverse, String.ofList short.reverse, ?_, ?_⟩
  · rw [← String.toList_inj, toList_typeName, ← List.reverse_inj, hsplit]
    simp
  · simpa using hfree

/-! ## What passes for a declaration of a file -/

/-- A file has a declaration of a name. -/
def ModelFile.Declares (f : ModelFile) (name : String) : Prop :=
  ∃ d ∈ f.declarations, d.name = .str name

namespace Registry

variable {r : Registry} {f : ModelFile} {ns name short : String}

/-- **A name leads astray** from a file: it has a dot, and the namespace of the file together
with what stands before the last dot names a file that declares what stands behind it. -/
def LeadsAstray (r : Registry) (f : ModelFile) (name : String) : Prop :=
  ∃ front short g, name = typeName front short ∧ '.' ∉ short.toList
    ∧ r.Names (typeName f.namespaceText front) g ∧ g.Declares short

/-- A name without dots leads nowhere else. -/
theorem not_leadsAstray (hdot : '.' ∉ name.toList) : ¬ r.LeadsAstray f name := by
  rintro ⟨front, short, g, rfl, -⟩
  exact hdot (by simp [toList_typeName])

/-- A file is named by one namespace only as the file that it is. -/
theorem Names.unique {g : ModelFile} (hf : r.Names ns f) (hg : r.Names ns g) : f = g :=
  Option.some.inj (Except.ok.inj
    ((find_eq_some_iff.mpr hf).symm.trans (find_eq_some_iff.mpr hg)))

/-- A full name with a short name at its end is the name of a type if the namespace in front
names a file that declares the short name. -/
theorem declaresType_typeName_iff (hns : ns ≠ "") (hdot : '.' ∉ short.toList) :
    r.DeclaresType (typeName ns short) ↔ ∃ g, r.Names ns g ∧ g.Declares short := by
  constructor
  · rintro ⟨ns', short', g, heq, -, hdot', hnames, hdeclares⟩
    obtain ⟨rfl, rfl⟩ := typeName_inj hdot hdot' heq
    exact ⟨g, hnames, hdeclares⟩
  · rintro ⟨g, hnames, hdeclares⟩
    exact ⟨ns, short, g, rfl, hns, hdot, hnames, hdeclares⟩

/-- **The two ways to be found under a full name** made up of a namespace and a name: as a
declaration of the file, for a name without dots, or astray. -/
theorem exists_lookup?_typeName_iff (hf : f ∈ r.files) (hns : f.namespaceText ≠ "") :
    (∃ h, r.lookup? (typeName f.namespaceText name) = some h)
      ↔ ('.' ∉ name.toList ∧ f.Declares name) ∨ r.LeadsAstray f name := by
  rw [exists_lookup?_iff]
  by_cases hdot : '.' ∈ name.toList
  · -- the last dot of the full name is that of the name
    obtain ⟨front, short, rfl, hfree⟩ := exists_typeName_of_dot hdot
    have hns' : typeName f.namespaceText front ≠ "" := by
      rw [ne_eq, ← String.toList_eq_nil_iff, toList_typeName]
      simp
    rw [or_iff_right fun h => h.1 hdot, typeName_assoc, declaresType_typeName_iff hns' hfree]
    constructor
    · rintro ⟨g, hnames, hdeclares⟩
      exact ⟨front, short, g, rfl, hfree, hnames, hdeclares⟩
    · rintro ⟨front', short', g, heq, hfree', hnames, hdeclares⟩
      obtain ⟨rfl, rfl⟩ := typeName_inj hfree hfree' heq
      exact ⟨g, hnames, hdeclares⟩
  · rw [or_iff_left (not_leadsAstray hdot), and_iff_right hdot,
      declaresType_typeName_iff hns hdot]
    constructor
    · rintro ⟨g, hnames, hdeclares⟩
      exact (Names.exact hf rfl).unique hnames ▸ hdeclares
    · exact fun hdeclares => ⟨f, .exact hf rfl, hdeclares⟩

end Registry

/-! ## Commands that pass -/

namespace Command

variable {c : Command} {r : Registry} {f : ModelFile} {ns name : String}

/-- **A command is for a declaration** of some name in some namespace, as far as its target
goes, whose fields are texts. -/
structure IsFor (c : Command) (ns name : String) : Prop where
  wellTyped : c.target.WellTyped
  namespaceName : c.target.namespaceName.Gives ns
  declaration : c.target.declaration.Gives name

/-- **A command that passes** has a namespace that names a file, and its declaration is one of
that file or astray. -/
theorem IsFor.exists_of_check (hc : c.IsFor ns name) (hcheck : c.check r = .ok ()) :
    ∃ f, r.Names ns f ∧ (('.' ∉ name.toList ∧ f.Declares name) ∨ r.LeadsAstray f name) := by
  have hns : ¬ c.target.namespaceName.isBlank = true := by
    rw [hc.namespaceName.isBlank_eq_false]
    exact Bool.false_ne_true
  have hname : ¬ c.target.declaration.isBlank = true := by
    rw [hc.declaration.isBlank_eq_false]
    exact Bool.false_ne_true
  obtain ⟨-, -, hblank | ⟨f, hfile, hblank | ⟨h, hfound, -⟩⟩⟩ := check_eq_ok.mp hcheck
  · exact absurd hblank hns
  · exact absurd hblank hname
  · rw [targetFile_eq_ok, findOf_of_gives hc.namespaceName] at hfile
    rw [hc.declaration.1] at hfound
    obtain ⟨hf, hgoes⟩ := Registry.goesBy_of_find hfile
    exact ⟨f, Registry.find_eq_some_iff.mp hfile,
      (Registry.exists_lookup?_typeName_iff hf
        (hgoes.namespaceText_ne hc.namespaceName.2)).mp ⟨h, hfound⟩⟩

/-- The simplest command for a declaration. -/
def forDeclaration (ns name : String) : Command where
  target := ⟨ns, name, .null, none, .null⟩
  decorator := ⟨"", none, []⟩
  type := .upsert

theorem forDeclaration_isFor (hns : ns ≠ "") (hname : name ≠ "") :
    (forDeclaration ns name).IsFor ns name where
  wellTyped := ⟨Or.inr ⟨ns, rfl⟩, Or.inr ⟨name, rfl⟩, Or.inl rfl,
    fun names hnames => absurd hnames (Option.not_mem_none names), Or.inl rfl⟩
  namespaceName := ⟨rfl, hns⟩
  declaration := ⟨rfl, hname⟩

/-- **A name that leads astray passes.** -/
theorem check_forDeclaration (hns : ns ≠ "") (hfind : r.find ns = .ok (some f))
    (hastray : r.LeadsAstray f name) : (forDeclaration ns name).check r = .ok () := by
  have hlevel : (forDeclaration ns name).target.ForDeclarations := ⟨rfl, rfl, rfl⟩
  obtain ⟨hf, hgoes⟩ := Registry.goesBy_of_find hfind
  obtain ⟨h, hfound⟩ := (Registry.exists_lookup?_typeName_iff hf
    (hgoes.namespaceText_ne hns)).mpr (Or.inr hastray)
  have hlookup : r.lookup? (typeName f.namespaceText
      (forDeclaration ns name).target.declaration.text) = some h := hfound
  rw [check_of_find hlevel rfl hns hfind, hlookup]
  exact ite_self _

end Command

/-- **Whether the check stays inside the namespace of the target.** A command that passes has a
namespace that names a file. All commands that pass for a name are for a declaration of that
file exactly if the name does not lead astray from the file, or the file has a declaration of
the name all the same. A name without dots does not lead astray. -/
theorem Registry.declares_of_check (r : Registry) (ns name : String) (hns : ns ≠ "")
    (hname : name ≠ "") :
    (∀ c : Command, c.IsFor ns name → c.check r = .ok () → ∃ f, r.find ns = .ok (some f))
      ∧ ∀ f, r.find ns = .ok (some f) →
        ((∀ c : Command, c.IsFor ns name → c.check r = .ok () → f.Declares name)
          ↔ (r.LeadsAstray f name → f.Declares name))
        ∧ ('.' ∉ name.toList → ¬ r.LeadsAstray f name) := by
  refine ⟨fun c hc hcheck => ?_, fun f hfind =>
    ⟨⟨fun hall hastray => ?_, fun hsafe c hc hcheck => ?_⟩, not_leadsAstray⟩⟩
  · obtain ⟨f, hnames, -⟩ := hc.exists_of_check hcheck
    exact ⟨f, find_eq_some_iff.mpr hnames⟩
  · exact hall _ (Command.forDeclaration_isFor hns hname)
      (Command.check_forDeclaration hns hfind hastray)
  · obtain ⟨g, hnames, hfound⟩ := hc.exists_of_check hcheck
    obtain rfl := hnames.unique (find_eq_some_iff.mp hfind)
    exact hfound.elim And.right hsafe

/-! ### Invoices of billing -/

namespace Straying

/-- A concept without properties. -/
def concept (name : String) : Declaration :=
  ⟨name, .concept, some [], false, none, none, []⟩

theorem parse_acme : Namespace.parse "org.acme" = .ok ⟨"org.acme", none⟩ := by
  decide +kernel

theorem parse_billing :
    Namespace.parse "org.acme.billing" = .ok ⟨"org.acme.billing", none⟩ := by
  decide +kernel

/-- A file with parcels. -/
def acmeFile : ModelFile where
  namespaceText := "org.acme"
  info := ⟨"org.acme", none⟩
  declarations := [concept "Parcel"]
  decorators := none
  extras := []
  parse_eq := parse_acme

/-- A file with invoices, in a namespace that continues the other. -/
def billingFile : ModelFile where
  namespaceText := "org.acme.billing"
  info := ⟨"org.acme.billing", none⟩
  declarations := [concept "Invoice"]
  decorators := none
  extras := []
  parse_eq := parse_billing

/-- The registry of the two files. -/
def registry : Registry where
  strict := true
  files := [acmeFile, billingFile]
  distinct := by
    show ["org.acme", "org.acme.billing"].Nodup
    decide

theorem find_acme : registry.find "org.acme" = .ok (some acmeFile) :=
  Registry.find_eq_some_iff.mpr (.exact List.mem_cons_self rfl)

/-- Commands for parcels stay inside the namespace. -/
theorem declares_of_check_parcel :
    "org.acme" ≠ "" ∧ "Parcel" ≠ "" ∧ registry.find "org.acme" = .ok (some acmeFile)
      ∧ (Command.forDeclaration "org.acme" "Parcel").check registry = .ok ()
      ∧ ∀ c : Command, c.IsFor "org.acme" "Parcel" → c.check registry = .ok () →
        acmeFile.Declares "Parcel" := by
  refine ⟨by decide, by decide, find_acme, by decide +kernel, ?_⟩
  obtain ⟨hstays, hsafe⟩ :=
    (registry.declares_of_check "org.acme" "Parcel" (by decide) (by decide)).2 acmeFile find_acme
  exact hstays.mpr fun hastray => absurd hastray (hsafe (by decide))

/-- **A command passes for a declaration that its namespace does not have.** The declaration
found is one of another file. -/
theorem invoice_beyond_namespace :
    (Command.forDeclaration "org.acme" "billing.Invoice").IsFor "org.acme" "billing.Invoice"
      ∧ (Command.forDeclaration "org.acme" "billing.Invoice").check registry = .ok ()
      ∧ registry.find "org.acme" = .ok (some acmeFile)
      ∧ ¬ acmeFile.Declares "billing.Invoice" := by
  refine ⟨Command.forDeclaration_isFor (by decide) (by decide), by decide +kernel, find_acme, ?_⟩
  rintro ⟨d, hd, hname⟩
  obtain rfl := List.mem_singleton.mp hd
  exact absurd hname (by decide)

end Straying

end DecoratorSets
