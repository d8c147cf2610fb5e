import DecoratorSets.Proofs.Registry.Ancestors

/-!
# What a search in a registry comes to

Three searches decide what a name stands for: the one for the file of a namespace, the one
for the type of a full name, and the one for a property along a lineage. Each is a walk
that stops at the first hit. This module says what they find without walking.

A namespace names the file that is loaded under it, and only where there is none the first
file that has it with a version (`Registry.Names`). A full name is the name of a type if
its namespace names a file with a declaration of its short name (`Registry.DeclaresType`).

A property is found along a lineage if some declaration of the lineage has it
(`Registry.Exposes`). If none has it, the search comes to the end of the lineage, and fails
if that is a super type that cannot be looked up (`Registry.BreaksOff`). The two together
settle every search (`Registry.Lists.property?_eq_some_iff` and its two companions): a gap
above a declaration does no harm as long as what is looked for is found.

A lineage breaks off at a reference, and a reference fails in two ways only: there is no
such type, or the imports are no imports (`Registry.BreaksOff.isOfReference`).
-/

namespace DecoratorSets

namespace Registry

variable {r : Registry}

/-! ## Files and types -/

/-- **A namespace names a file**: the one that is loaded under it, or else the first that
has it with a version. -/
inductive Names (r : Registry) (ns : String) : ModelFile → Prop where
  | exact {f : ModelFile} (hf : f ∈ r.files) (hns : f.namespaceText = ns) : Names r ns f
  | versioned {f : ModelFile} {before after : List ModelFile}
    (hnone : ∀ g ∈ r.files, g.namespaceText ≠ ns) (hfiles : r.files = before ++ f :: after)
    (hns : f.unversioned = ns) (hfirst : ∀ g ∈ before, g.unversioned ≠ ns) : Names r ns f

/-- **What is found under a namespace** is what it names. -/
theorem find_eq_some_iff {ns : String} {f : ModelFile} :
    r.find ns = .ok (some f) ↔ r.Names ns f := by
  constructor
  · intro hfind
    obtain ⟨hf, hns⟩ := namespaceText_of_find hfind
    by_cases hexact : ∃ g ∈ r.files, g.namespaceText = ns
    · obtain ⟨g, hg, rfl⟩ := hexact
      obtain rfl := Option.some.inj (Except.ok.inj ((find_of_mem hg).symm.trans hfind))
      exact .exact hg rfl
    · have hnone : ∀ g ∈ r.files, g.namespaceText ≠ ns := fun g hg heq => hexact ⟨g, hg, heq⟩
      obtain ⟨hparse, -⟩ := hns.resolve_left (hnone f hf)
      rw [find_of_unversioned hparse hnone, Except.ok.injEq,
        List.find?_eq_some_iff_append] at hfind
      obtain ⟨hname, before, after, hfiles, hfirst⟩ := hfind
      refine .versioned hnone hfiles (beq_iff_eq.mp hname) fun g hg => ?_
      simpa using hfirst g hg
  · intro hnames
    cases hnames with
    | exact hf hns => exact hns ▸ find_of_mem hf
    | @versioned before after hnone hfiles hns hfirst =>
      subst hns
      have hparse : Namespace.parse f.unversioned = .ok ⟨f.unversioned, none⟩ :=
        Namespace.parse_name f.parse_eq
      rw [find_of_unversioned hparse hnone, Except.ok.injEq, List.find?_eq_some_iff_append]
      refine ⟨beq_self_eq_true _, before, after, hfiles, fun g hg => ?_⟩
      simpa using hfirst g hg

/-- A search for a file fails only for a namespace that cannot be read. -/
theorem eq_malformed_of_find {ns : String} {e : Failure} (hfind : r.find ns = .error e) :
    e = .malformedNamespace ns := by
  unfold find at hfind
  split at hfind
  · cases hfind
  · cases hparse : Namespace.parse ns with
    | ok info =>
      rw [hparse] at hfind
      cases hfind
    | error cause =>
      rw [hparse] at hfind
      obtain rfl := Except.error.inj hfind
      exact Namespace.eq_malformed_of_parse hparse

/-- **A text is the name of a type**: a namespace, a dot and a short name, where the
namespace names a file with a declaration of that name. -/
def DeclaresType (r : Registry) (T : String) : Prop :=
  ∃ ns name f, T = typeName ns name ∧ ns ≠ "" ∧ '.' ∉ name.toList ∧ r.Names ns f
    ∧ ∃ d ∈ f.declarations, d.name = .str name

/-- **What is found under a text** is something exactly if it is the name of a type. -/
theorem exists_lookup?_iff {T : String} : (∃ h, r.lookup? T = some h) ↔ r.DeclaresType T := by
  constructor
  · rintro ⟨h, hfound⟩
    obtain ⟨ns, name, hsplit, hfile, hd⟩ := lookup?_eq_some.mp hfound
    obtain ⟨rfl, hne, hdot⟩ := splitTypeName_eq_ok hsplit
    exact ⟨ns, name, h.file, rfl, hne, hdot, find_eq_some_iff.mp hfile,
      ModelFile.exists_declaration?_iff.mp ⟨h.declaration, hd⟩⟩
  · rintro ⟨ns, name, f, rfl, hne, hdot, hnames, hd⟩
    obtain ⟨d, hd⟩ := ModelFile.exists_declaration?_iff.mpr hd
    exact ⟨⟨f, d⟩, lookup?_eq_some.mpr
      ⟨ns, name, splitTypeName_typeName hne hdot, find_eq_some_iff.mpr hnames, hd⟩⟩

/-- Under the full name of a declaration of a file **the first declaration of its name** is
found. -/
theorem lookup?_typeName_iff {f : ModelFile} {name : String} {h : Handle} (hf : f ∈ r.files)
    (hns : f.namespaceText ≠ "") (hdot : '.' ∉ name.toList) :
    r.lookup? (typeName f.namespaceText name) = some h
      ↔ h.file = f ∧ f.declaration? (.str name) = some h.declaration := by
  constructor
  · intro hfound
    obtain ⟨ns, short, hsplit, hfile, hd⟩ := lookup?_eq_some.mp hfound
    obtain ⟨rfl, rfl⟩ := Prod.mk.inj (Except.ok.inj
      (hsplit.symm.trans (splitTypeName_typeName hns hdot)))
    obtain rfl := Option.some.inj (Except.ok.inj (hfile.symm.trans (find_of_mem hf)))
    exact ⟨rfl, hd⟩
  · rintro ⟨rfl, hd⟩
    exact lookup?_of_mem hf hns hdot hd

/-! ## Properties -/

/-- **A declaration exposes a property** if it or one that it extends declares it. -/
def Exposes (r : Registry) (h : Handle) (name : String) : Prop :=
  ∃ a, r.Extends h a ∧ ∃ p ∈ a.declaration.ownProperties, p.name = .str name

/-- **The lineage of a declaration breaks off** at a super type that cannot be looked up. -/
def BreaksOff (r : Registry) (h : Handle) (cause : Failure) : Prop :=
  ∃ a, r.Extends h a ∧ r.superType a = .error cause

/-- A climb ends in a failure if it meets a declaration whose super type fails. -/
theorem ending_climb_eq_failed (unseen : List String) (h : Handle) (cause : Failure) :
    (r.climb unseen h).ending = .failed cause
      ↔ ∃ a ∈ (r.climb unseen h).handles, r.superType a = .error cause := by
  -- only the last declaration of a climb can fail, and it goes on only from one that does not
  induction unseen, h using climb.induct (r := r) with
  | case1 unseen h other hfail =>
    rw [climb, hfail]
    simp only [List.mem_singleton, exists_eq_left, hfail, Ending.failed.injEq,
      Except.error.injEq]
  | case2 unseen h htop =>
    rw [climb, htop]
    simp [htop]
  | case3 unseen h up hnext hunseen ih =>
    rw [climb_of_superType hnext, if_pos hunseen]
    refine ih.trans ⟨?_, ?_⟩
    · rintro ⟨a, ha, hfail⟩
      exact ⟨a, List.mem_cons_of_mem h ha, hfail⟩
    · rintro ⟨a, ha, hfail⟩
      rcases List.mem_cons.mp ha with rfl | ha
      · cases hnext.symm.trans hfail
      · exact ⟨a, ha, hfail⟩
  | case4 unseen h up hnext hseen =>
    rw [climb_of_superType hnext, if_neg hseen]
    simp [hnext]

/-- **A lineage ends in a failure** exactly if it breaks off. -/
theorem Lists.ending_lineage_iff {h : Handle} (hh : r.Lists h) (cause : Failure) :
    (r.lineage h).ending = .failed cause ↔ r.BreaksOff h cause := by
  refine (ending_climb_eq_failed _ h cause).trans (exists_congr fun a => ?_)
  rw [← hh.mem_lineage_iff]
  rfl

/-- A search along a lineage fails if it finds nothing and the lineage fails. -/
theorem settle_eq_error {α : Type} {l : Lineage} {found : Option α} {cause : Failure} :
    l.settle found = .error cause ↔ found = none ∧ l.ending = .failed cause := by
  obtain ⟨handles, ending⟩ := l
  cases found with
  | some b => simp [Lineage.settle]
  | none => cases ending <;> simp [Lineage.settle]

/-- A search along a lineage comes to nothing if it finds nothing and the lineage does not
fail. -/
theorem settle_eq_ok_none {α : Type} {l : Lineage} {found : Option α} :
    l.settle found = .ok none ↔ found = none ∧ ∀ cause, l.ending ≠ .failed cause := by
  obtain ⟨handles, ending⟩ := l
  cases found with
  | some b => simp [Lineage.settle]
  | none => cases ending <;> simp [Lineage.settle]

/-- No declaration of a lineage has a property of a name exactly if none is exposed. -/
theorem Lists.findSome?_property?_eq_none {h : Handle} (hh : r.Lists h) (name : String) :
    (r.lineage h).handles.findSome? (fun a => a.declaration.property? (.str name)) = none
      ↔ ¬ r.Exposes h name := by
  unfold Exposes Declaration.property?
  simp only [List.findSome?_eq_none_iff, List.find?_eq_none, Value.sameAs_str_iff,
    hh.mem_lineage_iff, not_exists, not_and]

/-- **A property is found along a lineage** exactly if it is exposed. -/
theorem Lists.property?_eq_some_iff {h : Handle} (hh : r.Lists h) (name : String) :
    (∃ p, r.property? h (.str name) = .ok (some p)) ↔ r.Exposes h name := by
  unfold property?
  simp only [settle_eq_ok_some]
  rw [← Option.ne_none_iff_exists', ne_eq, hh.findSome?_property?_eq_none, not_not]

/-- A search for a property fails with what the lineage ends in, **if the property is not
exposed**. -/
theorem Lists.property?_eq_error_iff {h : Handle} (hh : r.Lists h) (name : String)
    (cause : Failure) : r.property? h (.str name) = .error cause
      ↔ ¬ r.Exposes h name ∧ r.BreaksOff h cause := by
  unfold property?
  rw [settle_eq_error, hh.findSome?_property?_eq_none, hh.ending_lineage_iff]

/-- A search for a property comes to nothing if the property is **neither exposed nor
beyond a gap**. -/
theorem Lists.property?_eq_none_iff {h : Handle} (hh : r.Lists h) (name : String) :
    r.property? h (.str name) = .ok none
      ↔ ¬ r.Exposes h name ∧ ∀ cause, ¬ r.BreaksOff h cause := by
  unfold property?
  simp only [settle_eq_ok_none, hh.findSome?_property?_eq_none, ne_eq, hh.ending_lineage_iff]

end Registry

/-! ## References that fail -/

/-- **The ways in which a reference fails**: there is no such type, or the imports that it
is looked up in are no imports. -/
def Failure.IsOfReference : Failure → Prop
  | .typeNotFound _ _ => True
  | .misuse _ => True
  | _ => False

/-- A computation fails as references do, if it fails. -/
def FailsAsReference {α : Type} (x : Checked α) : Prop := ∀ e, x = .error e → e.IsOfReference

namespace FailsAsReference

variable {α β : Type}

theorem ok (a : α) : FailsAsReference (.ok a) := by
  intro e h
  cases h

theorem misuse (cause : Misuse) : FailsAsReference (misuse cause : Checked α) :=
  fun _ h => Except.error.inj h ▸ trivial

theorem typeNotFound (name context : Value) :
    FailsAsReference (.error (.typeNotFound name context) : Checked α) :=
  fun _ h => Except.error.inj h ▸ trivial

/-- **Two computations one after the other** fail as references do if each does. -/
theorem bind {x : Checked α} {f : α → Checked β} (hx : FailsAsReference x)
    (hf : ∀ a, FailsAsReference (f a)) : FailsAsReference (x >>= f) := by
  cases x with
  | error e => exact fun e' h => Except.error.inj h ▸ hx e rfl
  | ok a => exact hf a

theorem map {x : Checked α} (hx : FailsAsReference x) (f : α → β) :
    FailsAsReference (f <$> x) := by
  cases x with
  | error e => exact fun e' h => Except.error.inj h ▸ hx e rfl
  | ok a => exact ok (f a)

end FailsAsReference

namespace Value

theorem failsAsReference_member (v : Value) (key : String) : FailsAsReference (v.member key) := by
  cases v with
  | object => exact .ok _
  | _ => exact .misuse _

theorem failsAsReference_member? (v : Value) (key : String) :
    FailsAsReference (v.member? key) := by
  cases v with
  | object => exact .ok _
  | _ => exact .misuse _

theorem failsAsReference_items (v : Value) : FailsAsReference v.items := by
  unfold items
  split <;> first | exact .ok _ | exact .misuse _

theorem failsAsReference_holdsValue (v needle : Value) : FailsAsReference (v.holdsValue needle) := by
  have hkey : FailsAsReference needle.asKey := by
    unfold asKey
    split
    · exact .ok _
    · exact .misuse _
  unfold holdsValue holds
  split
  · split <;> first | exact .ok _ | exact .misuse _
  · exact .ok _
  · exact .ok _
  · exact (hkey.map _).map _
  · exact hkey.map _
  · exact .misuse _

end Value

namespace ModelFile

theorem failsAsReference_importsName (name statement : Value) :
    FailsAsReference (importsName name statement) := by
  refine (statement.failsAsReference_member "name").bind fun found => ?_
  split
  · exact .ok true
  · refine (statement.failsAsReference_member? "types").bind fun names => ?_
    cases names with
    | none => exact .ok false
    | some names => exact names.failsAsReference_holdsValue name

theorem failsAsReference_importsAll (statement : Value) :
    FailsAsReference (importsAll statement) := by
  refine (statement.failsAsReference_member? classKey).bind fun found => ?_
  cases found with
  | none => exact .ok false
  | some v => exact .ok _

theorem failsAsReference_firstImport (name : Value) (statements : List Value) :
    FailsAsReference (firstImport name statements) := by
  induction statements with
  | nil => exact .ok _
  | cons statement rest ih =>
    refine (statement.failsAsReference_member "namespace").bind fun namespaceName => ?_
    refine (failsAsReference_importsName name statement).bind fun named => ?_
    refine (failsAsReference_importsAll statement).bind fun all => ?_
    split
    · exact .ok namespaceName
    · exact ih

/-- The namespace of a type that is named without one is there, or the imports are no
imports. -/
theorem failsAsReference_namespaceFor (f : ModelFile) (name : Value) :
    FailsAsReference (f.namespaceFor name) := by
  unfold namespaceFor importedNamespace
  split
  · exact .ok _
  · split
    · exact .ok _
    · rename_i statements _
      exact statements.failsAsReference_items.bind (failsAsReference_firstImport name)

end ModelFile

namespace Registry

variable {r : Registry}

theorem failsAsReference_getType (s : String) : FailsAsReference (r.getType s) := by
  unfold getType
  split
  · exact .ok _
  · exact .typeNotFound _ _

/-- **A reference fails as references do.** -/
theorem failsAsReference_resolve (f : ModelFile) (ident : TypeIdentifier) :
    FailsAsReference (r.resolve f ident) := by
  obtain ⟨name, ns⟩ := ident
  have htype : ∀ found, FailsAsReference (r.typeIn f name found) := by
    intro found
    unfold typeIn
    split
    · exact .typeNotFound _ _
    · exact failsAsReference_getType _
  cases hns : ns.isBlank with
  | true =>
    rw [resolve_of_blank name hns]
    exact (f.failsAsReference_namespaceFor name).bind htype
  | false =>
    rw [resolve_of_not_blank name hns]
    exact htype ns

/-- **A lineage that breaks off** does so at a reference. -/
theorem BreaksOff.isOfReference {h : Handle} {cause : Failure} (hgap : r.BreaksOff h cause) :
    cause.IsOfReference := by
  obtain ⟨a, -, hfail⟩ := hgap
  have hsuper : FailsAsReference (r.superType a) := by
    unfold superType
    split
    · exact .ok none
    · exact (failsAsReference_resolve _ _).map some
  exact hsuper cause hfail

end Registry

end DecoratorSets
