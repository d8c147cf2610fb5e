import Mathlib.Data.List.Nodup
import DecoratorSets.Proofs.Names
import DecoratorSets.Registry.Conformance

/-!
# Types and what they extend

A type is found by its full name, and what is found is the first declaration of its
short name in a file that is loaded (`Registry.Lists`). Short names have no dots and
namespaces are loaded once, so the full name determines the declaration
(`Registry.Lists.eq_of_fullName`): the comparison of full names along a lineage is one
of declarations.

A lineage consists of declarations that the first one extends, directly or through
others (`Registry.Extends`). A type therefore fits another only if it extends it
(`Registry.extends_of_isAssignable`), whatever the way in which its lineage ends.
-/

namespace DecoratorSets

/-- The first declaration of a name has that name. -/
theorem ModelFile.name_of_declaration? {f : ModelFile} {name : String} {d : Declaration}
    (h : f.declaration? (.str name) = some d) : d.name = .str name := by
  have hsame := List.find?_some (p := fun d : Declaration => d.name.sameAs (.str name)) h
  exact (Value.sameAs_str_iff d.name name).mp hsame

/-- The first declaration of a name is a declaration. -/
theorem ModelFile.mem_of_declaration? {f : ModelFile} {name : Value} {d : Declaration}
    (h : f.declaration? name = some d) : d ∈ f.declarations :=
  List.mem_of_find?_eq_some h

/-- A file has a first declaration of a name exactly if it has a declaration of the name. -/
theorem ModelFile.exists_declaration?_iff {f : ModelFile} {name : String} :
    (∃ d, f.declaration? (.str name) = some d) ↔ ∃ d ∈ f.declarations, d.name = .str name := by
  constructor
  · rintro ⟨d, hd⟩
    exact ⟨d, mem_of_declaration? hd, name_of_declaration? hd⟩
  · rintro ⟨d, hd, hname⟩
    exact Option.isSome_iff_exists.mp
      (List.find?_isSome.mpr ⟨d, hd, (Value.sameAs_str_iff d.name name).mpr hname⟩)

/-- A file that is loaded under a namespace without a version has it as its own name. -/
theorem ModelFile.unversioned_eq_of_parse {f : ModelFile} {ns : String}
    (hparse : Namespace.parse ns = .ok ⟨ns, none⟩) (htext : f.namespaceText = ns) :
    f.unversioned = ns := by
  have hinfo := f.parse_eq
  rw [htext, hparse] at hinfo
  unfold ModelFile.unversioned
  rw [← Except.ok.inj hinfo]

namespace Registry

variable {r : Registry}

/-! ## Finding types -/

/-- **A registry lists a declaration** that can be found there by name: it is the first
of its name in a file, and the name is a text without dots. -/
structure Lists (r : Registry) (h : Handle) : Prop where
  file : h.file ∈ r.files
  declaration : ∃ name : String,
    '.' ∉ name.toList ∧ h.file.declaration? (.str name) = some h.declaration

/-- An expected type is listed, if there is none. -/
theorem lists_of_mem_none : ∀ e ∈ (none : Option Handle), r.Lists e :=
  fun e he => absurd he (Option.not_mem_none e)

/-- An expected type is listed, if it is a listed one. -/
theorem Lists.of_mem_some {h : Handle} (hh : r.Lists h) : ∀ e ∈ some h, r.Lists e :=
  fun _ he => Option.some.inj he ▸ hh

/-- A file that a namespace names is a file of the registry. -/
theorem mem_of_find {ns : String} {f : ModelFile} (h : r.find ns = .ok (some f)) :
    f ∈ r.files := by
  unfold find at h
  split at h
  · rename_i g hg
    obtain rfl := Option.some.inj (Except.ok.inj h)
    exact List.mem_of_find?_eq_some hg
  · obtain ⟨parsed, _, h⟩ := Checked.bind_eq_ok.mp h
    have h := Checked.pure_eq_ok.mp h
    split at h
    · exact List.mem_of_find?_eq_some h
    · cases h

/-- **What is found under a type name**: the first declaration of the short name in the
file that the namespace names. -/
theorem lookup?_eq_some {s : String} {h : Handle} :
    r.lookup? s = some h ↔ ∃ ns name, splitTypeName s = .ok (ns, name)
      ∧ r.find ns = .ok (some h.file) ∧ h.file.declaration? (.str name) = some h.declaration := by
  unfold lookup?
  cases hsplit : splitTypeName s with
  | error e => simp
  | ok parts =>
    obtain ⟨ns, name⟩ := parts
    simp only [Except.ok.injEq, Prod.mk.injEq]
    constructor
    · intro hfound
      refine ⟨ns, name, ⟨rfl, rfl⟩, ?_⟩
      split at hfound
      · rename_i file hfile
        obtain ⟨d, hd, rfl⟩ := Option.map_eq_some_iff.mp hfound
        exact ⟨hfile, hd⟩
      · cases hfound
    · rintro ⟨_, _, ⟨rfl, rfl⟩, hfile, hd⟩
      rw [hfile]
      exact Option.map_eq_some_iff.mpr ⟨h.declaration, hd, rfl⟩

/-- What is found is listed. -/
theorem lists_of_lookup? {s : String} {h : Handle} (hfound : r.lookup? s = some h) :
    r.Lists h := by
  obtain ⟨ns, name, hsplit, hfile, hd⟩ := lookup?_eq_some.mp hfound
  exact ⟨mem_of_find hfile, name, (splitTypeName_eq_ok hsplit).2.2, hd⟩

/-- The declaration of a listed handle is one of its file. -/
theorem Lists.mem_declarations {h : Handle} (hh : r.Lists h) :
    h.declaration ∈ h.file.declarations := by
  obtain ⟨_, _, hd⟩ := hh.declaration
  exact ModelFile.mem_of_declaration? hd

/-- What is found under a type name has its short name. -/
theorem name_of_lookup? {s : String} {h : Handle} (hfound : r.lookup? s = some h) :
    h.declaration.name = .str (shortName s) := by
  obtain ⟨ns, name, hsplit, _, hd⟩ := lookup?_eq_some.mp hfound
  obtain ⟨rfl, _, hdot⟩ := splitTypeName_eq_ok hsplit
  rw [ModelFile.name_of_declaration? hd, shortName_typeName ns hdot]

/-- No two files have the same namespace. -/
theorem eq_of_namespaceText {f g : ModelFile} (hf : f ∈ r.files) (hg : g ∈ r.files)
    (h : f.namespaceText = g.namespaceText) : f = g :=
  List.inj_on_of_nodup_map r.distinct hf hg h

/-- **A listed declaration is determined by its full name.** -/
theorem Lists.eq_of_fullName {a b : Handle} (ha : r.Lists a) (hb : r.Lists b)
    (h : a.fullName = b.fullName) : a = b := by
  obtain ⟨name, hname, hd⟩ := ha.declaration
  obtain ⟨name', hname', hd'⟩ := hb.declaration
  unfold Handle.fullName at h
  rw [ModelFile.name_of_declaration? hd, ModelFile.name_of_declaration? hd'] at h
  -- neither short name has a dot, so equal full names are cut at the same place
  obtain ⟨hns, rfl⟩ := typeName_inj hname hname' h
  obtain ⟨f, d⟩ := a
  obtain ⟨g, d'⟩ := b
  obtain rfl : f = g := eq_of_namespaceText ha.file hb.file hns
  exact congrArg (Handle.mk f) (Option.some.inj (hd.symm.trans hd'))

/-- **A file is found under its own namespace.** -/
theorem file?_of_mem {f : ModelFile} (hf : f ∈ r.files) : r.file? f.namespaceText = some f := by
  unfold file?
  obtain ⟨g, hg⟩ : ∃ g, (r.files.find? fun g => g.namespaceText == f.namespaceText) = some g :=
    Option.isSome_iff_exists.mp (List.find?_isSome.mpr ⟨f, hf, beq_self_eq_true _⟩)
  have htext : g.namespaceText = f.namespaceText := by simpa using List.find?_some hg
  rw [hg, eq_of_namespaceText (List.mem_of_find?_eq_some hg) hf htext]

/-- A namespace under which a file is loaded names that file. -/
theorem find_of_mem {f : ModelFile} (hf : f ∈ r.files) :
    r.find f.namespaceText = .ok (some f) := by
  unfold find
  rw [file?_of_mem hf]

/-- **A namespace without a version** that no file is loaded under names the first file
that has it with one. -/
theorem find_of_unversioned {ns : String}
    (hparse : Namespace.parse ns = .ok ⟨ns, none⟩) (hnone : ∀ f ∈ r.files, f.namespaceText ≠ ns) :
    r.find ns = .ok (r.files.find? fun f => f.unversioned == ns) := by
  have hfile : r.file? ns = none :=
    List.find?_eq_none.mpr fun f hf heq => hnone f hf (beq_iff_eq.mp heq)
  unfold find
  rw [hfile]
  simp only [hparse, Checked.ok_bind]
  rfl

/-- **What a namespace names in a registry**: the file that is loaded under it, or where
there is none and it has no version, a file that has it with one. -/
theorem namespaceText_of_find {ns : String} {f : ModelFile}
    (h : r.find ns = .ok (some f)) : f ∈ r.files ∧ (f.namespaceText = ns
      ∨ Namespace.parse ns = .ok ⟨ns, none⟩ ∧ f.unversioned = ns) := by
  refine ⟨mem_of_find h, ?_⟩
  unfold find at h
  split at h
  · rename_i g hg
    obtain rfl := Option.some.inj (Except.ok.inj h)
    exact Or.inl (by simpa using List.find?_some hg)
  · obtain ⟨⟨name, version⟩, hparse, hfound⟩ := Checked.bind_eq_ok.mp h
    have hfound := Checked.pure_eq_ok.mp hfound
    cases version with
    | some version => cases hfound
    | none =>
      have hname : f.unversioned = name := by simpa using List.find?_some hfound
      obtain rfl := Namespace.eq_of_parse_unversioned hparse
      exact Or.inr ⟨hparse, hname⟩

/-- **A type of a loaded file is found** under its full name. -/
theorem lookup?_of_mem {f : ModelFile} {name : String} {d : Declaration} (hf : f ∈ r.files)
    (hns : f.namespaceText ≠ "") (hname : '.' ∉ name.toList)
    (hd : f.declaration? (.str name) = some d) :
    r.lookup? (typeName f.namespaceText name) = some ⟨f, d⟩ :=
  lookup?_eq_some.mpr ⟨_, _, splitTypeName_typeName hns hname, find_of_mem hf, hd⟩

/-- A type is got if it is found. -/
theorem getType_eq_ok {s : String} {h : Handle} :
    r.getType s = .ok h ↔ r.lookup? s = some h := by
  unfold getType
  cases r.lookup? s with
  | none => simp
  | some found => rw [Except.ok.injEq, Option.some.injEq]

/-- The type that a name refers to in a namespace, which a null fails to be. -/
def typeIn (r : Registry) (f : ModelFile) (name : Value) : Value → Checked Handle
  | .null => .error (.typeNotFound name f.namespaceText)
  | ns => r.getType (typeName ns.text name.text)

/-- A reference that omits its namespace has it looked up in the file. -/
theorem resolve_of_blank {f : ModelFile} (name : Value) {ns : Value} (hns : ns.isBlank = true) :
    r.resolve f ⟨name, ns⟩ = f.namespaceFor name >>= r.typeIn f name := by
  unfold resolve
  rw [if_pos hns]
  refine congrArg (f.namespaceFor name >>= ·) (funext fun found => ?_)
  cases found <;> rfl

/-- A reference with a namespace is looked up there. -/
theorem resolve_of_not_blank {f : ModelFile} (name : Value) {ns : Value}
    (hns : ns.isBlank = false) : r.resolve f ⟨name, ns⟩ = r.typeIn f name ns := by
  unfold resolve
  simp only [hns, Bool.false_eq_true, if_false, Checked.pure_ok, Checked.ok_bind]
  cases ns <;> rfl

/-- A namespace that is not blank has a text, under which the type is got. -/
theorem typeIn_of_not_blank {f : ModelFile} (name : Value) {ns : Value}
    (hns : ns.isBlank = false) :
    r.typeIn f name ns = r.getType (typeName ns.text name.text) := by
  cases ns with
  | null => cases hns
  | _ => rfl

/-- **A name without a namespace** refers to the type of the file itself, if there is
one. -/
theorem resolve_local {f : ModelFile} {name : String} {d : Declaration} (hf : f ∈ r.files)
    (hns : f.namespaceText ≠ "") (hname : '.' ∉ name.toList)
    (hd : f.declaration? (.str name) = some d) :
    r.resolve f ⟨.str name, .null⟩ = .ok ⟨f, d⟩ := by
  have hlocal : f.namespaceFor (.str name) = .ok (.str f.namespaceText) := by
    unfold ModelFile.namespaceFor
    rw [hd]
  rw [resolve_of_blank (.str name) rfl, hlocal, Checked.ok_bind]
  exact getType_eq_ok.mpr (lookup?_of_mem hf hns hname hd)

/-! ## Extending -/

/-- What a reference refers to is listed. -/
theorem lists_of_resolve {f : ModelFile} {ident : TypeIdentifier} {h : Handle}
    (hresolve : r.resolve f ident = .ok h) : r.Lists h := by
  obtain ⟨name, ns⟩ := ident
  have htype : ∃ found, r.typeIn f name found = .ok h := by
    cases hns : ns.isBlank with
    | true =>
      rw [resolve_of_blank name hns] at hresolve
      obtain ⟨found, _, hfound⟩ := Checked.bind_eq_ok.mp hresolve
      exact ⟨found, hfound⟩
    | false =>
      rw [resolve_of_not_blank name hns] at hresolve
      exact ⟨ns, hresolve⟩
  obtain ⟨found, hfound⟩ := htype
  unfold typeIn at hfound
  split at hfound
  · cases hfound
  · exact lists_of_lookup? (getType_eq_ok.mp hfound)

/-- What a property refers to is listed. -/
theorem lists_of_propertyType {owner : Handle} {p : Property} {target : Handle}
    (htarget : r.propertyType owner p = .ok target) : r.Lists target := by
  unfold propertyType at htarget
  split at htarget
  · cases htarget
  · exact lists_of_resolve htarget

/-- What a declaration extends is listed. -/
theorem lists_of_superType {h up : Handle} (hup : r.superType h = .ok (some up)) :
    r.Lists up := by
  unfold superType at hup
  split at hup
  · cases hup
  · obtain ⟨found, hfound, heq⟩ := Checked.map_eq_ok.mp hup
    obtain rfl := Option.some.inj heq
    exact lists_of_resolve hfound

/-- **A declaration extends another**, directly or through others, or is that one. -/
inductive Extends (r : Registry) : Handle → Handle → Prop where
  | refl (h : Handle) : Extends r h h
  | step {h up a : Handle} (hup : r.superType h = .ok (some up)) (ha : Extends r up a) :
    Extends r h a

/-- What a listed declaration extends is listed. -/
theorem Extends.lists {a b : Handle} (h : r.Extends a b) (ha : r.Lists a) : r.Lists b := by
  induction h with
  | refl h => exact ha
  | step hup _ ih => exact ih (lists_of_superType hup)

/-- A declaration that nothing extends is extended by itself alone. -/
theorem Extends.eq_of_leaf {a b : Handle} (h : r.Extends a b) (ha : r.Lists a)
    (hleaf : ∀ x, r.Lists x → r.superType x ≠ .ok (some b)) : a = b := by
  induction h with
  | refl h => rfl
  | step hup _ ih =>
    obtain rfl := ih (lists_of_superType hup) hleaf
    exact absurd hup (hleaf _ ha)

/-- What is met on the way up is extended. -/
theorem extends_of_mem_climb (unseen : List String) (h a : Handle)
    (ha : a ∈ (r.climb unseen h).handles) : r.Extends h a := by
  -- the climb ends at a failure, at the top or where it has been; only the third case goes on
  induction unseen, h using climb.induct (r := r) with
  | case1 unseen h cause hup =>
    rw [climb, hup] at ha
    obtain rfl := List.mem_singleton.mp ha
    exact .refl a
  | case2 unseen h hup =>
    rw [climb, hup] at ha
    obtain rfl := List.mem_singleton.mp ha
    exact .refl a
  | case3 unseen h up hup hunseen ih =>
    rw [climb, hup] at ha
    simp only [if_pos hunseen] at ha
    rcases List.mem_cons.mp ha with rfl | ha
    · exact .refl a
    · exact .step hup (ih ha)
  | case4 unseen h up hup hseen =>
    rw [climb, hup] at ha
    simp only [if_neg hseen] at ha
    obtain rfl := List.mem_singleton.mp ha
    exact .refl a

/-- A search along a lineage finds what it finds there. -/
theorem settle_eq_ok_some {α : Type} {l : Lineage} {found : Option α} {a : α} :
    l.settle found = .ok (some a) ↔ found = some a := by
  obtain ⟨handles, ending⟩ := l
  cases found with
  | some b => simp [Lineage.settle]
  | none => cases ending <;> simp [Lineage.settle]

/-- A type fits another if a declaration of its lineage has the full name of the
other. -/
theorem isAssignable_eq_true {h e : Handle} :
    r.isAssignable h e = .ok true ↔ ∃ a,
      ((r.lineage h).handles.find? fun a => a.fullName == e.fullName) = some a := by
  unfold isAssignable
  rw [Checked.bind_eq_ok]
  constructor
  · rintro ⟨found, hfound, hsome⟩
    obtain ⟨a, rfl⟩ := Option.isSome_iff_exists.mp (Checked.pure_eq_ok.mp hsome)
    exact ⟨a, settle_eq_ok_some.mp hfound⟩
  · rintro ⟨a, ha⟩
    exact ⟨some a, settle_eq_ok_some.mpr ha, rfl⟩

/-- **A type fits only what it extends.** -/
theorem extends_of_isAssignable {h e : Handle} (hh : r.Lists h) (he : r.Lists e)
    (hfits : r.isAssignable h e = .ok true) : r.Extends h e := by
  obtain ⟨a, ha⟩ := isAssignable_eq_true.mp hfits
  have hext : r.Extends h a := extends_of_mem_climb _ h a (List.mem_of_find?_eq_some ha)
  have hname : a.fullName = e.fullName := by simpa using List.find?_some ha
  obtain rfl := (hext.lists hh).eq_of_fullName he hname
  exact hext

/-- Every lineage starts with the declaration itself. -/
theorem handles_climb (unseen : List String) (h : Handle) :
    ∃ rest, (r.climb unseen h).handles = h :: rest := by
  rw [climb]
  split
  · exact ⟨[], rfl⟩
  · exact ⟨[], rfl⟩
  · split
    · exact ⟨_, rfl⟩
    · exact ⟨[], rfl⟩

/-- A type fits itself. -/
theorem isAssignable_self (h : Handle) : r.isAssignable h h = .ok true := by
  obtain ⟨rest, hrest⟩ := r.handles_climb (passing h.fullName r.typeNames) h
  refine isAssignable_eq_true.mpr ⟨h, ?_⟩
  unfold lineage
  rw [hrest, List.find?_cons_of_pos (by simp)]

/-- The full name of a listed declaration is among the names of the types. -/
theorem Lists.mem_typeNames {h : Handle} (hh : r.Lists h) : h.fullName ∈ r.typeNames := by
  unfold typeNames
  exact List.mem_flatMap.mpr ⟨h.file, hh.file,
    List.mem_map.mpr ⟨h.declaration, hh.mem_declarations, rfl⟩⟩

/-- **A type fits what it extends directly.** -/
theorem isAssignable_of_superType {h up : Handle} (hup : r.superType h = .ok (some up))
    (hne : up.fullName ≠ h.fullName) : r.isAssignable h up = .ok true := by
  have hunseen : up.fullName ∈ passing h.fullName r.typeNames :=
    List.mem_filter.mpr ⟨(lists_of_superType hup).mem_typeNames, by simpa using hne⟩
  obtain ⟨rest, hrest⟩ := r.handles_climb
    (passing up.fullName (passing h.fullName r.typeNames)) up
  have hlineage : (r.lineage h).handles = h :: up :: rest := by
    unfold lineage
    rw [climb, hup]
    simp only [if_pos hunseen]
    exact congrArg (List.cons h) hrest
  -- the search passes the declaration, whose full name is another one
  refine isAssignable_eq_true.mpr ⟨up, ?_⟩
  rw [hlineage, List.find?_cons_of_neg (by simpa using hne.symm),
    List.find?_cons_of_pos (by simp)]

/-! ## Inherited properties -/

/-- A declaration that extends nothing has its own properties. -/
theorem properties_of_root {h : Handle} (hroot : r.superType h = .ok none) :
    r.properties h = .ok h.declaration.ownProperties := by
  have hlineage : r.lineage h = ⟨[h], .complete⟩ := by
    unfold lineage
    rw [climb, hroot]
  unfold properties
  rw [hlineage]
  show Except.ok (h.declaration.ownProperties ++ []) = _
  rw [List.append_nil]

/-- **From a declaration without properties nothing is inherited.** -/
theorem properties_of_bare {h up : Handle} (hup : r.superType h = .ok (some up))
    (hroot : r.superType up = .ok none) (hbare : up.declaration.ownProperties = []) :
    r.properties h = .ok h.declaration.ownProperties := by
  unfold properties lineage
  rw [climb, hup]
  -- a declaration that bears its own full name closes the lineage before its super type
  by_cases hunseen : up.fullName ∈ passing h.fullName r.typeNames
  · simp only [if_pos hunseen]
    rw [climb, hroot]
    show Except.ok (up.declaration.ownProperties ++ (h.declaration.ownProperties ++ [])) = _
    rw [hbare, List.nil_append, List.append_nil]
  · simp only [if_neg hunseen]
    show Except.ok (h.declaration.ownProperties ++ []) = _
    rw [List.append_nil]

end Registry

end DecoratorSets
