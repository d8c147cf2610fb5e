import Mathlib.Data.Option.Basic
import DecoratorSets.Proofs.Registry.Search

/-!
# What imports bring in

A name that is used without a namespace, and that its file does not declare, is looked up
in the namespace of the **first** import that brings it in. Whether that namespace is
loaded, and whether it declares the name, is not looked at before; and the imports after it
are not looked at in any case.

So a name is found if the first import that brings it in has a namespace with such a
declaration. It is not found where that one has none, even if a later import has – and an import
of everything brings in every name (`Registry.resolve_from_imports_iff`).
-/

namespace DecoratorSets

/-- **An import** of one name, of some names or of everything from a namespace. -/
structure Import where
  namespaceText : String
  name : Option String
  types : Option (List String)
  /-- The class of the statement. -/
  className : Option Value

namespace Import

variable {i : Import} {n : String} {statement : Value}

/-- An import names a name, alone or among others. -/
def names (i : Import) (n : String) : Bool := i.name = some n || i.types.any fun ns => n ∈ ns

/-- An import is one of everything. -/
def isAll (i : Import) : Bool :=
  i.className.any fun v => "ImportAll".toList.isSuffixOf v.text.toList

/-- **An import brings in** the names that it names, or every name. -/
def bringsIn (i : Import) (n : String) : Bool := i.names n || i.isAll

/-- The first of some imports that brings in a name. -/
def first? (is : List Import) (n : String) : Option Import := is.find? fun i => i.bringsIn n

/-- **The statement that an import is written as**: an object with the namespace, and with
the name, the names and the class if there are any. -/
inductive WrittenAs (i : Import) : Value → Prop
  | intro {label : Option Label} {ms : Members}
    (hnamespace : Members.get? ms "namespace" = some (.str i.namespaceText))
    (hname : Members.get? ms "name" = i.name.map .str)
    (htypes : Option.Rel (fun v names => ∃ label, v = .list label (names.map .str))
      (Members.get? ms "types") i.types)
    (hclass : Members.get? ms classKey = i.className) : WrittenAs i (.object label ms)

/-- The names that a statement names. -/
theorem WrittenAs.importsName_eq (h : i.WrittenAs statement) (n : String) :
    ModelFile.importsName (.str n) statement = .ok (i.names n) := by
  obtain ⟨-, hname, htypes, -⟩ := h
  rename_i label ms
  have hmember : (Value.object label ms).member "name" = .ok ((i.name.map .str).getD .null) := by
    rw [Value.member, hname]
  have hsame : ((i.name.map Value.str).getD .null).sameAs (.str n) = decide (i.name = some n) := by
    rw [Bool.eq_iff_iff, Value.sameAs_str_iff, decide_eq_true_iff]
    cases i.name <;> simp
  have hnames : ∀ ns : List String,
      ((ns.map Value.str).any (Value.sameAs (.str n))) = decide (n ∈ ns) := by
    intro ns
    rw [Bool.eq_iff_iff, List.any_map, List.any_eq_true, decide_eq_true_iff]
    simp
  unfold ModelFile.importsName names
  rw [hmember, Checked.ok_bind, hsame]
  cases hfirst : decide (i.name = some n)
  · rw [if_neg Bool.false_ne_true, Bool.false_or]
    have hmember? : (Value.object label ms).member? "types" = .ok (Members.get? ms "types") := rfl
    rw [hmember?, Checked.ok_bind]
    generalize Members.get? ms "types" = found, i.types = types at htypes
    cases htypes with
    | none => rfl
    | @some v ns hv =>
      obtain ⟨_, rfl⟩ := hv
      exact congrArg Except.ok (hnames ns)
  · rfl

/-- A statement that brings in everything. -/
theorem WrittenAs.importsAll_eq (h : i.WrittenAs statement) :
    ModelFile.importsAll statement = .ok i.isAll := by
  obtain ⟨-, -, -, hclass⟩ := h
  rename_i label ms
  unfold ModelFile.importsAll isAll
  rw [show (Value.object label ms).member? classKey = .ok i.className from congrArg _ hclass,
    Checked.ok_bind]
  cases i.className <;> rfl

/-- The namespace of a statement. -/
theorem WrittenAs.namespace_eq (h : i.WrittenAs statement) :
    statement.member "namespace" = .ok (.str i.namespaceText) := by
  obtain ⟨hnamespace, -, -, -⟩ := h
  rw [Value.member, hnamespace]
  rfl

end Import

namespace ModelFile

variable {f : ModelFile} {is : List Import} {statements : List Value} {n : String}

/-- **The imports of a file**: what its list of imports is written from, if it has one. -/
inductive Imports (f : ModelFile) : List Import → Prop
  | none (h : Members.get? f.extras "imports" = .none) : Imports f []
  | some {label : Option Label} {statements : List Value} {is : List Import}
    (h : Members.get? f.extras "imports" = .some (.list label statements))
    (his : List.Forall₂ Import.WrittenAs is statements) : Imports f is

/-- **The first import that brings in a name** gives its namespace. -/
theorem firstImport_eq (h : List.Forall₂ Import.WrittenAs is statements) :
    firstImport (.str n) statements
      = .ok (((Import.first? is n).map fun i => Value.str i.namespaceText).getD .null) := by
  induction h with
  | nil => rfl
  | @cons i statement is statements hi _ ih =>
    unfold firstImport Import.first?
    rw [hi.namespace_eq, Checked.ok_bind, hi.importsName_eq, Checked.ok_bind, hi.importsAll_eq,
      Checked.ok_bind, List.find?_cons, ih]
    show (if i.bringsIn n = true then _ else _) = _
    cases i.bringsIn n <;> rfl

/-- A name that a file does not declare has the namespace that its imports give. -/
theorem Imports.namespaceFor_eq (h : f.Imports is) (hn : ∀ d ∈ f.declarations, d.name ≠ .str n) :
    f.namespaceFor (.str n)
      = .ok (((Import.first? is n).map fun i => Value.str i.namespaceText).getD .null) := by
  have hlocal : f.declaration? (.str n) = .none := by
    refine Option.eq_none_iff_forall_ne_some.mpr fun d hd => ?_
    exact hn d (mem_of_declaration? hd) (name_of_declaration? hd)
  unfold namespaceFor importedNamespace
  rw [hlocal]
  cases h with
  | none h =>
    rw [h]
    rfl
  | some h his =>
    rw [h]
    exact firstImport_eq his

end ModelFile

namespace Registry

variable {r : Registry}

/-- **A namespace provides a name**: it names a file that declares it. -/
def Provides (r : Registry) (ns n : String) : Prop :=
  ∃ f, r.Names ns f ∧ ∃ d ∈ f.declarations, d.name = .str n

/-- What is got under the full name of a type. -/
theorem getType_typeName_eq_ok {ns n : String} {h : Handle} (hdot : '.' ∉ n.toList) :
    r.getType (typeName ns n) = .ok h
      ↔ ns ≠ "" ∧ r.Names ns h.file ∧ h.file.declaration? (.str n) = some h.declaration := by
  rw [getType_eq_ok, lookup?_eq_some]
  constructor
  · rintro ⟨ns', n', hsplit, hfile, hd⟩
    obtain ⟨htype, hne, hdot'⟩ := splitTypeName_eq_ok hsplit
    obtain ⟨rfl, rfl⟩ := typeName_inj hdot hdot' htype
    exact ⟨hne, find_eq_some_iff.mp hfile, hd⟩
  · rintro ⟨hne, hfile, hd⟩
    exact ⟨ns, n, splitTypeName_typeName hne hdot, find_eq_some_iff.mpr hfile, hd⟩

/-- **What a name without a namespace refers to**, if its file does not declare it: the first
declaration of the name in the file that the namespace of its first import names. -/
theorem resolve_eq_ok_of_imports {f : ModelFile} {is : List Import} {n : String} {ns : Value}
    {h : Handle} (his : f.Imports is) (hn : ∀ d ∈ f.declarations, d.name ≠ .str n)
    (hdot : '.' ∉ n.toList) (hns : ns.isBlank = true) :
    r.resolve f ⟨.str n, ns⟩ = .ok h
      ↔ ∃ i, Import.first? is n = some i ∧ i.namespaceText ≠ ""
        ∧ r.Names i.namespaceText h.file
        ∧ h.file.declaration? (.str n) = some h.declaration := by
  rw [resolve_of_blank (.str n) hns, his.namespaceFor_eq hn, Checked.ok_bind]
  constructor
  · intro hresolve
    cases hfirst : Import.first? is n with
    | none =>
      rw [hfirst] at hresolve
      cases hresolve
    | some i =>
      rw [hfirst] at hresolve
      exact ⟨i, rfl, (getType_typeName_eq_ok hdot).mp hresolve⟩
  · rintro ⟨i, hfirst, hfound⟩
    rw [hfirst]
    exact (getType_typeName_eq_ok hdot).mpr hfound

/-- **Imported names are found in the namespace of the first import** that brings them in. A
reference without a namespace, to a name that its file does not declare, leads to a
declaration of that name in the namespace of some import that brings it in exactly if the
first such import has a namespace that provides it. -/
theorem resolve_from_imports_iff {f : ModelFile} {is : List Import} {n : String} {ns : Value}
    (his : f.Imports is) (hn : ∀ d ∈ f.declarations, d.name ≠ .str n) (hdot : '.' ∉ n.toList)
    (hns : ns.isBlank = true) :
    (∃ h, r.resolve f ⟨.str n, ns⟩ = .ok h ∧ h.declaration.name = .str n
        ∧ ∃ i ∈ is, i.bringsIn n = true ∧ r.Names i.namespaceText h.file)
      ↔ ∃ i, Import.first? is n = some i ∧ i.namespaceText ≠ "" ∧ r.Provides i.namespaceText n := by
  constructor
  · rintro ⟨h, hresolve, hname, -⟩
    obtain ⟨i, hfirst, hne, hfile, hd⟩ := (resolve_eq_ok_of_imports his hn hdot hns).mp hresolve
    exact ⟨i, hfirst, hne, h.file, hfile, h.declaration, ModelFile.mem_of_declaration? hd, hname⟩
  · rintro ⟨i, hfirst, hne, g, hfile, hd⟩
    obtain ⟨d, hd⟩ := ModelFile.exists_declaration?_iff.mpr hd
    refine ⟨⟨g, d⟩, ?_, ModelFile.name_of_declaration? hd, i, List.mem_of_find?_eq_some hfirst,
      List.find?_some (p := fun i : Import => i.bringsIn n) hfirst, hfile⟩
    exact (resolve_eq_ok_of_imports his hn hdot hns).mpr ⟨i, hfirst, hne, hfile, hd⟩

end Registry

/-! ### A palette -/

namespace Palette

/-- An import of everything from the namespace of shapes. -/
def shapes : Import :=
  ⟨"org.shapes@1.0.0", none, none, some (.str "concerto.metamodel@1.0.0.ImportAll")⟩

/-- An import of colours. -/
def colours : Import :=
  ⟨"org.colours@1.0.0", some "Colour", none, some (.str "concerto.metamodel@1.0.0.ImportType")⟩

/-- The statement of the import of shapes. -/
def shapesStatement : Value :=
  .object none [("$class", "concerto.metamodel@1.0.0.ImportAll"),
    ("namespace", "org.shapes@1.0.0")]

/-- The statement of the import of colours. -/
def coloursStatement : Value :=
  .object none [("$class", "concerto.metamodel@1.0.0.ImportType"),
    ("namespace", "org.colours@1.0.0"), ("name", "Colour")]

theorem writtenAs_shapes : shapes.WrittenAs shapesStatement :=
  .intro rfl rfl .none rfl

theorem writtenAs_colours : colours.WrittenAs coloursStatement :=
  .intro rfl rfl .none rfl

/-- A file that declares one concept. -/
def conceptFile (namespaceText : String) (info : Namespace) (name : String)
    (parse_eq : Namespace.parse namespaceText = .ok info) : ModelFile where
  namespaceText
  info
  declarations := [⟨.str name, .concept, some [], false, none, none, []⟩]
  decorators := none
  extras := []
  parse_eq

/-- A file of palettes, with some imports. -/
def paletteFile (statements : List Value) : ModelFile :=
  { conceptFile "org.acme@1.0.0" ⟨"org.acme", some "1.0.0"⟩ "Palette" Namespace.parse_acme with
    extras := [("imports", .list none statements)] }

/-- Shapes, colours and palettes. -/
def registry (statements : List Value) : Registry where
  strict := false
  files := [conceptFile "org.shapes@1.0.0" ⟨"org.shapes", some "1.0.0"⟩ "Shape" (by decide +kernel),
    conceptFile "org.colours@1.0.0" ⟨"org.colours", some "1.0.0"⟩ "Colour" (by decide +kernel),
    paletteFile statements]
  distinct := by
    show ["org.shapes@1.0.0", "org.colours@1.0.0", "org.acme@1.0.0"].Nodup
    decide

theorem name_ne_colour (statements : List Value) :
    ∀ d ∈ (paletteFile statements).declarations, d.name ≠ .str "Colour" := by
  intro d hd
  rw [List.mem_singleton.mp hd]
  decide

/-- The namespace of colours provides them. -/
theorem provides_colour (statements : List Value) :
    (registry statements).Provides "org.colours@1.0.0" "Colour" :=
  ⟨_, .exact (List.mem_cons_of_mem _ List.mem_cons_self) rfl, _, List.mem_cons_self, rfl⟩

/-- Colours are found where their import comes first. -/
theorem resolve_from_imports_iff_colour :
    (paletteFile [coloursStatement, shapesStatement]).Imports [colours, shapes]
      ∧ ∃ h, (registry [coloursStatement, shapesStatement]).resolve
          (paletteFile [coloursStatement, shapesStatement]) ⟨.str "Colour", .null⟩ = .ok h
        ∧ h.declaration.name = .str "Colour" := by
  have his : (paletteFile [coloursStatement, shapesStatement]).Imports [colours, shapes] :=
    .some rfl (.cons writtenAs_colours (.cons writtenAs_shapes .nil))
  obtain ⟨h, hresolve, hname, -⟩ :=
    (Registry.resolve_from_imports_iff his (name_ne_colour _)
      (by decide) (show Value.null.isBlank = true from rfl)).mpr
        ⟨colours, rfl, by decide, provides_colour _⟩
  exact ⟨his, h, hresolve, hname⟩

/-- **Colours are not found behind an import of everything** from a namespace without them. -/
theorem colour_behind_shapes :
    paletteFile [shapesStatement, coloursStatement]
        ∈ (registry [shapesStatement, coloursStatement]).files
      ∧ (paletteFile [shapesStatement, coloursStatement]).Imports [shapes, colours]
      ∧ (∀ d ∈ (paletteFile [shapesStatement, coloursStatement]).declarations,
        d.name ≠ .str "Colour")
      ∧ (∃ i ∈ [shapes, colours], i.bringsIn "Colour" = true
        ∧ (registry [shapesStatement, coloursStatement]).Provides i.namespaceText "Colour")
      ∧ (registry [shapesStatement, coloursStatement]).resolve
          (paletteFile [shapesStatement, coloursStatement]) ⟨.str "Colour", .null⟩
        = .error (.typeNotFound (.str "org.shapes@1.0.0.Colour") "") := by
  refine ⟨?_, ?_, name_ne_colour _, ?_, ?_⟩
  · exact List.mem_cons_of_mem _ (List.mem_cons_of_mem _ List.mem_cons_self)
  · exact .some rfl (.cons writtenAs_shapes (.cons writtenAs_colours .nil))
  · exact ⟨colours, List.mem_cons_of_mem _ List.mem_cons_self, by decide, provides_colour _⟩
  · decide +kernel

end Palette

end DecoratorSets
