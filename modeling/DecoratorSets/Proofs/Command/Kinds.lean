import DecoratorSets.Proofs.Command.Targets
import DecoratorSets.Proofs.Command.SchemaRegistry

/-!
# The kind of a target, checked and applied

A target can ask for properties of a kind. The check of the target takes the kind for the
name of a type and looks it up among all types that are loaded, where a namespace may be
given without its version. The application of the command takes it for a piece of text and
compares it with the class names of the kinds, which have the version.

So the check lets through what is no kind: the schema declares a type for each kind, but
other types too, and the models that are checked with it declare their own. Of the types
that pass, those of the kinds are the ones that the metamodel declares below its type of
all properties, and one of them is applied exactly if it is named in full
(`CommandSetSource.kinds_of_check`). Any other leaves all declarations as they are.
-/

namespace DecoratorSets

namespace Schema

/-! ## The types of the kinds -/

/-- The type of all properties. -/
def anyPropertyType : Handle := ⟨metamodelFile, propertyDeclarations[0]⟩

/-- The type of the properties of a kind. -/
def kindType (kind : PropertyKind) : Handle :=
  ⟨metamodelFile, concept kind.typeName (some "Property") false []⟩

theorem isType_anyPropertyType : IsType anyPropertyType := by decide +kernel

theorem isType_kindType (kind : PropertyKind) : IsType (kindType kind) := by
  refine ⟨List.mem_cons_self, ?_⟩
  cases kind <;> decide +kernel

/-- The type of a kind is named by the class name of the kind. -/
theorem fullName_kindType (kind : PropertyKind) : (kindType kind).fullName = kind.className := rfl

/-- The types of the kinds are all that the metamodel declares below properties. -/
theorem kindType_of_superType : ∀ d ∈ metamodelFile.declarations,
    d.superType = some (localType "Property") →
    ∃ kind ∈ PropertyKind.all, Handle.mk metamodelFile d = kindType kind := by
  decide +kernel

end Schema

open Schema

/-! ## Which types are kinds -/

namespace Registry

variable {r : Registry}

/-- The type of a kind extends the type of all properties. -/
theorem HasSchema.superType_kindType (hr : r.HasSchema) (kind : PropertyKind) :
    r.superType (kindType kind) = .ok (some anyPropertyType) := by
  show some <$> r.resolve metamodelFile (localType "Property") = _
  rw [show r.resolve metamodelFile (localType "Property") = .ok anyPropertyType from
    hr.resolve_type isType_anyPropertyType]
  rfl

/-- **A type of the metamodel below that of all properties** is the type of a kind. -/
theorem HasSchema.exists_kindType (hr : r.HasSchema) {t up : Handle} (ht : r.Lists t)
    (hns : t.file.namespaceText = metamodelNamespace) (hup : r.superType t = .ok (some up))
    (hname : up.fullName = metamodelClass "Property") : ∃ kind, t = kindType kind := by
  obtain ⟨f, d⟩ := t
  obtain rfl : f = metamodelFile := eq_of_namespaceText ht.file hr.metamodel hns
  obtain rfl : up = anyPropertyType :=
    (lists_of_superType hup).eq_of_fullName (hr.lists isType_anyPropertyType) hname
  obtain ⟨name, -, hsuper, heq⟩ := hr.superType_eq List.mem_cons_self ht.mem_declarations hup
  obtain rfl : "Property" = name := Value.str.inj heq
  obtain ⟨kind, -, hkind⟩ := kindType_of_superType d ht.mem_declarations hsuper
  exact ⟨kind, hkind⟩

end Registry

/-! ## What a kind selects -/

/-- A text that is not empty selects the kind of which it is the class name. -/
theorem selects_className_iff {T : String} (hne : T ≠ "") (kind : PropertyKind) :
    selects (.str T) [.str kind.className] = .ok true ↔ T = kind.className := by
  rw [selects_str_singleton hne, Value.str.injEq]
  exact eq_comm

section Application

variable {c : Command} {T : String}

/-- A target with a kind is not for declarations. -/
theorem CommandTarget.isDeclarationLevel_of_type {t : CommandTarget} (htype : t.type = .str T)
    (hne : T ≠ "") : t.isDeclarationLevel = false := by
  unfold isDeclarationLevel
  rw [htype, Bool.eq_false_iff.mpr (mt (Value.isBlank_str T).mp hne), Bool.and_false]

/-- A command leaves properties that its target does not select. -/
theorem executeOnProperties_of_not_selected
    (h : ∀ p : Property, c.target.selectsProperty p ≠ .ok true) (ps : List Property) :
    (executeOnProperties c ps).1 = ps := by
  induction ps with
  | nil => rfl
  | cons p rest ih =>
    unfold executeOnProperties Property.execute
    cases hp : c.target.selectsProperty p with
    | error e => rfl
    | ok selected =>
      cases selected with
      | true => exact absurd hp (h p)
      | false => exact congrArg (p :: ·) ih

/-- A command for properties that selects none leaves a declaration. -/
theorem Declaration.execute_of_not_selected (hlevel : c.target.isDeclarationLevel = false)
    (h : ∀ p : Property, c.target.selectsProperty p ≠ .ok true) (ns : Value) (d : Declaration) :
    (d.execute ns c).1 = d := by
  unfold execute
  split
  · rfl
  · rfl
  · rw [if_neg (by rw [hlevel]; exact Bool.false_ne_true)]
    unfold executeBelow
    split
    · rfl
    · rename_i ps hps
      show { d with properties := some (executeOnProperties c ps).1 } = d
      rw [executeOnProperties_of_not_selected h, ← hps]

/-- **A kind that is a text passes the check** if it is the name of a type. -/
theorem Command.checkType_eq_ok {r : Registry} (htype : c.target.type = .str T) (hne : T ≠ "") :
    c.checkType r = .ok () ↔ ∃ t, r.lookup? T = some t := by
  unfold checkType Registry.requireType
  rw [htype, if_neg (mt (Value.isBlank_str T).mp hne),
    show (Value.str T).asText = .ok T from rfl, Checked.ok_bind]
  cases r.lookup? T with
  | none => exact iff_of_false (refuse_ne_ok _ _ _) (by simp)
  | some t => exact iff_of_true rfl ⟨t, rfl⟩

/-- A property that the target selects by its name and by its kind is decorated. -/
theorem Property.execute_of_selected {p : Property}
    (hname : selects c.target.propertySelector [p.name] = .ok true)
    (hkind : selects c.target.type [.str p.kind.className] = .ok true) :
    p.execute c = p.decorate c.type c.decorator := by
  have hselected := CommandTarget.selectsProperty_eq_true.mpr ⟨hname, hkind⟩
  unfold execute
  rw [hselected, Checked.ok_bind, if_pos rfl]

end Application

namespace CommandSetSource

/-- The registry that a payload is checked against has the schema. -/
theorem hasSchema_of_validate {source : CommandSetSource} {files : List ModelFile} {r : Registry}
    (h : source.validate files = .ok r) : r.HasSchema := by
  exact hasSchema_of_schemaRegistry (validate_eq_ok_iff.mp h).1

/-- **Which accepted kinds are applied.** The kind of a target that passes the check is the
name of a type. It selects properties of some kind exactly if this type is one of those
that the metamodel declares below properties and is named in full. The properties of that
kind that are selected by their declaration and their name are then decorated; otherwise
the command leaves every declaration. -/
theorem kinds_of_check {source : CommandSetSource} {files : List ModelFile} {r : Registry}
    (h : source.validate files = .ok r) {c : Command} {T : String}
    (htype : c.target.type = .str T) (hne : T ≠ "") (hcheck : c.check r = .ok ()) :
    ∃ t, r.lookup? T = some t
      ∧ ((∃ kind : PropertyKind, selects c.target.type [.str kind.className] = .ok true)
        ↔ t.fullName = T ∧ t.file.namespaceText = metamodelNamespace
          ∧ ∃ up, r.superType t = .ok (some up) ∧ up.fullName = metamodelClass "Property")
      ∧ (∀ kind : PropertyKind, selects c.target.type [.str kind.className] = .ok true →
        ∀ (ns : Value) (d : Declaration) (p : Property),
          c.target.selectsDeclaration ns d = .ok true → p.kind = kind →
          selects c.target.propertySelector [p.name] = .ok true →
          d.execute ns c = d.executeBelow c ∧ p.execute c = p.decorate c.type c.decorator)
      ∧ ((∀ kind : PropertyKind, selects c.target.type [.str kind.className] ≠ .ok true) →
        ∀ (ns : Value) (d : Declaration), (d.execute ns c).1 = d) := by
  have hr := hasSchema_of_validate h
  have hlevel := CommandTarget.isDeclarationLevel_of_type htype hne
  obtain ⟨t, ht⟩ := (Command.checkType_eq_ok htype hne).mp (Command.check_eq_ok.mp hcheck).2.1
  refine ⟨t, ht, ⟨?_, ?_⟩, ?_, fun hnone => ?_⟩
  · rintro ⟨kind, hkind⟩
    rw [htype, selects_className_iff hne] at hkind
    -- a class name of a kind is the full name of its type, and leads there
    have hfound := hr.lookup?_fullName (isType_kindType kind)
    rw [fullName_kindType, ← hkind] at hfound
    obtain rfl := Option.some.inj (ht.symm.trans hfound)
    exact ⟨(fullName_kindType kind).trans hkind.symm, rfl, anyPropertyType,
      hr.superType_kindType kind, rfl⟩
  · rintro ⟨hT, hns, up, hup, hname⟩
    obtain ⟨kind, rfl⟩ := hr.exists_kindType (Registry.lists_of_lookup? ht) hns hup hname
    exact ⟨kind, htype ▸ (selects_className_iff hne kind).mpr hT.symm⟩
  · rintro _ hkind ns d p hselected rfl hname
    refine ⟨?_, Property.execute_of_selected hname hkind⟩
    unfold Declaration.execute
    rw [hselected]
    exact if_neg (by rw [hlevel]; exact Bool.false_ne_true)
  · exact Declaration.execute_of_not_selected hlevel fun p hselected =>
      hnone p.kind (CommandTarget.selectsProperty_eq_true.mp hselected).2

/-! ### The kinds of letters -/

/-- A property that holds a text. -/
def subject : Property := requiredField "subject" .string

/-- A declaration with this property. -/
def letter : Declaration := concept "Letter" none false [subject]

/-- A file with the declaration. -/
def letterFile : ModelFile where
  namespaceText := "org.acme@1.0.0"
  info := ⟨"org.acme", some "1.0.0"⟩
  declarations := [letter]
  decorators := none
  extras := []
  parse_eq := Namespace.parse_acme

/-- The registry of the schema and that file. -/
def letterRegistry : Registry where
  strict := true
  files := [metamodelFile, letterFile, commandsFile]
  distinct := by decide +kernel

/-- A command set without commands, to be checked against the schema. -/
def letterSet : CommandSet := ⟨.str "letters", .str "1.0.0", [], none⟩

theorem validate_letterSet : (built letterSet).validate [letterFile] = .ok letterRegistry := by
  decide +kernel

/-- A command for all properties of a kind. -/
def mark (T : String) : Command where
  target := ⟨.null, .null, .null, none, .str T⟩
  decorator := ⟨.str "Mark", none, []⟩
  type := .upsert

theorem kinds_of_check_letter :
    (built letterSet).validate [letterFile] = .ok letterRegistry
      ∧ (mark "concerto.metamodel@1.0.0.StringProperty").check letterRegistry = .ok ()
      ∧ letter.execute (.str "org.acme@1.0.0") (mark "concerto.metamodel@1.0.0.StringProperty")
        = letter.executeBelow (mark "concerto.metamodel@1.0.0.StringProperty")
      ∧ subject.execute (mark "concerto.metamodel@1.0.0.StringProperty")
        = .ok { subject with decorators := some [⟨.str "Mark", none, []⟩] } := by
  have hcheck : (mark "concerto.metamodel@1.0.0.StringProperty").check letterRegistry = .ok () := by
    decide +kernel
  obtain ⟨t, -, -, hdecorated, -⟩ := kinds_of_check validate_letterSet rfl (by decide) hcheck
  exact ⟨validate_letterSet, hcheck,
    hdecorated .string rfl (.str "org.acme@1.0.0") letter subject (by decide +kernel) rfl rfl⟩

/-- **A kind can be accepted and never be applied**: a kind that is named without the
version, another type of the metamodel, and a type of the models that are checked. -/
theorem accepted_kinds_of_nothing :
    (built letterSet).validate [letterFile] = .ok letterRegistry
      ∧ ∀ T ∈ ["concerto.metamodel.StringProperty", "concerto.metamodel@1.0.0.Decorator",
          "org.acme@1.0.0.Letter"],
        (mark T).check letterRegistry = .ok ()
          ∧ ∀ kind : PropertyKind,
            selects (mark T).target.type [.str kind.className] ≠ .ok true := by
  refine ⟨validate_letterSet, fun T hT => ⟨?_, fun kind => ?_⟩⟩
  · revert T
    decide +kernel
  · have hne : ∀ T ∈ ["concerto.metamodel.StringProperty", "concerto.metamodel@1.0.0.Decorator",
        "org.acme@1.0.0.Letter"], T ≠ "" ∧ T ≠ kind.className := by
      cases kind <;> decide +kernel
    exact mt (selects_className_iff (hne T hT).1 kind).mp (hne T hT).2

end CommandSetSource

end DecoratorSets
