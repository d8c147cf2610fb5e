import DecoratorSets.Proofs.Registry.Verdicts

/-!
# Instances

What a payload has to look like can be said from the declarations alone, without tables,
lineages or an order of visiting. A property holds primitive values, relationships or
values of a type that it refers to (`Registry.HoldsType`). Which primitive type a kind
stands for and which values are of it is said case by case (`PropertyKind.Holds`,
`DeclarationKind.Names`, `Primitive.Has`). An object is admitted as an instance if the type
that it names, or else the expected one, can have instances, and the object has values for
exactly what the type and its ancestors define (`Registry.AdmitsObject`). Types may be
recursive; the relation goes by the payload.

In a regular registry the check of a payload accepts exactly what is admitted, and it
always ends in a verdict: what is not admitted is rejected as nonconforming, with a cause
and a place (`Registry.Regular.checkInstance_iff`). Where a registry is not regular the
check may break off in the middle, at a super type that is not there or a name that is no
text.
-/

namespace DecoratorSets

/-! ## Primitive values -/

/-- **A value is of a primitive type.** Truth values are no numbers, an integer is one, and
a point in time is a text. -/
inductive Primitive.Has : Primitive → Value → Prop where
  | string (s : String) : Has .string (.str s)
  | boolean (b : Bool) : Has .boolean (.bool b)
  | integer (n : Int) : Has .integer (.int n)
  | whole (n : Int) : Has .number (.int n)
  | number (x : Binary64) : Has .number (.num x)
  | timestamp {s : String} (hs : isTimestamp s = true) : Has .timestamp (.str s)

/-- **Properties of a kind hold** values of a primitive type. -/
inductive PropertyKind.Holds : PropertyKind → Primitive → Prop where
  | string : Holds .string .string
  | boolean : Holds .boolean .boolean
  | integer : Holds .integer .integer
  | long : Holds .long .integer
  | double : Holds .double .number
  | dateTime : Holds .dateTime .timestamp

/-- **Scalars of a kind name** a primitive type. -/
inductive DeclarationKind.Names : DeclarationKind → Primitive → Prop where
  | string : Names .stringScalar .string
  | boolean : Names .booleanScalar .boolean
  | integer : Names .integerScalar .integer
  | long : Names .longScalar .integer
  | double : Names .doubleScalar .number
  | dateTime : Names .dateTimeScalar .timestamp

/-- **Declarations of a kind have instances** if they are concepts of one sort or another. -/
def DeclarationKind.HasInstances (kind : DeclarationKind) : Prop :=
  kind ∈ [concept, asset, participant, transaction, event]

theorem Primitive.admits_iff {primitive : Primitive} {v : Value} :
    primitive.admits v = true ↔ primitive.Has v := by
  constructor
  · intro hv
    unfold admits at hv
    split at hv
    case h_1 => exact .string _
    case h_2 => exact .boolean _
    case h_3 => exact .integer _
    case h_4 => exact .whole _
    case h_5 => exact .number _
    case h_6 => exact .timestamp hv
    case h_7 => exact absurd hv Bool.false_ne_true
  · rintro (_ | _ | _ | _ | _ | hs)
    case timestamp => exact hs
    all_goals rfl

theorem PropertyKind.primitive?_iff {kind : PropertyKind} {primitive : Primitive} :
    kind.primitive? = some primitive ↔ kind.Holds primitive := by
  constructor
  · intro hkind
    cases kind <;> cases hkind <;> constructor
  · rintro ⟨⟩ <;> rfl

theorem PropertyKind.primitive?_eq_none_iff {kind : PropertyKind} :
    kind.primitive? = none ↔ ∀ primitive, ¬ kind.Holds primitive := by
  simp only [Option.eq_none_iff_forall_ne_some, ne_eq, primitive?_iff]

theorem DeclarationKind.primitive?_iff {kind : DeclarationKind} {primitive : Primitive} :
    kind.primitive? = some primitive ↔ kind.Names primitive := by
  constructor
  · intro hkind
    cases kind <;> cases hkind <;> constructor
  · rintro ⟨⟩ <;> rfl

theorem DeclarationKind.primitive?_eq_none_iff {kind : DeclarationKind} :
    kind.primitive? = none ↔ ∀ primitive, ¬ kind.Names primitive := by
  simp only [Option.eq_none_iff_forall_ne_some, ne_eq, primitive?_iff]

theorem DeclarationKind.isClassLike_iff {kind : DeclarationKind} :
    kind.isClassLike = true ↔ kind.HasInstances := by
  cases kind <;> simp [isClassLike, HasInstances]

namespace Registry

/-! ## The relation -/

/-- **The type of an object**: the one that it names, if that is the expected one or
extends it, or else the expected one. -/
inductive IsOfType (r : Registry) (ms : Members) : Option Handle → Handle → Prop where
  /-- An object that names no type is of the expected one. -/
  | expected {h : Handle} (hnull : ms.field classKey = .null) : IsOfType r ms (some h) h
  /-- An object that names a type is of that type. -/
  | own {expected : Option Handle} {className : String} {h : Handle}
    (htext : ms.field classKey = .str className) (hfound : r.lookup? className = some h)
    (hextends : ∀ e ∈ expected, r.Extends h e) : IsOfType r ms expected h

/-- **A property holds values of a declaration** if it holds neither primitive values nor
relationships, and its type is the name of the declaration. -/
structure HoldsType (r : Registry) (p : Property) (target : Handle) : Prop where
  primitive : ∀ primitive, ¬ p.kind.Holds primitive
  relationship : p.kind ≠ .relationship
  type : ∃ ident, p.type = some ident
    ∧ r.lookup? (typeName ident.namespaceName.text ident.name.text) = some target

mutual

/-- **An object is admitted** as an instance of an expected type, if there is one. -/
inductive AdmitsObject (r : Registry) : Option Handle → Members → Prop where
  | intro {expected : Option Handle} {ms : Members} {h : Handle}
    (htype : r.IsOfType ms expected h) (hconcrete : h.declaration.isAbstract = false)
    (hkind : h.declaration.kind.HasInstances)
    (hknown : ∀ key ∈ ms.keys, key = .str classKey ∨ ∃ name p, key = .str name ∧ r.Defines h name p)
    (hrequired : ∀ name p, r.Defines h name p → ms.field name = .null → p.isOptional = true)
    (hfields : ∀ name p, r.Defines h name p → ms.field name ≠ .null →
      AdmitsField r p (ms.field name)) : AdmitsObject r expected ms

/-- **A value is admitted** as the value of a property. -/
inductive AdmitsField (r : Registry) : Property → Value → Prop where
  | single {p : Property} {v : Value} (hp : p.isArray = false) (hv : AdmitsValue r p v) :
    AdmitsField r p v
  | array {p : Property} {label : Option Label} {items : List Value} (hp : p.isArray = true)
    (hitems : ∀ v ∈ items, AdmitsValue r p v) : AdmitsField r p (.list label items)

/-- **A single value is admitted** by a property. -/
inductive AdmitsValue (r : Registry) : Property → Value → Prop where
  | primitive {p : Property} {v : Value} {primitive : Primitive}
    (hp : p.kind.Holds primitive) (hv : primitive.Has v) : AdmitsValue r p v
  | relationship {p : Property} {s : String} (hp : p.kind = .relationship) :
    AdmitsValue r p (.str s)
  | enum {p : Property} {v : Value} {target : Handle} (htarget : r.HoldsType p target)
    (hkind : target.declaration.kind = .enum)
    (hv : v ∈ target.declaration.ownProperties.map Property.name) : AdmitsValue r p v
  | scalar {p : Property} {v : Value} {target : Handle} {primitive : Primitive}
    (htarget : r.HoldsType p target) (hkind : target.declaration.kind.Names primitive)
    (hv : primitive.Has v) : AdmitsValue r p v
  | object {p : Property} {label : Option Label} {ms : Members} {target : Handle}
    (htarget : r.HoldsType p target) (henum : target.declaration.kind ≠ .enum)
    (hkind : ∀ primitive, ¬ target.declaration.kind.Names primitive)
    (hms : AdmitsObject r (some target) ms) : AdmitsValue r p (.object label ms)

end

/-- **A payload is admitted** if it is an object that is, as an instance of the default
class where one is given. -/
inductive AdmitsPayload (r : Registry) : Option String → Value → Prop where
  | bare {label : Option Label} {ms : Members} (hms : r.AdmitsObject none ms) :
    AdmitsPayload r none (.object label ms)
  | default {className : String} {h : Handle} {label : Option Label} {ms : Members}
    (hfound : r.lookup? className = some h) (hms : r.AdmitsObject (some h) ms) :
    AdmitsPayload r (some className) (.object label ms)

variable {r : Registry} {p : Property} {v : Value} {ms : Members} {h owner : Handle}
  {expected : Option Handle}

/-! ## Types and properties in a regular registry -/

/-- What a property that names its type in full refers to is found under that name. -/
theorem IsQualified.propertyType_iff (hq : IsQualified p) {target : Handle} :
    r.propertyType owner p = .ok target ↔ ∃ ident, p.type = some ident
      ∧ r.lookup? (typeName ident.namespaceName.text ident.name.text) = some target := by
  cases hident : p.type with
  | none =>
    unfold propertyType
    simp [hident]
  | some ident =>
    rw [hq.propertyType_eq hident owner, getType_eq_ok]
    simp only [Option.some.injEq, exists_eq_left']

/-- A property that names its type in full holds values of what its type is found to be. -/
theorem HoldsType.of_propertyType (hq : IsQualified p) (hp : p.kind.primitive? = none)
    (hrel : p.kind ≠ .relationship) {target : Handle}
    (htarget : r.propertyType owner p = .ok target) : r.HoldsType p target :=
  ⟨PropertyKind.primitive?_eq_none_iff.mp hp, hrel, hq.propertyType_iff.mp htarget⟩

theorem HoldsType.primitive?_eq_none {target : Handle} (htarget : r.HoldsType p target) :
    p.kind.primitive? = none :=
  PropertyKind.primitive?_eq_none_iff.mpr htarget.primitive

/-- The type that the check of an object finds is its type. -/
theorem hasType_iff_isOfType (hexpected : ∀ e ∈ expected, r.Lists e) :
    r.HasType ms expected h ↔ r.IsOfType ms expected h := by
  constructor
  · intro htype
    cases htype with
    | expected hnull => exact .expected hnull
    | own htext hfound hfits =>
      refine .own (congrArg (·.getD .null) htext) hfound fun e he => ?_
      exact ((lists_of_lookup? hfound).isAssignable_iff (hexpected e he)).mp (hfits e he)
  · intro htype
    cases htype with
    | expected hnull => exact .expected hnull
    | own htext hfound hextends =>
      refine .own (Members.get?_of_field htext Value.noConfusion) hfound fun e he => ?_
      exact ((lists_of_lookup? hfound).isAssignable_iff (hexpected e he)).mpr (hextends e he)

/-- **The members of an object fill a type** if they are what the type defines. -/
theorem Regular.filledBy_iff (hr : r.Regular) (hh : r.Lists h) :
    r.FilledBy h ms ↔ h.declaration.isAbstract = false ∧ h.declaration.kind.HasInstances
      ∧ (∀ key ∈ ms.keys, key = .str classKey ∨ ∃ name p, key = .str name ∧ r.Defines h name p)
      ∧ ∀ name p, r.Defines h name p → r.FieldFits h p (ms.field name) := by
  obtain ⟨table, htable, hhas, hmem⟩ := hr.exists_propertyTable hh
  have hinstance : isInstantiable h = true ↔ h.declaration.isAbstract = false
      ∧ h.declaration.kind.HasInstances := by
    unfold isInstantiable
    rw [Bool.and_eq_true, Bool.not_eq_true', DeclarationKind.isClassLike_iff]
  constructor
  · rintro ⟨hinst, table', htable', hknown, hfits⟩
    obtain rfl := Except.ok.inj (htable.symm.trans htable')
    obtain ⟨hconcrete, hkind⟩ := hinstance.mp hinst
    refine ⟨hconcrete, hkind, fun key hkey => (hknown key hkey).imp_right (hhas key).mp,
      fun name p hp => ?_⟩
    have hfit := hfits (.str name, p) ((hmem _).mpr ⟨name, rfl, hp⟩)
    rwa [Members.memberNamed_str] at hfit
  · rintro ⟨hconcrete, hkind, hknown, hfits⟩
    refine ⟨hinstance.mpr ⟨hconcrete, hkind⟩, table, htable,
      fun key hkey => (hknown key hkey).imp_right (hhas key).mpr, fun entry hentry => ?_⟩
    obtain ⟨name, hname, hp⟩ := (hmem entry).mp hentry
    rw [hname, Members.memberNamed_str]
    exact hfits name entry.2 hp

/-- The members of a listed enumeration are compared as texts. -/
theorem Regular.any_sameAs_iff (hr : r.Regular) (hh : r.Lists h) :
    (h.declaration.ownProperties.map Property.name).any v.sameAs = true
      ↔ v ∈ h.declaration.ownProperties.map Property.name := by
  rw [List.any_eq_true]
  have hsame : ∀ w ∈ h.declaration.ownProperties.map Property.name,
      v.sameAs w = true ↔ v = w := by
    intro w hw
    obtain ⟨p, hp, rfl⟩ := List.mem_map.mp hw
    obtain ⟨s, hs⟩ := hr.names h hh p hp
    rw [hs, Value.sameAs_str_iff]
  constructor
  · rintro ⟨w, hw, heq⟩
    exact (hsame w hw).mp heq ▸ hw
  · exact fun hv => ⟨v, hv, (hsame v hv).mpr rfl⟩

/-! ## What conforms is what is admitted -/

/-- A field with a value is the value of a member. -/
theorem mem_of_field {name : String} (hne : ms.field name ≠ .null) :
    ∃ m ∈ ms, m.2 = ms.field name := by
  have hget : ms.get? name = some (ms.field name) := Members.get?_of_field rfl hne
  rw [← Members.memberNamed_str] at hget
  obtain ⟨key, hmem⟩ := mem_of_memberNamed hget
  exact ⟨_, hmem, rfl⟩

/-- **An object conforms exactly if it is admitted**, if that holds of the values of its
members. -/
theorem Regular.objectConforms_iff_of (hr : r.Regular) (hexpected : ∀ e ∈ expected, r.Lists e)
    (hmembers : ∀ m ∈ ms, ∀ owner p, IsQualified p →
      (r.FieldConforms owner p m.2 ↔ r.AdmitsField p m.2)) :
    r.ObjectConforms expected ms ↔ r.AdmitsObject expected ms := by
  have hfield : ∀ h, r.Lists h → ∀ name p, r.Defines h name p → ms.field name ≠ .null →
      (r.FieldConforms h p (ms.field name) ↔ r.AdmitsField p (ms.field name)) := by
    intro h hh name p hp hne
    obtain ⟨m, hm, heq⟩ := mem_of_field hne
    exact heq ▸ hmembers m hm h p (hr.isQualified_of_defines hh hp)
  rw [objectConforms_iff]
  constructor
  · rintro ⟨h, htype, hfilled⟩
    have hh := htype.lists hexpected
    obtain ⟨hconcrete, hkind, hknown, hfits⟩ := (hr.filledBy_iff hh).mp hfilled
    refine .intro ((hasType_iff_isOfType hexpected).mp htype) hconcrete hkind hknown
      (fun name p hp hnull => ?_) (fun name p hp hne => ?_)
    · have hfit := hfits name p hp
      unfold FieldFits at hfit
      rwa [if_pos hnull] at hfit
    · have hfit := hfits name p hp
      unfold FieldFits at hfit
      rw [if_neg hne] at hfit
      exact (hfield h hh name p hp hne).mp hfit
  · rintro ⟨htype, hconcrete, hkind, hknown, hrequired, hfields⟩
    have htype := (hasType_iff_isOfType hexpected).mpr htype
    have hh := htype.lists hexpected
    refine ⟨_, htype, (hr.filledBy_iff hh).mpr ⟨hconcrete, hkind, hknown, fun name p hp => ?_⟩⟩
    unfold FieldFits
    split
    · rename_i hnull
      exact hrequired name p hp hnull
    · rename_i hne
      exact (hfield _ hh name p hp hne).mpr (hfields name p hp hne)

/-- **A single value conforms exactly if it is admitted**, if that holds of the values of
its members. -/
theorem Regular.singleConforms_iff_of (hr : r.Regular) (hq : IsQualified p)
    (hmembers : ∀ m ∈ membersOf v, ∀ owner p, IsQualified p →
      (r.FieldConforms owner p m.2 ↔ r.AdmitsField p m.2)) :
    r.SingleConforms owner p v ↔ r.AdmitsValue p v := by
  constructor
  · intro hv
    cases hv with
    | primitive hp hv =>
      exact .primitive (PropertyKind.primitive?_iff.mp hp) (Primitive.admits_iff.mp hv)
    | relationship hp => exact .relationship hp
    | enum hp hrel htarget hkind hv =>
      exact .enum (.of_propertyType hq hp hrel htarget) hkind
        ((hr.any_sameAs_iff (lists_of_propertyType htarget)).mp hv)
    | scalar hp hrel htarget hkind hv =>
      exact .scalar (.of_propertyType hq hp hrel htarget)
        (DeclarationKind.primitive?_iff.mp hkind) (Primitive.admits_iff.mp hv)
    | object hp hrel htarget henum hkind hms =>
      have hlists := lists_of_propertyType htarget
      exact .object (.of_propertyType hq hp hrel htarget) henum
        (DeclarationKind.primitive?_eq_none_iff.mp hkind)
        ((hr.objectConforms_iff_of hlists.of_mem_some hmembers).mp hms)
  · intro hv
    cases hv with
    | primitive hp hv =>
      exact .primitive (PropertyKind.primitive?_iff.mpr hp) (Primitive.admits_iff.mpr hv)
    | relationship hp => exact .relationship hp
    | enum htarget hkind hv =>
      have htype : r.propertyType owner p = .ok _ := hq.propertyType_iff.mpr htarget.type
      exact .enum htarget.primitive?_eq_none htarget.relationship htype hkind
        ((hr.any_sameAs_iff (lists_of_propertyType htype)).mpr hv)
    | scalar htarget hkind hv =>
      exact .scalar htarget.primitive?_eq_none htarget.relationship
        (hq.propertyType_iff.mpr htarget.type) (DeclarationKind.primitive?_iff.mpr hkind)
        (Primitive.admits_iff.mpr hv)
    | object htarget henum hkind hms =>
      have htype : r.propertyType owner p = .ok _ := hq.propertyType_iff.mpr htarget.type
      have hlists := lists_of_propertyType htype
      exact .object htarget.primitive?_eq_none htarget.relationship htype henum
        (DeclarationKind.primitive?_eq_none_iff.mpr hkind)
        ((hr.objectConforms_iff_of hlists.of_mem_some hmembers).mpr hms)

/-- **A value conforms to a property exactly if it is admitted**, if that holds of it and
of its items as single values. -/
theorem fieldConforms_iff_of
    (hsingle : r.SingleConforms owner p v ↔ r.AdmitsValue p v)
    (hitems : ∀ label items, v = .list label items → ∀ w ∈ items,
      (r.SingleConforms owner p w ↔ r.AdmitsValue p w)) :
    r.FieldConforms owner p v ↔ r.AdmitsField p v := by
  constructor
  · intro hv
    cases hv with
    | single hp hv => exact .single hp (hsingle.mp hv)
    | array hp hall => exact .array hp fun w hw => (hitems _ _ rfl w hw).mp (hall w hw)
  · intro hv
    cases hv with
    | single hp hv => exact .single hp (hsingle.mpr hv)
    | array hp hall => exact .array hp fun w hw => (hitems _ _ rfl w hw).mpr (hall w hw)

/-- **A value conforms exactly if it is admitted**, as a single value and as the value of a
property. -/
theorem Regular.singleConforms_iff (hr : r.Regular) (v : Value) (owner : Handle) (p : Property)
    (hq : IsQualified p) : r.SingleConforms owner p v ↔ r.AdmitsValue p v := by
  induction v using walk_induction generalizing owner p with
  | step v ih =>
    refine hr.singleConforms_iff_of hq fun m hm owner p hq => ?_
    exact fieldConforms_iff_of ((ih m hm).1 owner p hq)
      fun label items heq w hw => (ih m hm).2 label items heq w hw owner p hq

theorem Regular.fieldConforms_iff (hr : r.Regular) (v : Value) (owner : Handle) (p : Property)
    (hq : IsQualified p) : r.FieldConforms owner p v ↔ r.AdmitsField p v :=
  fieldConforms_iff_of (hr.singleConforms_iff v owner p hq)
    fun _ _ _ w _ => hr.singleConforms_iff w owner p hq

/-- **An object conforms exactly if it is admitted.** -/
theorem Regular.objectConforms_iff (hr : r.Regular) (hexpected : ∀ e ∈ expected, r.Lists e) :
    r.ObjectConforms expected ms ↔ r.AdmitsObject expected ms :=
  hr.objectConforms_iff_of hexpected fun m _ owner p hq => hr.fieldConforms_iff m.2 owner p hq

/-- **A payload is accepted exactly if it is admitted.** -/
theorem Regular.checkInstance_eq_ok_iff (hr : r.Regular) (payload : Value)
    (defaultClass : Option String) :
    r.checkInstance payload defaultClass = .ok () ↔ r.AdmitsPayload defaultClass payload := by
  cases defaultClass with
  | none =>
    constructor
    · intro hcheck
      cases payload with
      | object label ms =>
        rw [checkInstance_none_eq_ok, hr.objectConforms_iff lists_of_mem_none] at hcheck
        exact .bare hcheck
      | _ => exact absurd hcheck (reject_ne_ok _ _ _)
    · rintro (hms | _)
      rwa [checkInstance_none_eq_ok, hr.objectConforms_iff lists_of_mem_none]
  | some className =>
    rw [checkInstance_eq_ok]
    constructor
    · rintro ⟨t, label, ms, hfound, rfl, hconforms⟩
      have hlists := (lists_of_lookup? hfound).of_mem_some
      exact .default hfound ((hr.objectConforms_iff hlists).mp hconforms)
    · rintro (_ | ⟨hfound, hms⟩)
      have hlists := (lists_of_lookup? hfound).of_mem_some
      exact ⟨_, _, _, hfound, rfl, (hr.objectConforms_iff hlists).mpr hms⟩

/-- **The check of a payload accepts exactly what is admitted, and always ends**: what is
not admitted is rejected as nonconforming, with a cause and a place. -/
theorem Regular.checkInstance_iff (hr : r.Regular) (payload : Value)
    (defaultClass : Option String) :
    (r.checkInstance payload defaultClass = .ok () ↔ r.AdmitsPayload defaultClass payload)
      ∧ (r.checkInstance payload defaultClass = .ok ()
        ∨ ∃ cause path, r.checkInstance payload defaultClass = reject cause path) := by
  refine ⟨hr.checkInstance_eq_ok_iff payload defaultClass, ?_⟩
  rcases hr.givesVerdict_checkInstance payload defaultClass with ⟨_, haccept⟩ | hreject
  · exact Or.inl haccept
  · exact Or.inr hreject

end Registry

/-! ## Boxes in boxes -/

namespace Boxes

/-- A property that holds texts. -/
def textProperty (name : String) (isArray isOptional : Bool) : Property :=
  ⟨.str name, .string, isArray, isOptional, none, none, []⟩

/-- A property that holds values of a type of the file of boxes. -/
def typedProperty (name typeName : String) (isOptional : Bool) : Property :=
  ⟨.str name, .object, false, isOptional, some ⟨.str typeName, .str "org.acme@1.0.0"⟩, none, []⟩

/-- A file that declares boxes, which may hold boxes. A box is a labelled thing, but its
own label is optional. -/
def boxFile : ModelFile where
  namespaceText := "org.acme@1.0.0"
  info := ⟨"org.acme", some "1.0.0"⟩
  declarations := [
    ⟨.str "Size", .enum, some [⟨.str "SMALL", .enum, false, false, none, none, []⟩,
      ⟨.str "LARGE", .enum, false, false, none, none, []⟩], false, none, none, []⟩,
    ⟨.str "Code", .stringScalar, none, false, none, none, []⟩,
    ⟨.str "Labelled", .concept, some [textProperty "label" false false,
      textProperty "tags" true true], true, none, none, []⟩,
    ⟨.str "Box", .concept, some [typedProperty "size" "Size" false,
      textProperty "label" false true, typedProperty "code" "Code" true,
      typedProperty "inner" "Box" true], false,
      some ⟨.str "Labelled", .str "org.acme@1.0.0"⟩, none, []⟩]
  decorators := none
  extras := []
  parse_eq := Namespace.parse_acme

/-- The registry of the file. -/
def registry : Registry where
  strict := false
  files := [boxFile]
  distinct := by
    show ["org.acme@1.0.0"].Nodup
    decide

/-- The super type of a box can be looked up, and all names are in order. -/
theorem regular : registry.Regular := by
  have hsuper : ∀ d ∈ boxFile.declarations,
      (registry.superType ⟨boxFile, d⟩).toOption.isSome = true := by
    decide +kernel
  have hnames : ∀ d ∈ boxFile.declarations, ∀ p ∈ d.ownProperties,
      p.name = .str p.name.text ∧ ∀ ident ∈ p.type, ident.namespaceName.isBlank = false := by
    decide +kernel
  have hfile : ∀ h, registry.Lists h → h.file = boxFile :=
    fun h hh => List.mem_singleton.mp hh.file
  refine ⟨fun h hh => ?_, fun h hh p hp => ?_, fun h hh p hp => ?_⟩
  · obtain ⟨f, d⟩ := h
    obtain rfl : f = boxFile := hfile _ hh
    have hsome := hsuper d hh.mem_declarations
    cases hup : registry.superType ⟨boxFile, d⟩ with
    | ok up => exact ⟨up, rfl⟩
    | error e =>
      rw [hup] at hsome
      cases hsome
  · exact ⟨_, (hnames _ (hfile h hh ▸ hh.mem_declarations) p hp).1⟩
  · exact (hnames _ (hfile h hh ▸ hh.mem_declarations) p hp).2

/-- A large box with tags and without a label, which holds a box of some size. -/
def boxInBox (size : String) : Value :=
  .object none [("$class", "org.acme@1.0.0.Box"), ("size", "LARGE"),
    ("tags", .list none ["fragile"]), ("inner", .object none [("size", .str size), ("label", .null)])]

/-- A small box inside a large one is admitted, one of unknown size is rejected. -/
theorem checkInstance_iff_boxes :
    registry.Regular ∧ registry.AdmitsPayload none (boxInBox "SMALL")
      ∧ registry.AdmitsPayload (some "org.acme.Labelled") (boxInBox "SMALL")
      ∧ ¬ registry.AdmitsPayload none (boxInBox "HUGE")
      ∧ ∃ cause path, registry.checkInstance (boxInBox "HUGE") none
        = Registry.reject cause path := by
  have hchecks : registry.checkInstance (boxInBox "SMALL") none = .ok ()
      ∧ registry.checkInstance (boxInBox "SMALL") (some "org.acme.Labelled") = .ok ()
      ∧ registry.checkInstance (boxInBox "HUGE") none ≠ .ok () := by
    decide +kernel
  obtain ⟨hnamed, hdefault, hhuge⟩ := hchecks
  have hsmall := Registry.Regular.checkInstance_iff regular (boxInBox "SMALL")
  obtain ⟨hiff, hverdict⟩ := Registry.Regular.checkInstance_iff regular (boxInBox "HUGE") none
  exact ⟨regular, (hsmall none).1.mp hnamed, (hsmall (some "org.acme.Labelled")).1.mp hdefault,
    fun hadmits => hhuge (hiff.mpr hadmits), hverdict.resolve_left hhuge⟩

end Boxes

end DecoratorSets
