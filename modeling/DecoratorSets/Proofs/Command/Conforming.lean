import DecoratorSets.Proofs.Command.SchemaRegistry

/-!
# What conforms to the schema

The schema of command sets is spelled out here, type by type: which fields an instance
has and what their values are (`Registry.filledBy_target`, `Registry.filledBy_command`
and so on). An instance of a type that nothing extends may leave its class out or name
that type under any name by which it is found (`Registry.HasSchema.conforms_root`); an
argument has to name its kind (`Registry.HasSchema.conforms_literal`).
-/

namespace DecoratorSets

open Schema

/-- **A text or nothing**, as an optional field holds it. -/
def Value.IsOptionalText (v : Value) : Prop := v = .null ∨ ∃ s, v = .str s

/-- The values that the type of texts admits are the texts. -/
theorem Primitive.admits_string (v : Value) :
    Primitive.string.admits v = true ↔ ∃ s, v = .str s := by
  cases v <;> simp [Primitive.admits]

/-- No primitive type admits null. -/
theorem Primitive.admits_null (primitive : Primitive) : primitive.admits .null = false := by
  cases primitive <;> rfl

/-- The kind of the property that holds the value of a literal. -/
def LiteralKind.propertyKind : LiteralKind → PropertyKind
  | .string => .string
  | .number => .double
  | .boolean => .boolean

/-- The primitive type of the values of a literal. -/
def LiteralKind.primitive : LiteralKind → Primitive
  | .string => .string
  | .number => .number
  | .boolean => .boolean

/-- **The members of an object have names of a list**, its class apart. -/
def Members.Within (ms : Members) (names : List String) : Prop :=
  ∀ key ∈ ms.keys, key = .str classKey ∨ key ∈ names.map Value.str

section Within

variable {ms : Members} {names : List String} {key : String}

theorem Members.Within.cons {v : Value} (h : ms.Within names)
    (hkey : key = classKey ∨ key ∈ names) : Members.Within ((.str key, v) :: ms) names := by
  refine List.forall_mem_cons.mpr ⟨hkey.imp (congrArg Value.str) ?_, h⟩
  exact fun hmem => List.mem_map_of_mem hmem

theorem Members.Within.put {v : Value} (h : ms.Within names) (hkey : key ∈ names) :
    (ms.put key v).Within names := by
  intro other hother
  rcases Members.mem_keys_put hother with hmem | rfl
  · exact h other hmem
  · exact Or.inr (List.mem_map_of_mem hkey)

theorem Members.Within.putSome {v : Option Value} (h : ms.Within names) (hkey : key ∈ names) :
    (ms.putSome key v).Within names := by
  cases v with
  | none => exact h
  | some v => exact h.put hkey

theorem Members.within_nil (names : List String) : Members.Within [] names :=
  fun _ hkey => absurd hkey List.not_mem_nil

end Within

/-- A decorator with the members of its type has no others. -/
theorem Members.Within.without_eq_nil {ms : Members} (h : ms.Within ["name", "arguments"]) :
    ms.without Decorator.knownKeys = [] := by
  refine List.filter_eq_nil_iff.mpr (fun member hmember => ?_)
  have hkey : member.1 ∈ Decorator.knownKeys.map Value.str := by
    rcases h member.1 (List.mem_map_of_mem hmember) with hclass | hname
    · rw [hclass]
      exact List.mem_cons_self
    · exact List.mem_cons_of_mem _ hname
  obtain ⟨key, hmem, heq⟩ := List.mem_map.mp hkey
  rw [Bool.not_eq_true', Bool.not_eq_false, List.any_eq_true]
  exact ⟨key, hmem, (Value.isNamed_eq_true_iff key member.1).mpr heq.symm⟩

namespace Registry

variable {r : Registry} {h : Handle} {ms : Members} {v : Value}

/-! ## Fields of the schema -/

section Fields

variable {name : String} {kind : PropertyKind} {primitive : Primitive}

/-- A field that has to be there holds a value of its primitive type. -/
theorem fieldFits_required (hprim : kind.primitive? = some primitive) :
    r.FieldFits h (requiredField name kind) v ↔ primitive.admits v = true := by
  rw [fieldFits_single rfl, singleConforms_primitive hprim]
  constructor
  · rintro (⟨_, hopt⟩ | ⟨_, hv⟩)
    · cases hopt
    · exact hv
  · intro hv
    refine Or.inr ⟨?_, hv⟩
    rintro rfl
    rw [primitive.admits_null] at hv
    cases hv

/-- A field that may be left out holds nothing or a value of its primitive type. -/
theorem fieldFits_optional (hprim : kind.primitive? = some primitive) :
    r.FieldFits h (optionalField name kind) v ↔ v = .null ∨ primitive.admits v = true := by
  rw [fieldFits_single rfl, singleConforms_primitive hprim]
  by_cases hnull : v = .null
  · simp [hnull, optionalField, field]
  · simp [hnull]

theorem fieldFits_requiredText :
    r.FieldFits h (requiredField name .string) v ↔ ∃ s, v = .str s :=
  (fieldFits_required rfl).trans (Primitive.admits_string v)

theorem fieldFits_optionalText :
    r.FieldFits h (optionalField name .string) v ↔ v.IsOptionalText :=
  (fieldFits_optional rfl).trans (or_congr_right (Primitive.admits_string v))

/-- A field of texts that may be left out. -/
theorem fieldFits_texts :
    r.FieldFits h (field name .string none true true) v ↔ v = .null
      ∨ ∃ label, ∃ texts : List String, v = .list label (texts.map Value.str) := by
  rw [fieldFits_array rfl]
  refine or_congr (and_iff_left rfl) (exists_congr (fun label => ?_))
  constructor
  · rintro ⟨items, rfl, hitems⟩
    have htext : ∀ w ∈ items, Value.str w.text = w := by
      intro w hw
      obtain ⟨s, rfl⟩ := (Primitive.admits_string w).mp
        ((singleConforms_primitive rfl).mp (hitems w hw))
      rfl
    refine ⟨items.map Value.text, ?_⟩
    have hmap : items.map (Value.str ∘ Value.text) = items.map id := List.map_congr_left htext
    rw [List.map_map, hmap, List.map_id]
  · rintro ⟨texts, rfl⟩
    refine ⟨_, rfl, fun w hw => ?_⟩
    obtain ⟨s, _, rfl⟩ := List.mem_map.mp hw
    exact .primitive rfl rfl

variable {type : String} {t : Handle}

/-- What refers to a concept of the schema holds instances of it. -/
theorem singleConforms_object {isArray isOptional : Bool}
    (ht : r.resolve h.file (localType type) = .ok t) (hkind : t.declaration.kind = .concept) :
    r.SingleConforms h (field name .object (some type) isArray isOptional) v
      ↔ r.IsInstance t v := by
  have htype : r.propertyType h (field name .object (some type) isArray isOptional) = .ok t := ht
  exact singleConforms_instance rfl (fun hrel => by cases hrel) htype hkind

/-- A field that holds an instance of a type. -/
theorem fieldFits_object (ht : r.resolve h.file (localType type) = .ok t)
    (hkind : t.declaration.kind = .concept) :
    r.FieldFits h (field name .object (some type) false false) v ↔ r.IsInstance t v := by
  rw [fieldFits_single rfl, singleConforms_object ht hkind]
  constructor
  · rintro (⟨_, hopt⟩ | ⟨_, hv⟩)
    · cases hopt
    · exact hv
  · rintro ⟨label, ms, rfl, hms⟩
    exact Or.inr ⟨Value.noConfusion, label, ms, rfl, hms⟩

/-- A field that holds a list of instances of a type. -/
theorem fieldFits_requiredObjects (ht : r.resolve h.file (localType type) = .ok t)
    (hkind : t.declaration.kind = .concept) :
    r.FieldFits h (field name .object (some type) true false) v
      ↔ ∃ label items, v = .list label items ∧ ∀ w ∈ items, r.IsInstance t w := by
  rw [fieldFits_array rfl, or_iff_right (fun hopt => Bool.false_ne_true hopt.2)]
  simp only [singleConforms_object ht hkind]

/-- A field that holds nothing or a list of instances of a type. -/
theorem fieldFits_optionalObjects (ht : r.resolve h.file (localType type) = .ok t)
    (hkind : t.declaration.kind = .concept) :
    r.FieldFits h (field name .object (some type) true true) v ↔ v = .null
      ∨ ∃ label items, v = .list label items ∧ ∀ w ∈ items, r.IsInstance t w := by
  rw [fieldFits_array rfl, and_iff_left (by rfl)]
  simp only [singleConforms_object ht hkind]

/-- The field that holds the type of a command. -/
theorem HasSchema.fieldFits_commandType (hr : r.HasSchema) :
    r.FieldFits commandType (field "type" .object (some "CommandType") false false) v
      ↔ v = .str "UPSERT" ∨ v = .str "APPEND" := by
  have ht : r.propertyType commandType (field "type" .object (some "CommandType") false false)
      = .ok commandTypeType :=
    hr.resolve_type isType_commandTypeType
  have hany : (commandTypeType.declaration.ownProperties.map Property.name).any v.sameAs = true
      ↔ v = .str "UPSERT" ∨ v = .str "APPEND" := by
    show (v.sameAs (.str "UPSERT") || (v.sameAs (.str "APPEND") || false)) = true ↔ _
    rw [Bool.or_false, Bool.or_eq_true, Value.sameAs_str_iff, Value.sameAs_str_iff]
  rw [fieldFits_single rfl, singleConforms_enum rfl (by decide) ht rfl, hany]
  constructor
  · rintro (⟨_, hopt⟩ | ⟨_, hv⟩)
    · cases hopt
    · exact hv
  · rintro (rfl | rfl)
    · exact Or.inr ⟨Value.noConfusion, Or.inl rfl⟩
    · exact Or.inr ⟨Value.noConfusion, Or.inr rfl⟩

end Fields

/-! ## Types of the schema -/

section Types

variable {t : Handle}

/-- A type of the schema that extends nothing is a record type. -/
theorem isRecord_of_root (ht : IsLeaf t) (hroot : t.declaration.superType = none) :
    r.IsRecord t t.declaration.ownProperties := by
  obtain ⟨_, _, hinstance, hnames⟩ := ht
  refine ⟨hinstance, properties_of_root ?_, _, hnames⟩
  unfold superType
  rw [hroot]

/-- An object conforms to a type if its class is found to be one that fits the type, and
its fields are filled. -/
theorem objectConforms_of_class {e : Handle} {className : String}
    (hclass : ms.field classKey = .str className) (hfound : r.lookup? className = some t)
    (hfits : r.isAssignable t e = .ok true) (hfilled : r.FilledBy t ms) :
    r.ObjectConforms (some e) ms := by
  refine objectConforms_iff.mpr ⟨t, .own (Members.get?_of_field hclass Value.noConfusion) hfound ?_,
    hfilled⟩
  intro e' he
  obtain rfl := Option.some.inj he
  exact hfits

/-- **Conforming to a type that nothing extends**: the class is left out or found to be
the type, and the fields are filled. -/
theorem HasSchema.conforms_root (hr : r.HasSchema) (hclosed : r.SchemaClosed) (ht : IsLeaf t) :
    r.ObjectConforms (some t) ms ↔ (ms.field classKey = .null
        ∨ ∃ className, ms.field classKey = .str className ∧ r.lookup? className = some t)
      ∧ r.FilledBy t ms := by
  rw [objectConforms_iff]
  constructor
  · rintro ⟨h, htype, hfilled⟩
    cases htype with
    | expected hclass => exact ⟨Or.inl hclass, hfilled⟩
    | @own _ className _ hclass hfound hfits =>
      have hlists := lists_of_lookup? hfound
      have hext := extends_of_isAssignable hlists (hr.lists ht.1) (hfits t rfl)
      -- a type that fits this one extends it, which only the type itself does
      obtain rfl : h = t := hext.eq_of_leaf hlists (hr.superType_ne_of_leaf hclosed ht)
      refine ⟨Or.inr ⟨className, ?_, hfound⟩, hfilled⟩
      unfold Members.field
      rw [hclass, Option.getD_some]
  · rintro ⟨hclass | ⟨className, hclass, hfound⟩, hfilled⟩
    · exact ⟨t, .expected hclass, hfilled⟩
    · exact objectConforms_iff.mp
        (objectConforms_of_class hclass hfound (isAssignable_self t) hfilled)

/-- The kinds of arguments extend the type of arguments. -/
theorem HasSchema.superType_argumentType (hr : r.HasSchema) (kind : ArgumentKind) :
    r.superType (argumentType kind) = .ok (some literalType) := by
  have hsuper : r.superType (argumentType kind)
      = some <$> r.resolve metamodelFile (localType "DecoratorLiteral") := by
    rcases kind with (_ | _ | _) | _ <;> rfl
  rw [hsuper, hr.resolve_literal, Checked.map_ok]

theorem HasSchema.isAssignable_argumentType (hr : r.HasSchema) (kind : ArgumentKind) :
    r.isAssignable (argumentType kind) literalType = .ok true := by
  refine isAssignable_of_superType (hr.superType_argumentType kind) ?_
  rcases kind with (_ | _ | _) | _ <;> decide +kernel

/-- The kinds of arguments are record types. -/
theorem HasSchema.isRecord_argumentType (hr : r.HasSchema) (kind : ArgumentKind) :
    r.IsRecord (argumentType kind) (argumentType kind).declaration.ownProperties := by
  obtain ⟨_, _, hinstance, hnames⟩ := isLeaf_argumentType kind
  exact ⟨hinstance, properties_of_bare (hr.superType_argumentType kind) rfl rfl, _, hnames⟩

/-- **Conforming to the type of arguments**: the class is found to be a kind of
arguments, and the fields of that kind are filled. -/
theorem HasSchema.conforms_literal (hr : r.HasSchema) (hclosed : r.SchemaClosed) :
    r.ObjectConforms (some literalType) ms ↔ ∃ kind className,
      ms.field classKey = .str className ∧ r.lookup? className = some (argumentType kind)
        ∧ r.FilledBy (argumentType kind) ms := by
  -- the type of arguments is abstract, so an argument without a class has no type
  have habstract : ¬ r.FilledBy literalType ms := fun h => by
    have hinstance : isInstantiable literalType = true := h.instantiable
    cases hinstance
  have hlists : r.Lists literalType := hr.lists isType_literalType
  rw [objectConforms_iff]
  constructor
  · rintro ⟨h, htype, hfilled⟩
    cases htype with
    | expected _ => exact absurd hfilled habstract
    | @own _ className _ hclass hfound hfits =>
      have hext := extends_of_isAssignable (lists_of_lookup? hfound) hlists (hfits _ rfl)
      rcases hr.eq_argumentType_of_extends hclosed (lists_of_lookup? hfound) hext rfl with
        rfl | ⟨kind, rfl⟩
      · exact absurd hfilled habstract
      · refine ⟨kind, className, ?_, hfound, hfilled⟩
        unfold Members.field
        rw [hclass, Option.getD_some]
  · rintro ⟨kind, className, hclass, hfound, hfilled⟩
    exact objectConforms_iff.mp
      (objectConforms_of_class hclass hfound (hr.isAssignable_argumentType kind) hfilled)

end Types

/-! ## Type by type -/

/-- A record type of which the names of the properties are listed. -/
theorem IsRecord.filledBy_within {ps : List Property} (hrecord : r.IsRecord h ps)
    (names : List String) (hnames : ps.map Property.name = names.map Value.str) (ms : Members) :
    r.FilledBy h ms ↔ ms.Within names ∧ ∀ p ∈ ps, r.FieldFits h p (ms.field p.name.text) := by
  rw [hrecord.filledBy_iff, hnames]
  rfl

/-- **References to types** have a name and may have a namespace. -/
theorem filledBy_typeIdentifier : r.FilledBy typeIdentifierType ms
    ↔ ms.Within ["name", "namespace"] ∧ (∃ s, ms.field "name" = .str s)
      ∧ (ms.field "namespace").IsOptionalText := by
  have hrecord : r.IsRecord typeIdentifierType
      [requiredField "name" .string, optionalField "namespace" .string] :=
    isRecord_of_root isLeaf_typeIdentifierType rfl
  rw [hrecord.filledBy_within ["name", "namespace"] rfl, List.forall_mem_cons,
    List.forall_mem_singleton, fieldFits_requiredText, fieldFits_optionalText]
  rfl

/-- **Literal arguments** have a value of their kind. -/
theorem HasSchema.filledBy_literal (hr : r.HasSchema) (kind : LiteralKind) :
    r.FilledBy (argumentType (.literal kind)) ms
      ↔ ms.Within ["value"] ∧ kind.primitive.admits (ms.field "value") = true := by
  have hprim : kind.propertyKind.primitive? = some kind.primitive := by
    cases kind <;> rfl
  have hproperties : (argumentType (.literal kind)).declaration.ownProperties
      = [requiredField "value" kind.propertyKind] := by
    cases kind <;> rfl
  have hrecord := hr.isRecord_argumentType (.literal kind)
  rw [hproperties] at hrecord
  rw [hrecord.filledBy_within ["value"] rfl, List.forall_mem_singleton, fieldFits_required hprim]
  rfl

/-- **Arguments that refer to a type** have a reference, and may have a flag. -/
theorem HasSchema.filledBy_reference (hr : r.HasSchema) :
    r.FilledBy (argumentType .typeReference) ms
      ↔ ms.Within ["type", "isArray"] ∧ r.IsInstance typeIdentifierType (ms.field "type")
        ∧ (ms.field "isArray" = .null ∨ Primitive.boolean.admits (ms.field "isArray") = true) := by
  have hrecord : r.IsRecord (argumentType .typeReference)
      [field "type" .object (some "TypeIdentifier") false false,
        optionalField "isArray" .boolean] :=
    hr.isRecord_argumentType .typeReference
  have htype : r.resolve metamodelFile (localType "TypeIdentifier") = .ok typeIdentifierType :=
    hr.resolve_type isLeaf_typeIdentifierType.1
  rw [hrecord.filledBy_within ["type", "isArray"] rfl, List.forall_mem_cons,
    List.forall_mem_singleton, fieldFits_object htype rfl, fieldFits_optional rfl]
  rfl

/-- **Decorators** have a name, and may have a list of arguments. -/
theorem HasSchema.filledBy_decorator (hr : r.HasSchema) : r.FilledBy decoratorType ms
    ↔ ms.Within ["name", "arguments"] ∧ (∃ s, ms.field "name" = .str s)
      ∧ (ms.field "arguments" = .null ∨ ∃ label items, ms.field "arguments" = .list label items
        ∧ ∀ w ∈ items, r.IsInstance literalType w) := by
  have hrecord : r.IsRecord decoratorType
      [requiredField "name" .string,
        field "arguments" .object (some "DecoratorLiteral") true true] :=
    isRecord_of_root isLeaf_decoratorType rfl
  rw [hrecord.filledBy_within ["name", "arguments"] rfl, List.forall_mem_cons,
    List.forall_mem_singleton, fieldFits_requiredText,
    fieldFits_optionalObjects hr.resolve_literal rfl]
  rfl

/-- **Targets** may have a text in each field, and a list of texts in one. -/
theorem filledBy_target : r.FilledBy targetType ms
    ↔ ms.Within ["namespace", "declaration", "property", "properties", "type"]
      ∧ (ms.field "namespace").IsOptionalText ∧ (ms.field "declaration").IsOptionalText
      ∧ (ms.field "property").IsOptionalText
      ∧ (ms.field "properties" = .null ∨ ∃ label, ∃ texts : List String,
        ms.field "properties" = .list label (texts.map Value.str))
      ∧ (ms.field "type").IsOptionalText := by
  have hrecord : r.IsRecord targetType
      [optionalField "namespace" .string, optionalField "declaration" .string,
        optionalField "property" .string, field "properties" .string none true true,
        optionalField "type" .string] :=
    isRecord_of_root isLeaf_targetType rfl
  rw [hrecord.filledBy_within ["namespace", "declaration", "property", "properties", "type"] rfl,
    List.forall_mem_cons, List.forall_mem_cons, List.forall_mem_cons, List.forall_mem_cons,
    List.forall_mem_singleton, fieldFits_optionalText, fieldFits_optionalText,
    fieldFits_optionalText, fieldFits_optionalText, fieldFits_texts]
  rfl

/-- **Commands** have a target, a decorator and one of the two types. -/
theorem HasSchema.filledBy_command (hr : r.HasSchema) : r.FilledBy commandType ms
    ↔ ms.Within ["target", "decorator", "type"] ∧ r.IsInstance targetType (ms.field "target")
      ∧ r.IsInstance decoratorType (ms.field "decorator")
      ∧ (ms.field "type" = .str "UPSERT" ∨ ms.field "type" = .str "APPEND") := by
  have hrecord : r.IsRecord commandType
      [field "target" .object (some "CommandTarget") false false,
        field "decorator" .object (some "Decorator") false false,
        field "type" .object (some "CommandType") false false] :=
    isRecord_of_root isLeaf_commandType rfl
  have htarget : r.resolve commandsFile (localType "CommandTarget") = .ok targetType :=
    hr.resolve_type isLeaf_targetType.1
  rw [hrecord.filledBy_within ["target", "decorator", "type"] rfl, List.forall_mem_cons,
    List.forall_mem_cons, List.forall_mem_singleton, fieldFits_object htarget rfl,
    fieldFits_object hr.resolve_decorator rfl, hr.fieldFits_commandType]
  rfl

/-- **References to command sets** have a name and a version. -/
theorem filledBy_setReference : r.FilledBy referenceType ms
    ↔ ms.Within ["name", "version"] ∧ (∃ s, ms.field "name" = .str s)
      ∧ ∃ s, ms.field "version" = .str s := by
  have hrecord : r.IsRecord referenceType
      [requiredField "name" .string, requiredField "version" .string] :=
    isRecord_of_root isLeaf_referenceType rfl
  rw [hrecord.filledBy_within ["name", "version"] rfl, List.forall_mem_cons,
    List.forall_mem_singleton, fieldFits_requiredText, fieldFits_requiredText]
  rfl

/-- **Command sets** have a name, a version and a list of commands, and may have a list of
references to others. -/
theorem HasSchema.filledBy_commandSet (hr : r.HasSchema) : r.FilledBy commandSetType ms
    ↔ ms.Within ["name", "version", "includes", "commands"] ∧ (∃ s, ms.field "name" = .str s)
      ∧ (∃ s, ms.field "version" = .str s)
      ∧ (ms.field "includes" = .null ∨ ∃ label items, ms.field "includes" = .list label items
        ∧ ∀ w ∈ items, r.IsInstance referenceType w)
      ∧ ∃ label items, ms.field "commands" = .list label items
        ∧ ∀ w ∈ items, r.IsInstance commandType w := by
  have hrecord : r.IsRecord commandSetType
      [requiredField "name" .string, requiredField "version" .string,
        field "includes" .object (some "DecoratorCommandSetReference") true true,
        field "commands" .object (some "Command") true false] :=
    isRecord_of_root isLeaf_commandSetType rfl
  have hincludes : r.resolve commandsFile (localType "DecoratorCommandSetReference")
      = .ok referenceType :=
    hr.resolve_type isLeaf_referenceType.1
  have hcommands : r.resolve commandsFile (localType "Command") = .ok commandType :=
    hr.resolve_type isLeaf_commandType.1
  rw [hrecord.filledBy_within ["name", "version", "includes", "commands"] rfl,
    List.forall_mem_cons, List.forall_mem_cons, List.forall_mem_cons, List.forall_mem_singleton,
    fieldFits_requiredText, fieldFits_requiredText, fieldFits_optionalObjects hincludes rfl,
    fieldFits_requiredObjects hcommands rfl]
  rfl

end Registry

end DecoratorSets
