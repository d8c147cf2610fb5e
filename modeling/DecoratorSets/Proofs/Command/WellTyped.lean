import DecoratorSets.Proofs.Command.Conforming
import DecoratorSets.Proofs.Metamodel.Reading

/-!
# Command sets of the right types

A command set is made of values that may be anything. It is well typed if they are what
the schema says (`CommandSet.WellTyped`): texts where texts are expected, one of the two
known types of commands, and values of arguments that go with the kinds of these.

What conforms to the schema is read, and what is read from it is well typed
(`Registry.HasSchema.exists_commandSet`). In the other direction, the document of what
is well typed conforms (`Registry.HasSchema.isInstance_commandSet`), as long as the
class names that it carries, which have no version, lead to the schema
(`Registry.HasSchema.Leads`).
-/

namespace DecoratorSets

open Schema

/-! ## Well-typed command sets -/

/-- A reference to a type has texts for a name and a namespace. -/
structure TypeIdentifier.WellTyped (ident : TypeIdentifier) : Prop where
  name : ∃ s, ident.name = .str s
  namespaceName : ident.namespaceName.IsOptionalText

/-- **The value of an argument** is of the type of its kind. -/
def Argument.WellTyped : Argument → Prop
  | .literal kind value => kind.primitive.admits value = true
  | .reference type _ => type.WellTyped

/-- A decorator has a text as its name, well-typed arguments and nothing else. -/
structure Decorator.WellTyped (d : Decorator) : Prop where
  name : ∃ s, d.name = .str s
  arguments : ∀ args ∈ d.arguments, ∀ a ∈ args, a.WellTyped
  extras : d.extras = []

/-- The fields of a target are texts, or left out. -/
structure CommandTarget.WellTyped (t : CommandTarget) : Prop where
  namespaceName : t.namespaceName.IsOptionalText
  declaration : t.declaration.IsOptionalText
  property : t.property.IsOptionalText
  properties : ∀ names ∈ t.properties, ∃ texts : List String, names = texts.map Value.str
  type : t.type.IsOptionalText

/-- A command has one of the two known types. -/
structure Command.WellTyped (c : Command) : Prop where
  type : c.type = .upsert ∨ c.type = .append
  target : c.target.WellTyped
  decorator : c.decorator.WellTyped

/-- A reference to a command set has texts for a name and a version. -/
structure CommandSetReference.WellTyped (ref : CommandSetReference) : Prop where
  name : ∃ s, ref.name = .str s
  version : ∃ s, ref.version = .str s

/-- **A command set is well typed** if everything in it is. -/
structure CommandSet.WellTyped (set : CommandSet) : Prop where
  name : ∃ s, set.name = .str s
  version : ∃ s, set.version = .str s
  commands : ∀ c ∈ set.commands, c.WellTyped
  includes : ∀ refs ∈ set.includes, ∀ ref ∈ refs, ref.WellTyped

/-- **An optional list is read** if its items are. -/
theorem exists_readList? {α : Type} {read : Value → Checked α} {p : α → Prop}
    {q : Value → Prop} {v : Value} (hread : ∀ w, q w → ∃ a, read w = .ok a ∧ p a)
    (hv : v = .null ∨ ∃ label items, v = .list label items ∧ ∀ w ∈ items, q w) :
    ∃ found, readList? read v = .ok found ∧ ∀ as ∈ found, ∀ a ∈ as, p a := by
  rcases hv with rfl | ⟨label, items, rfl, hitems⟩
  · exact ⟨none, rfl, fun as has => absurd has (Option.not_mem_none as)⟩
  · obtain ⟨as, has, hall⟩ := Checked.exists_mapM_forall (fun w hw => hread w (hitems w hw))
    refine ⟨some as, ?_, fun as' has' => ?_⟩
    · rw [readList?_list, has, Checked.map_ok]
    · obtain rfl := Option.some.inj has'
      exact hall

namespace Registry

variable {r : Registry} {v : Value}

/-! ## Reading what conforms -/

section Reading

/-- A reference to a type is read. -/
theorem HasSchema.exists_typeIdentifier (hr : r.HasSchema) (hclosed : r.SchemaClosed)
    (h : r.IsInstance typeIdentifierType v) :
    ∃ ident, TypeIdentifier.ofDocument v = .ok ident ∧ ident.WellTyped := by
  obtain ⟨label, ms, rfl, hms⟩ := h
  obtain ⟨_, hfilled⟩ := (hr.conforms_root hclosed isLeaf_typeIdentifierType).mp hms
  obtain ⟨_, ⟨s, hname⟩, hns⟩ := filledBy_typeIdentifier.mp hfilled
  refine ⟨⟨.str s, ms.field "namespace"⟩, ?_, ⟨s, rfl⟩, hns⟩
  unfold TypeIdentifier.ofDocument
  rw [Members.required_object hname Value.noConfusion]
  rfl

/-- The kind of an argument is read off its class. -/
theorem ofClassName_of_lookup? {kind : ArgumentKind} {className : String}
    (hfound : r.lookup? className = some (argumentType kind)) :
    ArgumentKind.ofClassName className = .ok kind := by
  have hname : (argumentType kind).declaration.name = .str kind.typeName := by
    rcases kind with (_ | _ | _) | _ <;> rfl
  have hshort : shortName className = kind.typeName :=
    (Value.str.inj (hname.symm.trans (name_of_lookup? hfound))).symm
  unfold ArgumentKind.ofClassName kindOfClass
  rw [hshort]
  rcases kind with (_ | _ | _) | _ <;> rfl

/-- An argument is read as one of the kind that it names. -/
theorem HasSchema.exists_argument (hr : r.HasSchema) (hclosed : r.SchemaClosed)
    (h : r.IsInstance literalType v) : ∃ a, Argument.ofDocument v = .ok a ∧ a.WellTyped := by
  obtain ⟨label, ms, rfl, hms⟩ := h
  obtain ⟨kind, className, hclass, hfound, hfilled⟩ := (hr.conforms_literal hclosed).mp hms
  have hclass' : ms.get? classKey = some (.str className) :=
    Members.get?_of_field hclass Value.noConfusion
  have hkind := ofClassName_of_lookup? hfound
  cases kind with
  | literal kind =>
    obtain ⟨_, hvalue⟩ := (hr.filledBy_literal kind).mp hfilled
    have hne : ms.field "value" ≠ .null := by
      intro hnull
      rw [hnull, Primitive.admits_null] at hvalue
      cases hvalue
    exact ⟨.literal kind (ms.field "value"),
      Argument.ofDocument_literal hclass' hkind (Members.get?_of_field rfl hne), hvalue⟩
  | typeReference =>
    obtain ⟨_, htype, _⟩ := hr.filledBy_reference.mp hfilled
    obtain ⟨ident, hident, hwell⟩ := hr.exists_typeIdentifier hclosed htype
    exact ⟨.reference ident (!(ms.field "isArray").isBlank), Argument.ofDocument_reference hclass'
      hkind (Members.get?_of_field rfl htype.ne_null) hident, hwell⟩

/-- A decorator is read. -/
theorem HasSchema.exists_decorator (hr : r.HasSchema) (hclosed : r.SchemaClosed)
    (h : r.IsInstance decoratorType v) : ∃ d, Decorator.ofDocument v = .ok d ∧ d.WellTyped := by
  obtain ⟨label, ms, rfl, hms⟩ := h
  obtain ⟨_, hfilled⟩ := (hr.conforms_root hclosed isLeaf_decoratorType).mp hms
  obtain ⟨hwithin, ⟨s, hname⟩, harguments⟩ := hr.filledBy_decorator.mp hfilled
  obtain ⟨arguments, hread, hwell⟩ :=
    exists_readList? (fun _ hw => hr.exists_argument hclosed hw) harguments
  refine ⟨⟨.str s, arguments, Members.without Decorator.knownKeys ms⟩, ?_, ⟨s, rfl⟩, hwell, ?_⟩
  · unfold Decorator.ofDocument
    rw [Members.member_object, Checked.ok_bind, Members.required_object hname Value.noConfusion,
      Checked.ok_bind, hread]
    rfl
  · exact hwithin.without_eq_nil

/-- A target is read. -/
theorem HasSchema.exists_target (hr : r.HasSchema) (hclosed : r.SchemaClosed)
    (h : r.IsInstance targetType v) :
    ∃ t, CommandTarget.ofDocument v = .ok t ∧ t.WellTyped := by
  obtain ⟨label, ms, rfl, hms⟩ := h
  obtain ⟨_, hfilled⟩ := (hr.conforms_root hclosed isLeaf_targetType).mp hms
  obtain ⟨_, hns, hdeclaration, hproperty, hproperties, htype⟩ := filledBy_target.mp hfilled
  obtain ⟨properties, hread, htexts⟩ : ∃ properties,
      readList? .ok (ms.field "properties") = .ok properties
        ∧ ∀ names ∈ properties, ∃ texts : List String, names = texts.map Value.str := by
    rcases hproperties with hnull | ⟨label, texts, hlist⟩
    · refine ⟨none, ?_, fun names hnames => absurd hnames (Option.not_mem_none names)⟩
      rw [hnull]
      rfl
    · refine ⟨some (texts.map Value.str), ?_, fun names hnames => ⟨texts, ?_⟩⟩
      · have hmapM := Checked.mapM_eq_ok_map (f := Except.ok) (g := id)
          (fun (w : Value) (_ : w ∈ texts.map Value.str) => rfl)
        rw [hlist, readList?_list, hmapM, List.map_id, Checked.map_ok]
      · exact (Option.some.inj hnames).symm
  refine ⟨⟨ms.field "namespace", ms.field "declaration", ms.field "property", properties,
    ms.field "type"⟩, ?_, hns, hdeclaration, hproperty, htexts, htype⟩
  unfold CommandTarget.ofDocument
  simp only [Members.member_object, Checked.ok_bind, hread]
  rfl

/-- A command is read. -/
theorem HasSchema.exists_command (hr : r.HasSchema) (hclosed : r.SchemaClosed)
    (h : r.IsInstance commandType v) : ∃ c, Command.ofDocument v = .ok c ∧ c.WellTyped := by
  obtain ⟨label, ms, rfl, hms⟩ := h
  obtain ⟨_, hfilled⟩ := (hr.conforms_root hclosed isLeaf_commandType).mp hms
  obtain ⟨_, htarget, hdecorator, htype⟩ := hr.filledBy_command.mp hfilled
  -- a target that is blank has no members, so that reading an empty one instead is the same
  have hblank : r.IsInstance targetType
      (if (ms.field "target").isBlank then .object none [] else ms.field "target") := by
    split
    · rename_i hblank
      obtain ⟨label, ms', heq, hms'⟩ := htarget
      rw [heq] at hblank
      rw [List.isEmpty_iff.mp hblank] at hms'
      exact ⟨none, [], rfl, hms'⟩
    · exact htarget
  obtain ⟨target, htarget, htargetWell⟩ := hr.exists_target hclosed hblank
  obtain ⟨d, hd, hdWell⟩ := hr.exists_decorator hclosed hdecorator
  refine ⟨⟨target, d, Command.readType (ms.field "type")⟩, ?_, ?_, htargetWell, hdWell⟩
  · unfold Command.ofDocument
    simp only [Members.member_object, Checked.ok_bind, htarget,
      Members.required_object rfl hdecorator.ne_null, hd]
    rfl
  · rcases htype with htype | htype
    · exact Or.inl (by rw [htype]; rfl)
    · exact Or.inr (by rw [htype]; rfl)

/-- A reference to a command set is read. -/
theorem HasSchema.exists_setReference (hr : r.HasSchema) (hclosed : r.SchemaClosed)
    (h : r.IsInstance referenceType v) :
    ∃ ref, CommandSetReference.ofDocument v = .ok ref ∧ ref.WellTyped := by
  obtain ⟨label, ms, rfl, hms⟩ := h
  obtain ⟨_, hfilled⟩ := (hr.conforms_root hclosed isLeaf_referenceType).mp hms
  obtain ⟨_, ⟨s, hname⟩, s', hversion⟩ := filledBy_setReference.mp hfilled
  refine ⟨⟨.str s, .str s'⟩, ?_, ⟨s, rfl⟩, s', rfl⟩
  unfold CommandSetReference.ofDocument
  rw [Members.required_object hname Value.noConfusion, Checked.ok_bind,
    Members.required_object hversion Value.noConfusion]
  rfl

/-- **A command set that conforms is read**, and what is read is well typed. -/
theorem HasSchema.exists_commandSet (hr : r.HasSchema) (hclosed : r.SchemaClosed)
    (h : r.IsInstance commandSetType v) :
    ∃ set, CommandSet.ofDocument v = .ok set ∧ set.WellTyped := by
  obtain ⟨label, ms, rfl, hms⟩ := h
  obtain ⟨_, hfilled⟩ := (hr.conforms_root hclosed isLeaf_commandSetType).mp hms
  obtain ⟨_, ⟨s, hname⟩, ⟨s', hversion⟩, hincludes, label', items, hcommands, hitems⟩ :=
    hr.filledBy_commandSet.mp hfilled
  obtain ⟨includes, hread, hrefs⟩ :=
    exists_readList? (fun _ hw => hr.exists_setReference hclosed hw) hincludes
  obtain ⟨commands, hmapM, hwell⟩ :=
    Checked.exists_mapM_forall (fun w hw => hr.exists_command hclosed (hitems w hw))
  refine ⟨⟨.str s, .str s', commands, includes⟩, ?_, ⟨s, rfl⟩, ⟨s', rfl⟩, hwell, hrefs⟩
  have hmember : ∀ {key : String} {w : Value}, ms.field key = w → w ≠ .null →
      (Value.object label ms).member? key = .ok (some w) :=
    fun hfield hne => congrArg Except.ok (Members.get?_of_field hfield hne)
  have hitems' : (Value.list label' items).items = .ok items := rfl
  unfold CommandSet.ofDocument
  simp only [Members.member_object, Checked.ok_bind, hmember hname Value.noConfusion,
    hmember hversion Value.noConfusion, hmember hcommands Value.noConfusion, hitems', hmapM, hread]
  rfl

end Reading

/-! ## Documents that conform -/

/-- **The class names of command sets lead to the schema.** They have no version, and no
other file has their namespace with one. -/
def Leads (r : Registry) : Prop :=
  ∀ f ∈ r.files, f.unversioned = "org.accordproject.decoratorcommands" →
    f.namespaceText = commandsNamespace

/-- The namespace of command sets without its version names the file of the schema. -/
theorem HasSchema.find_commands (hr : r.HasSchema) (hleads : r.Leads) :
    r.find "org.accordproject.decoratorcommands" = .ok (some commandsFile) := by
  have hparse : Namespace.parse "org.accordproject.decoratorcommands"
      = .ok ⟨"org.accordproject.decoratorcommands", none⟩ := by decide +kernel
  have hne : "org.accordproject.decoratorcommands" ≠ commandsNamespace := by decide
  have hnone : ∀ f ∈ r.files, f.namespaceText ≠ "org.accordproject.decoratorcommands" :=
    fun f hf htext =>
      hne (htext.symm.trans (hleads f hf (f.unversioned_eq_of_parse hparse htext)))
  obtain ⟨g, hg⟩ : ∃ g, (r.files.find? fun f =>
      f.unversioned == "org.accordproject.decoratorcommands") = some g :=
    Option.isSome_iff_exists.mp (List.find?_isSome.mpr ⟨commandsFile, hr.commands, rfl⟩)
  have hname : g.unversioned = "org.accordproject.decoratorcommands" := by
    simpa using List.find?_some hg
  have hmem := List.mem_of_find?_eq_some hg
  obtain rfl := eq_of_namespaceText hmem hr.commands (hleads g hmem hname)
  rw [find_of_unversioned hparse hnone, hg]

/-- **The class name of a type of the schema leads to it.** -/
theorem HasSchema.lookup?_commandClass (hr : r.HasSchema) (hleads : r.Leads) {t : Handle}
    (ht : IsType t) (hfile : t.file = commandsFile) :
    r.lookup? (commandClass t.declaration.name.text) = some t := by
  refine lookup?_eq_some.mpr ⟨_, _, splitTypeName_typeName (by decide) ht.2.1, ?_, ht.2.2⟩
  rw [hr.find_commands hleads, hfile]

section Writing

/-- The document of a reference to a type. -/
theorem HasSchema.isInstance_typeIdentifier (hr : r.HasSchema)
    {ident : TypeIdentifier} (h : ident.WellTyped) :
    r.IsInstance typeIdentifierType ident.toDocument := by
  have hfound : r.lookup? (metamodelClass "TypeIdentifier") = some typeIdentifierType :=
    hr.lookup?_fullName isLeaf_typeIdentifierType.1
  refine ⟨none, _, rfl, objectConforms_of_class ?_ hfound (isAssignable_self _)
    (filledBy_typeIdentifier.mpr ⟨?_, ?_, ?_⟩)⟩
  · simp [classKey]
  · exact ((Members.within_nil _).cons (by simp)).cons (by simp) |>.putSome (by simp)
  · simpa [classKey] using h.name
  · simpa [classKey] using h.namespaceName

/-- The document of an argument. -/
theorem HasSchema.isInstance_argument (hr : r.HasSchema)
    {a : Argument} (h : a.WellTyped) : r.IsInstance literalType a.toDocument := by
  have hfound : ∀ kind, r.lookup? (ArgumentKind.className kind) = some (argumentType kind) := by
    intro kind
    have hname : (argumentType kind).fullName = kind.className := by
      rcases kind with (_ | _ | _) | _ <;> rfl
    exact hname ▸ hr.lookup?_fullName (isLeaf_argumentType kind).1
  cases a with
  | literal kind value =>
    refine ⟨none, _, rfl, objectConforms_of_class ?_ (hfound _)
      (hr.isAssignable_argumentType _) ((hr.filledBy_literal kind).mpr ⟨?_, ?_⟩)⟩
    · simp [classKey]
    · exact ((Members.within_nil _).cons (by simp)).cons (by simp)
    · have hvalue : kind.primitive.admits value = true := h
      simpa [classKey] using hvalue
  | reference type isArray =>
    refine ⟨none, _, rfl, objectConforms_of_class ?_ (hfound _)
      (hr.isAssignable_argumentType _) (hr.filledBy_reference.mpr ⟨?_, ?_, Or.inr ?_⟩)⟩
    · simp [classKey]
    · exact (((Members.within_nil _).cons (by simp)).cons (by simp)).cons (by simp)
    · simpa [classKey] using hr.isInstance_typeIdentifier h
    · simp [classKey, Primitive.admits]

/-- The document of a decorator. -/
theorem HasSchema.isInstance_decorator (hr : r.HasSchema)
    {d : Decorator} (h : d.WellTyped) : r.IsInstance decoratorType d.toDocument := by
  have hfound : r.lookup? (metamodelClass "Decorator") = some decoratorType :=
    hr.lookup?_fullName isLeaf_decoratorType.1
  unfold Decorator.toDocument
  rw [h.extras]
  refine ⟨none, _, rfl, objectConforms_of_class ?_ hfound (isAssignable_self _)
    (hr.filledBy_decorator.mpr ⟨?_, ?_, ?_⟩)⟩
  · simp [Members.putAll, classKey]
  · exact (((Members.within_nil _).cons (by simp)).cons (by simp)).putSome (by simp)
  · simpa [Members.putAll, classKey] using h.name
  · cases hargs : d.arguments with
    | none => exact Or.inl (by simp [Members.putAll, classKey])
    | some args =>
      refine Or.inr ⟨none, args.map Argument.toDocument, by simp [Members.putAll, classKey], ?_⟩
      intro w hw
      obtain ⟨a, ha, rfl⟩ := List.mem_map.mp hw
      exact hr.isInstance_argument (h.arguments args hargs a ha)

variable (hr : r.HasSchema) (hleads : r.Leads)

include hr hleads

/-- The document of a target. -/
theorem HasSchema.isInstance_target {t : CommandTarget} (h : t.WellTyped) :
    r.IsInstance targetType t.toDocument := by
  have hfound := hr.lookup?_commandClass hleads isLeaf_targetType.1 rfl
  refine ⟨none, _, rfl, objectConforms_of_class ?_ hfound (isAssignable_self _)
    (filledBy_target.mpr ⟨?_, ?_, ?_, ?_, ?_, ?_⟩)⟩
  · simp [classKey]
    rfl
  · refine .putSome (.putSome (.putSome (.putSome (.putSome (.cons (Members.within_nil _)
      ?_) ?_) ?_) ?_) ?_) ?_ <;> simp
  · simpa [classKey] using h.namespaceName
  · simpa [classKey] using h.declaration
  · simpa [classKey] using h.property
  · cases hproperties : t.properties with
    | none => exact Or.inl (by simp [classKey])
    | some names =>
      obtain ⟨texts, rfl⟩ := h.properties names hproperties
      exact Or.inr ⟨none, texts, by simp [classKey]⟩
  · simpa [classKey] using h.type

/-- The document of a command. -/
theorem HasSchema.isInstance_command {c : Command} (h : c.WellTyped) :
    r.IsInstance commandType c.toDocument := by
  have hfound := hr.lookup?_commandClass hleads isLeaf_commandType.1 rfl
  refine ⟨none, _, rfl, objectConforms_of_class ?_ hfound (isAssignable_self _)
    (hr.filledBy_command.mpr ⟨?_, ?_, ?_, ?_⟩)⟩
  · simp [classKey]
    rfl
  · refine .cons (.cons (.cons (.cons (Members.within_nil _) ?_) ?_) ?_) ?_ <;> simp
  · simpa [classKey] using hr.isInstance_target hleads h.target
  · simpa [classKey] using hr.isInstance_decorator h.decorator
  · rcases h.type with htype | htype
    · exact Or.inl (by simp [htype, classKey, CommandType.toValue])
    · exact Or.inr (by simp [htype, classKey, CommandType.toValue])

/-- The document of a reference to a command set. -/
theorem HasSchema.isInstance_setReference {ref : CommandSetReference} (h : ref.WellTyped) :
    r.IsInstance referenceType ref.toDocument := by
  have hfound := hr.lookup?_commandClass hleads isLeaf_referenceType.1 rfl
  refine ⟨none, _, rfl, objectConforms_of_class ?_ hfound (isAssignable_self _)
    (filledBy_setReference.mpr ⟨?_, ?_, ?_⟩)⟩
  · simp [classKey]
    rfl
  · refine .cons (.cons (.cons (Members.within_nil _) ?_) ?_) ?_ <;> simp
  · simpa [classKey] using h.name
  · simpa [classKey] using h.version

/-- **The document of a well-typed command set conforms.** -/
theorem HasSchema.isInstance_commandSet {set : CommandSet} (h : set.WellTyped) :
    r.IsInstance commandSetType set.toDocument := by
  have hfound := hr.lookup?_commandClass hleads isLeaf_commandSetType.1 rfl
  refine ⟨none, _, rfl, objectConforms_of_class ?_ hfound (isAssignable_self _)
    (hr.filledBy_commandSet.mpr ⟨?_, ?_, ?_, ?_, ?_⟩)⟩
  · simp [classKey]
    rfl
  · refine .put (.putSome (.cons (.cons (.cons (Members.within_nil _) ?_) ?_) ?_) ?_) ?_ <;> simp
  · simpa [classKey] using h.name
  · simpa [classKey] using h.version
  · cases hincludes : set.includes with
    | none => exact Or.inl (by simp [classKey])
    | some refs =>
      refine Or.inr ⟨none, refs.map CommandSetReference.toDocument, ?_, fun w hw => ?_⟩
      · simp [classKey, CommandSet.referencesDocument]
      · obtain ⟨ref, href, rfl⟩ := List.mem_map.mp hw
        exact hr.isInstance_setReference hleads (h.includes refs hincludes ref href)
  · refine ⟨none, set.commands.map Command.toDocument, by simp [classKey], fun w hw => ?_⟩
    obtain ⟨c, hc, rfl⟩ := List.mem_map.mp hw
    exact hr.isInstance_command hleads (h.commands c hc)

end Writing

end Registry

end DecoratorSets
