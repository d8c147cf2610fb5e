import DecoratorSets.Metamodel.Wire
import DecoratorSets.Proofs.Checked
import DecoratorSets.Proofs.Members
import DecoratorSets.Proofs.Names

/-!
# What nodes are read from

A node is read from the members of an object, and what they have to be is a predicate
for each type of node: `Decorator.ReadFrom`, `Property.ReadFrom`, `Declaration.ReadFrom`
and `Model.ReadFrom`. A reader accepts objects alone, and it gives a node exactly if the
node can be read from their members (`Declaration.ofDocument_eq_ok` and its like).

Members that are left out and members that are null are the same to most readers, a flag
is set by any value that is not blank, and whatever has items passes for a list.
-/

namespace DecoratorSets

/-! ## Looking into objects -/

section Looking

variable {v w : Value} {key : String}

theorem member_eq_ok : v.member key = .ok w
    ↔ ∃ label ms, v = .object label ms ∧ Members.field ms key = w := by
  constructor
  · intro h
    cases v with
    | object label ms => exact ⟨label, ms, rfl, Except.ok.inj h⟩
    | _ => cases h
  · rintro ⟨label, ms, rfl, rfl⟩
    rfl

theorem required_object_eq_ok {label : Option Label} {ms : Members} :
    (Value.object label ms).required key = .ok w ↔ ms.get? key = some w := by
  unfold Value.required
  cases hget : ms.get? key with
  | none => simp [hget]
  | some v => simp [hget]

theorem required_eq_ok : v.required key = .ok w
    ↔ ∃ label ms, v = .object label ms ∧ Members.get? ms key = some w := by
  constructor
  · intro h
    cases v with
    | object label ms => exact ⟨label, ms, rfl, required_object_eq_ok.mp h⟩
    | _ => cases h
  · rintro ⟨label, ms, rfl, hget⟩
    exact required_object_eq_ok.mpr hget

/-- What is written if it is there is read again. -/
@[simp] theorem Value.getD_ifPresent (v : Value) : v.ifPresent.getD .null = v := by
  cases v <;> rfl

theorem classOf_object {label : Option Label} {ms : Members} {className : String} :
    classOf (.object label ms) = .ok className ↔ ms.get? classKey = some (.str className) := by
  unfold classOf
  rw [Members.member_object, Checked.ok_bind]
  constructor
  · intro h
    split at h
    · rename_i s hfield
      rw [← Except.ok.inj h]
      exact Members.get?_of_field hfield Value.noConfusion
    · cases h
  · intro h
    unfold Members.field
    rw [h]
    rfl

end Looking

/-! ## Lists -/

section Lists

variable {α : Type} {read : Value → Checked α}

/-- A list is read item by item. -/
theorem readList?_list (read : Value → Checked α) (label : Option Label)
    (items : List Value) : readList? read (.list label items) = some <$> items.mapM read := rfl

/-- **An optional list is read** from a value that is null, or from one whose items are
read. -/
theorem readList?_eq_ok {data : Value} {found : Option (List α)} :
    readList? read data = .ok found ↔ (data = .null ∧ found = none)
      ∨ ∃ items xs, data ≠ .null ∧ data.items = .ok items ∧ items.mapM read = .ok xs
        ∧ found = some xs := by
  by_cases hnull : data = .null
  · subst hnull
    have hread : readList? read .null = .ok none := rfl
    rw [hread]
    constructor
    · intro h
      exact Or.inl ⟨rfl, (Except.ok.inj h).symm⟩
    · rintro (⟨-, rfl⟩ | ⟨_, _, hne, -⟩)
      · rfl
      · exact absurd rfl hne
  · have hread : readList? read data = do return some (← (← data.items).mapM read) := by
      cases data <;> first | rfl | exact absurd rfl hnull
    rw [hread]
    simp only [Checked.bind_eq_ok, Checked.pure_eq_ok]
    constructor
    · rintro ⟨items, hitems, xs, hxs, rfl⟩
      exact Or.inr ⟨items, xs, hnull, hitems, hxs, rfl⟩
    · rintro (⟨heq, -⟩ | ⟨items, xs, -, hitems, hxs, rfl⟩)
      · exact absurd heq hnull
      · exact ⟨items, hitems, xs, hxs, rfl⟩

end Lists

/-! ## Class names -/

/-- The class name of a kind stands for it. -/
theorem kindOfClass_typeName {α : Type} {kinds : List α} {nameOf : α → String} {kind : α}
    (family ns : String) (hkind : kind ∈ kinds) (hdot : '.' ∉ (nameOf kind).toList)
    (hinj : ∀ other ∈ kinds, nameOf other = nameOf kind → other = kind) :
    kindOfClass family kinds nameOf (typeName ns (nameOf kind)) = .ok kind := by
  have hfind : (kinds.find? fun other => nameOf other == nameOf kind) = some kind := by
    cases hfound : kinds.find? fun other => nameOf other == nameOf kind with
    | none =>
      exact absurd (beq_self_eq_true (nameOf kind)) (List.find?_eq_none.mp hfound kind hkind)
    | some found =>
      have hname : nameOf found = nameOf kind := by simpa using List.find?_some hfound
      rw [hinj found (List.mem_of_find?_eq_some hfound) hname]
  unfold kindOfClass
  rw [shortName_typeName ns hdot, hfind]

theorem DeclarationKind.ofClassName_className (kind : DeclarationKind) :
    ofClassName kind.className = .ok kind := by
  refine kindOfClass_typeName _ _ ?_ ?_ ?_ <;> cases kind <;> decide

theorem PropertyKind.ofClassName_className (kind : PropertyKind) :
    ofClassName kind.className = .ok kind := by
  refine kindOfClass_typeName _ _ ?_ ?_ ?_ <;> cases kind <;> decide

theorem ArgumentKind.ofClassName_className (kind : ArgumentKind) :
    ofClassName kind.className = .ok kind := by
  refine kindOfClass_typeName _ _ ?_ ?_ ?_ <;> rcases kind with (_ | _ | _) | _ <;> decide

/-! ## References and arguments -/

section

variable {label : Option Label} {ms : Members}

theorem flag_object (label : Option Label) (ms : Members) (key : String) :
    flag (.object label ms) key = .ok (!(ms.field key).isBlank) := rfl

theorem TypeIdentifier.ofDocument_object {name : Value} (h : ms.get? "name" = some name) :
    ofDocument (.object label ms) = .ok ⟨name, ms.field "namespace"⟩ := by
  unfold ofDocument
  rw [required_object_eq_ok.mpr h]
  rfl

/-- An object with a class is not bare. -/
theorem Argument.isBare_of_class {className : Value} (h : ms.get? classKey = some className) :
    isBare (.object label ms) = .ok false := by
  have hhas : (Value.object label ms).holds classKey = .ok true := by
    show Except.ok (ms.has classKey) = _
    rw [Members.has_eq_isSome_get?, h]
    rfl
  unfold isBare
  rw [hhas]
  rfl

variable {className : String}

/-- A literal is read by the kind that its class names. -/
theorem Argument.ofDocument_literal {kind : LiteralKind} {value : Value}
    (hclass : ms.get? classKey = some (.str className))
    (hkind : ArgumentKind.ofClassName className = .ok (.literal kind))
    (hvalue : ms.get? "value" = some value) :
    ofDocument (.object label ms) = .ok (.literal kind value) := by
  unfold ofDocument
  simp only [isBare_of_class hclass, classOf_object.mpr hclass, Checked.ok_bind, hkind,
    required_object_eq_ok.mpr hvalue]
  rfl

/-- A reference is read from the document of its type. -/
theorem Argument.ofDocument_reference {data : Value} {type : TypeIdentifier}
    (hclass : ms.get? classKey = some (.str className))
    (hkind : ArgumentKind.ofClassName className = .ok .typeReference)
    (hdata : ms.get? "type" = some data) (htype : TypeIdentifier.ofDocument data = .ok type) :
    ofDocument (.object label ms) = .ok (.reference type (!(ms.field "isArray").isBlank)) := by
  unfold ofDocument
  simp only [isBare_of_class hclass, classOf_object.mpr hclass, Checked.ok_bind, hkind,
    required_object_eq_ok.mpr hdata, htype]
  rfl

end

/-! ## Decorators -/

/-- **What a decorator is read from.** Its class does not matter. -/
structure Decorator.ReadFrom (d : Decorator) (ms : Members) : Prop where
  name : ms.get? "name" = some d.name
  arguments : readList? Argument.ofDocument (ms.field "arguments") = .ok d.arguments
  extras : ms.without knownKeys = d.extras

theorem Decorator.ofDocument_object {label : Option Label} {ms : Members} {d : Decorator} :
    ofDocument (.object label ms) = .ok d ↔ d.ReadFrom ms := by
  unfold ofDocument
  simp only [Members.member_object, Checked.ok_bind, Checked.bind_eq_ok, required_object_eq_ok,
    Value.members, Checked.pure_eq_ok]
  constructor
  · rintro ⟨name, hname, arguments, harguments, rfl⟩
    exact ⟨hname, harguments, rfl⟩
  · intro h
    exact ⟨d.name, h.name, d.arguments, h.arguments, by rw [h.extras]⟩

theorem Decorator.ofDocument_eq_ok {data : Value} {d : Decorator} : ofDocument data = .ok d
    ↔ ∃ label ms, data = .object label ms ∧ d.ReadFrom ms := by
  constructor
  · intro h
    obtain ⟨_, hmember, -⟩ := Checked.bind_eq_ok.mp h
    obtain ⟨label, ms, rfl, -⟩ := member_eq_ok.mp hmember
    exact ⟨label, ms, rfl, ofDocument_object.mp h⟩
  · rintro ⟨label, ms, rfl, hd⟩
    exact ofDocument_object.mpr hd

/-! ## Properties -/

/-- **What a property is read from.** -/
structure Property.ReadFrom (p : Property) (ms : Members) : Prop where
  kind : ∃ className, ms.get? classKey = some (.str className)
    ∧ PropertyKind.ofClassName className = .ok p.kind
  name : ms.get? "name" = some p.name
  isArray : (!(ms.field "isArray").isBlank) = p.isArray
  isOptional : (!(ms.field "isOptional").isBlank) = p.isOptional
  type : TypeIdentifier.ofDocument? (ms.field "type") = .ok p.type
  decorators : readList? Decorator.ofDocument (ms.field "decorators") = .ok p.decorators
  extras : ms.without knownKeys = p.extras

theorem Property.ofDocument_object {label : Option Label} {ms : Members} {p : Property} :
    ofDocument (.object label ms) = .ok p ↔ p.ReadFrom ms := by
  unfold ofDocument
  simp only [Decorator.listOf, Members.member_object, Checked.ok_bind, Checked.bind_eq_ok,
    required_object_eq_ok, classOf_object, flag_object, Value.members, Checked.pure_eq_ok]
  constructor
  · rintro ⟨className, hclass, kind, hkind, name, hname, type, htype, decorators, hdecorators,
      rfl⟩
    exact ⟨⟨className, hclass, hkind⟩, hname, rfl, rfl, htype, hdecorators, rfl⟩
  · intro h
    obtain ⟨className, hclass, hkind⟩ := h.kind
    exact ⟨className, hclass, p.kind, hkind, p.name, h.name, p.type, h.type, p.decorators,
      h.decorators, by rw [h.isArray, h.isOptional, h.extras]⟩

/-- What has a class is an object. -/
theorem exists_object_of_classOf {data : Value} {className : String}
    (h : classOf data = .ok className) : ∃ label ms, data = .object label ms := by
  obtain ⟨_, hmember, -⟩ := Checked.bind_eq_ok.mp h
  obtain ⟨label, ms, rfl, -⟩ := member_eq_ok.mp hmember
  exact ⟨label, ms, rfl⟩

theorem Property.ofDocument_eq_ok {data : Value} {p : Property} : ofDocument data = .ok p
    ↔ ∃ label ms, data = .object label ms ∧ p.ReadFrom ms := by
  constructor
  · intro h
    obtain ⟨_, hclass, -⟩ := Checked.bind_eq_ok.mp h
    obtain ⟨label, ms, rfl⟩ := exists_object_of_classOf hclass
    exact ⟨label, ms, rfl, ofDocument_object.mp h⟩
  · rintro ⟨label, ms, rfl, hp⟩
    exact ofDocument_object.mpr hp

/-! ## Declarations -/

/-- **What a declaration is read from.** -/
structure Declaration.ReadFrom (d : Declaration) (ms : Members) : Prop where
  kind : ∃ className, ms.get? classKey = some (.str className)
    ∧ DeclarationKind.ofClassName className = .ok d.kind
  name : ms.get? "name" = some d.name
  properties : readList? Property.ofDocument (ms.field "properties") = .ok d.properties
  isAbstract : (!(ms.field "isAbstract").isBlank) = d.isAbstract
  superType : TypeIdentifier.ofDocument? (ms.field "superType") = .ok d.superType
  decorators : readList? Decorator.ofDocument (ms.field "decorators") = .ok d.decorators
  extras : ms.without knownKeys = d.extras

theorem Declaration.ofDocument_object {label : Option Label} {ms : Members} {d : Declaration} :
    ofDocument (.object label ms) = .ok d ↔ d.ReadFrom ms := by
  unfold ofDocument
  simp only [Decorator.listOf, Members.member_object, Checked.ok_bind, Checked.bind_eq_ok,
    required_object_eq_ok, classOf_object, flag_object, Value.members, Checked.pure_eq_ok]
  constructor
  · rintro ⟨className, hclass, kind, hkind, name, hname, properties, hproperties, superType,
      hsuperType, decorators, hdecorators, rfl⟩
    exact ⟨⟨className, hclass, hkind⟩, hname, hproperties, rfl, hsuperType, hdecorators, rfl⟩
  · intro h
    obtain ⟨className, hclass, hkind⟩ := h.kind
    exact ⟨className, hclass, d.kind, hkind, d.name, h.name, d.properties, h.properties,
      d.superType, h.superType, d.decorators, h.decorators, by rw [h.isAbstract, h.extras]⟩

theorem Declaration.ofDocument_eq_ok {data : Value} {d : Declaration} : ofDocument data = .ok d
    ↔ ∃ label ms, data = .object label ms ∧ d.ReadFrom ms := by
  constructor
  · intro h
    obtain ⟨_, hclass, -⟩ := Checked.bind_eq_ok.mp h
    obtain ⟨label, ms, rfl⟩ := exists_object_of_classOf hclass
    exact ⟨label, ms, rfl, ofDocument_object.mp h⟩
  · rintro ⟨label, ms, rfl, hd⟩
    exact ofDocument_object.mpr hd

/-! ## Models -/

/-- **What a model is read from.** Its class does not matter either. -/
structure Model.ReadFrom (m : Model) (ms : Members) : Prop where
  namespaceName : ms.get? "namespace" = some m.namespaceName
  declarations : (∃ v items, ms.get? "declarations" = some v ∧ v.items = .ok items
      ∧ items.mapM Declaration.ofDocument = .ok m.declarations)
    ∨ (ms.get? "declarations" = none ∧ m.declarations = [])
  decorators : readList? Decorator.ofDocument (ms.field "decorators") = .ok m.decorators
  extras : ms.without knownKeys = m.extras

theorem Model.ofDocument_object {label : Option Label} {ms : Members} {m : Model} :
    ofDocument (.object label ms) = .ok m ↔ m.ReadFrom ms := by
  have hholds : (Value.object label ms).holds "namespace"
      = .ok (ms.get? "namespace").isSome :=
    congrArg Except.ok (Members.has_eq_isSome_get? ms "namespace")
  have hmember : (Value.object label ms).member? "declarations" = .ok (ms.get? "declarations") :=
    rfl
  unfold ofDocument
  rw [hholds]
  cases hns : ms.get? "namespace" with
  | none =>
    refine iff_of_false nofun fun h => ?_
    rw [h.namespaceName] at hns
    cases hns
  | some ns =>
    have hrequired : (Value.object label ms).required "namespace" = .ok ns :=
      required_object_eq_ok.mpr hns
    simp only [Decorator.listOf, Members.member_object, Checked.ok_bind, hmember, hrequired,
      Value.members, Option.isSome_some, Bool.not_true, Bool.false_eq_true, if_false]
    cases hdecls : ms.get? "declarations" with
    | none =>
      simp only [Checked.pure_ok, Checked.ok_bind, Checked.bind_eq_ok, Except.ok.injEq]
      constructor
      · rintro ⟨decorators, hdecorators, rfl⟩
        exact ⟨hns, Or.inr ⟨hdecls, rfl⟩, hdecorators, rfl⟩
      · intro h
        rcases h.declarations with ⟨_, _, hget, -⟩ | ⟨-, hnil⟩
        · rw [hdecls] at hget
          cases hget
        · refine ⟨m.decorators, h.decorators, ?_⟩
          rw [Option.some.inj (hns.symm.trans h.namespaceName), ← hnil, h.extras]
    | some v =>
      simp only [Checked.bind_eq_ok, Checked.pure_eq_ok]
      constructor
      · rintro ⟨items, hitems, declarations, hmapM, decorators, hdecorators, rfl⟩
        exact ⟨hns, Or.inl ⟨v, items, hdecls, hitems, hmapM⟩, hdecorators, rfl⟩
      · intro h
        rcases h.declarations with ⟨_, items, hget, hitems, hmapM⟩ | ⟨hget, -⟩
        · obtain rfl := Option.some.inj (hdecls.symm.trans hget)
          refine ⟨items, hitems, m.declarations, hmapM, m.decorators, h.decorators, ?_⟩
          rw [Option.some.inj (hns.symm.trans h.namespaceName), h.extras]
        · rw [hdecls] at hget
          cases hget

theorem Model.ofDocument_eq_ok {data : Value} {m : Model} : ofDocument data = .ok m
    ↔ ∃ label ms, data = .object label ms ∧ m.ReadFrom ms := by
  constructor
  · intro h
    obtain ⟨holds, hholds, h'⟩ := Checked.bind_eq_ok.mp h
    cases holds with
    | false => cases h'
    | true =>
      obtain ⟨_, hrequired, -⟩ := Checked.bind_eq_ok.mp h'
      obtain ⟨label, ms, rfl, -⟩ := required_eq_ok.mp hrequired
      exact ⟨label, ms, rfl, ofDocument_object.mp h⟩
  · rintro ⟨label, ms, rfl, hm⟩
    exact ofDocument_object.mpr hm

/-- A document of models is read model by model. -/
theorem Models.ofDocument_object {label label' : Option Label} {ms : Members} {items : List Value}
    (hclass : ms.get? classKey = some (.str (metamodelClass "Models")))
    (hmodels : ms.get? "models" = some (.list label' items)) :
    ofDocument (.object label ms) = Models.mk <$> items.mapM Model.ofDocument := by
  have hmember : (Value.object label ms).member classKey
      = .ok (.str (metamodelClass "Models")) := by
    rw [Members.member_object, Members.field, hclass, Option.getD_some]
  have hholds : (Value.object label ms).holds "models" = .ok true := by
    show Except.ok (ms.has "models") = _
    rw [Members.has_eq_isSome_get?, hmodels, Option.isSome_some]
  have hother : (Value.str (metamodelClass "Models") == .str Model.className) = false := by
    decide
  have hitems : (Value.list label' items).items = .ok items := rfl
  unfold ofDocument
  simp only [hmember, hholds, Checked.ok_bind, hother, Bool.false_or, Bool.not_true,
    Bool.false_eq_true, if_false, required_object_eq_ok.mpr hmodels, hitems]
  rfl

/-- Each model of a document is read from a document that is a part of it, or all of it. -/
theorem Models.exists_of_ofDocument {data : Value} {ms : Models} (h : ofDocument data = .ok ms) :
    (∃ m, ms.models = [m] ∧ Model.ofDocument data = .ok m)
      ∨ ∃ v items, data.required "models" = .ok v ∧ v.items = .ok items
        ∧ items.mapM Model.ofDocument = .ok ms.models := by
  obtain ⟨className, -, h⟩ := Checked.bind_eq_ok.mp h
  obtain ⟨_, -, h⟩ := Checked.bind_eq_ok.mp h
  split at h
  · obtain ⟨m, hm, h⟩ := Checked.bind_eq_ok.mp h
    obtain rfl := Checked.pure_eq_ok.mp h
    exact Or.inl ⟨m, rfl, hm⟩
  · obtain ⟨v, hv, h⟩ := Checked.bind_eq_ok.mp h
    obtain ⟨items, hitems, h⟩ := Checked.bind_eq_ok.mp h
    obtain ⟨models, hmodels, h⟩ := Checked.bind_eq_ok.mp h
    obtain rfl := Checked.pure_eq_ok.mp h
    exact Or.inr ⟨v, items, hv, hitems, hmodels⟩

end DecoratorSets
