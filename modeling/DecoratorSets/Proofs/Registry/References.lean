import DecoratorSets.Proofs.Registry.Snapshots

/-!
# Where references are resolved

References stand at several depths of a model: a declaration refers to its super type, a
property to its type, and any decorator, of the model, a declaration or a property, may
have references among its arguments. Each may omit its namespace. A resolved snapshot is to
have it filled in wherever the file of the model tells it.

It is filled in outside decorators, and only there. A super type or a property type without
a namespace gets the one that a lookup inside the file finds
(`ModelFile.resolveReference?_of_outside`); an argument of a decorator is left as it was
(`ModelFile.reference?_of_inside`), though the name may well be declared in the same file.
So a reference that can be resolved is qualified in the snapshot exactly if it stands
outside decorators (`Registry.qualified_iff_of_resolvedModels`).
-/

namespace DecoratorSets

/-! ## Places of references -/

/-- **What holds decorators** in a model, by its position. -/
inductive Holder where
  | model
  | declaration (i : ℕ)
  | property (i j : ℕ)

/-- **Where a reference stands** in a model: it is a super type, the type of a property, or
an argument of a decorator. -/
inductive ReferencePlace where
  | superType (i : ℕ)
  | propertyType (i j : ℕ)
  | argument (holder : Holder) (k l : ℕ)

/-- Whether a reference is an argument of a decorator. -/
def ReferencePlace.isInside : ReferencePlace → Bool
  | .argument _ _ _ => true
  | _ => false

/-- The reference that an argument is, if it is one. -/
def Argument.reference? : Argument → Option TypeIdentifier
  | .reference type _ => some type
  | .literal _ _ => none

namespace Model

/-- The property at a position of a declaration at a position. -/
def propertyAt? (m : Model) (i j : ℕ) : Option Property :=
  m.declarations[i]?.bind fun d => d.ownProperties[j]?

/-- The decorators of a holder. -/
def decoratorsOf (m : Model) : Holder → Option (List Decorator)
  | .model => m.decorators
  | .declaration i => m.declarations[i]?.bind Declaration.decorators
  | .property i j => (m.propertyAt? i j).bind Property.decorators

/-- **The reference at a place**, if there is one. -/
def reference? (m : Model) : ReferencePlace → Option TypeIdentifier
  | .superType i => m.declarations[i]?.bind Declaration.superType
  | .propertyType i j => (m.propertyAt? i j).bind Property.type
  | .argument holder k l => do
    let d ← (← m.decoratorsOf holder)[k]?
    let a ← (← d.arguments)[l]?
    a.reference?

end Model

/-! ## Elements of a resolved model -/

section Positions

variable {α β γ : Type} {rel : α → β → Prop}

/-- What is read alike off related elements is the same. -/
theorem bind_eq_bind_of_rel {x : Option α} {y : Option β} (h : Option.Rel rel x y)
    {g : α → Option γ} {g' : β → Option γ} (hg : ∀ a b, rel a b → g' b = g a) :
    y.bind g' = x.bind g := by
  cases h with
  | none => rfl
  | some hab => exact hg _ _ hab

end Positions

namespace ModelFile

variable {f : ModelFile} {m : Model}

theorem decorators_of_resolvedModel (h : f.resolvedModel = .ok m) :
    m.decorators = f.decorators := by
  obtain ⟨ds, -, h⟩ := Checked.bind_eq_ok.mp h
  rw [← Checked.pure_eq_ok.mp h]
  rfl

/-- The declarations of a resolved model are resolved, each at its place. -/
theorem rel_declarations (h : f.resolvedModel = .ok m) (i : ℕ) :
    Option.Rel (fun d d' => f.resolveDeclaration d = .ok d') f.declarations[i]?
      m.declarations[i]? :=
  rel_getElem?_of_forall₂ (declarations_of_resolvedModel h) i

theorem rel_propertyAt? (h : f.resolvedModel = .ok m) (i j : ℕ) :
    Option.Rel (fun p p' => f.resolveProperty p = .ok p') (f.toModel.propertyAt? i j)
      (m.propertyAt? i j) := by
  have hrel := rel_declarations h i
  unfold Model.propertyAt?
  show Option.Rel _ (f.declarations[i]?.bind fun d => d.ownProperties[j]?) _
  generalize f.declarations[i]? = d at hrel
  generalize m.declarations[i]? = d' at hrel
  cases hrel with
  | none => exact .none
  | some hd => exact rel_ownProperties hd j

/-- **Resolving leaves all decorators**, of whatever holds them. -/
theorem decoratorsOf_of_resolvedModel (h : f.resolvedModel = .ok m) (holder : Holder) :
    m.decoratorsOf holder = f.toModel.decoratorsOf holder := by
  cases holder with
  | model => exact decorators_of_resolvedModel h
  | declaration i =>
    refine bind_eq_bind_of_rel (rel_declarations h i) fun d d' hd => ?_
    obtain ⟨_, _, _, _, rfl⟩ := resolveDeclaration_eq_ok.mp hd
    rfl
  | property i j =>
    refine bind_eq_bind_of_rel (rel_propertyAt? h i j) fun p p' hp => ?_
    rw [← (resolveProperty_eq_ok.mp hp).2]

/-- **A reference inside a decorator is left as it was.** -/
theorem reference?_of_inside (h : f.resolvedModel = .ok m) {place : ReferencePlace}
    (hplace : place.isInside = true) : m.reference? place = f.toModel.reference? place := by
  cases place with
  | argument holder k l => rw [Model.reference?, Model.reference?, decoratorsOf_of_resolvedModel h]
  | _ => cases hplace

/-- An optional reference of related elements is resolved, if it is in each. -/
theorem resolveReference?_bind {α : Type} {rel : α → α → Prop} {x y : Option α}
    (h : Option.Rel rel x y) {g : α → Option TypeIdentifier}
    (hg : ∀ a b, rel a b → f.resolveReference? (g a) = .ok (g b)) :
    f.resolveReference? (x.bind g) = .ok (y.bind g) := by
  cases h with
  | none => rfl
  | some hab => exact hg _ _ hab

/-- **A reference outside decorators is resolved.** -/
theorem resolveReference?_of_outside (h : f.resolvedModel = .ok m) {place : ReferencePlace}
    (hplace : place.isInside = false) :
    f.resolveReference? (f.toModel.reference? place) = .ok (m.reference? place) := by
  cases place with
  | superType i =>
    refine resolveReference?_bind (rel_declarations h i) fun d d' hd => ?_
    obtain ⟨superType, _, hsuper, _, rfl⟩ := resolveDeclaration_eq_ok.mp hd
    exact hsuper
  | propertyType i j =>
    exact resolveReference?_bind (rel_propertyAt? h i j)
      fun p p' hp => (resolveProperty_eq_ok.mp hp).1
  | argument holder k l => cases hplace

/-- A reference outside decorators gets the namespace of its name. -/
theorem reference?_of_outside (h : f.resolvedModel = .ok m) {place : ReferencePlace}
    (hplace : place.isInside = false) {name ns : Value}
    (hident : f.toModel.reference? place = some ⟨name, .null⟩)
    (hns : f.namespaceFor name = .ok ns) : m.reference? place = some ⟨name, ns⟩ := by
  have hresolved := resolveReference?_of_outside h hplace
  rw [hident] at hresolved
  obtain ⟨ident', hident', hfound⟩ := Checked.map_eq_ok.mp hresolved
  obtain ⟨found, hfound', hident'⟩ := Checked.bind_eq_ok.mp hident'
  obtain rfl := Except.ok.inj (hns.symm.trans hfound')
  rw [← hfound, ← Checked.pure_eq_ok.mp hident']

end ModelFile

namespace Registry

variable {r : Registry} {f : ModelFile}

/-- A reference without a namespace refers to the type of its name in the namespace that
its file tells. -/
theorem resolve_of_namespaceFor {name ns : Value} (hns : f.namespaceFor name = .ok ns)
    (hne : ns ≠ .null) :
    r.resolve f ⟨name, .null⟩ = r.getType (typeName ns.text name.text) := by
  rw [resolve_of_blank name rfl, hns, Checked.ok_bind]
  cases ns with
  | null => exact absurd rfl hne
  | _ => rfl

/-- **References that can be resolved are qualified outside decorators**, and only there.
Each file of the registry has its model in the resolved snapshot, and at each of its
references that omit their namespace: if the file tells the namespace, which is then the
one that a lookup of the reference uses, the reference at the same place of the snapshot
carries it exactly if it is no argument of a decorator. -/
theorem qualified_iff_of_resolvedModels {ms : Models} (h : r.resolvedModels = .ok ms) {n : ℕ}
    (hf : r.files[n]? = some f) :
    ∃ m, ms.models[n]? = some m ∧ ∀ place name,
      f.toModel.reference? place = some ⟨name, .null⟩ → ∀ ns, f.namespaceFor name = .ok ns →
        ns ≠ .null → r.resolve f ⟨name, .null⟩ = r.getType (typeName ns.text name.text)
          ∧ (m.reference? place = some ⟨name, ns⟩ ↔ place.isInside = false) := by
  obtain ⟨models, hmodels, h⟩ := Checked.bind_eq_ok.mp h
  obtain rfl := Checked.pure_eq_ok.mp h
  have hrel := rel_getElem?_of_forall₂ (Checked.mapM_eq_ok.mp hmodels) n
  rw [hf] at hrel
  obtain ⟨m, hm, hfm⟩ : ∃ m, models[n]? = some m ∧ f.resolvedModel = .ok m := by
    generalize models[n]? = found at hrel
    cases hrel with
    | some hfm => exact ⟨_, rfl, hfm⟩
  refine ⟨m, hm, fun place name hident ns hns hne =>
    ⟨resolve_of_namespaceFor hns hne, fun hqualified => ?_, fun hplace =>
      ModelFile.reference?_of_outside hfm hplace hident hns⟩⟩
  cases hplace : place.isInside with
  | false => rfl
  | true =>
    rw [ModelFile.reference?_of_inside hfm hplace, hident, Option.some.injEq] at hqualified
    exact absurd (congrArg TypeIdentifier.namespaceName hqualified).symm hne

end Registry

/-! ## People, owned by people -/

namespace Staff

/-- A decorator that refers to people by their short name. -/
def owner : Decorator := ⟨.str "Owner", some [.reference ⟨.str "Person", .null⟩ false], []⟩

/-- A declaration with a super type, if there is one, and an owner. -/
def owned (name : String) (superType : Option TypeIdentifier) : Declaration :=
  ⟨.str name, .concept, some [], false, superType, some [owner], []⟩

/-- A file that declares people, and employees, who are people. -/
def staffFile : ModelFile where
  namespaceText := "org.acme@1.0.0"
  info := ⟨"org.acme", some "1.0.0"⟩
  declarations := [owned "Person" none, owned "Employee" (some ⟨.str "Person", .null⟩)]
  decorators := none
  extras := []
  parse_eq := Namespace.parse_acme

/-- The registry of the file. -/
def registry : Registry where
  strict := false
  files := [staffFile]
  distinct := by
    show ["org.acme@1.0.0"].Nodup
    decide

/-- The resolved snapshot: the super type of employees has a namespace. -/
def snapshot : Models where
  models := [{ staffFile.toModel with
    declarations := [owned "Person" none,
      owned "Employee" (some ⟨.str "Person", .str "org.acme@1.0.0"⟩)] }]

/-- The place of the owner of employees. -/
def ownerPlace : ReferencePlace := .argument (.declaration 1) 0 0

/-- The super type of employees is qualified, and their owner is not. -/
theorem qualified_iff_of_resolvedModels_staff :
    registry.resolvedModels = .ok snapshot ∧ registry.files[0]? = some staffFile
      ∧ ∃ m, snapshot.models[0]? = some m
        ∧ m.reference? (.superType 1) = some ⟨.str "Person", .str "org.acme@1.0.0"⟩
        ∧ m.reference? ownerPlace ≠ some ⟨.str "Person", .str "org.acme@1.0.0"⟩ := by
  have hresolved : registry.resolvedModels = .ok snapshot := by
    decide +kernel
  have hns : staffFile.namespaceFor (.str "Person") = .ok (.str "org.acme@1.0.0") := by
    decide +kernel
  obtain ⟨m, hm, hreferences⟩ :=
    Registry.qualified_iff_of_resolvedModels (f := staffFile) (n := 0) hresolved rfl
  refine ⟨hresolved, rfl, m, hm, ?_, fun hqualified => ?_⟩
  · exact (hreferences (.superType 1) _ rfl _ hns Value.noConfusion).2.mpr rfl
  · exact Bool.noConfusion
      ((hreferences ownerPlace _ rfl _ hns Value.noConfusion).2.mp hqualified)

/-- **A reference that can be resolved and is not qualified**: the owner of employees omits
its namespace, which the file tells and a lookup finds, and the resolved snapshot leaves it
out. -/
theorem owner_not_qualified :
    staffFile.toModel.reference? ownerPlace = some ⟨.str "Person", .null⟩
      ∧ staffFile.namespaceFor (.str "Person") = .ok (.str "org.acme@1.0.0")
      ∧ registry.resolve staffFile ⟨.str "Person", .null⟩ = .ok ⟨staffFile, owned "Person" none⟩
      ∧ registry.resolvedModels = .ok snapshot
      ∧ (snapshot.models[0]?.bind fun m => m.reference? ownerPlace)
        = some ⟨.str "Person", .null⟩ := by
  decide +kernel

end Staff

end DecoratorSets
