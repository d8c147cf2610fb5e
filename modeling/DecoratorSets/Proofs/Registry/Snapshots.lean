import DecoratorSets.Proofs.Registry.Inheritance
import DecoratorSets.Proofs.Registry.Resolution

/-!
# The registry of a resolved snapshot

A resolved snapshot names the namespaces that lookups in the registry would have found.
It should therefore make no difference to anything that is looked up: not to the types
that names refer to, nor to lineages, nor to the types of properties. The two registries
hold different models, so handles of one are no handles of the other; they correspond if
they stand at the same place (`Handle.Corresponds`).

References are resolved in two ways. A snapshot fills in the namespace where it is
*null*, a lookup looks for it where it is *blank*. The two meet since a blank namespace
that an import brings in is looked up again, in a file of the same scope, and found again
(`Registry.agree_resolve`). All else is carried up from there, with failures that are the
same ones: the super type, the lineage – by induction on the climb, along the same names
– and the types of properties (`Registry.transparent_of_resolvedModels`).
-/

namespace DecoratorSets

/-! ## Computations that agree -/

/-- **Computations agree**: they give related results, or the same failure. -/
inductive Checked.Agree {α β : Type} (rel : α → β → Prop) : Checked α → Checked β → Prop where
  | ok {a : α} {b : β} (h : rel a b) : Agree rel (.ok a) (.ok b)
  | error (e : Failure) : Agree rel (.error e) (.error e)

section Agreement

variable {α β γ δ : Type} {rel : α → β → Prop} {other : γ → δ → Prop}

/-- Computations that agree, followed by computations that agree on related results. -/
theorem Checked.Agree.bind {x : Checked α} {y : Checked β} (h : Agree rel x y)
    {f : α → Checked γ} {g : β → Checked δ} (hfg : ∀ a b, rel a b → Agree other (f a) (g b)) :
    Agree other (x >>= f) (y >>= g) := by
  cases h with
  | ok hab => exact hfg _ _ hab
  | error e => exact .error e

/-- What agrees with a failure is that failure. -/
theorem Checked.Agree.eq_error {e : Failure} {y : Checked β}
    (h : Agree rel (.error e) y) : y = .error e := by
  cases h
  rfl

/-- What agrees with a result gives a related result. -/
theorem Checked.Agree.exists_ok {a : α} {y : Checked β} (h : Agree rel (.ok a) y) :
    ∃ b, y = .ok b ∧ rel a b := by
  cases h with
  | ok hab => exact ⟨_, rfl, hab⟩

/-- **Lists that are related item by item** are related at each place. -/
theorem rel_getElem?_of_forall₂ {xs : List α} {ys : List β} (h : List.Forall₂ rel xs ys) (i : ℕ) :
    Option.Rel rel xs[i]? ys[i]? := by
  induction h generalizing i with
  | nil => exact .none
  | cons hxy _ ih =>
    cases i with
    | zero => exact .some hxy
    | succ i => exact ih i

/-- Items at the same place of lists that are related item by item are related. -/
theorem rel_of_forall₂ {xs : List α} {ys : List β} (h : List.Forall₂ rel xs ys) {i : Nat}
    {x : α} {y : β} (hx : xs[i]? = some x) (hy : ys[i]? = some y) : rel x y := by
  have hrel := rel_getElem?_of_forall₂ h i
  rw [hx, hy] at hrel
  cases hrel with
  | some hxy => exact hxy

/-- **A search in lists that are related item by item** ends at the same place of both. -/
theorem rel_find? {xs : List α} {ys : List β} (h : List.Forall₂ rel xs ys) {p : α → Bool}
    {q : β → Bool} (hpq : ∀ x y, rel x y → p x = q y) :
    Option.Rel (fun x y => rel x y ∧ ∃ i : Nat, xs[i]? = some x ∧ ys[i]? = some y)
      (xs.find? p) (ys.find? q) := by
  induction h with
  | nil => exact .none
  | @cons x y xs ys hxy _ ih =>
    rw [List.find?_cons, List.find?_cons, ← hpq x y hxy]
    cases p x with
    | true => exact .some ⟨hxy, 0, rfl, rfl⟩
    | false =>
      dsimp only
      generalize xs.find? p = found at ih
      generalize ys.find? q = found' at ih
      cases ih with
      | none => exact .none
      | some hfound =>
        obtain ⟨hrel, i, hx, hy⟩ := hfound
        exact .some ⟨hrel, i + 1, hx, hy⟩

/-- What is read alike off related items is the same for both lists. -/
theorem map_eq_map_of_forall₂ {xs : List α} {ys : List β} (h : List.Forall₂ rel xs ys)
    {f : α → γ} {g : β → γ} (hfg : ∀ x y, rel x y → f x = g y) : xs.map f = ys.map g := by
  induction h with
  | nil => rfl
  | cons hxy _ ih => rw [List.map_cons, List.map_cons, hfg _ _ hxy, ih]

end Agreement

/-! ## Filling in namespaces -/

/-- **A reference is filled in**: its namespace may have been added where it had none. -/
structure TypeIdentifier.FilledIn (ident ident' : TypeIdentifier) : Prop where
  name : ident'.name = ident.name
  namespaceName : ident.namespaceName = .null ∨ ident'.namespaceName = ident.namespaceName

/-- A property whose type is filled in and that is otherwise the same. -/
structure Property.FilledIn (p p' : Property) : Prop where
  type : Option.Rel TypeIdentifier.FilledIn p.type p'.type
  rest : { p with type := p'.type } = p'

/-- A declaration whose references are filled in and that is otherwise the same. -/
structure Declaration.FilledIn (d d' : Declaration) : Prop where
  superType : Option.Rel TypeIdentifier.FilledIn d.superType d'.superType
  properties : Option.Rel (List.Forall₂ Property.FilledIn) d.properties d'.properties
  rest : { d with superType := d'.superType, properties := d'.properties } = d'

/-- A model whose references are filled in and that is otherwise the same. -/
structure Model.FilledIn (m m' : Model) : Prop where
  declarations : List.Forall₂ Declaration.FilledIn m.declarations m'.declarations
  rest : { m with declarations := m'.declarations } = m'

/-- **Models whose references are filled in** and that are otherwise the same, model by
model in the same order. -/
def Models.FilledIn (ms ms' : Models) : Prop := List.Forall₂ Model.FilledIn ms.models ms'.models

namespace ModelFile

variable {f g : ModelFile}

theorem filledIn_of_resolveReference {ident ident' : TypeIdentifier}
    (h : f.resolveReference ident = .ok ident') : ident.FilledIn ident' := by
  unfold resolveReference at h
  split at h
  · rename_i hnull
    obtain ⟨found, -, h⟩ := Checked.bind_eq_ok.mp h
    obtain rfl := Checked.pure_eq_ok.mp h
    exact ⟨rfl, Or.inl hnull⟩
  · obtain rfl := Except.ok.inj h
    exact ⟨rfl, Or.inr rfl⟩

theorem filledIn_of_resolveReference? {ident ident' : Option TypeIdentifier}
    (h : f.resolveReference? ident = .ok ident') :
    Option.Rel TypeIdentifier.FilledIn ident ident' := by
  cases ident with
  | none =>
    obtain rfl := Except.ok.inj h
    exact .none
  | some ident =>
    obtain ⟨found, hfound, rfl⟩ := Checked.map_eq_ok.mp h
    exact .some (filledIn_of_resolveReference hfound)

/-- When a property can be resolved, and what comes out. -/
theorem resolveProperty_eq_ok {p p' : Property} : f.resolveProperty p = .ok p'
    ↔ f.resolveReference? p.type = .ok p'.type ∧ { p with type := p'.type } = p' := by
  unfold resolveProperty
  rw [Checked.bind_eq_ok]
  constructor
  · rintro ⟨type, htype, h⟩
    obtain rfl := Checked.pure_eq_ok.mp h
    exact ⟨htype, rfl⟩
  · rintro ⟨htype, hrest⟩
    exact ⟨p'.type, htype, congrArg Except.ok hrest⟩

/-- The properties of a declaration are resolved one by one. -/
theorem rel_of_resolveProperties {ps ps' : Option (List Property)}
    (h : f.resolveProperties ps = .ok ps') :
    Option.Rel (List.Forall₂ fun p p' => f.resolveProperty p = .ok p') ps ps' := by
  cases ps with
  | none =>
    obtain rfl := Except.ok.inj h
    exact .none
  | some ps =>
    obtain ⟨found, hfound, rfl⟩ := Checked.map_eq_ok.mp h
    exact .some (Checked.mapM_eq_ok.mp hfound)

theorem filledIn_of_resolveDeclaration {d d' : Declaration}
    (h : f.resolveDeclaration d = .ok d') : d.FilledIn d' := by
  obtain ⟨superType, properties, hsuper, hproperties, rfl⟩ := resolveDeclaration_eq_ok.mp h
  refine ⟨filledIn_of_resolveReference? hsuper, ?_, rfl⟩
  show Option.Rel (List.Forall₂ Property.FilledIn) d.properties properties
  have hrel := rel_of_resolveProperties hproperties
  generalize d.properties = declared at hrel
  cases hrel with
  | none => exact .none
  | some hps =>
    refine .some (hps.imp fun p p' hp => ?_)
    obtain ⟨htype, hrest⟩ := resolveProperty_eq_ok.mp hp
    exact ⟨filledIn_of_resolveReference? htype, hrest⟩

/-- The properties of a resolved declaration are resolved, each at its place. -/
theorem rel_ownProperties {d d' : Declaration} (h : f.resolveDeclaration d = .ok d') (j : ℕ) :
    Option.Rel (fun p p' => f.resolveProperty p = .ok p') d.ownProperties[j]?
      d'.ownProperties[j]? := by
  obtain ⟨_, properties, _, hproperties, rfl⟩ := resolveDeclaration_eq_ok.mp h
  have hrel := rel_of_resolveProperties hproperties
  unfold Declaration.ownProperties
  generalize d.properties = declared at hrel
  cases hrel with
  | none => exact .none
  | some hps => exact rel_getElem?_of_forall₂ hps j

/-- The declarations of a resolved model are the resolved ones. -/
theorem declarations_of_resolvedModel {m : Model} (h : f.resolvedModel = .ok m) :
    List.Forall₂ (fun d d' => f.resolveDeclaration d = .ok d') f.declarations m.declarations := by
  obtain ⟨ds, hds, h⟩ := Checked.bind_eq_ok.mp h
  obtain rfl : ds = m.declarations := congrArg Model.declarations (Checked.pure_eq_ok.mp h)
  exact Checked.mapM_eq_ok.mp hds

/-- **A file is the resolved form of another.** -/
def ResolvesTo (f g : ModelFile) : Prop := f.resolvedModel = .ok g.toModel

namespace ResolvesTo

/-- The declarations of the resolved form are the resolved ones. -/
theorem declarations (h : f.ResolvesTo g) :
    List.Forall₂ (fun d d' => f.resolveDeclaration d = .ok d') f.declarations g.declarations :=
  declarations_of_resolvedModel h

/-- Resolving leaves what a name stands for. -/
theorem sameScope (h : f.ResolvesTo g) : f.SameScope g := by
  obtain ⟨ds, -, hmodel⟩ := Checked.bind_eq_ok.mp h
  have hmodel := Checked.pure_eq_ok.mp hmodel
  refine ⟨Value.str.inj (congrArg Model.namespaceName hmodel), congrArg Model.extras hmodel, ?_⟩
  exact map_eq_map_of_forall₂ h.declarations fun _ _ hd => (name_of_resolveDeclaration hd).symm

theorem filledIn (h : f.ResolvesTo g) : f.toModel.FilledIn g.toModel := by
  obtain ⟨ds, -, hmodel⟩ := Checked.bind_eq_ok.mp h
  have hmodel := Checked.pure_eq_ok.mp hmodel
  refine ⟨h.declarations.imp fun _ _ => filledIn_of_resolveDeclaration, ?_⟩
  rw [← hmodel]

end ResolvesTo

end ModelFile

/-! ## Handles at the same place -/

/-- **Handles correspond** in two registries if their files are at the same place, and so
are their declarations in these files. -/
structure Handle.Corresponds (r r' : Registry) (h h' : Handle) : Prop where
  file : ∃ i : Nat, r.files[i]? = some h.file ∧ r'.files[i]? = some h'.file
  declaration : ∃ i : Nat, h.file.declarations[i]? = some h.declaration
    ∧ h'.file.declarations[i]? = some h'.declaration

namespace Registry

/-- **A registry is the resolved form of another**, file by file. -/
def ResolvesTo (r r' : Registry) : Prop := List.Forall₂ ModelFile.ResolvesTo r.files r'.files

variable {r r' : Registry} {f g : ModelFile} {h h' : Handle}

/-- The file of a corresponding handle is the resolved file. -/
theorem ResolvesTo.file (hr : r.ResolvesTo r') (hh : h.Corresponds r r' h') :
    h.file.ResolvesTo h'.file := by
  obtain ⟨i, hf, hg⟩ := hh.file
  exact rel_of_forall₂ hr hf hg

/-- The declaration of a corresponding handle is the resolved declaration. -/
theorem ResolvesTo.declaration (hr : r.ResolvesTo r') (hh : h.Corresponds r r' h') :
    h.file.resolveDeclaration h.declaration = .ok h'.declaration := by
  obtain ⟨i, hd, hd'⟩ := hh.declaration
  exact rel_of_forall₂ (hr.file hh).declarations hd hd'

/-- Corresponding handles have the same full name. -/
theorem ResolvesTo.fullName (hr : r.ResolvesTo r') (hh : h.Corresponds r r' h') :
    h'.fullName = h.fullName := by
  unfold Handle.fullName
  rw [(hr.file hh).sameScope.namespaceText,
    ModelFile.name_of_resolveDeclaration (hr.declaration hh)]

/-! ## Looking up types -/

/-- A namespace names files at the same place, or no file of either registry. -/
theorem ResolvesTo.agree_find (hr : r.ResolvesTo r') (ns : String) :
    Checked.Agree (Option.Rel fun f g => f.ResolvesTo g
      ∧ ∃ i : Nat, r.files[i]? = some f ∧ r'.files[i]? = some g) (r.find ns) (r'.find ns) := by
  have hunversioned : ∀ {f g : ModelFile}, f.ResolvesTo g → f.unversioned = g.unversioned := by
    intro f g hfg
    have hinfo := hfg.sameScope.namespaceText ▸ f.parse_eq
    exact congrArg Namespace.name (Except.ok.inj (hinfo.symm.trans g.parse_eq))
  have hexact := rel_find? hr (p := fun f => f.namespaceText == ns)
    (q := fun f => f.namespaceText == ns) fun f g hfg => by rw [hfg.sameScope.namespaceText]
  unfold find file?
  generalize (r.files.find? fun f => f.namespaceText == ns) = x at hexact
  generalize (r'.files.find? fun f => f.namespaceText == ns) = y at hexact
  cases hexact with
  | some hfile => exact .ok (.some hfile)
  | none =>
    cases Namespace.parse ns with
    | error e => exact .error e
    | ok info =>
      simp only [Checked.ok_bind, Checked.pure_ok]
      cases info.version with
      | some version => exact .ok .none
      | none => exact .ok (rel_find? hr fun f g hfg => by rw [hunversioned hfg])

/-- **A type name names corresponding declarations**, or none in either registry. -/
theorem ResolvesTo.rel_lookup? (hr : r.ResolvesTo r') (name : String) :
    Option.Rel (Handle.Corresponds r r') (r.lookup? name) (r'.lookup? name) := by
  unfold lookup?
  cases splitTypeName name with
  | error e => exact .none
  | ok parts =>
    obtain ⟨ns, short⟩ := parts
    have hfind := hr.agree_find ns
    dsimp only
    generalize r.find ns = x at hfind
    generalize r'.find ns = y at hfind
    cases hfind with
    | error e => exact .none
    | ok hfile =>
      cases hfile with
      | none => exact .none
      | @some f g hfile =>
        obtain ⟨hfg, hplace⟩ := hfile
        have hdecl : Option.Rel (fun d d' => f.resolveDeclaration d = .ok d'
            ∧ ∃ i : Nat, f.declarations[i]? = some d ∧ g.declarations[i]? = some d')
            (f.declaration? (.str short)) (g.declaration? (.str short)) :=
          rel_find? hfg.declarations fun d d' hd => by
            rw [ModelFile.name_of_resolveDeclaration hd]
        dsimp only
        generalize f.declaration? (.str short) = d at hdecl
        generalize g.declaration? (.str short) = d' at hdecl
        cases hdecl with
        | none => exact .none
        | some hd => exact .some ⟨hplace, hd.2⟩

/-- **Getting a type** gives corresponding declarations, or fails in both registries. -/
theorem ResolvesTo.agree_getType (hr : r.ResolvesTo r') (name : String) :
    Checked.Agree (Handle.Corresponds r r') (r.getType name) (r'.getType name) := by
  have hlookup := hr.rel_lookup? name
  unfold getType
  generalize r.lookup? name = x at hlookup
  generalize r'.lookup? name = y at hlookup
  cases hlookup with
  | none => exact .error _
  | some hh => exact .ok hh

/-! ## Following references -/

theorem ResolvesTo.agree_typeIn (hr : r.ResolvesTo r') (hfg : f.ResolvesTo g) (name ns : Value) :
    Checked.Agree (Handle.Corresponds r r') (r.typeIn f name ns) (r'.typeIn g name ns) := by
  unfold typeIn
  rw [hfg.sameScope.namespaceText]
  split
  · exact .error _
  · exact hr.agree_getType _

/-- **A reference and its resolved form** refer to corresponding declarations, or to none. -/
theorem ResolvesTo.agree_resolve (hr : r.ResolvesTo r') (hfg : f.ResolvesTo g)
    {ident ident' : TypeIdentifier} (hident : f.resolveReference ident = .ok ident') :
    Checked.Agree (Handle.Corresponds r r') (r.resolve f ident) (r'.resolve g ident') := by
  have hlookedUp : ∀ name, ∀ ns : Value, ns.isBlank = true →
      r'.resolve g ⟨name, ns⟩ = f.namespaceFor name >>= r'.typeIn g name := by
    intro name ns hns
    rw [resolve_of_blank name hns, hfg.sameScope.namespaceFor]
  obtain ⟨name, ns⟩ := ident
  by_cases hnull : ns = .null
  · subst hnull
    obtain ⟨found, hfound, hident⟩ := Checked.bind_eq_ok.mp hident
    obtain rfl := Checked.pure_eq_ok.mp hident
    rw [resolve_of_blank name rfl, hfound, Checked.ok_bind]
    -- a blank namespace that was filled in is looked up again, and found to be the same
    cases hblank : found.isBlank with
    | true =>
      rw [hlookedUp name found hblank, hfound, Checked.ok_bind]
      exact hr.agree_typeIn hfg name found
    | false =>
      rw [resolve_of_not_blank name hblank]
      exact hr.agree_typeIn hfg name found
  · have hsame : ident' = ⟨name, ns⟩ := by
      unfold ModelFile.resolveReference at hident
      split at hident
      · rename_i heq
        exact absurd heq hnull
      · exact (Except.ok.inj hident).symm
    subst hsame
    cases hblank : ns.isBlank with
    | true =>
      rw [resolve_of_blank name hblank, hlookedUp name ns hblank]
      generalize f.namespaceFor name = found
      cases found with
      | error e => exact .error e
      | ok found => exact hr.agree_typeIn hfg name found
    | false =>
      rw [resolve_of_not_blank name hblank, resolve_of_not_blank name hblank]
      exact hr.agree_typeIn hfg name ns

/-- Corresponding handles extend corresponding ones. -/
theorem ResolvesTo.agree_superType (hr : r.ResolvesTo r') (hh : h.Corresponds r r' h') :
    Checked.Agree (Option.Rel (Handle.Corresponds r r')) (r.superType h) (r'.superType h') := by
  obtain ⟨superType, _, hsuper, _, hd⟩ :=
    ModelFile.resolveDeclaration_eq_ok.mp (hr.declaration hh)
  have hdeclared : h'.declaration.superType = superType := by rw [← hd]
  unfold Registry.superType
  rw [hdeclared]
  cases hident : h.declaration.superType with
  | none =>
    rw [hident] at hsuper
    obtain rfl := Except.ok.inj hsuper
    exact .ok .none
  | some ident =>
    rw [hident] at hsuper
    obtain ⟨ident', hident', rfl⟩ := Checked.map_eq_ok.mp hsuper
    exact (hr.agree_resolve (hr.file hh) hident').bind
      (f := fun a => .ok (some a)) (g := fun a => .ok (some a)) fun _ _ hab => .ok (.some hab)

/-- **The types of corresponding properties** refer to corresponding declarations, or to
none. -/
theorem ResolvesTo.agree_propertyType (hr : r.ResolvesTo r') (hh : h.Corresponds r r' h')
    {i : Nat} {p p' : Property} (hp : h.declaration.ownProperties[i]? = some p)
    (hp' : h'.declaration.ownProperties[i]? = some p') :
    Checked.Agree (Handle.Corresponds r r') (r.propertyType h p) (r'.propertyType h' p') := by
  have hresolved : h.file.resolveProperty p = .ok p' := by
    have hrel := ModelFile.rel_ownProperties (hr.declaration hh) i
    rw [hp, hp'] at hrel
    cases hrel with
    | some hpp => exact hpp
  obtain ⟨htype, hrest⟩ := ModelFile.resolveProperty_eq_ok.mp hresolved
  have hname : p'.name = p.name := by rw [← hrest]
  unfold propertyType
  cases hident : p.type with
  | none =>
    rw [hident] at htype
    rw [← Except.ok.inj htype, hname, hr.fullName hh]
    exact .error _
  | some ident =>
    rw [hident] at htype
    obtain ⟨ident', hident', hsome⟩ := Checked.map_eq_ok.mp htype
    rw [← hsome]
    exact hr.agree_resolve (hr.file hh) hident'

/-! ## Lineages -/

/-- The two registries name the same types. -/
theorem ResolvesTo.typeNames (hr : r.ResolvesTo r') : r'.typeNames = r.typeNames := by
  unfold Registry.typeNames
  rw [List.flatMap_def, List.flatMap_def]
  refine congrArg List.flatten (map_eq_map_of_forall₂ hr fun f g hfg => ?_).symm
  refine map_eq_map_of_forall₂ hfg.declarations fun d d' hd => ?_
  unfold Handle.fullName
  rw [hfg.sameScope.namespaceText, ModelFile.name_of_resolveDeclaration hd]

/-- Climbing from corresponding handles passes the same names and ends alike. -/
theorem ResolvesTo.climb (hr : r.ResolvesTo r') (unseen : List String) (h : Handle) :
    ∀ h', h.Corresponds r r' h' →
      (r'.climb unseen h').handles.map Handle.fullName
          = (r.climb unseen h).handles.map Handle.fullName
        ∧ (r'.climb unseen h').ending = (r.climb unseen h).ending := by
  -- at each step the two super types correspond, and so the same name is passed next
  induction unseen, h using climb.induct (r := r) with
  | case1 unseen h cause hup =>
    intro h' hh
    have hup' := (hup ▸ hr.agree_superType hh).eq_error
    rw [Registry.climb, Registry.climb, hup, hup']
    exact ⟨congrArg ([·]) (hr.fullName hh), rfl⟩
  | case2 unseen h hup =>
    intro h' hh
    obtain ⟨_, hup', hrel⟩ := (hup ▸ hr.agree_superType hh).exists_ok
    cases hrel
    rw [Registry.climb, Registry.climb, hup, hup']
    exact ⟨congrArg ([·]) (hr.fullName hh), rfl⟩
  | case3 unseen h up hup hunseen ih =>
    intro h' hh
    obtain ⟨_, hup', hrel⟩ := (hup ▸ hr.agree_superType hh).exists_ok
    cases hrel with
    | some hcorresponds =>
      obtain ⟨hnames, hending⟩ := ih _ hcorresponds
      rw [Registry.climb, Registry.climb, hup, hup']
      simp only [hr.fullName hcorresponds, if_pos hunseen]
      exact ⟨congrArg₂ List.cons (hr.fullName hh) hnames, hending⟩
  | case4 unseen h up hup hseen =>
    intro h' hh
    obtain ⟨_, hup', hrel⟩ := (hup ▸ hr.agree_superType hh).exists_ok
    cases hrel with
    | some hcorresponds =>
      rw [Registry.climb, Registry.climb, hup, hup']
      simp only [hr.fullName hcorresponds, if_neg hseen, and_true]
      exact congrArg ([·]) (hr.fullName hh)

/-- **Corresponding handles have lineages of the same names**, which end alike. -/
theorem ResolvesTo.lineage (hr : r.ResolvesTo r') (hh : h.Corresponds r r' h') :
    (r'.lineage h').handles.map Handle.fullName = (r.lineage h).handles.map Handle.fullName
      ∧ (r'.lineage h').ending = (r.lineage h).ending := by
  unfold Registry.lineage
  rw [hr.fullName hh, hr.typeNames]
  exact hr.climb _ h h' hh

/-! ## The resolved snapshot -/

/-- A registry of resolved models is the resolved form of theirs. -/
theorem resolvesTo_of_resolvedModels {ms : Models} (h : r.resolvedModels = .ok ms)
    (hmodels : r'.toModels = ms) : r.ResolvesTo r' := by
  obtain ⟨models, hall, h⟩ := Checked.bind_eq_ok.mp h
  have heq : models = r'.files.map ModelFile.toModel :=
    congrArg Models.models ((Checked.pure_eq_ok.mp h).trans hmodels.symm)
  rw [heq, Checked.mapM_eq_ok, List.forall₂_map_right_iff] at hall
  exact hall

/-- **Resolving references is transparent and done once.** The resolved snapshot of a
registry is loaded as a registry that is its own resolved form. It differs from the
snapshot as loaded in namespaces of references that had none; and it makes no difference
to looking up types, to lineages and to the types of properties: they correspond, or fail
alike. -/
theorem transparent_of_resolvedModels {ms : Models} (h : r.resolvedModels = .ok ms) :
    ∃ r', ofModels ms false = .ok r' ∧ r'.resolvedModels = .ok ms
      ∧ r.toModels.FilledIn r'.toModels
      ∧ (∀ name, Checked.Agree (Handle.Corresponds r r') (r.getType name) (r'.getType name))
      ∧ ∀ a a', Handle.Corresponds r r' a a' →
        (r'.lineage a').handles.map Handle.fullName = (r.lineage a).handles.map Handle.fullName
          ∧ (r'.lineage a').ending = (r.lineage a).ending
          ∧ ∀ (i : Nat) (p p' : Property), a.declaration.ownProperties[i]? = some p →
            a'.declaration.ownProperties[i]? = some p' →
            Checked.Agree (Handle.Corresponds r r') (r.propertyType a p)
              (r'.propertyType a' p') := by
  obtain ⟨r', hload, hmodels⟩ := exists_ofModels (resolvedModels_loadable h)
  have hr : r.ResolvesTo r' := resolvesTo_of_resolvedModels h hmodels
  refine ⟨r', hload, ?_, ?_, hr.agree_getType, fun a a' ha => ?_⟩
  · rw [resolvedModels_of_undecorated h (congrArg Models.undecorated hmodels), hmodels]
  · exact List.forall₂_map_left_iff.mpr (List.forall₂_map_right_iff.mpr
      (hr.imp fun _ _ hfg => hfg.filledIn))
  · obtain ⟨hnames, hending⟩ := hr.lineage ha
    exact ⟨hnames, hending, fun i p p' => hr.agree_propertyType ha⟩

end Registry

/-! ## A stool that is a thing by import -/

namespace Stool

/-- The type of stools, which extends an imported type by its short name alone. -/
def stool (superNamespace : Value) : Declaration :=
  ⟨.str "Stool", .concept, some [], false, some ⟨.str "Thing", superNamespace⟩, none, []⟩

/-- A file that imports things and declares stools. -/
def stoolFile : ModelFile where
  namespaceText := "org.acme@1.0.0"
  info := ⟨"org.acme", some "1.0.0"⟩
  declarations := [stool .null]
  decorators := none
  extras := [("imports", .list none
    [.object none [("namespace", "org.things@1.0.0"), ("name", "Thing")]])]
  parse_eq := Namespace.parse_acme

/-- The registry of things and stools. -/
def registry : Registry where
  strict := false
  files := [Chair.thingFile, stoolFile]
  distinct := by
    show ["org.things@1.0.0", "org.acme@1.0.0"].Nodup
    decide

/-- The resolved snapshot: the colour of things and the super type of stools have
namespaces. -/
def snapshot : Models where
  models :=
    [{ Chair.thingFile.toModel with
        declarations := [⟨.str "Colour", .concept, some [], false, none, none, []⟩,
          ⟨.str "Thing", .concept,
            some [{ Chair.colour with type := some ⟨.str "Colour", .str "org.things@1.0.0"⟩ }],
            false, none, none, []⟩] },
      { stoolFile.toModel with declarations := [stool (.str "org.things@1.0.0")] }]

theorem transparent_of_resolvedModels_stool :
    registry.resolvedModels = .ok snapshot
      ∧ ∃ r' a, Registry.ofModels snapshot false = .ok r' ∧ r'.resolvedModels = .ok snapshot
        ∧ r'.getType "org.acme@1.0.0.Stool" = .ok a
        ∧ (r'.lineage a).handles.map Handle.fullName
          = ["org.acme@1.0.0.Stool", "org.things@1.0.0.Thing"] := by
  have hresolved : registry.resolvedModels = .ok snapshot := by
    decide +kernel
  have hstool : registry.getType "org.acme@1.0.0.Stool" = .ok ⟨stoolFile, stool .null⟩ := by
    decide +kernel
  have hlineage : (registry.lineage ⟨stoolFile, stool .null⟩).handles.map Handle.fullName
      = ["org.acme@1.0.0.Stool", "org.things@1.0.0.Thing"] := by
    decide +kernel
  obtain ⟨r', hload, hsame, -, htypes, hlineages⟩ :=
    Registry.transparent_of_resolvedModels hresolved
  obtain ⟨a, ha, hcorresponds⟩ := (hstool ▸ htypes "org.acme@1.0.0.Stool").exists_ok
  exact ⟨hresolved, r', a, hload, hsame, ha,
    (hlineages _ _ hcorresponds).1.trans hlineage⟩

end Stool

end DecoratorSets
