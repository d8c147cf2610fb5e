import DecoratorSets.Proofs.Registry.Loading
import DecoratorSets.Proofs.Undecorated

/-!
# Resolving references again

The namespace of a reference that omits it is looked up in the file of the reference:
among the names of its declarations and in its imports. Neither depends on any
decorator or on other references. So once references are resolved they stay as they
are, whatever decorators come or go: models that are resolved models up to their
decorators are their own resolved form (`Registry.resolvedModels_of_undecorated`).
-/

namespace DecoratorSets

namespace ModelFile

variable {f g : ModelFile}

/-- Files in which a name that omits its namespace stands for the same type: their
namespaces, imports and names of declarations agree. -/
structure SameScope (f g : ModelFile) : Prop where
  namespaceText : f.namespaceText = g.namespaceText
  extras : f.extras = g.extras
  names : f.declarations.map Declaration.name = g.declarations.map Declaration.name

/-- Whether a file declares a name depends on the names of its declarations. -/
theorem isSome_declaration? (f : ModelFile) (name : Value) :
    (f.declaration? name).isSome
      = (f.declarations.map Declaration.name).any (·.sameAs name) := by
  show (f.declarations.find? fun d => d.name.sameAs name).isSome = _
  rw [List.isSome_find?, List.any_map]
  rfl

/-- **A name stands for the same type in files of the same scope.** -/
theorem SameScope.namespaceFor (h : f.SameScope g) (name : Value) :
    f.namespaceFor name = g.namespaceFor name := by
  have hsome : (f.declaration? name).isSome = (g.declaration? name).isSome := by
    rw [isSome_declaration?, isSome_declaration?, h.names]
  have himport : f.importedNamespace name = g.importedNamespace name := by
    unfold importedNamespace
    rw [h.extras]
  unfold ModelFile.namespaceFor
  rw [himport, h.namespaceText]
  cases hf : f.declaration? name <;> cases hg : g.declaration? name
  · rfl
  · rw [hf, hg] at hsome
    exact absurd hsome Bool.false_ne_true
  · rw [hf, hg] at hsome
    exact absurd hsome.symm Bool.false_ne_true
  · rfl

/-- **A resolved reference is its own resolved form.** -/
theorem SameScope.resolveReference (h : f.SameScope g) {ident ident' : TypeIdentifier}
    (hident : f.resolveReference ident = .ok ident') :
    g.resolveReference ident' = .ok ident' := by
  obtain ⟨name, ns⟩ := ident
  cases ns with
  | null =>
    obtain ⟨found, hfound, hident⟩ := Checked.bind_eq_ok.mp hident
    obtain rfl := Except.ok.inj hident
    cases found with
    | null =>
      show (g.namespaceFor name >>= fun ns => pure _) = _
      rw [← h.namespaceFor, hfound]
      rfl
    | _ => rfl
  | _ =>
    obtain rfl := Except.ok.inj hident
    rfl

/-- A resolved reference is its own resolved form, where there is one. -/
theorem SameScope.resolveReference? (h : f.SameScope g) {ident ident' : Option TypeIdentifier}
    (hident : f.resolveReference? ident = .ok ident') :
    g.resolveReference? ident' = .ok ident' := by
  cases ident with
  | none =>
    obtain rfl := Except.ok.inj hident
    rfl
  | some ident =>
    obtain ⟨found, hfound, rfl⟩ := Checked.map_eq_ok.mp hident
    exact Checked.map_eq_ok.mpr ⟨found, h.resolveReference hfound, rfl⟩

end ModelFile

/-- **Nothing is left to resolve** in a declaration of a file. -/
structure Declaration.ResolvedIn (f : ModelFile) (d : Declaration) : Prop where
  superType : f.resolveReference? d.superType = .ok d.superType
  properties : ∀ p ∈ d.ownProperties, f.resolveReference? p.type = .ok p.type

variable {f g : ModelFile} {d d' : Declaration}

/-- The properties of a declaration with resolved types. -/
def ModelFile.resolveProperties (f : ModelFile) :
    Option (List Property) → Checked (Option (List Property))
  | none => .ok none
  | some ps => some <$> ps.mapM f.resolveProperty

/-- When a declaration can be resolved, and what comes out. -/
theorem ModelFile.resolveDeclaration_eq_ok :
    f.resolveDeclaration d = .ok d'
      ↔ ∃ superType properties, f.resolveReference? d.superType = .ok superType
        ∧ f.resolveProperties d.properties = .ok properties
        ∧ { d with superType := superType, properties := properties } = d' := by
  unfold ModelFile.resolveDeclaration
  rw [Checked.bind_eq_ok]
  refine exists_congr (fun superType => ?_)
  rw [exists_and_left]
  refine and_congr_right (fun _ => ?_)
  cases d.properties with
  | none => simp [ModelFile.resolveProperties]
  | some ps =>
    show (some <$> ps.mapM f.resolveProperty >>= fun properties =>
      pure { d with superType := superType, properties := properties }) = _ ↔ _
    rw [Checked.bind_eq_ok]
    simp [ModelFile.resolveProperties]

/-- Where nothing is left to resolve, resolving changes nothing. -/
theorem Declaration.ResolvedIn.resolveDeclaration (h : d.ResolvedIn f) :
    f.resolveDeclaration d = .ok d := by
  refine ModelFile.resolveDeclaration_eq_ok.mpr
    ⟨d.superType, d.properties, h.superType, ?_, rfl⟩
  cases hps : d.properties with
  | none => rfl
  | some ps =>
    have hmap : ps.mapM f.resolveProperty = .ok (ps.map id) := by
      refine Checked.mapM_eq_ok_map (fun p hp => ?_)
      have hown : p ∈ d.ownProperties := by
        rw [Declaration.ownProperties, hps]
        exact hp
      unfold ModelFile.resolveProperty
      rw [h.properties p hown]
      rfl
    rw [ModelFile.resolveProperties, hmap, List.map_id, Checked.map_ok]

/-- **A resolved declaration** has nothing left to resolve. -/
theorem ModelFile.SameScope.resolvedIn (h : f.SameScope g) (hd : f.resolveDeclaration d = .ok d') :
    d'.ResolvedIn g := by
  obtain ⟨superType, properties, hsuper, hps, rfl⟩ := ModelFile.resolveDeclaration_eq_ok.mp hd
  refine ⟨h.resolveReference? hsuper, fun p hp => ?_⟩
  cases hown : d.properties with
  | none =>
    rw [hown] at hps
    obtain rfl := Except.ok.inj hps
    exact absurd hp List.not_mem_nil
  | some ps =>
    rw [hown] at hps
    obtain ⟨ps', hps', rfl⟩ := Checked.map_eq_ok.mp hps
    obtain ⟨q, _, hq⟩ := Checked.exists_of_mapM_eq_ok hps' hp
    obtain ⟨type, htype, hq⟩ := Checked.bind_eq_ok.mp hq
    obtain rfl := Except.ok.inj hq
    exact h.resolveReference? htype

/-- Decorators do not matter to what is left to resolve. -/
theorem Declaration.ResolvedIn.of_undecorated (h : d.ResolvedIn f)
    (hsame : d'.undecorated = d.undecorated) : d'.ResolvedIn f := by
  have hsuper : d'.undecorated.superType = d.undecorated.superType :=
    congrArg Declaration.superType hsame
  have hsuper : d'.superType = d.superType := hsuper
  refine ⟨hsuper ▸ h.superType, fun p' hp' => ?_⟩
  obtain ⟨p, hp, heq⟩ := Declaration.exists_property_of_undecorated hsame hp'
  have htype : p'.undecorated.type = p.undecorated.type := congrArg Property.type heq
  rw [show p'.type = p.type from htype]
  exact h.properties p hp

/-- Resolving a declaration leaves its name. -/
theorem ModelFile.name_of_resolveDeclaration (h : f.resolveDeclaration d = .ok d') :
    d'.name = d.name := by
  obtain ⟨_, _, _, _, rfl⟩ := ModelFile.resolveDeclaration_eq_ok.mp h
  rfl

/-- **A file whose model is a resolved model up to decorators** is its own resolved
form. -/
theorem ModelFile.resolvedModel_of_undecorated {m : Model} (h : f.resolvedModel = .ok m)
    (hsame : g.toModel.undecorated = m.undecorated) : g.resolvedModel = .ok g.toModel := by
  obtain ⟨ds, hds, h⟩ := Checked.bind_eq_ok.mp h
  obtain rfl := Except.ok.inj h
  have hnames : ds.map Declaration.name = f.declarations.map Declaration.name :=
    Checked.map_eq_map_of_mapM (fun _ _ _ => name_of_resolveDeclaration) hds
  have hscope : f.SameScope g := by
    refine ⟨?_, ?_, ?_⟩
    · have hns := Model.namespaceName_eq_of_undecorated hsame
      exact (Value.str.inj hns).symm
    · have hextras := congrArg Model.extras hsame
      exact hextras.symm
    · rw [← hnames]
      exact (Model.map_name_eq_of_undecorated hsame).symm
  -- up to decorators, each declaration of the file is one that has been resolved in its scope
  have hmap : g.declarations.mapM g.resolveDeclaration = .ok (g.declarations.map id) := by
    refine Checked.mapM_eq_ok_map (fun d hd => ?_)
    obtain ⟨d', hd', heq⟩ := Model.exists_declaration_of_undecorated hsame hd
    obtain ⟨d₀, _, hd₀⟩ := Checked.exists_of_mapM_eq_ok hds hd'
    exact ((hscope.resolvedIn hd₀).of_undecorated heq).resolveDeclaration
  unfold ModelFile.resolvedModel
  rw [hmap, List.map_id]
  rfl

/-- **Resolved models stay resolved**, whatever happens to their decorators. -/
theorem Registry.resolvedModels_of_undecorated {r r' : Registry} {ms : Models}
    (h : r.resolvedModels = .ok ms) (hsame : r'.toModels.undecorated = ms.undecorated) :
    r'.resolvedModels = .ok r'.toModels := by
  obtain ⟨models, hmodels, h⟩ := Checked.bind_eq_ok.mp h
  obtain rfl := Except.ok.inj h
  have hmap : r'.files.mapM ModelFile.resolvedModel = .ok (r'.files.map ModelFile.toModel) := by
    refine Checked.mapM_eq_ok_map (fun g hg => ?_)
    have hmem : g.toModel.undecorated ∈ r'.toModels.undecorated.models :=
      List.mem_map_of_mem (List.mem_map_of_mem hg)
    rw [hsame] at hmem
    obtain ⟨m, hm, heq⟩ := List.mem_map.mp hmem
    obtain ⟨f, _, hf⟩ := Checked.exists_of_mapM_eq_ok hmodels hm
    exact ModelFile.resolvedModel_of_undecorated hf heq.symm
  unfold Registry.resolvedModels
  rw [hmap]
  rfl

end DecoratorSets
