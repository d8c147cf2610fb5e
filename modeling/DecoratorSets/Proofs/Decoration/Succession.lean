import DecoratorSets.Decoration.Registry
import DecoratorSets.Proofs.Decoration.Nodewise
import DecoratorSets.Proofs.Registry.Resolution

/-!
# Command sets in succession

Two command sets can be carried out one after the other, or as one set that has the
commands of both. The two ways meet the elements of a document in different orders: the
one set finishes a declaration before it starts on the next, the two sets pass over the
whole document twice. They also meet a command that fails at different moments. Neither
matters to what comes out, nor to whether anything does.

For models this is a matter of order alone, since a failure anywhere is a failure of the
whole. For registries there is a step in between: what the first set has decorated is
loaded, and its references are resolved again. Decorating leaves everything but decorators
(`Models.undecorated_of_decorate`), whatever the targets and the types of the commands, so
that the decorated models can be loaded and stay resolved
(`Registry.exists_decorated`).
-/

namespace DecoratorSets

/-- One command set with the commands of two. The name, the version and the references to
other sets are those of the first. -/
instance : Append CommandSet where
  append s t := { s with commands := s.commands ++ t.commands }

@[simp] theorem CommandSet.commands_append (s t : CommandSet) :
    (s ++ t).commands = s.commands ++ t.commands := rfl

/-! ## What decorating leaves -/

section Undecorated

variable {ns : Value} {c : Command} {cs : List Command}

/-- A command leaves all of a property but its decorators. -/
theorem Property.undecorated_of_execute {p p' : Property} (h : p.execute c = .ok p') :
    p'.undecorated = p.undecorated := by
  obtain ⟨selected, _, h⟩ := Checked.bind_eq_ok.mp h
  cases selected with
  | false => rw [Checked.pure_eq_ok.mp h]
  | true =>
    obtain ⟨ds, _, h⟩ := Checked.bind_eq_ok.mp h
    rw [← Checked.pure_eq_ok.mp h]
    rfl

/-- **A command leaves all of a declaration but decorators**, whatever its target and its
type. -/
theorem Declaration.undecorated_of_apply {d d' : Declaration} (h : d.apply ns c = .ok d') :
    d'.undecorated = d.undecorated := by
  rw [apply_eq_ok] at h
  unfold execute at h
  split at h
  · cases h
  · rw [(Prod.mk.inj h).1]
  · split at h
    · obtain ⟨ds, _, h⟩ := Checked.bind_eq_ok.mp (attempt_eq.mp h)
      rw [← Checked.pure_eq_ok.mp h]
      rfl
    · rcases executeBelow_eq.mp h with ⟨_, rfl⟩ | ⟨ps, ps', hps, hmap, rfl⟩
      · rfl
      · have hprops : ps'.map Property.undecorated = ps.map Property.undecorated :=
          Checked.map_eq_map_of_mapM (fun _ _ _ => Property.undecorated_of_execute) hmap
        simp [undecorated, hps, hprops]

/-- Commands leave all of a declaration but decorators. -/
theorem Declaration.undecorated_of_applyAll {d d' : Declaration}
    (h : d.applyAll ns cs = .ok d') : d'.undecorated = d.undecorated := by
  refine Checked.foldlM_keeps (p := fun d' : Declaration => d'.undecorated = d.undecorated)
    ?_ rfl h
  intro mid hmid c _ d' hstep
  exact (undecorated_of_apply hstep).trans hmid

/-- When commands are carried out on the declarations of a model, and what comes out. -/
theorem Model.applyAll_eq_ok {m m' : Model} : m.applyAll cs = .ok m'
    ↔ ∃ ds, m.declarations.mapM (Declaration.applyAll m.namespaceName cs) = .ok ds
      ∧ { m with declarations := ds } = m' := by
  unfold applyAll
  simp only [Checked.bind_eq_ok, Checked.pure_eq_ok]

/-- Commands leave all of a model but decorators. -/
theorem Model.undecorated_of_applyAll {m m' : Model} (h : m.applyAll cs = .ok m') :
    m'.undecorated = m.undecorated := by
  obtain ⟨ds, hds, rfl⟩ := applyAll_eq_ok.mp h
  have hdecls : ds.map Declaration.undecorated = m.declarations.map Declaration.undecorated :=
    Checked.map_eq_map_of_mapM (fun _ _ _ => Declaration.undecorated_of_applyAll) hds
  unfold undecorated
  rw [hdecls]

end Undecorated

/-- Models are decorated one by one. -/
theorem Models.decorate_eq_ok {ms out : Models} {set : CommandSet} :
    ms.decorate set = .ok out
      ↔ ms.models.mapM (Model.applyAll set.commands) = .ok out.models := by
  unfold decorate
  simp only [Checked.bind_eq_ok, Checked.pure_eq_ok]
  constructor
  · rintro ⟨models, hmodels, rfl⟩
    exact hmodels
  · exact fun h => ⟨out.models, h, rfl⟩

/-- **Decorating leaves everything but decorators**, whatever the commands are. -/
theorem Models.undecorated_of_decorate {ms out : Models} {set : CommandSet}
    (h : ms.decorate set = .ok out) : out.undecorated = ms.undecorated :=
  congrArg Models.mk (Checked.map_eq_map_of_mapM
    (fun _ _ _ => Model.undecorated_of_applyAll) (decorate_eq_ok.mp h))

/-! ## Models -/

/-- **Commands on the declarations of a model, and then others.** The namespace of the
model, which the others are tested against, is not touched by the first ones. -/
theorem Model.applyAll_append {cs cs' : List Command} {m out : Model} :
    m.applyAll (cs ++ cs') = .ok out
      ↔ ∃ mid, m.applyAll cs = .ok mid ∧ mid.applyAll cs' = .ok out := by
  have hturns : Declaration.applyAll m.namespaceName (cs ++ cs')
      = fun d => d.applyAll m.namespaceName cs >>= Declaration.applyAll m.namespaceName cs' :=
    funext fun _ => List.foldlM_append
  simp only [applyAll_eq_ok, hturns]
  constructor
  · rintro ⟨ds, hds, rfl⟩
    obtain ⟨mid, hmid, hrest⟩ := Checked.mapM_comp_eq_ok.mpr hds
    exact ⟨_, ⟨mid, hmid, rfl⟩, ds, hrest, rfl⟩
  · rintro ⟨_, ⟨mid, hmid, rfl⟩, ds, hrest, rfl⟩
    exact ⟨ds, Checked.mapM_comp_eq_ok.mp ⟨mid, hmid, hrest⟩, rfl⟩

/-- **A document is decorated by two sets in turn** exactly as by the one set of their
commands. -/
theorem Models.decorate_append {s t : CommandSet} {ms out : Models} :
    ms.decorate (s ++ t) = .ok out
      ↔ ∃ mid, ms.decorate s = .ok mid ∧ mid.decorate t = .ok out := by
  simp only [decorate_eq_ok, CommandSet.commands_append]
  have hturns : ∀ m m' : Model, m.applyAll (s.commands ++ t.commands) = .ok m'
      ↔ (m.applyAll s.commands >>= Model.applyAll t.commands) = .ok m' := fun m m' => by
    rw [Model.applyAll_append, Checked.bind_eq_ok]
  constructor
  · intro h
    obtain ⟨mid, hmid, hrest⟩ := Checked.mapM_comp_eq_ok.mpr
      (Checked.mapM_eq_ok_mono (fun m _ m' => (hturns m m').mp) h)
    exact ⟨⟨mid⟩, hmid, hrest⟩
  · rintro ⟨mid, hmid, hrest⟩
    exact Checked.mapM_eq_ok_mono (fun m _ m' => (hturns m m').mpr)
      (Checked.mapM_comp_eq_ok.mp ⟨mid.models, hmid, hrest⟩)

/-! ## Registries -/

namespace Registry

variable {r out : Registry} {ms decorated : Models} {set : CommandSet} {b : Bool}

/-- When a registry is decorated without checks, and what comes out. -/
theorem decorate_built_eq_ok : r.decorate (.built set) ⟨false, b⟩ = .ok out
    ↔ ∃ ms decorated, r.resolvedModels = .ok ms ∧ ms.decorate set = .ok decorated
      ∧ ofModels decorated false = .ok out := by
  show (r.resolvedModels >>= fun ms => ms.decorate set >>= fun decorated =>
    ofModels decorated false) = _ ↔ _
  simp only [Checked.bind_eq_ok, exists_and_left]

/-- **Decorated models are loaded as they are**, and their references stay resolved. -/
theorem exists_decorated (hms : r.resolvedModels = .ok ms)
    (h : ms.decorate set = .ok decorated) :
    ∃ r', ofModels decorated false = .ok r' ∧ r'.resolvedModels = .ok decorated := by
  have hsame := Models.undecorated_of_decorate h
  have hspaces : decorated.models.map Model.namespaceName = ms.models.map Model.namespaceName :=
    Checked.map_eq_map_of_mapM (fun _ _ _ hm =>
      Model.namespaceName_eq_of_undecorated (Model.undecorated_of_applyAll hm))
      (Models.decorate_eq_ok.mp h)
  obtain ⟨r', hload, rfl⟩ := exists_ofModels ((resolvedModels_loadable hms).of_namespaces hspaces)
  exact ⟨r', hload, resolvedModels_of_undecorated hms hsame⟩

/-- **A registry is decorated by two sets in turn** exactly as by the one set of their
commands. -/
theorem decorate_append {s t : CommandSet} :
    r.decorate (.built (s ++ t)) ⟨false, b⟩ = .ok out
      ↔ ∃ mid, r.decorate (.built s) ⟨false, b⟩ = .ok mid
        ∧ mid.decorate (.built t) ⟨false, b⟩ = .ok out := by
  simp only [decorate_built_eq_ok, Models.decorate_append]
  constructor
  · rintro ⟨ms, last, hms, ⟨first, hfirst, hlast⟩, hout⟩
    obtain ⟨mid, hmid, hresolved⟩ := exists_decorated hms hfirst
    exact ⟨mid, ⟨ms, first, hms, hfirst, hmid⟩, first, last, hresolved, hlast, hout⟩
  · rintro ⟨mid, ⟨ms, first, hms, hfirst, hmid⟩, again, last, hagain, hlast, hout⟩
    -- what is resolved again in between is what the first set gave
    obtain ⟨mid', hmid', hresolved⟩ := exists_decorated hms hfirst
    obtain rfl := Except.ok.inj (hmid.symm.trans hmid')
    obtain rfl := Except.ok.inj (hagain.symm.trans hresolved)
    exact ⟨ms, last, hms, ⟨_, hfirst, hlast⟩, hout⟩

end Registry

/-- **Two command sets in succession are one command set.** Carrying out the commands of
both as one set succeeds exactly if carrying out the first set and then, on what came out,
the second does, and gives the same; on documents of models, and on registries, where the
decorated models are loaded and resolved in between. -/
theorem CommandSet.decorates_in_succession (s t : CommandSet) :
    (∀ ms out : Models, ms.decorate (s ++ t) = .ok out
        ↔ ∃ mid, ms.decorate s = .ok mid ∧ mid.decorate t = .ok out)
      ∧ ∀ (r out : Registry) (b : Bool), r.decorate (.built (s ++ t)) ⟨false, b⟩ = .ok out
        ↔ ∃ mid, r.decorate (.built s) ⟨false, b⟩ = .ok mid
          ∧ mid.decorate (.built t) ⟨false, b⟩ = .ok out :=
  ⟨fun _ _ => Models.decorate_append, fun _ _ _ => Registry.decorate_append⟩

end DecoratorSets
