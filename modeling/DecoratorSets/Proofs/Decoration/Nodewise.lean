import DecoratorSets.Proofs.Decoration.Reach
import DecoratorSets.Proofs.Undecorated

/-!
# Decorating element by element

Models are decorated declaration by declaration, and for each declaration command by
command, a command passing over the properties before the next one starts. What
comes out can be said of each element alone: its decorators are the ones that it had
with the decorators of the commands that reach it merged in, in the order of the
command set, and nothing else about it changes (`Models.nodewise`).

The two agree wherever decorating succeeds. The reason is that a single command acts
on the elements of a declaration independently
(`Declaration.nodewise_of_apply`), and that neither the names nor the kinds that
decide what the next command reaches are changed by it, so that commands may be
passed over all elements one after the other or collected at each of them
(`Declaration.nodewise_cons_eq_ok`). Conversely a document is decorated whenever its
elements are, as long as the names in it can be compared
(`Models.decorate_of_nodewise`).
-/

namespace DecoratorSets

/-- The decorators of an element after some commands, merged one after the
other. -/
def mergeAll (cs : List Command) (ds : Option (List Decorator)) :
    Checked (Option (List Decorator)) :=
  cs.foldlM (fun ds c => c.decorator.mergeInto c.type ds) ds

/-- **A property after some commands**: the decorators of those that reach it are
merged into its own. -/
def Property.nodewise (model : List Value) (declaration : Value) (cs : List Command)
    (p : Property) : Checked Property := do
  let decorators ←
    mergeAll (cs.filter fun c => c.target.ReachesProperty model declaration p) p.decorators
  return { p with decorators }

/-- The properties of a declaration after some commands. -/
def nodewiseProperties (model : List Value) (declaration : Value) (cs : List Command) :
    Option (List Property) → Checked (Option (List Property))
  | none => .ok none
  | some ps => some <$> ps.mapM (Property.nodewise model declaration cs)

/-- **A declaration after some commands**: the decorators of those that reach it are
merged into its own, and its properties are treated likewise. -/
def Declaration.nodewise (model : List Value) (cs : List Command) (d : Declaration) :
    Checked Declaration := do
  let decorators ←
    mergeAll (cs.filter fun c => c.target.ReachesDeclaration model d.name) d.decorators
  let properties ← nodewiseProperties model d.name cs d.properties
  return { d with decorators, properties }

/-- A model after some commands. -/
def Model.nodewise (cs : List Command) (m : Model) : Checked Model := do
  let model := modelNames m.namespaceName
  return { m with declarations := ← m.declarations.mapM (Declaration.nodewise model cs) }

/-- **Models after the commands of a set**, element by element. -/
def Models.nodewise (ms : Models) (set : CommandSet) : Checked Models := do
  return ⟨← ms.models.mapM (Model.nodewise set.commands)⟩

variable {model : List Value} {declaration : Value} {c : Command} {cs : List Command}

/-! ## One command after the other -/

theorem mergeAll_append (cs cs' : List Command) (ds : Option (List Decorator)) :
    mergeAll (cs ++ cs') ds = mergeAll cs ds >>= mergeAll cs' :=
  List.foldlM_append

theorem mergeAll_singleton (c : Command) (ds : Option (List Decorator)) :
    mergeAll [c] ds = c.decorator.mergeInto c.type ds := by
  unfold mergeAll
  rw [List.foldlM_cons]
  exact bind_pure _

/-- A property passed over by a command and then by others. -/
theorem Property.nodewise_cons :
    Property.nodewise model declaration (c :: cs)
      = fun p => p.nodewise model declaration [c] >>= Property.nodewise model declaration cs := by
  funext p
  unfold Property.nodewise
  rw [← List.singleton_append, List.filter_append, mergeAll_append, bind_assoc, bind_assoc]
  rfl

/-- The properties of a declaration passed over by a command and then by others. -/
theorem nodewiseProperties_cons_eq_ok {ps ps' : Option (List Property)} :
    nodewiseProperties model declaration (c :: cs) ps = .ok ps'
      ↔ ∃ mid, nodewiseProperties model declaration [c] ps = .ok mid
        ∧ nodewiseProperties model declaration cs mid = .ok ps' := by
  cases ps with
  | none => simp [nodewiseProperties]
  | some ps =>
    simp only [nodewiseProperties, Checked.map_eq_ok]
    constructor
    · rintro ⟨out, hout, rfl⟩
      rw [Property.nodewise_cons] at hout
      obtain ⟨mid, hmid, hrest⟩ := Checked.mapM_comp_eq_ok.mpr hout
      exact ⟨some mid, ⟨mid, hmid, rfl⟩, Checked.map_eq_ok.mpr ⟨out, hrest, rfl⟩⟩
    · rintro ⟨_, ⟨mid, hmid, rfl⟩, hrest⟩
      obtain ⟨out, hout, rfl⟩ := Checked.map_eq_ok.mp hrest
      refine ⟨out, ?_, rfl⟩
      rw [Property.nodewise_cons]
      exact Checked.mapM_comp_eq_ok.mp ⟨mid, hmid, hout⟩

/-- When a declaration can be treated element by element, and what comes out. -/
theorem Declaration.nodewise_eq_ok {d d' : Declaration} :
    d.nodewise model cs = .ok d'
      ↔ ∃ ds ps, mergeAll (cs.filter fun c => c.target.ReachesDeclaration model d.name)
            d.decorators = .ok ds
        ∧ nodewiseProperties model d.name cs d.properties = .ok ps
        ∧ { d with decorators := ds, properties := ps } = d' := by
  unfold Declaration.nodewise
  simp only [Checked.bind_eq_ok, Checked.pure_eq_ok]
  constructor
  · rintro ⟨ds, hds, ps, hps, rfl⟩
    exact ⟨ds, ps, hds, hps, rfl⟩
  · rintro ⟨ds, ps, hds, hps, rfl⟩
    exact ⟨ds, hds, ps, hps, rfl⟩

/-- **A declaration passed over by a command and then by others.** What the others
reach is decided by names that the first one leaves alone. -/
theorem Declaration.nodewise_cons_eq_ok {d d' : Declaration} :
    d.nodewise model (c :: cs) = .ok d'
      ↔ ∃ mid, d.nodewise model [c] = .ok mid ∧ mid.nodewise model cs = .ok d' := by
  simp only [Declaration.nodewise_eq_ok]
  -- the declaration in between has the same name, so the filters are the same
  constructor
  · rintro ⟨ds, ps, hds, hps, rfl⟩
    rw [← List.singleton_append, List.filter_append, mergeAll_append] at hds
    obtain ⟨mds, hmds, hds⟩ := Checked.bind_eq_ok.mp hds
    obtain ⟨mps, hmps, hps⟩ := nodewiseProperties_cons_eq_ok.mp hps
    exact ⟨_, ⟨mds, mps, hmds, hmps, rfl⟩, ⟨ds, ps, hds, hps, rfl⟩⟩
  · rintro ⟨_, ⟨mds, mps, hmds, hmps, rfl⟩, ⟨ds, ps, hds, hps, rfl⟩⟩
    refine ⟨ds, ps, ?_, nodewiseProperties_cons_eq_ok.mpr ⟨mps, hmps, hps⟩, rfl⟩
    rw [← List.singleton_append, List.filter_append, mergeAll_append]
    exact Checked.bind_eq_ok.mpr ⟨mds, hmds, hds⟩

/-! ## Commands that reach nothing -/

/-- Commands leave a property that none of them reaches. -/
theorem Property.nodewise_of_none_reaches {p : Property}
    (h : ∀ c ∈ cs, ¬ c.target.ReachesProperty model declaration p) :
    p.nodewise model declaration cs = .ok p := by
  have hnone : (cs.filter fun c => c.target.ReachesProperty model declaration p) = [] :=
    List.filter_eq_nil_iff.mpr (fun c hc => by simpa using h c hc)
  unfold Property.nodewise
  rw [hnone]
  rfl

/-- Commands leave properties none of which they reach. -/
theorem nodewiseProperties_of_none_reaches {ps : Option (List Property)}
    (h : ∀ c ∈ cs, ∀ p, ¬ c.target.ReachesProperty model declaration p) :
    nodewiseProperties model declaration cs ps = .ok ps := by
  cases ps with
  | none => rfl
  | some ps =>
    have hmap : ps.mapM (Property.nodewise model declaration cs) = .ok (ps.map id) :=
      Checked.mapM_eq_ok_map
        (fun p _ => Property.nodewise_of_none_reaches (fun c hc => h c hc p))
    rw [nodewiseProperties, hmap, List.map_id, Checked.map_ok]

/-- **Commands that cover a declaration nowhere** leave it and its properties. -/
theorem Declaration.nodewise_of_none_covers {d : Declaration}
    (h : ∀ c ∈ cs, ¬ c.target.CoversDeclaration model d.name) : d.nodewise model cs = .ok d := by
  have hprops : nodewiseProperties model d.name cs d.properties = .ok d.properties :=
    nodewiseProperties_of_none_reaches (fun c hc _ hp => h c hc hp.1)
  have hnone : (cs.filter fun c => c.target.ReachesDeclaration model d.name) = [] :=
    List.filter_eq_nil_iff.mpr (fun c hc => by simpa using fun hr => h c hc hr.1)
  exact Declaration.nodewise_eq_ok.mpr
    ⟨d.decorators, d.properties, by rw [hnone]; rfl, hprops, rfl⟩

/-! ## A single command -/

/-- A command leaves a property that it does not reach. -/
theorem Property.nodewise_of_not_reaches {p : Property}
    (h : ¬ c.target.ReachesProperty model declaration p) :
    p.nodewise model declaration [c] = .ok p :=
  Property.nodewise_of_none_reaches (List.forall_mem_singleton.mpr h)

/-- A command decorates a property that it reaches. -/
theorem Property.nodewise_of_reaches {p : Property}
    (h : c.target.ReachesProperty model declaration p) :
    p.nodewise model declaration [c] = p.decorate c.type c.decorator := by
  unfold Property.nodewise Property.decorate
  rw [List.filter_cons_of_pos (by simpa using h), List.filter_nil, mergeAll_singleton]

/-- **Carrying out a command on a property** of a declaration that its target covers,
where the property can be tested. -/
theorem Property.execute_eq_nodewise (ht : c.target.IsPlain)
    (hcov : c.target.CoversDeclaration model declaration)
    (hlevel : c.target.isDeclarationLevel = false) {p : Property} {b : Bool}
    (hsel : c.target.selectsProperty p = .ok b) :
    p.execute c = p.nodewise model declaration [c] := by
  have hreach : c.target.ReachesProperty model declaration p ↔ b = true := by
    unfold CommandTarget.ReachesProperty
    rw [CommandTarget.selectsProperty_eq_ok ht hsel, and_iff_right hcov,
      ← CommandTarget.isDeclarationLevel_iff, hlevel]
    exact and_iff_right Bool.false_ne_true
  unfold Property.execute
  rw [hsel, Checked.ok_bind]
  cases b with
  | false => exact (Property.nodewise_of_not_reaches (by simpa using hreach)).symm
  | true => exact (Property.nodewise_of_reaches (hreach.mpr rfl)).symm

/-- Going through properties succeeds if carrying out the command on each does. -/
theorem executeOnProperties_eq {ps ps' : List Property} :
    executeOnProperties c ps = (ps', none) ↔ ps.mapM (Property.execute · c) = .ok ps' := by
  induction ps generalizing ps' with
  | nil => simp [executeOnProperties, eq_comm]
  | cons p rest ih =>
    rw [executeOnProperties, List.mapM_cons]
    cases hp : p.execute c with
    | error e => simp
    | ok p' =>
      rw [Checked.ok_bind, Checked.bind_eq_ok]
      constructor
      · intro h
        obtain ⟨hps, hnone⟩ := Prod.mk.inj h
        refine ⟨(executeOnProperties c rest).1, ih.mp (Prod.ext rfl hnone), ?_⟩
        exact congrArg Except.ok hps
      · rintro ⟨rest', hrest, h⟩
        rw [ih.mpr hrest]
        exact Prod.ext (Except.ok.inj h) rfl

/-- A refused command gives nothing. -/
theorem Command.refuse_ne_ok {α : Type} (c : Command) (cause : CommandFault) (a : α) :
    c.refuse cause ≠ .ok a := by
  unfold Command.refuse
  split <;> simp

/-- Applying a command is carrying it out without failure. -/
theorem Declaration.apply_eq_ok {ns : Value} {d d' : Declaration} :
    d.apply ns c = .ok d' ↔ d.execute ns c = (d', none) := by
  unfold Declaration.apply
  split
  · rename_i done hdone
    rw [hdone, Except.ok.injEq, Prod.mk.injEq, and_iff_left rfl]
  · rename_i hfail
    rw [hfail]
    exact iff_of_false (Command.refuse_ne_ok _ _ _) (by simp)
  · rename_i hfail
    rw [hfail]
    exact iff_of_false (by simp) (by simp)

/-- Carrying out a command on the properties of a declaration. -/
theorem Declaration.executeBelow_eq {d d' : Declaration} :
    d.executeBelow c = (d', none)
      ↔ (d.properties = none ∧ d = d') ∨ ∃ ps ps', d.properties = some ps
        ∧ ps.mapM (Property.execute · c) = .ok ps' ∧ { d with properties := some ps' } = d' := by
  unfold Declaration.executeBelow
  cases hps : d.properties with
  | none => simp
  | some ps =>
    simp only [← executeOnProperties_eq, reduceCtorEq, false_and, false_or, Option.some.injEq,
      exists_and_left, exists_eq_left', Prod.mk.injEq]
    constructor
    · rintro ⟨rfl, hnone⟩
      exact ⟨_, Prod.ext rfl hnone, rfl⟩
    · rintro ⟨ps', hps', rfl⟩
      rw [hps']
      exact ⟨rfl, rfl⟩

/-- A declaration that a command does not reach, while its properties are treated. -/
theorem Declaration.nodewise_below_eq_ok {d d' : Declaration}
    (hnot : ¬ c.target.ReachesDeclaration model d.name) :
    d.nodewise model [c] = .ok d'
      ↔ (d.properties = none ∧ d = d') ∨ ∃ ps ps', d.properties = some ps
        ∧ ps.mapM (Property.nodewise model d.name [c]) = .ok ps'
        ∧ { d with properties := some ps' } = d' := by
  rw [Declaration.nodewise_eq_ok, List.filter_cons_of_neg (by simpa using hnot), List.filter_nil]
  cases hps : d.properties with
  | none =>
    have hself : { d with properties := none } = d := by rw [← hps]
    simp [nodewiseProperties, mergeAll, hself]
  | some ps =>
    simp [nodewiseProperties, mergeAll, Checked.map_eq_ok]

/-- A command about properties reaches no declaration. -/
theorem Declaration.not_reaches_of_level {d : Declaration}
    (hlevel : c.target.isDeclarationLevel = false) :
    ¬ c.target.ReachesDeclaration model d.name := by
  rintro ⟨_, hblank⟩
  rw [← CommandTarget.isDeclarationLevel_iff, hlevel] at hblank
  exact Bool.false_ne_true hblank

/-- **A declaration that a command reaches** is decorated, and its properties are
left. -/
theorem Declaration.nodewise_of_reaches {d : Declaration}
    (h : c.target.ReachesDeclaration model d.name) :
    d.nodewise model [c] = d.decorate c.type c.decorator := by
  have hprops : nodewiseProperties model d.name [c] d.properties = .ok d.properties :=
    nodewiseProperties_of_none_reaches (List.forall_mem_singleton.mpr (fun _ hp => hp.2.1 h.2))
  unfold Declaration.nodewise Declaration.decorate
  rw [List.filter_cons_of_pos (by simpa using h), List.filter_nil, mergeAll_singleton, hprops]
  rfl

/-- A command leaves a declaration that its target does not cover. -/
theorem Declaration.nodewise_of_not_covers {d : Declaration}
    (h : ¬ c.target.CoversDeclaration model d.name) : d.nodewise model [c] = .ok d :=
  Declaration.nodewise_of_none_covers (List.forall_mem_singleton.mpr h)

/-- **What a command does to a declaration** and its properties, it does element by
element. -/
theorem Declaration.nodewise_of_apply (ht : c.target.IsPlain) {ns : Value} {d d' : Declaration}
    (h : d.apply ns c = .ok d') : d.nodewise (modelNames ns) [c] = .ok d' := by
  rw [Declaration.apply_eq_ok] at h
  unfold Declaration.execute at h
  cases hsel : c.target.selectsDeclaration ns d with
  | error e =>
    rw [hsel] at h
    cases h
  | ok b =>
    obtain ⟨s, rfl, hs⟩ := CommandTarget.exists_namespace_of_selectsDeclaration hsel
    have hcov := CommandTarget.selectsDeclaration_eq_ok ht hs hsel
    rw [hsel] at h
    cases b with
    | false =>
      obtain rfl := (Prod.mk.inj h).1
      exact Declaration.nodewise_of_not_covers (by simpa using hcov)
    | true =>
      have hcov := hcov.mp rfl
      change (if c.target.isDeclarationLevel = true then _ else _) = _ at h
      split at h
      · rename_i hlevel
        rw [Declaration.nodewise_of_reaches
          ⟨hcov, CommandTarget.isDeclarationLevel_iff.mp hlevel⟩]
        exact attempt_eq.mp h
      · rename_i hlevel
        have hlevel : c.target.isDeclarationLevel = false := by simpa using hlevel
        rw [Declaration.nodewise_below_eq_ok (Declaration.not_reaches_of_level hlevel)]
        rcases Declaration.executeBelow_eq.mp h with hnone | ⟨ps, ps', hps, hmap, hd'⟩
        · exact Or.inl hnone
        · refine Or.inr ⟨ps, ps', hps, Checked.mapM_eq_ok_mono ?_ hmap, hd'⟩
          intro p _ p' hp
          obtain ⟨_, hsel, _⟩ := Checked.bind_eq_ok.mp hp
          rw [← Property.execute_eq_nodewise ht hcov hlevel hsel, hp]

/-- A command can be tried on a declaration if what it compares can be compared: the
names of the properties, and where it lists declarations, the name of the
declaration. -/
structure Declaration.Admits (d : Declaration) (c : Command) : Prop where
  name : ∀ label items, c.target.declaration = .list label items → d.name.canName = true
  properties : ∀ p ∈ d.ownProperties, p.name.canName = true

/-- **What a command does element by element, it does**, if it can be tried. -/
theorem Declaration.apply_of_nodewise (ht : c.target.IsPlain) {s : String}
    (hs : Namespace.IsWellFormed s) {d d' : Declaration} (hd : d.Admits c)
    (h : d.nodewise (modelNames (.str s)) [c] = .ok d') : d.apply (.str s) c = .ok d' := by
  obtain ⟨b, hsel⟩ := CommandTarget.exists_selectsDeclaration ht hs hd.name
  have hcov := CommandTarget.selectsDeclaration_eq_ok ht hs hsel
  rw [Declaration.apply_eq_ok]
  unfold Declaration.execute
  rw [hsel]
  cases b with
  | false =>
    rw [Declaration.nodewise_of_not_covers (by simpa using hcov)] at h
    exact congrArg (·, none) (Except.ok.inj h)
  | true =>
    have hcov := hcov.mp rfl
    show (if c.target.isDeclarationLevel = true then _ else _) = _
    split
    · rename_i hlevel
      rw [Declaration.nodewise_of_reaches
        ⟨hcov, CommandTarget.isDeclarationLevel_iff.mp hlevel⟩] at h
      exact attempt_eq.mpr h
    · rename_i hlevel
      have hlevel : c.target.isDeclarationLevel = false := by simpa using hlevel
      rw [Declaration.nodewise_below_eq_ok (Declaration.not_reaches_of_level hlevel)] at h
      refine Declaration.executeBelow_eq.mpr (h.imp_right ?_)
      rintro ⟨ps, ps', hps, hmap, hd'⟩
      refine ⟨ps, ps', hps, Checked.mapM_eq_ok_mono ?_ hmap, hd'⟩
      intro p hp p' hp'
      have hname : p.name.canName = true := by
        refine hd.properties p ?_
        rw [Declaration.ownProperties, hps]
        exact hp
      obtain ⟨_, hsel⟩ := CommandTarget.exists_selectsProperty ht hname
      rw [Property.execute_eq_nodewise ht hcov hlevel hsel, hp']

/-! ## What stays -/

theorem Property.undecorated_of_nodewise {p p' : Property}
    (h : p.nodewise model declaration cs = .ok p') : p'.undecorated = p.undecorated := by
  obtain ⟨ds, _, h⟩ := Checked.bind_eq_ok.mp h
  rw [← Except.ok.inj h]
  rfl

/-- Nothing but decorators changes in a declaration. -/
theorem Declaration.undecorated_of_nodewise {d d' : Declaration}
    (h : d.nodewise model cs = .ok d') : d'.undecorated = d.undecorated := by
  obtain ⟨ds, ps, _, hps, rfl⟩ := Declaration.nodewise_eq_ok.mp h
  have hprops : ps.map (·.map Property.undecorated)
      = d.properties.map (·.map Property.undecorated) := by
    cases hd : d.properties with
    | none =>
      rw [hd] at hps
      rw [← Except.ok.inj hps]
    | some qs =>
      rw [hd] at hps
      obtain ⟨qs', hqs', rfl⟩ := Checked.map_eq_ok.mp hps
      exact congrArg some
        (Checked.map_eq_map_of_mapM (fun _ _ _ => Property.undecorated_of_nodewise) hqs')
  unfold Declaration.undecorated
  rw [hprops]

/-- When a model can be treated element by element, and what comes out. -/
theorem Model.nodewise_eq_ok {m m' : Model} :
    m.nodewise cs = .ok m'
      ↔ ∃ ds, m.declarations.mapM (Declaration.nodewise (modelNames m.namespaceName) cs) = .ok ds
        ∧ { m with declarations := ds } = m' := by
  unfold Model.nodewise
  simp only [Checked.bind_eq_ok, Checked.pure_eq_ok]

/-- Nothing but the decorators of declarations and properties changes in a model. -/
theorem Model.undecorated_of_nodewise {m m' : Model} (h : m.nodewise cs = .ok m') :
    m'.undecorated = m.undecorated ∧ m'.decorators = m.decorators := by
  obtain ⟨ds, hds, rfl⟩ := Model.nodewise_eq_ok.mp h
  refine ⟨?_, rfl⟩
  unfold Model.undecorated
  rw [Checked.map_eq_map_of_mapM (fun _ _ _ => Declaration.undecorated_of_nodewise) hds]

/-- Decorators do not matter to whether a command can be tried. -/
theorem Declaration.Admits.of_undecorated {d d' : Declaration} {c' : Command} (hd : d.Admits c')
    (h : d'.undecorated = d.undecorated) : d'.Admits c' := by
  refine ⟨fun label items heq => ?_, fun p' hp' => ?_⟩
  · rw [Declaration.name_eq_of_undecorated h]
    exact hd.name label items heq
  · obtain ⟨p, hp, heq⟩ := Declaration.exists_property_of_undecorated h hp'
    rw [Property.name_eq_of_undecorated heq]
    exact hd.properties p hp

/-! ## All commands of a set -/

theorem Declaration.nodewise_nil (d : Declaration) : d.nodewise model [] = .ok d :=
  Declaration.nodewise_of_none_covers (fun _ hc => absurd hc List.not_mem_nil)

theorem Model.nodewise_nil (m : Model) : m.nodewise [] = .ok m := by
  have hmap : m.declarations.mapM (Declaration.nodewise (modelNames m.namespaceName) [])
      = .ok (m.declarations.map id) :=
    Checked.mapM_eq_ok_map (fun d _ => Declaration.nodewise_nil d)
  rw [List.map_id] at hmap
  exact Model.nodewise_eq_ok.mpr ⟨m.declarations, hmap, rfl⟩

/-- **What commands do to a declaration** and its properties, they do element by
element. -/
theorem Declaration.nodewise_of_applyAll {ns : Value} {d d' : Declaration}
    (hcs : ∀ c ∈ cs, c.target.IsPlain) (h : d.applyAll ns cs = .ok d') :
    d.nodewise (modelNames ns) cs = .ok d' := by
  induction cs generalizing d with
  | nil =>
    rw [← Except.ok.inj h]
    exact Declaration.nodewise_nil d
  | cons c cs ih =>
    obtain ⟨mid, hmid, h⟩ := Checked.bind_eq_ok.mp h
    rw [Declaration.nodewise_cons_eq_ok]
    exact ⟨mid, Declaration.nodewise_of_apply (hcs c List.mem_cons_self) hmid,
      ih (fun c' hc' => hcs c' (List.mem_cons_of_mem c hc')) h⟩

/-- **What commands do element by element, they do**, if they can be tried. -/
theorem Declaration.applyAll_of_nodewise {s : String} (hs : Namespace.IsWellFormed s)
    {d d' : Declaration} (hcs : ∀ c ∈ cs, c.target.IsPlain ∧ d.Admits c)
    (h : d.nodewise (modelNames (.str s)) cs = .ok d') : d.applyAll (.str s) cs = .ok d' := by
  induction cs generalizing d with
  | nil =>
    rw [Declaration.nodewise_nil] at h
    exact h
  | cons c cs ih =>
    obtain ⟨mid, hmid, h⟩ := Declaration.nodewise_cons_eq_ok.mp h
    obtain ⟨ht, hd⟩ := hcs c List.mem_cons_self
    -- the first command changes decorators only, so that the others can still be tried
    refine Checked.bind_eq_ok.mpr ⟨mid, Declaration.apply_of_nodewise ht hs hd hmid, ih ?_ h⟩
    intro c' hc'
    obtain ⟨ht', hd'⟩ := hcs c' (List.mem_cons_of_mem c hc')
    exact ⟨ht', hd'.of_undecorated (Declaration.undecorated_of_nodewise hmid)⟩

theorem Model.nodewise_of_applyAll {m m' : Model} (hcs : ∀ c ∈ cs, c.target.IsPlain)
    (h : m.applyAll cs = .ok m') : m.nodewise cs = .ok m' := by
  obtain ⟨ds, hds, h⟩ := Checked.bind_eq_ok.mp h
  refine Checked.bind_eq_ok.mpr ⟨ds, Checked.mapM_eq_ok_mono ?_ hds, h⟩
  exact fun _ _ _ => Declaration.nodewise_of_applyAll hcs

theorem Model.applyAll_of_nodewise {m m' : Model} {s : String} (hm : m.namespaceName = .str s)
    (hs : Namespace.IsWellFormed s)
    (hcs : ∀ c ∈ cs, c.target.IsPlain ∧ ∀ d ∈ m.declarations, d.Admits c)
    (h : m.nodewise cs = .ok m') : m.applyAll cs = .ok m' := by
  obtain ⟨ds, hds, h⟩ := Checked.bind_eq_ok.mp h
  refine Checked.bind_eq_ok.mpr ⟨ds, Checked.mapM_eq_ok_mono ?_ hds, h⟩
  intro d hd d' hd'
  rw [hm] at hd' ⊢
  exact Declaration.applyAll_of_nodewise hs
    (fun c hc => ⟨(hcs c hc).1, (hcs c hc).2 d hd⟩) hd'

/-- **Decorating models is decorating them element by element.** Where it succeeds,
each declaration and each property has the decorators that it had, with those of the
commands that reach it merged in, in the order of the set; and nothing else
changes. -/
theorem Models.nodewise_of_decorate (ms out : Models) (set : CommandSet)
    (hset : ∀ c ∈ set.commands, c.target.IsPlain) (h : ms.decorate set = .ok out) :
    ms.nodewise set = .ok out ∧ out.undecorated = ms.undecorated
      ∧ out.models.map Model.decorators = ms.models.map Model.decorators := by
  obtain ⟨models, hmodels, h⟩ := Checked.bind_eq_ok.mp h
  obtain rfl := Except.ok.inj h
  have hnode : ms.models.mapM (Model.nodewise set.commands) = .ok models :=
    Checked.mapM_eq_ok_mono (fun _ _ _ => Model.nodewise_of_applyAll hset) hmodels
  refine ⟨Checked.bind_eq_ok.mpr ⟨models, hnode, rfl⟩, ?_, ?_⟩
  · exact congrArg Models.mk
      (Checked.map_eq_map_of_mapM (fun _ _ _ h => (Model.undecorated_of_nodewise h).1) hnode)
  · exact Checked.map_eq_map_of_mapM (fun _ _ _ h => (Model.undecorated_of_nodewise h).2) hnode

/-- A model with one declaration and two properties, one of them decorated. -/
def personModels : Models where
  models := [{
    namespaceName := .str "org.acme@1.0.0"
    declarations := [{
      name := .str "Person"
      kind := .concept
      properties := some [
        ⟨.str "name", .string, false, false, none, some [⟨.str "Index", none, []⟩], []⟩,
        ⟨.str "age", .integer, false, true, none, none, []⟩]
      isAbstract := false
      superType := none
      decorators := none
      extras := [] }]
    decorators := none
    extras := [] }]

/-- A command for the declaration, and one for the properties of a name and a kind. -/
def personCommands : CommandSet where
  name := .str "org.acme"
  version := .str "1.0.0"
  commands := [
    ⟨⟨.str "org.acme", .str "Person", .null, none, .null⟩, ⟨.str "Table", none, []⟩, .upsert⟩,
    ⟨⟨.null, .null, .null, some [.str "name"], .str "concerto.metamodel@1.0.0.StringProperty"⟩,
      ⟨.str "Index", some [], []⟩, .upsert⟩]
  includes := none

/-- The model after the two commands. -/
def decoratedPersonModels : Models where
  models := [{
    namespaceName := .str "org.acme@1.0.0"
    declarations := [{
      name := .str "Person"
      kind := .concept
      properties := some [
        ⟨.str "name", .string, false, false, none, some [⟨.str "Index", some [], []⟩], []⟩,
        ⟨.str "age", .integer, false, true, none, none, []⟩]
      isAbstract := false
      superType := none
      decorators := some [⟨.str "Table", none, []⟩]
      extras := [] }]
    decorators := none
    extras := [] }]

theorem Models.nodewise_of_decorate_person :
    (∀ c ∈ personCommands.commands, c.target.IsPlain)
      ∧ personModels.decorate personCommands = .ok decoratedPersonModels
      ∧ personModels.nodewise personCommands = .ok decoratedPersonModels
      ∧ decoratedPersonModels.undecorated = personModels.undecorated
      ∧ decoratedPersonModels.models.map Model.decorators
        = personModels.models.map Model.decorators := by
  have hset : ∀ c ∈ personCommands.commands, c.target.IsPlain := by
    intro c hc
    unfold personCommands at hc
    rcases List.mem_pair.mp hc with rfl | rfl
    · exact ⟨.text _, .text _, .absent, fun _ h => (Option.not_mem_none _ h).elim, .absent⟩
    · refine ⟨.absent, .absent, .absent, fun names h => ⟨["name"], ?_⟩, .text _⟩
      exact (Option.mem_some.mp h).symm
  have h : personModels.decorate personCommands = .ok decoratedPersonModels := by
    decide +kernel
  exact ⟨hset, h, Models.nodewise_of_decorate _ _ personCommands hset h⟩

/-- **Models are decorated wherever their elements are**, if their namespaces can be
read and the commands can be tried. -/
theorem Models.decorate_of_nodewise {ms out : Models} {set : CommandSet}
    (hns : ∀ m ∈ ms.models, ∃ s, m.namespaceName = .str s ∧ Namespace.IsWellFormed s)
    (hset : ∀ c ∈ set.commands, c.target.IsPlain
      ∧ ∀ m ∈ ms.models, ∀ d ∈ m.declarations, d.Admits c)
    (h : ms.nodewise set = .ok out) : ms.decorate set = .ok out := by
  obtain ⟨models, hmodels, h⟩ := Checked.bind_eq_ok.mp h
  refine Checked.bind_eq_ok.mpr ⟨models, Checked.mapM_eq_ok_mono ?_ hmodels, h⟩
  intro m hm m' hm'
  obtain ⟨s, heq, hs⟩ := hns m hm
  exact Model.applyAll_of_nodewise heq hs
    (fun c hc => ⟨(hset c hc).1, (hset c hc).2 m hm⟩) hm'

/-! ## Commands of a known type -/

section KnownTypes

variable (h : ∀ c ∈ cs, c.type = .upsert ∨ c.type = .append)

include h

/-- Decorators are merged by commands of a known type. -/
theorem exists_mergeAll (ds : Option (List Decorator)) : ∃ out, mergeAll cs ds = .ok out := by
  refine Checked.exists_foldlM (fun ds c hc => ?_) ds
  rcases h c hc with htype | htype
  · exact ⟨some (c.decorator.upsertInto ds), by rw [htype]; rfl⟩
  · exact ⟨some (c.decorator.appendTo ds), by rw [htype]; rfl⟩

/-- Decorators are merged by some of such commands. -/
theorem exists_mergeAll_filter (p : Command → Bool) (ds : Option (List Decorator)) :
    ∃ out, mergeAll (cs.filter p) ds = .ok out :=
  exists_mergeAll (fun c hc => h c (List.mem_of_mem_filter hc)) ds

theorem Property.exists_nodewise (p : Property) :
    ∃ p', p.nodewise model declaration cs = .ok p' := by
  obtain ⟨ds, hds⟩ := exists_mergeAll_filter h
    (fun c => c.target.ReachesProperty model declaration p) p.decorators
  exact ⟨{ p with decorators := ds }, Checked.bind_eq_ok.mpr ⟨ds, hds, rfl⟩⟩

theorem Declaration.exists_nodewise (d : Declaration) : ∃ d', d.nodewise model cs = .ok d' := by
  obtain ⟨ds, hds⟩ := exists_mergeAll_filter h
    (fun c => c.target.ReachesDeclaration model d.name) d.decorators
  obtain ⟨ps, hps⟩ : ∃ ps, nodewiseProperties model d.name cs d.properties = .ok ps := by
    cases d.properties with
    | none => exact ⟨none, rfl⟩
    | some ps =>
      obtain ⟨ps', hps'⟩ : ∃ ps', (ps.mapM fun p => p.nodewise model d.name cs) = .ok ps' :=
        Checked.exists_mapM fun p _ => Property.exists_nodewise h p
      exact ⟨some ps', Checked.map_eq_ok.mpr ⟨ps', hps', rfl⟩⟩
  exact ⟨_, Declaration.nodewise_eq_ok.mpr ⟨ds, ps, hds, hps, rfl⟩⟩

/-- **Models are passed over by commands of a known type** without failure. -/
theorem Model.exists_nodewise (m : Model) : ∃ m', m.nodewise cs = .ok m' := by
  obtain ⟨ds, hds⟩ := Checked.exists_mapM (fun d (_ : d ∈ m.declarations) =>
    Declaration.exists_nodewise h d)
  exact ⟨{ m with declarations := ds }, Checked.bind_eq_ok.mpr ⟨ds, hds, rfl⟩⟩

end KnownTypes

end DecoratorSets
