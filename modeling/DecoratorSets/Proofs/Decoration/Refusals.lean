import DecoratorSets.Proofs.Command.Decision
import DecoratorSets.Proofs.Command.Validation
import DecoratorSets.Proofs.Decoration.Succession

/-!
# When decorating fails

Documents are decorated in turns: for each model, for each of its declarations, each command of
the set is tried (`Models.turns`). A command whose type is not known can be tried like any
other. It is refused at the first turn at which it would decorate something, that is, at which
its target reaches the declaration or one of its properties (`Turn.IsRefused`).

This is the only way to fail, provided that the names in the document can be compared: a
document is decorated exactly if no turn is refused, and otherwise what is reported is the
command of the first turn that is (`Models.decorate_of_turns`). The order of the turns decides
which of several commands this is. A command that reaches nothing can be left out, whatever its
type, and makes no difference even to the failure.

A turn depends on names and kinds, and commands change decorators. So the turns can be told in
advance, on the document as it was given, although each is carried out on what those before it
have left (`Declaration.comesTo_applyAll`).
-/

namespace DecoratorSets

/-! ## Turns -/

/-- A command is of neither type that is known. -/
def Command.IsUnknown (c : Command) : Prop := c.type ≠ .upsert ∧ c.type ≠ .append

instance (c : Command) : Decidable c.IsUnknown := inferInstanceAs (Decidable (_ ∧ _))

/-- **A target reaches something of a declaration**: the declaration itself or a property. -/
def CommandTarget.ReachesWithin (t : CommandTarget) (model : List Value) (d : Declaration) : Prop :=
  t.ReachesDeclaration model d.name ∨ ∃ p ∈ d.ownProperties, t.ReachesProperty model d.name p

instance (t : CommandTarget) (model : List Value) (d : Declaration) :
    Decidable (t.ReachesWithin model d) :=
  inferInstanceAs (Decidable (_ ∨ _))

/-- One command is tried on one declaration of one model. -/
structure Turn where
  model : Model
  declaration : Declaration
  command : Command
deriving DecidableEq

/-- **A turn is refused** if the type of the command is not known and its target reaches
something of the declaration. -/
def Turn.IsRefused (t : Turn) : Prop :=
  t.command.IsUnknown
    ∧ t.command.target.ReachesWithin (modelNames t.model.namespaceName) t.declaration

instance (t : Turn) : Decidable t.IsRefused := inferInstanceAs (Decidable (_ ∧ _))

/-- **The turns in which a document is decorated**: model by model, declaration by
declaration, command by command. -/
def Models.turns (ms : Models) (set : CommandSet) : List Turn :=
  ms.models.flatMap fun m => m.declarations.flatMap fun d => set.commands.map (Turn.mk m d)

/-- The first turn that is refused. -/
def Models.IsFirstRefused (ms : Models) (set : CommandSet) (t : Turn) : Prop :=
  t.IsRefused ∧ ∃ before after, ms.turns set = before ++ t :: after
    ∧ ∀ t' ∈ before, ¬ t'.IsRefused

/-- **The names in a document can be compared**: namespaces are texts with at most one `@`, and
the names of declarations and properties are no lists, sets or objects. -/
structure Models.Comparable (ms : Models) : Prop where
  decoratable : ms.Decoratable
  declarations : ∀ m ∈ ms.models, ∀ d ∈ m.declarations, d.name.canName = true

/-- Any command can be tried where names can be compared. -/
theorem Models.Comparable.admits {ms : Models} (hms : ms.Comparable) {m : Model}
    (hm : m ∈ ms.models) {d : Declaration} (hd : d ∈ m.declarations) (c : Command) : d.Admits c :=
  ⟨fun _ _ _ => hms.declarations m hm d hd, hms.decoratable.properties m hm d hd⟩

variable {model : List Value} {declaration : Value} {c : Command} {cs : List Command}
  {s : String} {d d' : Declaration}

/-! ## What a target reaches is not changed -/

/-- Decorators do not matter to whether a property is reached. -/
theorem CommandTarget.reachesProperty_of_undecorated {t : CommandTarget} {p p' : Property}
    (h : p'.undecorated = p.undecorated) (hp : t.ReachesProperty model declaration p') :
    t.ReachesProperty model declaration p := by
  have hkind : p'.undecorated.kind = p.undecorated.kind := congrArg Property.kind h
  have hkind : p'.kind = p.kind := hkind
  unfold ReachesProperty at hp ⊢
  rwa [Property.name_eq_of_undecorated h, hkind] at hp

/-- **Decorators do not matter** to whether something of a declaration is reached. -/
theorem CommandTarget.reachesWithin_of_undecorated {t : CommandTarget}
    (h : d'.undecorated = d.undecorated) (hd : t.ReachesWithin model d') :
    t.ReachesWithin model d := by
  have hname := Declaration.name_eq_of_undecorated h
  refine hd.imp (fun hreached => hname ▸ hreached) ?_
  rintro ⟨p', hp', hreached⟩
  obtain ⟨p, hp, hsame⟩ := Declaration.exists_property_of_undecorated h hp'
  exact ⟨p, hp, hname ▸ reachesProperty_of_undecorated hsame hreached⟩

theorem CommandTarget.reachesWithin_iff_of_undecorated {t : CommandTarget}
    (h : d'.undecorated = d.undecorated) : t.ReachesWithin model d' ↔ t.ReachesWithin model d :=
  ⟨reachesWithin_of_undecorated h, reachesWithin_of_undecorated h.symm⟩

/-- A command leaves a declaration of which it reaches nothing. -/
theorem Declaration.nodewise_of_not_reachesWithin (h : ¬ c.target.ReachesWithin model d) :
    d.nodewise model [c] = .ok d := by
  obtain ⟨hself, hbelow⟩ := not_or.mp h
  have hprops : nodewiseProperties model d.name [c] d.properties = .ok d.properties := by
    cases hps : d.properties with
    | none => rfl
    | some ps =>
      have hmap : ps.mapM (Property.nodewise model d.name [c]) = .ok (ps.map id) := by
        refine Checked.mapM_eq_ok_map fun p hp => Property.nodewise_of_not_reaches fun hreached => ?_
        refine hbelow ⟨p, ?_, hreached⟩
        unfold ownProperties
        rwa [hps]
      rw [nodewiseProperties, hmap, List.map_id, Checked.map_ok]
  refine nodewise_eq_ok.mpr ⟨d.decorators, d.properties, ?_, hprops, rfl⟩
  rw [List.filter_cons_of_neg (by simpa using hself), List.filter_nil]
  rfl

/-! ## One turn -/

section OneTurn

variable {v : Value} (ht : c.target.IsPlain) (hs : Namespace.IsWellFormed s) (hd : d.Admits c)

include ht hs hd

/-- **A turn at which nothing is reached** changes nothing. -/
theorem Declaration.apply_of_not_reachesWithin
    (h : ¬ c.target.ReachesWithin (modelNames (.str s)) d) : d.apply (.str s) c = .ok d :=
  apply_of_nodewise ht hs hd (nodewise_of_not_reachesWithin h)

/-- A turn of a command of a known type succeeds. -/
theorem Declaration.exists_apply_of_known (htype : ¬ c.IsUnknown) :
    ∃ d', d.apply (.str s) c = .ok d' := by
  have hknown : c.type = .upsert ∨ c.type = .append := by
    simpa [Command.IsUnknown, or_iff_not_imp_left] using htype
  obtain ⟨d', hd'⟩ : ∃ d', d.nodewise (modelNames (.str s)) [c] = .ok d' :=
    exists_nodewise (List.forall_mem_singleton.mpr hknown) d
  exact ⟨d', apply_of_nodewise ht hs hd hd'⟩

omit hs hd in
/-- A command of a type that is not known fails on properties if it selects one of them. -/
theorem executeOnProperties_of_reached (htype : c.type = .other v) {ps : List Property}
    (hps : ∀ p ∈ ps, p.name.canName = true)
    (hsome : ∃ p ∈ ps, c.target.CoversProperty p.name
      ∧ c.target.type.Covers (.str p.kind.className)) :
    (executeOnProperties c ps).2 = some (.command (.unknownCommandType v) none) := by
  induction ps with
  | nil => exact (List.not_mem_nil hsome.choose_spec.1).elim
  | cons p rest ih =>
    obtain ⟨hp, hrest⟩ := List.forall_mem_cons.mp hps
    obtain ⟨selected, hselected⟩ := CommandTarget.exists_selectsProperty ht hp
    have hcovers := CommandTarget.selectsProperty_eq_ok ht hselected
    unfold executeOnProperties Property.execute
    rw [hselected, Checked.ok_bind]
    cases selected with
    | true =>
      rw [if_pos rfl, Property.decorate, htype]
      rfl
    | false =>
      have hnot := mt hcovers.mpr Bool.false_ne_true
      exact ih hrest ((List.exists_mem_cons_iff _ _ _).mp hsome |>.resolve_left hnot)

/-- A command of a type that is not known **fails where it reaches something**. -/
theorem Declaration.execute_of_reachesWithin (htype : c.type = .other v)
    (h : c.target.ReachesWithin (modelNames (.str s)) d) :
    (d.execute (.str s) c).2 = some (.command (.unknownCommandType v) none) := by
  have hcovers : c.target.CoversDeclaration (modelNames (.str s)) d.name := by
    rcases h with hself | ⟨p, -, hbelow⟩
    · exact hself.1
    · exact hbelow.1
  obtain ⟨selected, hselected⟩ := CommandTarget.exists_selectsDeclaration ht hs hd.name
  obtain rfl := (CommandTarget.selectsDeclaration_eq_ok ht hs hselected).mpr hcovers
  unfold execute
  rw [hselected]
  cases hlevel : c.target.isDeclarationLevel with
  | true =>
    show (attempt d (d.decorate c.type c.decorator)).2 = _
    rw [decorate, htype]
    rfl
  | false =>
    obtain ⟨p, hp, hbelow⟩ := h.resolve_left (not_reaches_of_level hlevel)
    show (d.executeBelow c).2 = _
    unfold executeBelow
    cases hps : d.properties with
    | none =>
      rw [ownProperties, hps] at hp
      exact (List.not_mem_nil hp).elim
    | some ps =>
      have hown : d.ownProperties = ps := by rw [ownProperties, hps, Option.getD_some]
      exact executeOnProperties_of_reached ht htype (hown ▸ hd.properties)
        ⟨p, hown ▸ hp, hbelow.2.2⟩

/-- **A turn that is refused** reports the type and the command. -/
theorem Declaration.apply_of_reachesWithin (htype : c.type = .other v)
    (h : c.target.ReachesWithin (modelNames (.str s)) d) :
    d.apply (.str s) c = c.refuse (.unknownCommandType v) := by
  have hfails := execute_of_reachesWithin ht hs hd htype h
  have hresult : d.execute (.str s) c = ((d.execute (.str s) c).1,
      some (.command (.unknownCommandType v) none)) := Prod.ext rfl hfails
  unfold apply
  rw [hresult]

end OneTurn

/-! ## All turns -/

/-- **A computation comes to the refusal** of a command for its unknown type, and succeeds if
there is no such command. -/
def ComesTo {α : Type} (x : Checked α) : Option Command → Prop
  | none => ∃ a, x = .ok a
  | some c => ∃ v, c.type = .other v ∧ x = c.refuse (.unknownCommandType v)

namespace ComesTo

variable {α β : Type} {x : Checked α} {refused : Option Command}

/-- What is made of a result does not matter. -/
theorem bind_pure (h : ComesTo x refused) (f : α → β) :
    ComesTo (x >>= fun a => pure (f a)) refused := by
  cases refused with
  | none =>
    obtain ⟨a, rfl⟩ := h
    exact ⟨f a, rfl⟩
  | some c =>
    obtain ⟨v, htype, rfl⟩ := h
    exact ⟨v, htype, Command.refuse_bind _ _⟩

/-- **A walk comes to the first refusal** that one of its steps comes to. -/
theorem mapM {f : α → Checked β} {first : α → Option Command} {xs : List α}
    (h : ∀ a ∈ xs, ComesTo (f a) (first a)) : ComesTo (xs.mapM f) (xs.findSome? first) := by
  induction xs with
  | nil => exact ⟨[], rfl⟩
  | cons a rest ih =>
    obtain ⟨ha, hrest⟩ := List.forall_mem_cons.mp h
    rw [List.mapM_cons, List.findSome?_cons]
    cases hfirst : first a with
    | none =>
      rw [hfirst] at ha
      obtain ⟨b, hb⟩ := ha
      rw [hb, Checked.ok_bind]
      exact (ih hrest).bind_pure (b :: ·)
    | some c =>
      rw [hfirst] at ha
      obtain ⟨v, htype, hrefused⟩ := ha
      rw [hrefused]
      exact ⟨v, htype, Command.refuse_bind _ _⟩

end ComesTo

/-- **The commands on a declaration** come to the first one that is refused there. Each is
carried out on what those before it have left, which reaches the same. -/
theorem Declaration.comesTo_applyAll (hs : Namespace.IsWellFormed s)
    (hcs : ∀ c ∈ cs, c.target.IsPlain ∧ d.Admits c) :
    ComesTo (d.applyAll (.str s) cs)
      (cs.find? fun c => c.IsUnknown ∧ c.target.ReachesWithin (modelNames (.str s)) d) := by
  induction cs generalizing d with
  | nil => exact ⟨d, rfl⟩
  | cons c cs ih =>
    obtain ⟨⟨ht, hd⟩, hrest⟩ := List.forall_mem_cons.mp hcs
    show ComesTo (d.apply (.str s) c >>= applyAll (.str s) cs) _
    by_cases hrefused : c.IsUnknown ∧ c.target.ReachesWithin (modelNames (.str s)) d
    · rw [List.find?_cons_of_pos (by simpa using hrefused)]
      obtain ⟨hunknown, hreaches⟩ := hrefused
      cases htype : c.type with
      | upsert => exact absurd htype hunknown.1
      | append => exact absurd htype hunknown.2
      | other v =>
        rw [apply_of_reachesWithin ht hs hd htype hreaches]
        exact ⟨v, htype, Command.refuse_bind _ _⟩
    · rw [List.find?_cons_of_neg (by simpa using hrefused)]
      obtain ⟨d', happly⟩ : ∃ d', d.apply (.str s) c = .ok d' := by
        by_cases hunknown : c.IsUnknown
        · exact ⟨d, apply_of_not_reachesWithin ht hs hd fun h => hrefused ⟨hunknown, h⟩⟩
        · exact exists_apply_of_known ht hs hd hunknown
      have hsame := undecorated_of_apply happly
      rw [happly, Checked.ok_bind]
      simp only [← CommandTarget.reachesWithin_iff_of_undecorated hsame]
      exact ih fun c' hc' => ⟨(hrest c' hc').1, (hrest c' hc').2.of_undecorated hsame⟩

/-- **A command that reaches nothing can be left out**, wherever it stands. The commands before
it have changed decorators only, so that it still reaches nothing when its turn comes. -/
theorem Declaration.applyAll_of_not_reachesWithin (ht : c.target.IsPlain)
    (hs : Namespace.IsWellFormed s) (hd : d.Admits c) (before after : List Command)
    (h : ¬ c.target.ReachesWithin (modelNames (.str s)) d) :
    d.applyAll (.str s) (before ++ c :: after) = d.applyAll (.str s) (before ++ after) := by
  have hsplit : ∀ rest, d.applyAll (.str s) (before ++ rest)
      = d.applyAll (.str s) before >>= applyAll (.str s) rest := fun _ => List.foldlM_append
  rw [hsplit, hsplit]
  cases hbefore : d.applyAll (.str s) before with
  | error e => rfl
  | ok mid =>
    have hsame := undecorated_of_applyAll hbefore
    have hnothing : mid.apply (.str s) c = .ok mid :=
      apply_of_not_reachesWithin ht hs (hd.of_undecorated hsame)
        (mt (CommandTarget.reachesWithin_of_undecorated hsame) h)
    show mid.apply (.str s) c >>= applyAll (.str s) after = mid.applyAll (.str s) after
    rw [hnothing, Checked.ok_bind]

/-- The commands on a model come to the first one that is refused at a declaration. -/
theorem Model.comesTo_applyAll {m : Model} (hm : m.namespaceName = .str s)
    (hs : Namespace.IsWellFormed s)
    (hcs : ∀ c ∈ cs, c.target.IsPlain ∧ ∀ d ∈ m.declarations, d.Admits c) :
    ComesTo (m.applyAll cs) (m.declarations.findSome? fun d =>
      cs.find? fun c => Turn.IsRefused ⟨m, d, c⟩) := by
  refine (ComesTo.mapM fun d hd => ?_).bind_pure _
  unfold Turn.IsRefused
  simp only [hm]
  exact Declaration.comesTo_applyAll hs fun c hc => ⟨(hcs c hc).1, (hcs c hc).2 d hd⟩

section AllTurns

variable {ms : Models} {set : CommandSet} (hms : ms.Comparable)
  (hset : ∀ c ∈ set.commands, c.target.IsPlain)

include hms hset

/-- **A document comes to the first turn that is refused.** -/
theorem Models.comesTo_decorate :
    ComesTo (ms.decorate set) (((ms.turns set).find? fun t => t.IsRefused).map Turn.command) := by
  have hturns : ((ms.turns set).find? fun t => t.IsRefused).map Turn.command
      = ms.models.findSome? fun m => m.declarations.findSome? fun d =>
        set.commands.find? fun c => Turn.IsRefused ⟨m, d, c⟩ := by
    unfold turns
    simp [List.find?_flatMap, List.map_findSome?, List.find?_map, Function.comp_def]
  rw [hturns]
  refine (ComesTo.mapM fun m hm => ?_).bind_pure Models.mk
  obtain ⟨s, hns, hs⟩ := hms.decoratable.namespaces m hm
  exact Model.comesTo_applyAll hns hs fun c hc => ⟨hset c hc, fun d hd => hms.admits hm hd c⟩

/-- **A command that reaches nothing can be left out of a set**, whatever its type is. -/
theorem Models.decorate_of_reaches_nothing {before after : List Command}
    (hcommands : set.commands = before ++ c :: after)
    (hnothing : ∀ m ∈ ms.models, ∀ d ∈ m.declarations,
      ¬ c.target.ReachesWithin (modelNames m.namespaceName) d) :
    ms.decorate set = ms.decorate { set with commands := before ++ after } := by
  have ht : c.target.IsPlain := hset c (by simp [hcommands])
  have hmodels : ms.models.mapM (Model.applyAll set.commands)
      = ms.models.mapM (Model.applyAll (before ++ after)) := by
    refine Checked.mapM_congr fun m hm => ?_
    obtain ⟨s, hns, hs⟩ := hms.decoratable.namespaces m hm
    unfold Model.applyAll
    rw [hcommands, Checked.mapM_congr fun d hd => ?_]
    have hd' := hnothing m hm d hd
    rw [hns] at hd' ⊢
    exact Declaration.applyAll_of_not_reachesWithin ht hs (hms.admits hm hd c) before after hd'
  unfold decorate
  rw [hmodels]

end AllTurns

/-- A turn is the first that is refused exactly if it is what a search for one finds. -/
theorem Models.isFirstRefused_iff {ms : Models} {set : CommandSet} {t : Turn} :
    ms.IsFirstRefused set t ↔ ((ms.turns set).find? fun t => t.IsRefused) = some t := by
  unfold IsFirstRefused
  rw [List.find?_eq_some_iff_append]
  simp

/-- **When and how decorating fails.** Let the names in a document be such that can be compared,
and let the fields of the targets be absent, texts, or lists of texts.

Decorating fails exactly if some turn is refused. What is reported is then the type of the
command of the first such turn, together with the command as far as it has a text. A command
that reaches nothing makes no difference, neither to the result nor to the failure. -/
theorem Models.decorate_of_turns (ms : Models) (set : CommandSet) (hms : ms.Comparable)
    (hset : ∀ c ∈ set.commands, c.target.IsPlain) :
    ((∃ e, ms.decorate set = .error e) ↔ ∃ t ∈ ms.turns set, t.IsRefused)
      ∧ (∀ t, ms.IsFirstRefused set t → ∃ v, t.command.type = .other v
        ∧ ms.decorate set = t.command.refuse (.unknownCommandType v)
        ∧ (t.command.HasText → ms.decorate set
          = .error (.command (.unknownCommandType v) (some t.command.toDocument))))
      ∧ ∀ before c after, set.commands = before ++ c :: after →
        (∀ m ∈ ms.models, ∀ d ∈ m.declarations,
          ¬ c.target.ReachesWithin (modelNames m.namespaceName) d) →
        ms.decorate set = ms.decorate { set with commands := before ++ after } := by
  have hcomes := comesTo_decorate hms hset
  refine ⟨?_, ?_, fun before c after hcommands => decorate_of_reaches_nothing hms hset hcommands⟩
  · cases hfirst : (ms.turns set).find? fun t => t.IsRefused with
    | none =>
      rw [hfirst] at hcomes
      obtain ⟨out, hout⟩ := hcomes
      have hnone : ∀ t ∈ ms.turns set, ¬ t.IsRefused := by simpa using hfirst
      exact iff_of_false (by simp [hout]) (by simpa using hnone)
    | some t =>
      rw [hfirst] at hcomes
      obtain ⟨v, -, hrefused⟩ := hcomes
      have ht : t.IsRefused := by simpa using List.find?_some hfirst
      refine iff_of_true ?_ ⟨t, List.mem_of_find?_eq_some hfirst, ht⟩
      cases hresult : ms.decorate set with
      | error e => exact ⟨e, rfl⟩
      | ok out => exact (Command.refuse_ne_ok _ _ out (hrefused.symm.trans hresult)).elim
  · intro t ht
    rw [isFirstRefused_iff.mp ht] at hcomes
    obtain ⟨v, htype, hrefused⟩ := hcomes
    refine ⟨v, htype, hrefused, fun htext => ?_⟩
    rw [hrefused]
    exact Command.refuse_eq_command_iff.mpr ⟨rfl, rfl, htext⟩

/-! ## Commands of unknown types -/

namespace UnknownTypes

/-- A command for declarations of some name. -/
def onDeclaration (type : CommandType) (name : Value) (d : Decorator) : Command where
  target := ⟨.null, name, .null, none, .null⟩
  decorator := d
  type := type

/-- A command for properties of some name. -/
def remove : Command where
  target := ⟨.null, .null, "name", none, .null⟩
  decorator := ⟨"Index", none, []⟩
  type := .other "DELETE"

/-- A set with a command of a type that is known and three of types that are not. -/
def mixedCommands : CommandSet where
  name := "org.acme"
  version := "1.0.0"
  commands := [
    onDeclaration (.other "RENAME") "Company" ⟨"Table", none, []⟩,
    onDeclaration .upsert "Person" ⟨"Table", none, []⟩,
    remove,
    onDeclaration (.other "PURGE") "Person" ⟨"Table", none, []⟩]
  includes := none

theorem onDeclaration_isPlain (type : CommandType) (name : String) (d : Decorator) :
    (onDeclaration type name d).target.IsPlain :=
  ⟨.absent, .text name, .absent, fun _ h => (Option.not_mem_none _ h).elim, .absent⟩

/-- The first command reaches nothing and can be left out. The third is the first to be refused,
and the fourth is not tried. -/
theorem decorate_of_turns_person :
    personModels.Comparable ∧ (∀ c ∈ mixedCommands.commands, c.target.IsPlain)
      ∧ (∃ t, personModels.IsFirstRefused mixedCommands t ∧ t.command = remove)
      ∧ remove.HasText
      ∧ personModels.decorate mixedCommands
        = .error (.command (.unknownCommandType "DELETE") (some remove.toDocument))
      ∧ personModels.decorate mixedCommands
        = personModels.decorate { mixedCommands with commands := mixedCommands.commands.tail } := by
  have hmodels : personModels.Comparable := by
    refine ⟨⟨fun m hm => ?_, by decide +kernel⟩, by decide +kernel⟩
    obtain rfl := List.mem_singleton.mp hm
    exact ⟨"org.acme@1.0.0", rfl, by decide +kernel⟩
  have hset : ∀ c ∈ mixedCommands.commands, c.target.IsPlain := by
    unfold mixedCommands
    simp only [List.forall_mem_cons, onDeclaration_isPlain, true_and]
    refine ⟨?_, fun _ h => (List.not_mem_nil h).elim⟩
    exact ⟨.absent, .absent, .text _, fun _ h => (Option.not_mem_none _ h).elim, .absent⟩
  have hfirst : ∃ t, personModels.IsFirstRefused mixedCommands t ∧ t.command = remove :=
    ⟨⟨personModels.models[0], personModels.models[0].declarations[0], remove⟩,
      Models.isFirstRefused_iff.mpr (by decide +kernel), rfl⟩
  have htext : remove.HasText := ⟨_, rfl⟩
  obtain ⟨-, hreport, hout⟩ := Models.decorate_of_turns personModels mixedCommands hmodels hset
  obtain ⟨t, ht, hremove⟩ := hfirst
  obtain ⟨v, htype, -, herror⟩ := hreport t ht
  rw [hremove] at htype herror
  obtain rfl : .str "DELETE" = v := CommandType.other.inj htype
  refine ⟨hmodels, hset, ⟨t, ht, hremove⟩, htext, herror htext, ?_⟩
  exact hout [] _ _ rfl (by decide +kernel)

/-- A model with a declaration whose name is a list. -/
def listNamedDeclaration : Models where
  models := [{
    namespaceName := "org.acme@1.0.0"
    declarations := [⟨.list none ["Person"], .concept, some [], false, none, none, []⟩]
    decorators := none
    extras := [] }]

/-- A command for the properties of listed names. -/
def onProperties : Command where
  target := ⟨.null, .null, .null, some ["a"], metamodelClass "StringProperty"⟩
  decorator := ⟨"Index", none, []⟩
  type := .upsert

/-- A command whose type is not known, with a day for an argument. -/
def purge : Command :=
  onDeclaration (.other "PURGE") "Person"
    ⟨"Since", some [.literal .string (.moment none (.day ⟨2024, 1, 1⟩))], []⟩

/-- **There are other failures.** No command is of an unknown type, and yet the name of a property
or of a declaration that is a list cannot be tested against a list of texts. And a command of an
unknown type that cannot be written is refused, but is not what is reported. -/
theorem failures_without_report :
    (CommandSetSource.listNamedModels.decorate ⟨"s", "1.0.0", [onProperties], none⟩
        = .error (.misuse .compositeKey)
      ∧ Namespace.IsWellFormed "org.acme@1.0.0" ∧ onProperties.target.IsPlain
      ∧ ∀ t ∈ CommandSetSource.listNamedModels.turns ⟨"s", "1.0.0", [onProperties], none⟩,
        ¬ t.IsRefused)
    ∧ (listNamedDeclaration.decorate ⟨"s", "1.0.0",
          [onDeclaration .upsert (.list none ["Person"]) ⟨"Table", none, []⟩], none⟩
        = .error (.misuse .compositeKey)
      ∧ (onDeclaration .upsert (.list none ["Person"]) ⟨"Table", none, []⟩).target.IsPlain)
    ∧ (personModels.decorate ⟨"s", "1.0.0", [purge], none⟩ = .error (.unwritable .unwritable)
      ∧ purge.target.IsPlain
      ∧ ∃ t ∈ personModels.turns ⟨"s", "1.0.0", [purge], none⟩, t.IsRefused) := by
  refine ⟨⟨by decide +kernel, by decide +kernel, ?_, by decide +kernel⟩,
    ⟨by decide +kernel, ?_⟩, by decide +kernel, onDeclaration_isPlain _ _ _, by decide +kernel⟩
  · exact ⟨.absent, .absent, .absent, fun names h => ⟨["a"], (Option.mem_some.mp h).symm⟩,
      .text _⟩
  · exact ⟨.absent, .texts none ["Person"], .absent, fun _ h => (Option.not_mem_none _ h).elim,
      .absent⟩

end UnknownTypes

end DecoratorSets
