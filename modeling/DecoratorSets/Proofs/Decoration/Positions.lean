import DecoratorSets.Proofs.Decoration.Upserts

/-!
# The history of a decorator

Models, declarations and properties hold their decorators in a list, and commands are carried
out on it one after the other. Some of them replace, wherever a decorator has the name of
theirs, and some add. This module says what a run of such commands leaves at each position of
the list.

Positions are never given up and never change places. A new one is founded at the end, by a
command that appends, or by one that replaces where no decorator has its name
(`Command.Adds`). From then on it keeps the name of the decorator it was founded with, and holds
the decorator of the last command since that replaces this name (`Decorator.after`). So the list
can be read off the history of each position (`Element.Founded`), without going through the
lists in between (`Element.held_of_decorateAll`).

The induction is on the run from its end, since a command looks at the list that all commands
before it have left, and is itself part of the later history of all positions that it finds
there (`Element.founded_snoc`).
-/

namespace DecoratorSets

/-! ## Elements -/

/-- **What can be decorated**: a model, a declaration, or a property. -/
inductive Element where
  | model (m : Model)
  | declaration (d : Declaration)
  | property (p : Property)
deriving DecidableEq

namespace Element

/-- The decorators of an element, if it has a list of them. -/
def decorators : Element → Option (List Decorator)
  | .model m => m.decorators
  | .declaration d => d.decorators
  | .property p => p.decorators

/-- An element with other decorators, and all else as it was. -/
def withDecorators (ds : Option (List Decorator)) : Element → Element
  | .model m => .model { m with decorators := ds }
  | .declaration d => .declaration { d with decorators := ds }
  | .property p => .property { p with decorators := ds }

/-- The decorators that an element holds. An absent list holds none. -/
def held (e : Element) : List Decorator := e.decorators.getD []

/-- The element with one more decorator. -/
def decorate (type : CommandType) (d : Decorator) : Element → Checked Element
  | .model m => .model <$> m.decorate type d
  | .declaration decl => .declaration <$> decl.decorate type d
  | .property p => .property <$> p.decorate type d

/-- **A run of commands on an element.** -/
def decorateAll (cs : List Command) (e : Element) : Checked Element :=
  cs.foldlM (fun e c => e.decorate c.type c.decorator) e

@[simp] theorem decorators_withDecorators (ds : Option (List Decorator)) (e : Element) :
    (e.withDecorators ds).decorators = ds := by
  cases e <;> rfl

@[simp] theorem withDecorators_withDecorators (ds ds' : Option (List Decorator)) (e : Element) :
    (e.withDecorators ds).withDecorators ds' = e.withDecorators ds' := by
  cases e <;> rfl

@[simp] theorem withDecorators_decorators (e : Element) : e.withDecorators e.decorators = e := by
  cases e <;> rfl

/-- An element is decorated by merging into its list. -/
theorem decorate_eq {type : CommandType} {d : Decorator} {e : Element}
    {ds : Option (List Decorator)} (h : d.mergeInto type e.decorators = .ok ds) :
    e.decorate type d = .ok (e.withDecorators ds) := by
  cases e with
  | model m =>
    rw [decorators] at h
    rw [decorate, Model.decorate, h]
    rfl
  | declaration decl =>
    rw [decorators] at h
    rw [decorate, Declaration.decorate, h]
    rfl
  | property p =>
    rw [decorators] at h
    rw [decorate, Property.decorate, h]
    rfl

end Element

/-! ## One command and one position -/

/-- **A command replaces a decorator** if it is one that replaces, and has the name. -/
def Command.Replaces (c : Command) (o : Decorator) : Prop :=
  c.type = .upsert ∧ c.decorator.name = o.name

instance (c : Command) (o : Decorator) : Decidable (c.Replaces o) :=
  inferInstanceAs (Decidable (_ ∧ _))

/-- **A command adds a position** if it appends, or replaces a name that no position has. -/
def Command.Adds (c : Command) (l : List Decorator) : Prop :=
  c.type = .append ∨ c.type = .upsert ∧ c.decorator.name ∉ l.map Decorator.name

instance (c : Command) (l : List Decorator) : Decidable (c.Adds l) :=
  inferInstanceAs (Decidable (_ ∨ _))

/-- A command of a type that is known, whose decorator has a text for a name. -/
structure Command.IsStep (c : Command) : Prop where
  type : c.type = .upsert ∨ c.type = .append
  name : ∃ s, c.decorator.name = .str s

/-- **What is left of a decorator after some commands**: the decorator of the last one that
replaces it, or else itself. -/
def Decorator.after (later : List Command) (o : Decorator) : Decorator :=
  (((later.filter (·.Replaces o)).getLast?).map Command.decorator).getD o

namespace Decorator

/-- **A position keeps its name.** -/
theorem name_after (later : List Command) (o : Decorator) : (o.after later).name = o.name := by
  unfold after
  cases hlast : (later.filter (·.Replaces o)).getLast? with
  | none => rfl
  | some c =>
    have hreplaces : c.Replaces o :=
      of_decide_eq_true (List.mem_filter.mp (List.mem_of_getLast? hlast)).2
    exact hreplaces.2

/-- The last of some commands decides, if it replaces the decorator. -/
theorem after_concat (later : List Command) (c : Command) (o : Decorator) :
    o.after (later ++ [c]) = if c.Replaces o then c.decorator else o.after later := by
  unfold after
  rw [List.filter_append]
  by_cases h : c.Replaces o
  · rw [if_pos h, List.filter_cons_of_pos (by simpa using h), List.filter_nil,
      List.getLast?_concat]
    rfl
  · rw [if_neg h, List.filter_cons_of_neg (by simpa using h), List.filter_nil, List.append_nil]

theorem after_singleton (c : Command) (o : Decorator) :
    o.after [c] = if c.Replaces o then c.decorator else o :=
  after_concat [] c o

/-- **The last command has its say last.** It finds the name that the position was founded
with. -/
theorem after_snoc (later : List Command) (c : Command) (o : Decorator) :
    o.after (later ++ [c]) = (o.after later).after [c] := by
  have hsame : c.Replaces (o.after later) ↔ c.Replaces o := by
    unfold Command.Replaces
    rw [name_after]
  rw [after_concat, after_singleton, if_congr hsame rfl rfl]

theorem map_name_after (later : List Command) (l : List Decorator) :
    (l.map (after later)).map name = l.map name := by
  rw [List.map_map]
  exact List.map_congr_left fun o _ => name_after later o

end Decorator

/-! ## One command and all positions -/

/-- A list of decorators after a command: the positions that it finds, and perhaps a new
one. -/
def Command.placedIn (c : Command) (l : List Decorator) : List Decorator :=
  l.map (Decorator.after [c]) ++ if c.Adds l then [c.decorator] else []

namespace Command

variable {c : Command}

/-- A command that appends leaves what is there. -/
theorem placedIn_of_append (htype : c.type = .append) (l : List Decorator) :
    c.placedIn l = l ++ [c.decorator] := by
  have hkept : ∀ o : Decorator, o.after [c] = id o := fun o => by
    rw [Decorator.after_singleton]
    exact if_neg fun h => by cases htype.symm.trans h.1
  have hadds : c.Adds l := Or.inl htype
  unfold placedIn
  rw [if_pos hadds, funext hkept, List.map_id]

/-- A command that replaces overrides what is there. -/
theorem after_of_upsert (htype : c.type = .upsert) (hname : ∃ s, c.decorator.name = .str s)
    (o : Decorator) : o.after [c] = o.overriddenBy c.decorator := by
  have hsame : c.Replaces o ↔ o.sameName c.decorator = true := by
    rw [Decorator.sameName_iff hname, eq_comm]
    exact and_iff_right htype
  rw [Decorator.after_singleton]
  exact if_congr hsame rfl rfl

/-- A command that replaces adds a decorator exactly where its name is not there. -/
theorem placedIn_of_upsert (htype : c.type = .upsert) (hname : ∃ s, c.decorator.name = .str s)
    (l : List Decorator) : c.placedIn l = c.decorator.upsertInto (some l) := by
  have hadds : c.Adds l ↔ c.decorator.name ∉ l.map Decorator.name := by
    unfold Adds
    rw [htype]
    simp
  unfold placedIn
  rw [funext (after_of_upsert htype hname)]
  by_cases hmem : c.decorator.name ∈ l.map Decorator.name
  · rw [if_neg (mt hadds.mp (not_not_intro hmem)), List.append_nil,
      Decorator.upsertInto_of_mem hname hmem]
  · have hkept : ∀ o ∈ l, o.overriddenBy c.decorator = id o := fun o ho =>
      if_neg fun hsame => hmem ((Decorator.sameName_iff hname).mp hsame ▸ List.mem_map_of_mem ho)
    rw [if_pos (hadds.mpr hmem), List.map_congr_left hkept, List.map_id,
      Decorator.upsertInto_of_new hname hmem]

/-- **What a command makes of a list**, and of the absence of one. -/
theorem IsStep.mergeInto_eq (hc : c.IsStep) (ds : Option (List Decorator)) :
    c.decorator.mergeInto c.type ds = .ok (some (c.placedIn (ds.getD []))) := by
  rcases hc.type with htype | htype
  · rw [placedIn_of_upsert htype hc.name, htype]
    rfl
  · rw [placedIn_of_append htype, htype]
    rfl

/-- **What a position holds** after a command: it was there before, or the command adds it. -/
theorem getElem?_placedIn (c : Command) (l : List Decorator) (i : ℕ) (d : Decorator) :
    (c.placedIn l)[i]? = some d ↔ (∃ o, l[i]? = some o ∧ d = o.after [c])
      ∨ (c.Adds l ∧ i = l.length ∧ d = c.decorator) := by
  have hold : (l.map (Decorator.after [c]))[i]? = some d
      ↔ ∃ o, l[i]? = some o ∧ d = o.after [c] := by
    rw [List.getElem?_map, Option.map_eq_some_iff]
    exact exists_congr fun o => and_congr_right fun _ => eq_comm
  unfold placedIn
  by_cases hadds : c.Adds l
  · rw [if_pos hadds, and_iff_right hadds, ← hold, List.getElem?_append, List.length_map]
    split
    · rename_i hi
      exact (or_iff_left fun h => Nat.ne_of_lt hi h.1).symm
    · rename_i hi
      have hbeyond : (l.map (Decorator.after [c]))[i]? = none := by
        rwa [List.getElem?_eq_none_iff, List.length_map, ← Nat.not_lt]
      rw [hbeyond, or_iff_right (Option.some_ne_none d).symm, List.getElem?_singleton]
      have hfirst : i - l.length = 0 ↔ i = l.length := by omega
      simp [hfirst, eq_comm]
  · rw [if_neg hadds, List.append_nil, hold]
    exact (or_iff_left fun h => hadds h.1).symm

/-- **Names stay where they are**: a command can but add one at the end. -/
theorem map_name_prefix_placedIn (c : Command) (l : List Decorator) :
    l.map Decorator.name <+: (c.placedIn l).map Decorator.name := by
  unfold placedIn
  rw [List.map_append, Decorator.map_name_after]
  exact List.prefix_append _ _

end Command

/-! ## A run of commands -/

namespace Element

variable {e : Element} {cs : List Command} {c : Command}

/-- An element after a run of commands. -/
def placed (cs : List Command) (e : Element) : Element :=
  cs.foldl (fun e c => e.withDecorators (some (c.placedIn e.held))) e

theorem placed_snoc (cs : List Command) (c : Command) (e : Element) :
    e.placed (cs ++ [c]) = (e.placed cs).withDecorators (some (c.placedIn (e.placed cs).held)) := by
  unfold placed
  rw [List.foldl_append]
  rfl

theorem held_placed_snoc (cs : List Command) (c : Command) (e : Element) :
    (e.placed (cs ++ [c])).held = c.placedIn (e.placed cs).held := by
  rw [placed_snoc, held, decorators_withDecorators, Option.getD_some]

/-- **A run of commands succeeds.** -/
theorem decorateAll_eq (hcs : ∀ c ∈ cs, c.IsStep) (e : Element) :
    e.decorateAll cs = .ok (e.placed cs) :=
  Checked.foldlM_eq_ok_foldl fun e' c hc => decorate_eq ((hcs c hc).mergeInto_eq e'.decorators)

/-- A run changes decorators only. -/
theorem withDecorators_placed (cs : List Command) (e : Element) :
    e.placed cs = e.withDecorators (e.placed cs).decorators := by
  induction cs using List.reverseRecOn with
  | nil => exact (withDecorators_decorators e).symm
  | append_singleton cs c ih =>
    rw [placed_snoc, decorators_withDecorators, ih, withDecorators_withDecorators]

/-- A list is absent after a run only if it was before, and the run has no command. -/
theorem decorators_placed_eq_none (cs : List Command) (e : Element) :
    (e.placed cs).decorators = none ↔ e.decorators = none ∧ cs = [] := by
  induction cs using List.reverseRecOn with
  | nil => exact (and_iff_left rfl).symm
  | append_singleton cs c ih =>
    rw [placed_snoc, decorators_withDecorators]
    exact iff_of_false (Option.some_ne_none _) fun h => List.concat_ne_nil c cs (by simpa using h.2)

/-- **Names stay where they are** throughout a run. -/
theorem map_name_prefix_placed (before after : List Command) (e : Element) :
    (e.placed before).held.map Decorator.name
      <+: (e.placed (before ++ after)).held.map Decorator.name := by
  induction after using List.reverseRecOn with
  | nil => simp
  | append_singleton after c ih =>
    rw [← List.append_assoc, held_placed_snoc]
    exact ih.trans (Command.map_name_prefix_placedIn c _)

/-- **The founding of a position** in the list of an element: with a decorator of the initial
list, before all commands, or by a command that adds a position to the list that it finds. What
follows are the later commands. -/
inductive Founded (e : Element) (cs : List Command) : ℕ → Decorator → List Command → Prop where
  | initial {i : ℕ} {o : Decorator} (hi : e.held[i]? = some o) : Founded e cs i o cs
  | added {before after : List Command} {c : Command} {mid : Element}
    (hcs : cs = before ++ c :: after) (hmid : e.decorateAll before = .ok mid)
    (hadds : c.Adds mid.held) : Founded e cs mid.held.length c.decorator after

/-- **One more command** is part of the later history of all positions there are, and perhaps
founds another. -/
theorem founded_snoc (hcs : ∀ c ∈ cs, c.IsStep) {i : ℕ} {o : Decorator} {later : List Command} :
    e.Founded (cs ++ [c]) i o later
      ↔ (∃ since, e.Founded cs i o since ∧ later = since ++ [c])
        ∨ (c.Adds (e.placed cs).held ∧ i = (e.placed cs).held.length ∧ o = c.decorator
          ∧ later = []) := by
  constructor
  · intro h
    cases h with
    | initial hi => exact Or.inl ⟨cs, .initial hi, rfl⟩
    | @added before later c' mid hsplit hmid hadds =>
      rcases List.eq_nil_or_concat' later with rfl | ⟨since, last, rfl⟩
      · obtain ⟨rfl, hlast⟩ := List.append_inj' hsplit rfl
        obtain rfl := List.singleton_inj.mp hlast
        obtain rfl := Except.ok.inj ((decorateAll_eq hcs e).symm.trans hmid)
        exact Or.inr ⟨hadds, rfl, rfl, rfl⟩
      · rw [← List.cons_append, ← List.append_assoc] at hsplit
        obtain ⟨hbefore, hlast⟩ := List.append_inj' hsplit rfl
        obtain rfl := List.singleton_inj.mp hlast
        exact Or.inl ⟨since, .added hbefore hmid hadds, rfl⟩
  · rintro (⟨since, hfounded, rfl⟩ | ⟨hadds, rfl, rfl, rfl⟩)
    · cases hfounded with
      | initial hi => exact .initial hi
      | added hsplit hmid hadds => exact .added (by rw [hsplit]; simp) hmid hadds
    · exact .added rfl (decorateAll_eq hcs e) hadds

/-- **A position holds what is left of the decorator it was founded with.** -/
theorem getElem?_held_placed (hcs : ∀ c ∈ cs, c.IsStep) (i : ℕ) (d : Decorator) :
    (e.placed cs).held[i]? = some d
      ↔ ∃ o later, e.Founded cs i o later ∧ d = o.after later := by
  induction cs using List.reverseRecOn generalizing d with
  | nil =>
    constructor
    · exact fun hi => ⟨d, [], .initial hi, rfl⟩
    · rintro ⟨o, later, hfounded, rfl⟩
      cases hfounded with
      | initial hi => exact hi
      | added hsplit => simp at hsplit
  | append_singleton cs c ih =>
    obtain ⟨hbefore, -⟩ := List.forall_mem_append.mp hcs
    rw [held_placed_snoc, Command.getElem?_placedIn]
    constructor
    · rintro (⟨held, hi, rfl⟩ | ⟨hadds, rfl, rfl⟩)
      · obtain ⟨o, since, hfounded, rfl⟩ := (ih hbefore held).mp hi
        exact ⟨o, since ++ [c], (founded_snoc hbefore).mpr (Or.inl ⟨since, hfounded, rfl⟩),
          (Decorator.after_snoc since c o).symm⟩
      · exact ⟨_, [], (founded_snoc hbefore).mpr (Or.inr ⟨hadds, rfl, rfl, rfl⟩), rfl⟩
    · rintro ⟨o, later, hfounded, rfl⟩
      rcases (founded_snoc hbefore).mp hfounded with ⟨since, hsince, rfl⟩ | ⟨hadds, rfl, rfl, rfl⟩
      · exact Or.inl ⟨o.after since, (ih hbefore _).mpr ⟨o, since, hsince, rfl⟩,
          Decorator.after_snoc since c o⟩
      · exact Or.inr ⟨hadds, rfl, rfl⟩

/-- **The closed form of a run of commands on one element.** Let the commands be of types that
are known, and their decorators have texts for names.

The run succeeds and changes decorators only; a list is absent afterwards only if it was before
and there is no command. Each command of the run carries over every position, with the
decorator it holds or, if the command replaces this, the one of the command; and it adds one
position at the end exactly if it appends, or replaces a name that no position has at that
moment. The names that are there at any moment stay in their positions to the end. And what a
position holds in the end is the decorator it was founded with, or the one of the last command
since that replaces it. -/
theorem held_of_decorateAll (e : Element) (cs : List Command) (hcs : ∀ c ∈ cs, c.IsStep) :
    ∃ out, e.decorateAll cs = .ok out
      ∧ out = e.withDecorators out.decorators
      ∧ (out.decorators = none ↔ e.decorators = none ∧ cs = [])
      ∧ (∀ before c after, cs = before ++ c :: after → ∃ old new,
        e.decorateAll before = .ok old ∧ e.decorateAll (before ++ [c]) = .ok new
          ∧ new.held = old.held.map (Decorator.after [c])
            ++ (if c.Adds old.held then [c.decorator] else [])
          ∧ old.held.map Decorator.name <+: new.held.map Decorator.name
          ∧ new.held.map Decorator.name <+: out.held.map Decorator.name)
      ∧ ∀ i d, out.held[i]? = some d
        ↔ ∃ o later, e.Founded cs i o later ∧ d = o.after later := by
  refine ⟨e.placed cs, decorateAll_eq hcs e, withDecorators_placed cs e,
    decorators_placed_eq_none cs e, fun before c after hsplit => ?_, getElem?_held_placed hcs⟩
  have hsplit' : cs = (before ++ [c]) ++ after := by simpa using hsplit
  have hnew : ∀ c' ∈ before ++ [c], c'.IsStep := fun c' hc' =>
    hcs c' (hsplit' ▸ List.mem_append_left after hc')
  have hold : ∀ c' ∈ before, c'.IsStep := fun c' hc' => hnew c' (List.mem_append_left [c] hc')
  refine ⟨e.placed before, e.placed (before ++ [c]), decorateAll_eq hold e, decorateAll_eq hnew e,
    held_placed_snoc before c e, map_name_prefix_placed before [c] e, ?_⟩
  rw [hsplit']
  exact map_name_prefix_placed (before ++ [c]) after e

end Element

/-! ## A run on a property without decorators -/

namespace Labels

/-- A property whose list of decorators is absent. -/
def weight : Element := .property ⟨"weight", .double, false, false, none, none, []⟩

/-- A decorator with texts for arguments. -/
def decorator (name : String) (arguments : List String) : Decorator :=
  ⟨name, some (arguments.map fun s => .literal .string s), []⟩

/-- A command of some type with a decorator. -/
def command (type : CommandType) (d : Decorator) : Command where
  target := ⟨.null, .null, .null, none, .null⟩
  decorator := d
  type := type

/-- Two commands found positions for the same name, and a later one replaces at both. -/
def run : List Command := [
  command .append (decorator "Index" ["first"]),
  command .upsert (decorator "Label" ["gross"]),
  command .append (decorator "Index" ["second"]),
  command .upsert (decorator "Index" ["both"]),
  command .append (decorator "Label" ["net"])]

theorem held_of_decorateAll_weight :
    (∀ c ∈ run, c.IsStep) ∧ ∃ out, weight.decorateAll run = .ok out
      ∧ out.held = [decorator "Index" ["both"], decorator "Label" ["gross"],
        decorator "Index" ["both"], decorator "Label" ["net"]]
      ∧ weight.Founded run 2 (decorator "Index" ["second"]) (run.drop 3)
      ∧ out.held[2]? = some ((decorator "Index" ["second"]).after (run.drop 3)) := by
  have hrun : ∀ c ∈ run, c.IsStep := by
    unfold run
    simp only [List.forall_mem_cons]
    exact ⟨⟨Or.inr rfl, _, rfl⟩, ⟨Or.inl rfl, _, rfl⟩, ⟨Or.inr rfl, _, rfl⟩, ⟨Or.inl rfl, _, rfl⟩,
      ⟨Or.inr rfl, _, rfl⟩, fun _ h => (List.not_mem_nil h).elim⟩
  obtain ⟨out, hout, -, -, -, hheld⟩ := Element.held_of_decorateAll weight run hrun
  have hbefore : weight.decorateAll (run.take 2) = .ok (weight.placed (run.take 2)) :=
    Element.decorateAll_eq (fun c hc => hrun c (List.mem_of_mem_take hc)) weight
  have hlength : (weight.placed (run.take 2)).held.length = 2 := by
    decide +kernel
  have hfounded : weight.Founded run 2 (decorator "Index" ["second"]) (run.drop 3) :=
    hlength ▸ .added (show run = run.take 2 ++ _ :: run.drop 3 from rfl) hbefore (Or.inl rfl)
  refine ⟨hrun, out, hout, ?_, hfounded, (hheld 2 _).mpr ⟨_, _, hfounded, rfl⟩⟩
  obtain rfl := Except.ok.inj ((Element.decorateAll_eq hrun weight).symm.trans hout)
  decide +kernel

end Labels

end DecoratorSets
