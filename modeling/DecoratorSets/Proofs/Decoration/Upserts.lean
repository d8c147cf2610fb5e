import Mathlib.Data.List.Induction
import DecoratorSets.Proofs.Decoration.Succession

/-!
# Commands that replace

A command that replaces puts its decorator in the place of those of the same name, or at
the end where there is none. Several such commands may reach one element with the same
name, and then override each other. What they leave is settled all the same: carrying them
out once more changes nothing, even though it goes through the overridden decorators again
(`Models.settled_of_upserts`).

At one element the reason is that a decorator never changes its name. So a second run finds
every name in place, adds nothing, and only replaces (`upsertAll_of_names`); and what the
replacements make of a decorator is decided by the last one of its name, which is what the
first run left there (`Settled.of_upsertAll`). Names that were apart stay apart, since a
name is added only where it is missing.

This is carried over to whole models by saying what each element receives
(`Declaration.receives`, `Property.receives`). It depends on the names and kinds of the
elements, which no command changes, and on the results of the tests alone, so that targets
may be anything that can be tested (`Declaration.applyAll_upserts_eq_ok`).
-/

namespace DecoratorSets

/-! ## One decorator -/

namespace Decorator

variable {d old : Decorator}

/-- A decorator where another one is put in: it gives way if the other has its name. -/
def overriddenBy (old d : Decorator) : Decorator := if old.sameName d then d else old

/-- A decorator has the name of another that goes by a text if it goes by that text. -/
theorem sameName_iff (hd : ∃ s, d.name = .str s) : old.sameName d = true ↔ old.name = d.name := by
  obtain ⟨s, hs⟩ := hd
  unfold sameName
  rw [hs]
  exact Value.sameAs_str_iff old.name s

theorem overriddenBy_of_name (hd : ∃ s, d.name = .str s) (h : old.name = d.name) :
    old.overriddenBy d = d :=
  if_pos ((sameName_iff hd).mpr h)

/-- **A decorator gives way to one of its own name**, so its place keeps the name. -/
theorem name_overriddenBy (hd : ∃ s, d.name = .str s) (old : Decorator) :
    (old.overriddenBy d).name = old.name := by
  unfold overriddenBy
  split
  · rename_i hsame
    exact ((sameName_iff hd).mp hsame).symm
  · rfl

theorem map_name_overriddenBy (hd : ∃ s, d.name = .str s) (l : List Decorator) :
    (l.map (overriddenBy · d)).map name = l.map name := by
  rw [List.map_map]
  exact List.map_congr_left fun old _ => name_overriddenBy hd old

/-- A decorator of a name that is there replaces. -/
theorem upsertInto_of_mem (hd : ∃ s, d.name = .str s) {l : List Decorator}
    (h : d.name ∈ l.map name) : d.upsertInto (some l) = l.map (overriddenBy · d) := by
  obtain ⟨old, hold, hname⟩ := List.mem_map.mp h
  exact if_pos (List.any_eq_true.mpr ⟨old, hold, (sameName_iff hd).mpr hname⟩)

/-- A decorator of a new name goes to the end. -/
theorem upsertInto_of_new (hd : ∃ s, d.name = .str s) {l : List Decorator}
    (h : d.name ∉ l.map name) : d.upsertInto (some l) = l ++ [d] := by
  refine if_neg fun hany => ?_
  obtain ⟨old, hold, hsame⟩ := List.any_eq_true.mp hany
  exact h ((sameName_iff hd).mp hsame ▸ List.mem_map_of_mem hold)

/-- A decorator that is put in can be found by its name. -/
theorem name_mem_upsertInto (hd : ∃ s, d.name = .str s) (l : List Decorator) :
    d.name ∈ (d.upsertInto (some l)).map name := by
  by_cases h : d.name ∈ l.map name
  · rwa [upsertInto_of_mem hd h, map_name_overriddenBy hd]
  · simp [upsertInto_of_new hd h]

/-- No name is lost where a decorator is put in. -/
theorem map_name_subset_upsertInto (hd : ∃ s, d.name = .str s) (l : List Decorator) :
    l.map name ⊆ (d.upsertInto (some l)).map name := by
  by_cases h : d.name ∈ l.map name
  · rw [upsertInto_of_mem hd h, map_name_overriddenBy hd]
    exact List.Subset.refl _
  · rw [upsertInto_of_new hd h, List.map_append]
    exact List.subset_append_left _ _

/-- What is there after a decorator was put in: that one, and those of other names. -/
theorem eq_or_mem_of_mem_upsertInto (hd : ∃ s, d.name = .str s) {l : List Decorator}
    {a : Decorator} (ha : a ∈ d.upsertInto (some l)) : a = d ∨ a ∈ l ∧ a.name ≠ d.name := by
  by_cases h : d.name ∈ l.map name
  · rw [upsertInto_of_mem hd h] at ha
    obtain ⟨old, hold, rfl⟩ := List.mem_map.mp ha
    by_cases hname : old.name = d.name
    · exact Or.inl (overriddenBy_of_name hd hname)
    · have hkept : old.overriddenBy d = old := if_neg (mt (sameName_iff hd).mp hname)
      exact Or.inr (hkept.symm ▸ ⟨hold, hname⟩)
  · rw [upsertInto_of_new hd h] at ha
    rcases List.mem_append.mp ha with hold | hnew
    · exact Or.inr ⟨hold, fun hname => h (hname ▸ List.mem_map_of_mem hold)⟩
    · exact Or.inl (List.mem_singleton.mp hnew)

/-- **No two decorators of a list have the same name.** -/
def NamesApart (ds : Option (List Decorator)) : Prop :=
  (ds.getD []).Pairwise fun a b => a.sameName b = false

instance (ds : Option (List Decorator)) : Decidable (NamesApart ds) :=
  inferInstanceAs (Decidable (List.Pairwise _ _))

/-- **Names stay apart** where a decorator is put in. -/
theorem NamesApart.upsertInto (hd : ∃ s, d.name = .str s) {ds : Option (List Decorator)}
    (h : NamesApart ds) : NamesApart (some (d.upsertInto ds)) := by
  show (d.upsertInto (some (ds.getD []))).Pairwise _
  by_cases hmem : d.name ∈ (ds.getD []).map name
  · rw [upsertInto_of_mem hd hmem, List.pairwise_map]
    refine h.imp fun {a b} hab => ?_
    unfold sameName
    rwa [name_overriddenBy hd, name_overriddenBy hd]
  · rw [upsertInto_of_new hd hmem]
    refine List.pairwise_append.mpr ⟨h, List.pairwise_singleton _ _, fun a ha b hb => ?_⟩
    obtain rfl := List.mem_singleton.mp hb
    exact Bool.eq_false_iff.mpr fun hsame =>
      hmem ((sameName_iff hd).mp hsame ▸ List.mem_map_of_mem ha)

end Decorator

/-! ## Several decorators at one element -/

/-- The decorators of an element after others were put in, one after the other. -/
def upsertAll (ds : List Decorator) (l : Option (List Decorator)) : Option (List Decorator) :=
  ds.foldl (fun l d => some (d.upsertInto l)) l

theorem upsertAll_append (ds ds' : List Decorator) (l : Option (List Decorator)) :
    upsertAll (ds ++ ds') l = upsertAll ds' (upsertAll ds l) :=
  List.foldl_append

section OneElement

variable {ds l : List Decorator}

/-- The place of a decorator keeps its name, whatever is put in. -/
theorem name_foldl_overriddenBy (hds : ∀ d ∈ ds, ∃ s, d.name = .str s) (old : Decorator) :
    (ds.foldl Decorator.overriddenBy old).name = old.name := by
  induction ds generalizing old with
  | nil => rfl
  | cons d ds ih =>
    obtain ⟨hd, hrest⟩ := List.forall_mem_cons.mp hds
    rw [List.foldl_cons, ih hrest, Decorator.name_overriddenBy hd]

/-- **Where all names are in place nothing is added**: each decorator is overridden where
it stands. -/
theorem upsertAll_of_names (hds : ∀ d ∈ ds, ∃ s, d.name = .str s)
    (h : ∀ d ∈ ds, d.name ∈ l.map Decorator.name) :
    upsertAll ds (some l) = some (l.map (ds.foldl Decorator.overriddenBy)) := by
  induction ds generalizing l with
  | nil => exact congrArg some (List.map_id l).symm
  | cons d ds ih =>
    obtain ⟨hd, hrest⟩ := List.forall_mem_cons.mp hds
    obtain ⟨hmem, hmems⟩ := List.forall_mem_cons.mp h
    show upsertAll ds (some (d.upsertInto (some l))) = _
    rw [Decorator.upsertInto_of_mem hd hmem,
      ih hrest (by rwa [Decorator.map_name_overriddenBy hd]), List.map_map]
    rfl

/-- **Decorators are settled in a list** if their names are in place there, and putting
them in would leave each decorator of the list as it is. -/
structure Settled (ds l : List Decorator) : Prop where
  names : ∀ d ∈ ds, d.name ∈ l.map Decorator.name
  values : ∀ a ∈ l, ds.foldl Decorator.overriddenBy a = a

/-- **What was put in is settled.** -/
theorem Settled.of_upsertAll (hds : ∀ d ∈ ds, ∃ s, d.name = .str s)
    (l : Option (List Decorator)) : Settled ds ((upsertAll ds l).getD []) := by
  -- the decorators are put in one after the other, so the last one comes off first
  induction ds using List.reverseRecOn with
  | nil => exact ⟨fun _ hd => absurd hd List.not_mem_nil, fun _ _ => rfl⟩
  | append_singleton ds d ih =>
    obtain ⟨hbefore, hlast⟩ := List.forall_mem_append.mp hds
    have hd : ∃ s, d.name = .str s := hlast d (List.mem_singleton_self d)
    obtain ⟨hnames, hvalues⟩ := ih hbefore
    have hstep : (upsertAll (ds ++ [d]) l).getD []
        = d.upsertInto (some ((upsertAll ds l).getD [])) := by
      rw [upsertAll_append]
      rfl
    rw [hstep]
    refine ⟨List.forall_mem_append.mpr ⟨fun d' hd' => ?_, List.forall_mem_singleton.mpr ?_⟩,
      fun a ha => ?_⟩
    · exact Decorator.map_name_subset_upsertInto hd _ (hnames d' hd')
    · exact Decorator.name_mem_upsertInto hd _
    · rw [List.foldl_append]
      show (ds.foldl Decorator.overriddenBy a).overriddenBy d = a
      rcases Decorator.eq_or_mem_of_mem_upsertInto hd ha with rfl | ⟨hold, hother⟩
      · exact Decorator.overriddenBy_of_name hd (name_foldl_overriddenBy hbefore a)
      · rw [hvalues a hold]
        exact if_neg (mt (Decorator.sameName_iff hd).mp hother)

/-- **Putting decorators in twice is putting them in once.** -/
theorem upsertAll_append_self (hds : ∀ d ∈ ds, ∃ s, d.name = .str s)
    (l : Option (List Decorator)) : upsertAll (ds ++ ds) l = upsertAll ds l := by
  rw [upsertAll_append]
  have hsettled := Settled.of_upsertAll hds l
  cases hl : upsertAll ds l with
  | none =>
    -- no list is left only where nothing was put in
    rw [hl] at hsettled
    obtain rfl : ds = [] :=
      List.eq_nil_iff_forall_not_mem.mpr fun d hd => List.not_mem_nil (hsettled.names d hd)
    rfl
  | some left =>
    rw [hl, Option.getD_some] at hsettled
    rw [upsertAll_of_names hds hsettled.names]
    exact congrArg some ((List.map_congr_left hsettled.values).trans (List.map_id left))

/-- Names stay apart whatever is put in. -/
theorem Decorator.NamesApart.upsertAll (hds : ∀ d ∈ ds, ∃ s, d.name = .str s)
    {l : Option (List Decorator)} (h : NamesApart l) : NamesApart (upsertAll ds l) := by
  induction ds generalizing l with
  | nil => exact h
  | cons d ds ih =>
    obtain ⟨hd, hrest⟩ := List.forall_mem_cons.mp hds
    exact ih hrest (h.upsertInto hd)

end OneElement

/-! ## What each element receives -/

section Elements

variable {ns : Value} {c : Command} {cs cs' : List Command}

/-- The decorators that a declaration receives from commands, by the tests of their
targets. -/
def Declaration.receives (ns : Value) (cs : List Command) (d : Declaration) : List Decorator :=
  (cs.filter fun c => c.target.isDeclarationLevel
    && decide (c.target.selectsDeclaration ns d = .ok true)).map Command.decorator

/-- The decorators that a property of a declaration receives from commands. -/
def Property.receives (ns : Value) (owner : Declaration) (cs : List Command) (p : Property) :
    List Decorator :=
  (cs.filter fun c => !c.target.isDeclarationLevel
    && decide (c.target.selectsDeclaration ns owner = .ok true)
    && decide (c.target.selectsProperty p = .ok true)).map Command.decorator

/-- A property with what it receives put in. -/
def Property.upserted (ns : Value) (owner : Declaration) (cs : List Command) (p : Property) :
    Property :=
  { p with decorators := upsertAll (p.receives ns owner cs) p.decorators }

/-- **A declaration with what it and its properties receive put in.** -/
def Declaration.upserted (ns : Value) (cs : List Command) (d : Declaration) : Declaration :=
  { d with
    properties := d.properties.map (List.map (Property.upserted ns d cs))
    decorators := upsertAll (d.receives ns cs) d.decorators }

theorem Declaration.receives_append (ns : Value) (cs cs' : List Command) (d : Declaration) :
    d.receives ns (cs ++ cs') = d.receives ns cs ++ d.receives ns cs' := by
  unfold receives
  rw [List.filter_append, List.map_append]

theorem Property.receives_append (ns : Value) (owner : Declaration) (cs cs' : List Command)
    (p : Property) :
    p.receives ns owner (cs ++ cs') = p.receives ns owner cs ++ p.receives ns owner cs' := by
  unfold receives
  rw [List.filter_append, List.map_append]

theorem Declaration.undecorated_upserted (ns : Value) (cs : List Command) (d : Declaration) :
    (d.upserted ns cs).undecorated = d.undecorated := by
  have hproperty : Property.undecorated ∘ Property.upserted ns d cs = Property.undecorated := rfl
  show { d with
    properties := (d.properties.map (List.map (Property.upserted ns d cs))).map
      (List.map Property.undecorated)
    decorators := none } = d.undecorated
  rw [Option.map_map, List.map_comp_map, hproperty]
  rfl

/-- **What some commands and then others put in**, all of them put in: an element receives
the same from the others, since no command changes what is tested. -/
theorem Declaration.upserted_upserted (ns : Value) (cs cs' : List Command) (d : Declaration) :
    (d.upserted ns cs).upserted ns cs' = d.upserted ns (cs ++ cs') := by
  have hproperty : Property.upserted ns (d.upserted ns cs) cs' ∘ Property.upserted ns d cs
      = Property.upserted ns d (cs ++ cs') := by
    funext p
    unfold Property.upserted
    rw [Property.receives_append, upsertAll_append]
    rfl
  show { d with
    properties := (d.properties.map (List.map (Property.upserted ns d cs))).map
      (List.map (Property.upserted ns (d.upserted ns cs) cs'))
    decorators := upsertAll (d.receives ns cs')
      (upsertAll (d.receives ns cs) d.decorators) } = _
  rw [Option.map_map, List.map_comp_map, hproperty, ← upsertAll_append, ← receives_append]
  rfl

/-- Where the properties receive nothing they are left. -/
theorem Declaration.map_properties_of_receives_nil {d : Declaration}
    (h : ∀ p : Property, p.receives ns d cs = []) :
    d.properties.map (List.map (Property.upserted ns d cs)) = d.properties := by
  have hproperty : Property.upserted ns d cs = id := by
    funext p
    unfold Property.upserted
    rw [h p]
    rfl
  rw [hproperty, List.map_id_fun, Option.map_id_fun, id]

/-- **A command can be tested** against a declaration, and where it is for its properties,
against each of them. -/
structure Declaration.Testable (ns : Value) (c : Command) (d : Declaration) : Prop where
  declaration : ∃ b, c.target.selectsDeclaration ns d = .ok b
  properties : c.target.selectsDeclaration ns d = .ok true →
    c.target.isDeclarationLevel = false →
    ∀ p ∈ d.ownProperties, ∃ b, c.target.selectsProperty p = .ok b

/-- Decorators do not matter to whether a command can be tested. -/
theorem Declaration.Testable.of_undecorated {d d' : Declaration} (hd : d.Testable ns c)
    (h : d'.undecorated = d.undecorated) : d'.Testable ns c := by
  have hselects : c.target.selectsDeclaration ns d' = c.target.selectsDeclaration ns d := by
    unfold CommandTarget.selectsDeclaration
    rw [name_eq_of_undecorated h]
  refine ⟨hselects ▸ hd.declaration, fun hselected hlevel p' hp' => ?_⟩
  obtain ⟨p, hp, heq⟩ := exists_property_of_undecorated h hp'
  have hname : p'.name = p.name := Property.name_eq_of_undecorated heq
  have hkind : p'.undecorated.kind = p.undecorated.kind := congrArg Property.kind heq
  have hkind : p'.kind = p.kind := hkind
  obtain ⟨b, hb⟩ := hd.properties (hselects ▸ hselected) hlevel p hp
  refine ⟨b, ?_⟩
  unfold CommandTarget.selectsProperty at hb ⊢
  rw [hname, hkind, hb]

/-! ## A single command -/

/-- A command that replaces puts its decorator in at a property that it is for. -/
theorem Property.execute_upsert_eq_ok (hc : c.type = .upsert) {owner : Declaration}
    (howner : c.target.selectsDeclaration ns owner = .ok true)
    (hlevel : c.target.isDeclarationLevel = false) (p p' : Property) :
    p.execute c = .ok p'
      ↔ (∃ b, c.target.selectsProperty p = .ok b) ∧ p.upserted ns owner [c] = p' := by
  unfold execute upserted receives
  cases hselected : c.target.selectsProperty p with
  | error e => simp
  | ok selected =>
    cases selected with
    | false => simp [hselected, upsertAll]
    | true =>
      simp [hselected, howner, hlevel, upsertAll, decorate, hc, Decorator.mergeInto]

/-- A command leaves a declaration that it is not for. -/
theorem Declaration.upserted_of_not_selected {d : Declaration}
    (h : c.target.selectsDeclaration ns d ≠ .ok true) : d.upserted ns [c] = d := by
  unfold upserted
  rw [map_properties_of_receives_nil (fun p => by simp [Property.receives, h])]
  simp [receives, h, upsertAll]

/-- What a command for declarations puts in. -/
theorem Declaration.upserted_of_level {d : Declaration}
    (hselected : c.target.selectsDeclaration ns d = .ok true)
    (hlevel : c.target.isDeclarationLevel = true) :
    d.upserted ns [c] = { d with decorators := some (c.decorator.upsertInto d.decorators) } := by
  unfold upserted
  rw [map_properties_of_receives_nil (fun p => by simp [Property.receives, hlevel])]
  simp [receives, hselected, hlevel, upsertAll]

/-- What a command for properties puts in. -/
theorem Declaration.upserted_below {d : Declaration}
    (hlevel : c.target.isDeclarationLevel = false) :
    d.upserted ns [c]
      = { d with properties := d.properties.map (List.map (Property.upserted ns d [c])) } := by
  unfold upserted
  simp [receives, hlevel, upsertAll]

/-- **A command that replaces puts its decorator in** at the elements that it is for, and
fails only where it cannot be tested. -/
theorem Declaration.apply_upsert_eq_ok (hc : c.type = .upsert) {d d' : Declaration} :
    d.apply ns c = .ok d' ↔ d.Testable ns c ∧ d.upserted ns [c] = d' := by
  rw [apply_eq_ok]
  unfold execute
  cases hselected : c.target.selectsDeclaration ns d with
  | error e =>
    refine iff_of_false (fun h => by cases h) fun h => ?_
    obtain ⟨b, hb⟩ := h.1.declaration
    rw [hselected] at hb
    cases hb
  | ok selected =>
    cases selected with
    | false =>
      have hnot : c.target.selectsDeclaration ns d ≠ .ok true := by rw [hselected]; decide
      have htestable : d.Testable ns c := ⟨⟨false, hselected⟩, fun h => absurd h hnot⟩
      rw [upserted_of_not_selected hnot, and_iff_right htestable]
      simp
    | true =>
      cases hlevel : c.target.isDeclarationLevel with
      | true =>
        have htestable : d.Testable ns c :=
          ⟨⟨true, hselected⟩, fun _ hbelow => by rw [hlevel] at hbelow; cases hbelow⟩
        show attempt d (d.decorate c.type c.decorator) = _ ↔ _
        rw [and_iff_right htestable, upserted_of_level hselected hlevel, attempt_eq, hc]
        exact Iff.of_eq (Except.ok.injEq _ _)
      | false =>
        have htestable : d.Testable ns c
            ↔ ∀ p ∈ d.ownProperties, ∃ b, c.target.selectsProperty p = .ok b :=
          ⟨fun h => h.properties hselected hlevel, fun h => ⟨⟨true, hselected⟩, fun _ _ => h⟩⟩
        show d.executeBelow c = _ ↔ _
        rw [htestable, upserted_below hlevel, executeBelow_eq]
        unfold ownProperties
        cases hps : d.properties with
        | none =>
          have hsame : { d with properties := none } = d := by rw [← hps]
          rw [Option.map_none, hsame]
          simp
        | some ps =>
          have hwalk : ∀ ps', ps.mapM (Property.execute · c) = .ok ps'
              ↔ (∀ p ∈ ps, ∃ b, c.target.selectsProperty p = .ok b)
                ∧ ps.map (Property.upserted ns d [c]) = ps' := fun _ =>
            Checked.mapM_eq_ok_iff (Property.execute_upsert_eq_ok hc hselected hlevel)
          simp [hwalk]

/-! ## All commands of a set -/

theorem Declaration.upserted_nil (ns : Value) (d : Declaration) : d.upserted ns [] = d := by
  unfold upserted
  rw [map_properties_of_receives_nil (fun _ => rfl)]
  rfl

/-- **What commands that replace come to**: each element has what it receives put in. They
fail only where one of them cannot be tested. -/
theorem Declaration.applyAll_upserts_eq_ok (hcs : ∀ c ∈ cs, c.type = .upsert)
    {d d' : Declaration} :
    d.applyAll ns cs = .ok d' ↔ (∀ c ∈ cs, d.Testable ns c) ∧ d.upserted ns cs = d' := by
  induction cs generalizing d with
  | nil =>
    rw [upserted_nil, and_iff_right (fun _ hc => absurd hc List.not_mem_nil)]
    exact Checked.pure_eq_ok
  | cons c cs ih =>
    obtain ⟨hc, hrest⟩ := List.forall_mem_cons.mp hcs
    have hsame := undecorated_upserted ns [c] d
    show d.apply ns c >>= applyAll ns cs = _ ↔ _
    rw [Checked.bind_eq_ok, List.forall_mem_cons]
    constructor
    · rintro ⟨_, hmid, h⟩
      obtain ⟨hd, rfl⟩ := (apply_upsert_eq_ok hc).mp hmid
      obtain ⟨hds, rfl⟩ := (ih hrest).mp h
      -- the others are tested after the first one, which makes no difference
      exact ⟨⟨hd, fun c' hc' => (hds c' hc').of_undecorated hsame.symm⟩,
        (upserted_upserted ns [c] cs d).symm⟩
    · rintro ⟨⟨hd, hds⟩, rfl⟩
      refine ⟨d.upserted ns [c], (apply_upsert_eq_ok hc).mpr ⟨hd, rfl⟩, (ih hrest).mpr ⟨?_, ?_⟩⟩
      · exact fun c' hc' => (hds c' hc').of_undecorated hsame
      · exact upserted_upserted ns [c] cs d

/-! ## Once more -/

section OnceMore

variable {d d' : Declaration}

/-- What an element receives comes from the commands. -/
theorem exists_name_of_filter (hcs : ∀ c ∈ cs, ∃ s, c.decorator.name = .str s)
    (test : Command → Bool) :
    ∀ e ∈ (cs.filter test).map Command.decorator, ∃ s, e.name = .str s := by
  intro e he
  obtain ⟨c, hc, rfl⟩ := List.mem_map.mp he
  exact hcs c (List.mem_of_mem_filter hc)

/-- **Everything put in twice is everything put in once.** -/
theorem Declaration.upserted_append_self (hcs : ∀ c ∈ cs, ∃ s, c.decorator.name = .str s)
    (d : Declaration) : d.upserted ns (cs ++ cs) = d.upserted ns cs := by
  have hproperty : Property.upserted ns d (cs ++ cs) = Property.upserted ns d cs := by
    funext p
    have hnames : ∀ e ∈ p.receives ns d cs, ∃ s, e.name = .str s := exists_name_of_filter hcs _
    unfold Property.upserted
    rw [Property.receives_append, upsertAll_append_self hnames]
  have hnames : ∀ e ∈ d.receives ns cs, ∃ s, e.name = .str s := exists_name_of_filter hcs _
  unfold upserted
  rw [hproperty, receives_append, upsertAll_append_self hnames]

variable (hcs : ∀ c ∈ cs, c.type = .upsert ∧ ∃ s, c.decorator.name = .str s)

include hcs

/-- Commands that replace leave a declaration on which they were carried out. -/
theorem Declaration.applyAll_again (h : d.applyAll ns cs = .ok d') :
    d'.applyAll ns cs = .ok d' := by
  have htypes : ∀ c ∈ cs, c.type = .upsert := fun c hc => (hcs c hc).1
  obtain ⟨htestable, rfl⟩ := (applyAll_upserts_eq_ok htypes).mp h
  refine (applyAll_upserts_eq_ok htypes).mpr ⟨fun c hc => ?_, ?_⟩
  · exact (htestable c hc).of_undecorated (undecorated_upserted ns cs d)
  · rw [upserted_upserted, upserted_append_self fun c hc => (hcs c hc).2]

theorem Model.applyAll_again {m m' : Model} (h : m.applyAll cs = .ok m') :
    m'.applyAll cs = .ok m' := by
  obtain ⟨ds, hds, rfl⟩ := applyAll_eq_ok.mp h
  exact applyAll_eq_ok.mpr
    ⟨ds, Checked.mapM_again (fun _ _ _ => Declaration.applyAll_again hcs) hds, rfl⟩

end OnceMore

/-! ## Names -/

/-- The names of the decorators of a declaration are apart, and those of each property. -/
def Declaration.NamesApart (d : Declaration) : Prop :=
  Decorator.NamesApart d.decorators ∧ ∀ p ∈ d.ownProperties, Decorator.NamesApart p.decorators

instance (d : Declaration) : Decidable d.NamesApart := inferInstanceAs (Decidable (_ ∧ _))

/-- **No declaration and no property has two decorators of the same name.** -/
def Models.NamesApart (ms : Models) : Prop :=
  ∀ m ∈ ms.models, ∀ d ∈ m.declarations, d.NamesApart

instance (ms : Models) : Decidable ms.NamesApart := List.decidableBAll _ _

/-- Names stay apart at a declaration and its properties. -/
theorem Declaration.NamesApart.upserted (hcs : ∀ c ∈ cs, ∃ s, c.decorator.name = .str s)
    {d : Declaration} (h : d.NamesApart) : (d.upserted ns cs).NamesApart := by
  refine ⟨h.1.upsertAll (exists_name_of_filter hcs _), fun p' hp' => ?_⟩
  have hown : (d.upserted ns cs).ownProperties
      = d.ownProperties.map (Property.upserted ns d cs) := by
    unfold ownProperties Declaration.upserted
    cases d.properties <;> rfl
  rw [hown] at hp'
  obtain ⟨p, hp, rfl⟩ := List.mem_map.mp hp'
  exact (h.2 p hp).upsertAll (exists_name_of_filter hcs _)

end Elements

/-- **Replacing settles.** Where commands that replace can be carried out, they can be
carried out again on what comes out, and change nothing there; and if no two decorators of
an element had the same name before, none have afterwards. -/
theorem Models.settled_of_upserts (ms out : Models) (set : CommandSet)
    (hset : ∀ c ∈ set.commands, c.type = .upsert ∧ ∃ s, c.decorator.name = .str s)
    (h : ms.decorate set = .ok out) :
    out.decorate set = .ok out ∧ (ms.NamesApart → out.NamesApart) := by
  rw [decorate_eq_ok] at h ⊢
  refine ⟨Checked.mapM_again (fun _ _ _ => Model.applyAll_again hset) h, fun hapart m' hm' => ?_⟩
  obtain ⟨m, hm, hmodel⟩ := Checked.exists_of_mapM_eq_ok h hm'
  obtain ⟨ds, hds, rfl⟩ := Model.applyAll_eq_ok.mp hmodel
  intro d' hd'
  obtain ⟨d, hd, happly⟩ := Checked.exists_of_mapM_eq_ok hds hd'
  obtain ⟨_, rfl⟩ := (Declaration.applyAll_upserts_eq_ok fun c hc => (hset c hc).1).mp happly
  exact (hapart m hm d hd).upserted fun c hc => (hset c hc).2

/-- A declaration with three properties, two of them decorated. -/
def parcelModels : Models where
  models := [{
    namespaceName := .str "org.post@1.0.0"
    declarations := [{
      name := .str "Parcel"
      kind := .concept
      properties := some [
        ⟨.str "code", .string, false, false, none,
          some [⟨.str "Unique", none, []⟩, ⟨.str "Index", none, []⟩], []⟩,
        ⟨.str "sender", .string, false, true, none, none, []⟩,
        ⟨.str "weight", .double, false, false, none, some [⟨.str "Unit", none, []⟩], []⟩]
      isAbstract := false
      superType := none
      decorators := none
      extras := [] }]
    decorators := none
    extras := [] }]

/-- Two commands that reach the declaration, and three that reach its texts. The second
overrides the first, and the fifth the third. -/
def parcelCommands : CommandSet where
  name := .str "org.post"
  version := .str "1.0.0"
  commands := [
    ⟨⟨.null, .null, .null, none, .null⟩, ⟨.str "Table", none, []⟩, .upsert⟩,
    ⟨⟨.str "org.post", .str "Parcel", .null, none, .null⟩, ⟨.str "Table", some [], []⟩, .upsert⟩,
    ⟨⟨.null, .null, .null, none, .str "concerto.metamodel@1.0.0.StringProperty"⟩,
      ⟨.str "Index", none, []⟩, .upsert⟩,
    ⟨⟨.str "org.post@1.0.0", .null, .str "sender", none, .null⟩,
      ⟨.str "Unique", none, []⟩, .upsert⟩,
    ⟨⟨.null, .null, .null, none, .str "concerto.metamodel@1.0.0.StringProperty"⟩,
      ⟨.str "Index", some [.literal .string (.str "btree")], []⟩, .upsert⟩]
  includes := none

/-- The declaration after the five commands. -/
def settledParcelModels : Models where
  models := [{
    namespaceName := .str "org.post@1.0.0"
    declarations := [{
      name := .str "Parcel"
      kind := .concept
      properties := some [
        ⟨.str "code", .string, false, false, none,
          some [⟨.str "Unique", none, []⟩,
            ⟨.str "Index", some [.literal .string (.str "btree")], []⟩], []⟩,
        ⟨.str "sender", .string, false, true, none,
          some [⟨.str "Index", some [.literal .string (.str "btree")], []⟩,
            ⟨.str "Unique", none, []⟩], []⟩,
        ⟨.str "weight", .double, false, false, none, some [⟨.str "Unit", none, []⟩], []⟩]
      isAbstract := false
      superType := none
      decorators := some [⟨.str "Table", some [], []⟩]
      extras := [] }]
    decorators := none
    extras := [] }]

theorem Models.settled_of_upserts_parcel :
    (∀ c ∈ parcelCommands.commands, c.type = .upsert ∧ ∃ s, c.decorator.name = .str s)
      ∧ parcelModels.decorate parcelCommands = .ok settledParcelModels
      ∧ settledParcelModels.decorate parcelCommands = .ok settledParcelModels
      ∧ parcelModels.NamesApart ∧ settledParcelModels.NamesApart := by
  have hset : ∀ c ∈ parcelCommands.commands,
      c.type = .upsert ∧ ∃ s, c.decorator.name = .str s := by
    unfold parcelCommands
    simp
  have h : parcelModels.decorate parcelCommands = .ok settledParcelModels := by
    decide +kernel
  have hapart : parcelModels.NamesApart := by decide +kernel
  obtain ⟨hagain, hstay⟩ := Models.settled_of_upserts _ _ parcelCommands hset h
  exact ⟨hset, h, hagain, hapart, hstay hapart⟩

end DecoratorSets
