import Mathlib.Data.List.Induction
import DecoratorSets.Proofs.Registry.Inheritance

/-!
# Ancestors and what they define

A lineage is a list that is made by climbing, with an eye on circles. What it stands for
can be said without climbing: it holds exactly the declarations that the first one extends
(`Registry.Lists.mem_lineage_iff`), and a type fits another exactly if it extends it
(`Registry.Lists.isAssignable_iff`).

Likewise a property of a name can be said to belong to a type without putting together
any table. The nearest declaration that has a property of the name defines it, and of
several in one declaration the last (`Registry.Defines`). A type has at most one property
of each name (`Registry.Defines.unique`), also where the declarations go round in a
circle.

In a registry whose references and names are in order (`Registry.Regular`) every lineage
ends well, and the table of the properties of a type holds exactly what is defined
(`Registry.Regular.exists_propertyTable`).
-/

namespace DecoratorSets

/-- The last property of a name that a declaration has of its own. -/
def Declaration.lastProperty? (d : Declaration) (name : String) : Option Property :=
  d.ownProperties.reverse.find? fun p => p.name == .str name

/-- The last property of a name is a property of that declaration. -/
theorem Declaration.mem_of_lastProperty? {d : Declaration} {name : String} {p : Property}
    (h : d.lastProperty? name = some p) : p ∈ d.ownProperties :=
  List.mem_reverse.mp (List.mem_of_find?_eq_some h)

namespace Registry

variable {r : Registry}

/-! ## Lineages -/

/-- What a declaration of a climb extends is met on the climb, or was passed before. -/
theorem mem_or_passed_of_mem_climb {unseen : List String} {h a up : Handle}
    (ha : a ∈ (r.climb unseen h).handles) (hup : r.superType a = .ok (some up)) :
    up ∈ (r.climb unseen h).handles ∨ up.fullName ∉ unseen := by
  induction unseen, h using climb.induct (r := r) with
  | case1 unseen h cause hfail =>
    rw [climb, hfail] at ha
    obtain rfl := List.mem_singleton.mp ha
    rw [hfail] at hup
    cases hup
  | case2 unseen h htop =>
    rw [climb, htop] at ha
    obtain rfl := List.mem_singleton.mp ha
    rw [htop] at hup
    cases hup
  | case3 unseen h next hnext hunseen ih =>
    rw [climb_of_superType hnext, if_pos hunseen] at ha ⊢
    obtain ⟨rest, hrest⟩ := r.handles_climb (passing next.fullName unseen) next
    have hhead : next ∈ (r.climb (passing next.fullName unseen) next).handles := by
      rw [hrest]
      exact List.mem_cons_self
    rcases List.mem_cons.mp ha with rfl | ha
    · obtain rfl := Option.some.inj (Except.ok.inj (hnext.symm.trans hup))
      exact Or.inl (List.mem_cons_of_mem _ hhead)
    · rcases ih ha with hmem | hpassed
      · exact Or.inl (List.mem_cons_of_mem _ hmem)
      · -- the one name that was passed in between is that of the first declaration above
        by_cases hname : up.fullName = next.fullName
        · have heq := (lists_of_superType hup).eq_of_fullName (lists_of_superType hnext) hname
          exact Or.inl (List.mem_cons_of_mem _ (heq ▸ hhead))
        · refine Or.inr fun hmem => hpassed (List.mem_filter.mpr ⟨hmem, ?_⟩)
          simpa using hname
  | case4 unseen h next hnext hseen =>
    rw [climb_of_superType hnext, if_neg hseen] at ha
    obtain rfl := List.mem_singleton.mp ha
    obtain rfl := Option.some.inj (Except.ok.inj (hnext.symm.trans hup))
    exact Or.inr hseen

/-- Every lineage holds the declaration itself. -/
theorem mem_lineage_self (h : Handle) : h ∈ (r.lineage h).handles := by
  obtain ⟨rest, hrest⟩ := r.handles_climb (passing h.fullName r.typeNames) h
  unfold lineage
  rw [hrest]
  exact List.mem_cons_self

/-- A lineage is closed under what its declarations extend. -/
theorem Lists.mem_lineage_of_superType {h a up : Handle} (hh : r.Lists h)
    (ha : a ∈ (r.lineage h).handles) (hup : r.superType a = .ok (some up)) :
    up ∈ (r.lineage h).handles := by
  rcases mem_or_passed_of_mem_climb ha hup with hmem | hpassed
  · exact hmem
  · have hlists := lists_of_superType hup
    have hname : up.fullName = h.fullName := by
      by_contra hne
      exact hpassed (List.mem_filter.mpr ⟨hlists.mem_typeNames, by simpa using hne⟩)
    rw [hlists.eq_of_fullName hh hname]
    exact mem_lineage_self h

/-- **The lineage of a declaration** holds exactly the declarations that it extends. -/
theorem Lists.mem_lineage_iff {h a : Handle} (hh : r.Lists h) :
    a ∈ (r.lineage h).handles ↔ r.Extends h a := by
  refine ⟨extends_of_mem_climb _ h a, fun hext => ?_⟩
  have hclosed : ∀ b c, r.Extends b c → b ∈ (r.lineage h).handles → c ∈ (r.lineage h).handles := by
    intro b c hbc
    induction hbc with
    | refl b => exact id
    | step hup _ ih => exact fun hb => ih (hh.mem_lineage_of_superType hb hup)
  exact hclosed h a hext (mem_lineage_self h)

/-- **A type fits another exactly if it extends it.** -/
theorem Lists.isAssignable_iff {h e : Handle} (hh : r.Lists h) (he : r.Lists e) :
    r.isAssignable h e = .ok true ↔ r.Extends h e := by
  refine ⟨extends_of_isAssignable hh he, fun hext => isAssignable_eq_true.mpr ?_⟩
  exact Option.isSome_iff_exists.mp
    (List.find?_isSome.mpr ⟨e, hh.mem_lineage_iff.mpr hext, beq_self_eq_true _⟩)

/-! ## What is defined -/

/-- **A type defines a property of a name**: the nearest declaration that has one of that
name defines it, and of several in one declaration the last. -/
inductive Defines (r : Registry) : Handle → String → Property → Prop where
  | own {h : Handle} {name : String} {p : Property}
    (hp : h.declaration.lastProperty? name = some p) : Defines r h name p
  | inherited {h up : Handle} {name : String} {p : Property}
    (hnone : h.declaration.lastProperty? name = none) (hup : r.superType h = .ok (some up))
    (hp : Defines r up name p) : Defines r h name p

/-- **A type has at most one property of each name.** -/
theorem Defines.unique {h : Handle} {name : String} {p q : Property} (hp : r.Defines h name p)
    (hq : r.Defines h name q) : p = q := by
  induction hp with
  | own hown =>
    cases hq with
    | own hown' => exact Option.some.inj (hown.symm.trans hown')
    | inherited hnone => exact absurd (hown.symm.trans hnone) (Option.some_ne_none _)
  | inherited hnone hup _ ih =>
    cases hq with
    | own hown => exact absurd (hown.symm.trans hnone) (Option.some_ne_none _)
    | inherited _ hup' hq =>
      obtain rfl := Option.some.inj (Except.ok.inj (hup.symm.trans hup'))
      exact ih hq

/-- What a type defines is a property of a declaration that it extends. -/
theorem Defines.exists_extends {h : Handle} {name : String} {p : Property}
    (hp : r.Defines h name p) :
    ∃ a, r.Extends h a ∧ a.declaration.lastProperty? name = some p := by
  induction hp with
  | own hown => exact ⟨_, .refl _, hown⟩
  | inherited _ hup _ ih =>
    obtain ⟨a, hext, ha⟩ := ih
    exact ⟨a, .step hup hext, ha⟩

/-- What is first met on the way up is defined. -/
theorem defines_of_findSome?_climb {unseen : List String} {h : Handle} {name : String}
    {p : Property}
    (hp : (r.climb unseen h).handles.findSome? (fun a => a.declaration.lastProperty? name)
      = some p) : r.Defines h name p := by
  induction unseen, h using climb.induct (r := r) with
  | case1 unseen h cause hfail =>
    rw [climb, hfail, List.findSome?_singleton] at hp
    exact .own hp
  | case2 unseen h htop =>
    rw [climb, htop, List.findSome?_singleton] at hp
    exact .own hp
  | case3 unseen h up hnext hunseen ih =>
    rw [climb_of_superType hnext, if_pos hunseen] at hp
    unfold Lineage.below at hp
    rw [List.findSome?_cons] at hp
    cases hown : h.declaration.lastProperty? name with
    | some q =>
      rw [hown] at hp
      exact .own (hown.trans hp)
    | none =>
      rw [hown] at hp
      exact .inherited hown hnext (ih hp)
  | case4 unseen h up hnext hseen =>
    rw [climb_of_superType hnext, if_neg hseen, List.findSome?_singleton] at hp
    exact .own hp

/-- **What is defined is what is first met along the lineage.** -/
theorem Lists.findSome?_lineage_eq_some {h : Handle} (hh : r.Lists h) {name : String}
    {p : Property} :
    (r.lineage h).handles.findSome? (fun a => a.declaration.lastProperty? name) = some p
      ↔ r.Defines h name p := by
  refine ⟨defines_of_findSome?_climb, fun hp => ?_⟩
  cases hfirst : (r.lineage h).handles.findSome? (fun a => a.declaration.lastProperty? name) with
  | some q => rw [hp.unique (defines_of_findSome?_climb hfirst)]
  | none =>
    -- the definition comes from a declaration that is extended, and so is on the lineage
    obtain ⟨a, hext, ha⟩ := hp.exists_extends
    have hnone := List.findSome?_eq_none_iff.mp hfirst a (hh.mem_lineage_iff.mpr hext)
    exact absurd (hnone.symm.trans ha) (Option.some_ne_none p).symm

end Registry

/-! ## Tables -/

namespace Table

variable {α : Type}

/-- **A table holds a value for some names**: its names are different texts, and its
entries are the values. -/
structure Holds (t : Table α) (value : String → Option α) : Prop where
  names : ∃ names : List String, t.map Prod.fst = names.map Value.str ∧ names.Nodup
  entries : ∀ name a, (.str name, a) ∈ t ↔ value name = some a

/-- The names of a table after an entry was put in. -/
theorem map_fst_put {t : Table α} {names : List String}
    (htexts : t.map Prod.fst = names.map Value.str) (name : String) (a : α) :
    (t.put (.str name) a).map Prod.fst
      = (if name ∈ names then names else names ++ [name]).map Value.str := by
  induction t generalizing names with
  | nil =>
    obtain rfl := List.map_eq_nil_iff.mp htexts.symm
    rfl
  | cons entry rest ih =>
    obtain ⟨key, b⟩ := entry
    obtain ⟨first, names, rfl, rfl, hrest⟩ := List.map_eq_cons_iff.mp htexts.symm
    unfold put at ih ⊢
    rw [modify]
    by_cases hname : first = name
    · rw [if_pos (by rw [hname]; simp), if_pos (by simp [hname]), List.map_cons, List.map_cons,
        hrest]
    · rw [if_neg (by simpa using hname), List.map_cons, ih hrest.symm]
      have hne : ¬ name = first := fun e => hname e.symm
      by_cases hmem : name ∈ names
      · simp [hmem]
      · simp [hmem, hne]

/-- The entries of a table after an entry was put in. -/
theorem mem_put_iff {t : Table α} {names : List String}
    (htexts : t.map Prod.fst = names.map Value.str) (hdistinct : names.Nodup) (name : String)
    (a : α) (other : String) (b : α) :
    (.str other, b) ∈ t.put (.str name) a
      ↔ if other = name then b = a else (.str other, b) ∈ t := by
  induction t generalizing names with
  | nil =>
    unfold put
    rw [modify]
    by_cases hname : other = name <;> simp [hname]
  | cons entry rest ih =>
    obtain ⟨key, c⟩ := entry
    obtain ⟨first, names, rfl, rfl, hrest⟩ := List.map_eq_cons_iff.mp htexts.symm
    obtain ⟨hnew, hdistinct⟩ := List.nodup_cons.mp hdistinct
    unfold put at ih ⊢
    rw [modify]
    by_cases hfirst : first = name
    · subst hfirst
      have habsent : (Value.str first, b) ∉ rest := by
        intro hmem
        have hkey : Value.str first ∈ names.map Value.str := hrest ▸ List.mem_map_of_mem hmem
        obtain ⟨s, hs, heq⟩ := List.mem_map.mp hkey
        exact hnew (Value.str.inj heq ▸ hs)
      rw [if_pos (by simp)]
      by_cases hname : other = first
      · subst hname
        simp [habsent]
      · simp [hname]
    · rw [if_neg (by simpa using hfirst), List.mem_cons, ih hrest.symm hdistinct]
      by_cases hname : other = name
      · subst hname
        have hne : ¬ other = first := fun e => hfirst e.symm
        simp [hne]
      · simp [hname]

/-- Putting in an entry changes the value of its name alone. -/
theorem Holds.put {t : Table α} {value : String → Option α} (h : t.Holds value) (name : String)
    (a : α) :
    (t.put (.str name) a).Holds (fun other => if other = name then some a else value other) := by
  obtain ⟨names, htexts, hdistinct⟩ := h.names
  refine ⟨⟨_, map_fst_put htexts name a, ?_⟩, fun other b => ?_⟩
  · split
    · exact hdistinct
    · rename_i hnew
      exact List.nodup_append.mpr ⟨hdistinct, List.nodup_singleton name, fun s hs t ht heq =>
        hnew (List.mem_singleton.mp ht ▸ heq ▸ hs)⟩
  · rw [mem_put_iff htexts hdistinct]
    split
    · rw [Option.some.injEq, eq_comm]
    · exact h.entries other b

/-- One more element is put in under its name. -/
theorem byName_concat {nameOf : α → Value} {elements : List α} {t : Table α}
    (ht : byName nameOf elements = .ok t) {a : α} (ha : (nameOf a).canName = true) :
    byName nameOf (elements ++ [a]) = .ok (t.put (nameOf a) a) := by
  unfold byName at ht ⊢
  rw [List.foldlM_append, ht, Checked.ok_bind, List.foldlM_cons,
    Value.asKey_eq_ok.mpr ⟨ha, rfl⟩]
  rfl

/-- **Elements with texts as names** make a table that holds the last element of each
name. -/
theorem exists_byName {nameOf : α → Value} {elements : List α}
    (htexts : ∀ a ∈ elements, ∃ s, nameOf a = .str s) :
    ∃ t, byName nameOf elements = .ok t
      ∧ t.Holds (fun name => elements.reverse.find? fun a => nameOf a == .str name) := by
  -- the table grows at the end of the list, where the last element of a name is
  induction elements using List.reverseRecOn with
  | nil => exact ⟨[], rfl, ⟨[], rfl, List.nodup_nil⟩, fun _ _ => by simp⟩
  | append_singleton elements a ih =>
    obtain ⟨t, ht, hholds⟩ := ih fun b hb => htexts b (List.mem_append_left _ hb)
    obtain ⟨s, hs⟩ := htexts a (List.mem_append_right _ (List.mem_singleton_self a))
    refine ⟨t.put (.str s) a, ?_, ?_⟩
    · rw [byName_concat ht (by rw [hs]; rfl), hs]
    · have hvalue : (fun name => (elements ++ [a]).reverse.find? fun b => nameOf b == .str name)
          = fun name => if name = s then some a
            else elements.reverse.find? fun b => nameOf b == .str name := by
        funext name
        rw [List.reverse_append, List.reverse_singleton, List.singleton_append]
        by_cases hname : name = s
        · rw [if_pos hname, List.find?_cons_of_pos (by rw [hs, hname]; exact beq_self_eq_true _)]
        · have hne : nameOf a ≠ .str name := by
            rw [hs]
            exact fun heq => hname (Value.str.inj heq).symm
          rw [if_neg hname, List.find?_cons_of_neg (by simpa using hne)]
      rw [hvalue]
      exact hholds.put s a

/-- What a table has an entry for. -/
theorem Holds.has_iff {t : Table α} {value : String → Option α} (h : t.Holds value)
    (key : Value) : t.has key = true ↔ ∃ name a, key = .str name ∧ value name = some a := by
  obtain ⟨names, htexts, _⟩ := h.names
  have hkey : ∀ entry ∈ t, ∃ name, entry.1 = .str name := by
    intro entry hentry
    obtain ⟨name, _, heq⟩ := List.mem_map.mp (htexts ▸ List.mem_map_of_mem hentry)
    exact ⟨name, heq.symm⟩
  unfold has
  rw [List.any_eq_true]
  constructor
  · rintro ⟨⟨k, a⟩, hentry, hsame⟩
    obtain ⟨name, rfl⟩ := hkey _ hentry
    exact ⟨name, a, (Value.str_sameAs_iff name key).mp hsame, (h.entries name a).mp hentry⟩
  · rintro ⟨name, a, rfl, hvalue⟩
    exact ⟨(.str name, a), (h.entries name a).mpr hvalue,
      (Value.str_sameAs_iff name _).mpr rfl⟩

/-- What the entries of a table are. -/
theorem Holds.mem_iff {t : Table α} {value : String → Option α} (h : t.Holds value)
    (entry : Value × α) :
    entry ∈ t ↔ ∃ name, entry.1 = .str name ∧ value name = some entry.2 := by
  obtain ⟨names, htexts, _⟩ := h.names
  obtain ⟨key, a⟩ := entry
  constructor
  · intro hentry
    have hkey : key ∈ names.map Value.str := htexts ▸ List.mem_map_of_mem hentry
    obtain ⟨name, _, rfl⟩ := List.mem_map.mp hkey
    exact ⟨name, rfl, (h.entries name a).mp hentry⟩
  · rintro ⟨name, rfl, hvalue⟩
    exact (h.entries name a).mpr hvalue

end Table

namespace Registry

variable {r : Registry}

/-! ## Regular registries -/

/-- **A property names its type in full** if the type has a namespace. -/
def IsQualified (p : Property) : Prop := ∀ ident ∈ p.type, ident.namespaceName.isBlank = false

/-- A property that names its type in full refers to what has that name, whoever owns the
property. -/
theorem IsQualified.propertyType_eq {p : Property} (hq : IsQualified p) {ident : TypeIdentifier}
    (hident : p.type = some ident) (owner : Handle) :
    r.propertyType owner p
      = r.getType (typeName ident.namespaceName.text ident.name.text) := by
  have hns := hq ident hident
  obtain ⟨name, ns⟩ := ident
  unfold propertyType
  rw [hident]
  exact (resolve_of_not_blank name hns).trans (typeIn_of_not_blank name hns)

/-- **A registry is regular** if every super type can be looked up, the names of properties
are texts, and properties name their types in full. -/
structure Regular (r : Registry) : Prop where
  superTypes : ∀ h, r.Lists h → ∃ up, r.superType h = .ok up
  names : ∀ h, r.Lists h → ∀ p ∈ h.declaration.ownProperties, ∃ s, p.name = .str s
  references : ∀ h, r.Lists h → ∀ p ∈ h.declaration.ownProperties, IsQualified p

/-- What a listed declaration defines names its type in full. -/
theorem Regular.isQualified_of_defines (hr : r.Regular) {h : Handle} (hh : r.Lists h)
    {name : String} {p : Property} (hp : r.Defines h name p) : IsQualified p := by
  obtain ⟨a, hext, hlast⟩ := hp.exists_extends
  exact hr.references a (hext.lists hh) p (Declaration.mem_of_lastProperty? hlast)

/-- In a regular registry no climb ends in a failure. -/
theorem Regular.ending_climb (hr : r.Regular) (unseen : List String) {h : Handle}
    (hh : r.Lists h) (cause : Failure) : (r.climb unseen h).ending ≠ .failed cause := by
  induction unseen, h using climb.induct (r := r) with
  | case1 unseen h cause' hfail =>
    obtain ⟨up, hup⟩ := hr.superTypes h hh
    rw [hfail] at hup
    cases hup
  | case2 unseen h htop =>
    rw [climb, htop]
    exact Ending.noConfusion
  | case3 unseen h up hnext hunseen ih =>
    rw [climb_of_superType hnext, if_pos hunseen]
    exact ih (lists_of_superType hnext)
  | case4 unseen h up hnext hseen =>
    rw [climb_of_superType hnext, if_neg hseen]
    exact Ending.noConfusion

/-- A lineage that does not end in a failure gives all its properties. -/
theorem properties_eq_of_ending {h : Handle}
    (hend : ∀ cause, (r.lineage h).ending ≠ .failed cause) : r.properties h
      = .ok ((r.lineage h).handles.reverse.flatMap fun a => a.declaration.ownProperties) := by
  unfold properties Lineage.all
  cases hending : (r.lineage h).ending with
  | failed cause => exact absurd hending (hend cause)
  | complete => rfl
  | cycle => rfl

/-- In a regular registry every type has properties. -/
theorem Regular.properties_eq (hr : r.Regular) {h : Handle} (hh : r.Lists h) :
    r.properties h
      = .ok ((r.lineage h).handles.reverse.flatMap fun a => a.declaration.ownProperties) :=
  properties_eq_of_ending (hr.ending_climb (passing h.fullName r.typeNames) hh)

/-- **The table of the properties of a type** holds what the type defines. -/
theorem Regular.exists_propertyTable (hr : r.Regular) {h : Handle} (hh : r.Lists h) :
    ∃ table, r.propertyTable h = .ok table
      ∧ (∀ key, table.has key = true ↔ ∃ name p, key = .str name ∧ r.Defines h name p)
      ∧ ∀ entry, entry ∈ table ↔ ∃ name, entry.1 = .str name ∧ r.Defines h name entry.2 := by
  have htexts : ∀ p ∈ (r.lineage h).handles.reverse.flatMap fun a => a.declaration.ownProperties,
      ∃ s, Property.name p = .str s := by
    intro p hp
    obtain ⟨a, ha, hp⟩ := List.mem_flatMap.mp hp
    have hext := hh.mem_lineage_iff.mp (List.mem_reverse.mp ha)
    exact hr.names a (hext.lists hh) p hp
  obtain ⟨table, htable, hholds⟩ := Table.exists_byName htexts
  have hvalue : (fun name => ((r.lineage h).handles.reverse.flatMap fun a =>
      a.declaration.ownProperties).reverse.find? fun p => Property.name p == .str name)
        = fun name => (r.lineage h).handles.findSome?
          fun a => a.declaration.lastProperty? name := by
    funext name
    rw [List.reverse_flatMap, List.reverse_reverse, List.find?_flatMap]
    rfl
  rw [hvalue] at hholds
  refine ⟨table, ?_, fun key => ?_, fun entry => ?_⟩
  · unfold propertyTable
    rw [hr.properties_eq hh]
    exact htable
  · rw [hholds.has_iff]
    simp only [hh.findSome?_lineage_eq_some]
  · rw [hholds.mem_iff]
    simp only [hh.findSome?_lineage_eq_some]

end Registry

end DecoratorSets
