import DecoratorSets.Proofs.Registry.Ascent

/-!
# Properties that override others

A type may declare a property that a type above it declares already. What the name then stands
for is settled twice, and in two ways. A command that names a property has it searched for from
the declaration upwards, and the search ends at the first property that it meets. A payload is
checked against all properties of its type: they are listed from the top downwards, and where
they are gathered by name, each one takes the place of those before it.

The search runs the one way and the list the other, so the first hit of the search is the last
one in the list (`Registry.findSome?_property?_eq_getLast?`). This does not hold inside a single
declaration, whose own properties stand in the same order on both sides: of two properties of
one name the search would take the first and the list the last. Therefore no declaration of the
lineage may declare a name twice (`Declaration.DeclaresOnce`). Circles do no harm, as a lineage
is the same list for both; a gap does, as the list is only there if the lineage has its end.
-/

namespace DecoratorSets

/-! ## Names that are declared once -/

/-- **A declaration declares no name twice**: no two of its properties go by one name. -/
def Declaration.DeclaresOnce (d : Declaration) : Prop :=
  d.ownProperties.Pairwise fun p q =>
    ∀ name, p.name.sameAs name = true → q.name.sameAs name = false

/-- Where the names are texts, no name is declared twice exactly if the texts differ. -/
theorem Declaration.declaresOnce_iff {d : Declaration} {names : List String}
    (htexts : d.ownProperties.map Property.name = names.map Value.str) :
    d.DeclaresOnce ↔ names.Nodup := by
  have hnames : names.Nodup ↔ d.ownProperties.Pairwise fun p q => p.name ≠ q.name := by
    rw [← List.nodup_map_iff (f := Value.str) fun _ _ => Value.str.inj, ← htexts]
    exact List.pairwise_map
  rw [hnames]
  refine List.Pairwise.iff_of_mem fun {p q} hp _ => ?_
  obtain ⟨s, _, hs⟩ := List.mem_map.mp (htexts ▸ List.mem_map_of_mem hp)
  rw [← hs]
  constructor
  · intro honce heq
    have hself := honce (.str s) ((Value.str_sameAs_iff s _).mpr rfl)
    rw [← heq, Value.sameAs_str, beq_self_eq_true] at hself
    cases hself
  · intro hne name hname
    rw [(Value.str_sameAs_iff s name).mp hname]
    exact Value.sameAs_str_of_ne hne.symm

/-- Where no two items of a list meet a condition, the first that does is also the last. -/
theorem find?_eq_getLast?_filter {α : Type} {meets : α → Bool} {xs : List α}
    (h : xs.Pairwise fun a b => meets a = true → meets b = false) :
    xs.find? meets = (xs.filter meets).getLast? := by
  induction xs with
  | nil => rfl
  | cons a rest ih =>
    obtain ⟨ha, hrest⟩ := List.pairwise_cons.mp h
    cases hmeets : meets a with
    | false => rw [List.find?_cons_of_neg (by simp [hmeets]), List.filter_cons_of_neg
        (by simp [hmeets]), ih hrest]
    | true =>
      have hnone : rest.filter meets = [] :=
        List.filter_eq_nil_iff.mpr fun b hb => by simp [ha b hb hmeets]
      rw [List.find?_cons_of_pos hmeets, List.filter_cons_of_pos hmeets, hnone]
      rfl

/-- Of a declaration that declares no name twice, the first property of a name is the last. -/
theorem Declaration.DeclaresOnce.property?_eq {d : Declaration} (h : d.DeclaresOnce)
    (name : Value) :
    d.property? name = (d.ownProperties.filter fun p => p.name.sameAs name).getLast? :=
  find?_eq_getLast?_filter (h.imp fun honce => honce name)

/-! ## Properties by name -/

namespace Table

variable {α : Type}

/-- **Putting in an entry** changes what stands under its name alone. -/
theorem get?_put (t : Table α) (name : Value) (a : α) (s : String) :
    (t.put name a).get? (.str s) = if name = .str s then some a else t.get? (.str s) := by
  induction t with
  | nil => by_cases h : name = .str s <;> simp [put, modify, get?, Value.sameAs_str_iff, h]
  | cons entry rest ih =>
    obtain ⟨key, b⟩ := entry
    unfold put get? at ih ⊢
    rw [modify]
    by_cases hkey : key = .str s
    · -- a text is changed under its own name only
      by_cases h : name = .str s <;> simp [hkey, h, Value.str_sameAs_iff]
    · split
      · rename_i hsame
        have h : name ≠ .str s := by
          rintro rfl
          exact hkey ((Value.sameAs_str_iff key s).mp hsame)
        simp [h, Value.sameAs_str_of_ne hkey]
      · rw [List.find?_cons_of_neg (by simp [Value.sameAs_str_of_ne hkey]),
          List.find?_cons_of_neg (by simp [Value.sameAs_str_of_ne hkey]), ih]

/-- **Elements gathered by name**: under each text stands the last element that goes by it. -/
theorem exists_byName_get? {nameOf : α → Value} {elements : List α}
    (hkeys : ∀ a ∈ elements, (nameOf a).canName = true) :
    ∃ t, byName nameOf elements = .ok t ∧ ∀ s : String,
      t.get? (.str s) = (elements.filter fun a => (nameOf a).sameAs (.str s)).getLast? := by
  induction elements using List.reverseRecOn with
  | nil => exact ⟨[], rfl, fun _ => rfl⟩
  | append_singleton elements a ih =>
    obtain ⟨t, ht, hget⟩ := ih fun b hb => hkeys b (List.mem_append_left _ hb)
    have ha : (nameOf a).canName = true :=
      hkeys a (List.mem_append_right _ (List.mem_singleton_self a))
    refine ⟨t.put (nameOf a) a, byName_concat ht ha, fun s => ?_⟩
    rw [get?_put, hget, List.filter_append]
    by_cases h : nameOf a = .str s
    · simp [h]
    · simp [h, Value.sameAs_str_of_ne h]

end Table

namespace Registry

variable {r : Registry} {h : Handle}

/-! ## The two lookups -/

/-- A lineage that has its end settles every search. -/
theorem settle_of_ending {α : Type} {l : Lineage} (hend : ∀ cause, l.ending ≠ .failed cause)
    (found : Option α) : l.settle found = .ok found := by
  cases found with
  | none => exact settle_eq_ok_none.mpr ⟨rfl, hend⟩
  | some a => exact settle_eq_ok_some.mpr rfl

/-- **The first property on the way up is the last on the way down.** -/
theorem findSome?_property?_eq_getLast? {handles : List Handle}
    (honce : ∀ a ∈ handles, a.declaration.DeclaresOnce) (name : Value) :
    handles.findSome? (fun a => a.declaration.property? name)
      = ((handles.reverse.flatMap fun a => a.declaration.ownProperties).filter
          fun p => p.name.sameAs name).getLast? := by
  induction handles with
  | nil => rfl
  | cons a above ih =>
    obtain ⟨ha, habove⟩ := List.forall_mem_cons.mp honce
    rw [List.reverse_cons, List.flatMap_append, List.flatMap_singleton, List.filter_append,
      List.getLast?_append, ← ih habove, ← ha.property?_eq, List.findSome?_cons]
    cases a.declaration.property? name <;> rfl

/-- **The two lookups of a property agree.** For a type whose lineage has its end, be it in a
circle, and declares no name twice in one declaration, a name stands for the last property of
that name among all properties of the type, and for none if there is none. So a property of
the type itself wins over those that it inherits, for commands, and for payloads, which
are checked against the properties as they are gathered by name. -/
theorem property?_eq_getLast?_of_properties (hend : ∀ cause, (r.lineage h).ending ≠ .failed cause)
    (honce : ∀ a ∈ (r.lineage h).handles, a.declaration.DeclaresOnce) :
    ∃ ps, r.properties h = .ok ps
      ∧ (∀ name, r.property? h name = .ok (ps.filter fun p => p.name.sameAs name).getLast?)
      ∧ (∀ name, r.property? h name = .ok none ↔ ∀ p ∈ ps, p.name.sameAs name = false)
      ∧ (∀ name p, h.declaration.property? name = some p →
        (ps.filter fun p => p.name.sameAs name).getLast? = some p)
      ∧ ((∀ p ∈ ps, p.name.canName = true) → ∃ table, r.propertyTable h = .ok table
        ∧ ∀ s : String, r.property? h (.str s) = .ok (table.get? (.str s))) := by
  have hlast := findSome?_property?_eq_getLast? honce
  have hproperty : ∀ name, r.property? h name
      = .ok ((r.lineage h).handles.findSome? fun a => a.declaration.property? name) :=
    fun name => settle_of_ending hend _
  refine ⟨_, properties_eq_of_ending hend, fun name => ?_, fun name => ?_, fun name p hp => ?_,
    fun hkeys => ?_⟩
  · rw [hproperty, hlast]
  · rw [hproperty, hlast, Except.ok.injEq, List.getLast?_eq_none_iff, List.filter_eq_nil_iff]
    simp only [Bool.not_eq_true]
  · -- the declaration itself is the first that the search meets
    obtain ⟨rest, hrest⟩ := r.handles_climb (passing h.fullName r.typeNames) h
    rw [← hlast]
    unfold lineage
    rw [hrest, List.findSome?_cons, hp]
  · obtain ⟨table, htable, hget⟩ := Table.exists_byName_get? hkeys
    refine ⟨table, ?_, fun s => ?_⟩
    · unfold propertyTable
      rw [properties_eq_of_ending hend]
      exact htable
    · rw [hproperty, hlast, hget]

end Registry

/-! ### Vehicles in a circle -/

namespace Vehicles

open Papers (concept here)

/-- A property of vehicles, of some kind. -/
def wheels (kind : PropertyKind) : Property := ⟨.str "wheels", kind, false, false, none, none, []⟩

/-- A file in which cars are vehicles, and vehicles and machines extend each other. Each of them
declares its wheels. -/
def vehicleFile : ModelFile where
  namespaceText := "org.acme@1.0.0"
  info := ⟨"org.acme", some "1.0.0"⟩
  declarations := [concept "Car" (here "Vehicle") [wheels .integer],
    concept "Vehicle" (here "Machine") [wheels .string],
    concept "Machine" (here "Vehicle") [wheels .double]]
  decorators := none
  extras := []
  parse_eq := Namespace.parse_acme

/-- The registry of the file. -/
def registry : Registry where
  strict := false
  files := [vehicleFile]
  distinct := List.nodup_singleton _

/-- The type of a declaration of the file. -/
def vehicle (i : Fin 3) : Handle := ⟨vehicleFile, vehicleFile.declarations[i]⟩

/-- Each of the vehicles declares its wheels once. -/
theorem declaresOnce_vehicle (i : Fin 3) : (vehicle i).declaration.DeclaresOnce := by
  have htexts : (vehicle i).declaration.ownProperties.map Property.name
      = ["wheels"].map Value.str := by
    revert i
    decide
  exact (Declaration.declaresOnce_iff htexts).mpr (List.nodup_singleton _)

/-- The wheels of a car are its own, although its lineage goes round in a circle. -/
theorem property?_eq_getLast?_of_properties_car :
    registry.lineage (vehicle 0) = ⟨[vehicle 0, vehicle 1, vehicle 2], .cycle⟩
      ∧ registry.properties (vehicle 0) = .ok [wheels .double, wheels .string, wheels .integer]
      ∧ registry.property? (vehicle 0) (.str "wheels") = .ok (some (wheels .integer))
      ∧ ∃ table, registry.propertyTable (vehicle 0) = .ok table
        ∧ table.get? (.str "wheels") = some (wheels .integer) := by
  have hlineage : registry.lineage (vehicle 0)
      = ⟨[vehicle 0, vehicle 1, vehicle 2], .cycle⟩ := by
    decide +kernel
  have hend : ∀ cause, (registry.lineage (vehicle 0)).ending ≠ .failed cause := by
    rw [hlineage]
    exact fun _ => Ending.noConfusion
  have honce : ∀ a ∈ (registry.lineage (vehicle 0)).handles, a.declaration.DeclaresOnce := by
    rw [hlineage]
    simp only [List.forall_mem_cons, declaresOnce_vehicle, List.not_mem_nil, false_imp_iff,
      implies_true, and_self]
  obtain ⟨ps, hps, hlast, -, hwins, htable⟩ :=
    Registry.property?_eq_getLast?_of_properties hend honce
  have hall : ps = [wheels .double, wheels .string, wheels .integer] := by
    rw [Registry.properties_eq_of_ending hend, hlineage] at hps
    exact (Except.ok.inj hps).symm
  have hwheels : registry.property? (vehicle 0) (.str "wheels") = .ok (some (wheels .integer)) := by
    rw [hlast, hwins (.str "wheels") (wheels .integer) (by decide)]
  obtain ⟨table, htable, hget⟩ := htable (by rw [hall]; decide)
  exact ⟨hlineage, hall ▸ hps, hwheels, table, htable,
    Except.ok.inj ((hget "wheels").symm.trans hwheels)⟩

end Vehicles

end DecoratorSets
