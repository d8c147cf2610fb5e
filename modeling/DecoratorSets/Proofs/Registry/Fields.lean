import DecoratorSets.Proofs.Members
import DecoratorSets.Proofs.Registry.Conforms
import DecoratorSets.Proofs.Registry.Lineage

/-!
# Objects by their fields

The check of an object goes through a table of the properties of its type. Where the
properties have names that are texts and differ, the table is the list of properties
again (`Table.byName_of_texts`), and an object conforms if its members are fields of
the type and the value of each field fits (`Registry.IsRecord.filledBy_iff`). A field
that the object lacks and one that is null are the same thing here: both have the
value null (`Members.field`), which fits a property that is optional.
-/

namespace DecoratorSets

/-! ## Tables -/

/-- An entry of a new name goes to the end of a table. -/
theorem Table.put_of_not_has {α : Type} {t : Table α} {name : Value} {a : α}
    (h : t.has name = false) : t.put name a = t ++ [(name, a)] := by
  induction t with
  | nil => rfl
  | cons entry rest ih =>
    obtain ⟨n, b⟩ := entry
    unfold Table.has at h
    rw [List.any_cons, Bool.or_eq_false_iff] at h
    unfold Table.put at ih ⊢
    rw [Table.modify, if_neg (by simp [h.1]), ih h.2, List.cons_append]

/-- **Elements with different texts as names** make a table of themselves. -/
theorem Table.byName_of_texts {α : Type} {nameOf : α → Value} {elements : List α}
    {names : List String} (htexts : elements.map nameOf = names.map Value.str)
    (hdistinct : names.Nodup) :
    Table.byName nameOf elements = .ok (elements.map fun a => (nameOf a, a)) := by
  -- the table so far knows none of the names to come
  have hfold : ∀ t : Table α, (∀ s ∈ names, t.has (.str s) = false) →
      elements.foldlM (fun t a => do return Table.put (← (nameOf a).asKey) a t) t
        = (Except.ok (t ++ elements.map fun a => (nameOf a, a)) : Checked (Table α)) := by
    induction elements generalizing names with
    | nil =>
      intro t _
      rw [List.map_nil, List.append_nil]
      rfl
    | cons a rest ih =>
      intro t ht
      obtain ⟨s, names, rfl, hs, hrest⟩ := List.map_eq_cons_iff.mp htexts.symm
      have hput : t.put (nameOf a) a = t ++ [(nameOf a, a)] := by
        rw [← hs]
        exact Table.put_of_not_has (ht s List.mem_cons_self)
      have hkey : (nameOf a).asKey = .ok (nameOf a) := by
        rw [← hs]
        rfl
      rw [List.foldlM_cons, hkey]
      show rest.foldlM _ (t.put (nameOf a) a) = _
      rw [hput, ih hrest.symm (List.nodup_cons.mp hdistinct).2, List.map_cons, List.append_assoc,
        List.singleton_append]
      intro s' hs'
      have hne : s ≠ s' := fun e => (List.nodup_cons.mp hdistinct).1 (e ▸ hs')
      unfold Table.has
      rw [List.any_append, Bool.or_eq_false_iff]
      refine ⟨ht s' (List.mem_cons_of_mem s hs'), ?_⟩
      rw [← hs]
      simpa using hne
  exact hfold [] (fun _ _ => rfl)

/-! ## Fields -/

namespace Members

/-- The member that a property of a name picks. -/
theorem memberNamed_str (ms : Members) (key : String) :
    Registry.memberNamed ms (.str key) = ms.get? key := by
  have hkey : (fun entry : Value × Value => entry.1.sameKey (.str key))
      = fun entry => entry.1.isNamed key := by
    funext entry
    rw [Bool.eq_iff_iff, Value.sameKey_str_iff, Value.isNamed_eq_true_iff]
  unfold Registry.memberNamed get?
  rw [hkey]

end Members

namespace Registry

variable {r : Registry} {h : Handle} {p : Property} {v : Value}

/-- **The value of a field fits** a property if it conforms to it, or is null and may
be. -/
def FieldFits (r : Registry) (h : Handle) (p : Property) (v : Value) : Prop :=
  if v = .null then p.isOptional = true else r.FieldConforms h p v

/-- A field of a property that holds a single value. -/
theorem fieldFits_single (harray : p.isArray = false) :
    r.FieldFits h p v ↔ (v = .null ∧ p.isOptional = true)
      ∨ (v ≠ .null ∧ r.SingleConforms h p v) := by
  unfold FieldFits
  by_cases hnull : v = .null
  · rw [if_pos hnull]
    simp [hnull]
  · rw [if_neg hnull, fieldConforms_single harray]
    simp [hnull]

/-- A field of a property that holds an array. -/
theorem fieldFits_array (harray : p.isArray = true) :
    r.FieldFits h p v ↔ (v = .null ∧ p.isOptional = true)
      ∨ ∃ label items, v = .list label items ∧ ∀ w ∈ items, r.SingleConforms h p w := by
  unfold FieldFits
  by_cases hnull : v = .null
  · rw [if_pos hnull]
    subst hnull
    simp
  · rw [if_neg hnull, fieldConforms_array harray]
    simp [hnull]

/-- **A value is an instance** of a type if it is an object that conforms to it. -/
def IsInstance (r : Registry) (t : Handle) (v : Value) : Prop :=
  ∃ label, ∃ ms : Members, v = .object label ms ∧ r.ObjectConforms (some t) ms

/-- An instance is not null. -/
theorem IsInstance.ne_null {t : Handle} (hv : r.IsInstance t v) : v ≠ .null := by
  obtain ⟨label, ms, rfl, _⟩ := hv
  exact Value.noConfusion

/-- A property that refers to a type with instances holds these. -/
theorem singleConforms_instance {t : Handle} (hnone : p.kind.primitive? = none)
    (hrel : p.kind ≠ .relationship) (ht : r.propertyType h p = .ok t)
    (hkind : t.declaration.kind = .concept) : r.SingleConforms h p v ↔ r.IsInstance t v := by
  rw [singleConforms_target hnone hrel, ht]
  simp only [Except.ok.injEq, exists_eq_left', hkind, reduceCtorEq, false_and, false_or, ne_eq,
    not_false_eq_true, true_and, DeclarationKind.primitive?, exists_false]
  rfl

/-- A property that refers to an enumeration holds the members of it. -/
theorem singleConforms_enum {t : Handle} (hnone : p.kind.primitive? = none)
    (hrel : p.kind ≠ .relationship) (ht : r.propertyType h p = .ok t)
    (hkind : t.declaration.kind = .enum) :
    r.SingleConforms h p v
      ↔ (t.declaration.ownProperties.map Property.name).any v.sameAs = true := by
  rw [singleConforms_target hnone hrel, ht]
  simp [hkind, DeclarationKind.primitive?]

/-- The type of an object is listed if the expected one is. -/
theorem HasType.lists {ms : Members} {expected : Option Handle}
    (htype : r.HasType ms expected h) (hexpected : ∀ e ∈ expected, r.Lists e) : r.Lists h := by
  cases htype with
  | expected _ => exact hexpected h rfl
  | own _ hfound _ => exact lists_of_lookup? hfound

/-- **An object fills a type** of which it is to be an instance. -/
structure FilledBy (r : Registry) (h : Handle) (ms : Members) : Prop where
  instantiable : isInstantiable h = true
  table : ∃ table, r.propertyTable h = .ok table
    ∧ (∀ key ∈ ms.keys, key = .str classKey ∨ table.has key = true)
    ∧ ∀ entry ∈ table, r.FieldFits h entry.2 ((memberNamed ms entry.1).getD .null)

/-- The value of a field fits in the sense of the check of its object. -/
theorem fieldFits_getD {found : Option Value} :
    r.FieldFits h p (found.getD .null) ↔ (found.getD .null = .null → p.isOptional = true)
      ∧ ∀ v, found = some v → v ≠ .null → r.FieldConforms h p v := by
  unfold FieldFits
  by_cases hnull : found.getD .null = .null
  · rw [if_pos hnull, imp_iff_right hnull]
    refine (and_iff_left ?_).symm
    rintro v rfl hv
    exact absurd hnull hv
  · rw [if_neg hnull, and_iff_right (fun h => absurd h hnull)]
    cases found with
    | none => exact absurd rfl hnull
    | some v => exact ⟨fun hv w hw _ => Option.some.inj hw ▸ hv, fun hv => hv v rfl hnull⟩

/-- **An object conforms if it fills its type.** -/
theorem objectConforms_iff {expected : Option Handle} {ms : Members} :
    r.ObjectConforms expected ms ↔ ∃ h, r.HasType ms expected h ∧ r.FilledBy h ms := by
  constructor
  · rintro ⟨htype, hinstance, htable, hknown, hthere, hfields⟩
    refine ⟨_, htype, hinstance, _, htable, hknown, fun entry hentry => ?_⟩
    exact fieldFits_getD.mpr ⟨hthere entry hentry, hfields entry hentry⟩
  · rintro ⟨h, htype, hinstance, table, htable, hknown, hfits⟩
    exact .intro htype hinstance htable hknown
      (fun entry hentry => (fieldFits_getD.mp (hfits entry hentry)).1)
      (fun entry hentry => (fieldFits_getD.mp (hfits entry hentry)).2)

/-- **A record type**: it has instances, and its properties have different texts as
names. -/
structure IsRecord (r : Registry) (h : Handle) (ps : List Property) : Prop where
  instantiable : isInstantiable h = true
  properties : r.properties h = .ok ps
  names : ∃ names : List String, ps.map Property.name = names.map Value.str ∧ names.Nodup

/-- **A record type is filled field by field.** -/
theorem IsRecord.filledBy_iff {ps : List Property} (hrecord : r.IsRecord h ps) (ms : Members) :
    r.FilledBy h ms ↔ (∀ key ∈ ms.keys, key = .str classKey ∨ key ∈ ps.map Property.name)
      ∧ ∀ p ∈ ps, r.FieldFits h p (ms.field p.name.text) := by
  obtain ⟨names, htexts, hdistinct⟩ := hrecord.names
  have hfield : ∀ p ∈ ps, (memberNamed ms p.name).getD .null = ms.field p.name.text := by
    intro p hp
    obtain ⟨s, _, hs⟩ := List.mem_map.mp (htexts ▸ List.mem_map_of_mem hp)
    rw [← hs, Members.memberNamed_str]
    rfl
  have htable : r.propertyTable h = .ok (ps.map fun p => (p.name, p)) := by
    unfold propertyTable
    rw [hrecord.properties]
    exact Table.byName_of_texts htexts hdistinct
  have hhas : ∀ key, Table.has (ps.map fun p => (p.name, p)) key = true
      ↔ key ∈ ps.map Property.name := by
    intro key
    have hmap : Table.has (ps.map fun p => (p.name, p)) key
        = (ps.map Property.name).any (·.sameAs key) := by
      unfold Table.has
      rw [List.any_map, List.any_map]
      rfl
    rw [hmap, htexts, List.any_map, List.any_eq_true, List.mem_map]
    refine exists_congr (fun s => and_congr_right (fun _ => ?_))
    exact (Value.str_sameAs_iff s key).trans eq_comm
  constructor
  · rintro ⟨_, table, htable', hknown, hfits⟩
    obtain rfl := Except.ok.inj (htable.symm.trans htable')
    refine ⟨fun key hkey => (hknown key hkey).imp_right (hhas key).mp, fun p hp => ?_⟩
    exact hfield p hp ▸ hfits _ (List.mem_map_of_mem hp)
  · rintro ⟨hknown, hfits⟩
    refine ⟨hrecord.instantiable, _, htable,
      fun key hkey => (hknown key hkey).imp_right (hhas key).mpr, fun entry hentry => ?_⟩
    obtain ⟨p, hp, rfl⟩ := List.mem_map.mp hentry
    exact (hfield p hp).symm ▸ hfits p hp

end Registry

end DecoratorSets
