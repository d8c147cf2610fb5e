import DecoratorSets.Proofs.Registry.Fields

/-!
# Inherited properties

A type that declares no properties of its own has exactly those of the type that it
extends (`Registry.properties_of_superType`), also where the two are part of a circle:
the lineage of the one is that of the other with the type itself at the front instead of
at the end, where it adds nothing.

What an inherited property refers to is another matter. The check of an object looks up
the types of all properties in the file of the object's type, not in the files of the
declarations that they come from. As long as the references mean the same in both files
(`Registry.InheritsAlike`), an object that is accepted as an instance of a type is
accepted as an instance of a type that merely extends it, and the other way round
(`Registry.checkInstance_iff_of_superType`). References with a namespace mean the same
everywhere (`Registry.resolve_iff_of_not_blank`). A name without one may stand for
nothing in the file of the extending type, which then has no instances at all
(`Chair.chair_without_colour`).
-/

namespace DecoratorSets

/-! ## The properties of a lineage -/

namespace Lineage

/-- All properties of a lineage, inherited ones first. -/
def properties (l : Lineage) : Checked (List Property) := do
  return (← l.all).reverse.flatMap fun a => a.declaration.ownProperties

/-- The properties of a declaration come behind those of the lineage above it. -/
theorem properties_below (h : Handle) (l : Lineage) :
    (l.below h).properties = (· ++ h.declaration.ownProperties) <$> l.properties := by
  obtain ⟨handles, ending⟩ := l
  have hadd : ((h :: handles).reverse.flatMap fun a => a.declaration.ownProperties)
      = (handles.reverse.flatMap fun a => a.declaration.ownProperties)
        ++ h.declaration.ownProperties := by
    rw [List.reverse_cons, List.flatMap_append, List.flatMap_singleton]
  cases ending with
  | failed cause => rfl
  | complete => exact congrArg Except.ok hadd
  | cycle => exact congrArg Except.ok hadd

/-- A declaration without properties adds none to those of the lineage above it. -/
theorem properties_below_of_bare {h : Handle} (hown : h.declaration.ownProperties = [])
    (l : Lineage) : (l.below h).properties = l.properties := by
  rw [properties_below, hown]
  simp only [List.append_nil, id_map']

/-- A lineage of one declaration that closes a circle has its own properties. -/
theorem properties_cycle (h : Handle) :
    (⟨[h], .cycle⟩ : Lineage).properties = .ok h.declaration.ownProperties := by
  show Except.ok (h.declaration.ownProperties ++ []) = _
  rw [List.append_nil]

end Lineage

namespace Registry

variable {r : Registry} {s t : Handle}

/-- Climbing goes on to a super type whose name was not passed yet. -/
theorem climb_of_superType {h up : Handle} (hup : r.superType h = .ok (some up))
    (unseen : List String) :
    r.climb unseen h = if up.fullName ∈ unseen then
      (r.climb (passing up.fullName unseen) up).below h else ⟨[h], .cycle⟩ := by
  rw [climb, hup]

/-- The order in which names are passed does not matter. -/
theorem passing_comm (a b : String) (unseen : List String) :
    passing a (passing b unseen) = passing b (passing a unseen) :=
  List.filter_comm _ _ _

theorem not_mem_passing_self (a : String) (unseen : List String) : a ∉ passing a unseen :=
  fun hmem => absurd (List.of_mem_filter hmem) (by simp)

theorem not_mem_passing {a b : String} {unseen : List String} (h : a ∉ unseen) :
    a ∉ passing b unseen :=
  fun hmem => h (List.mem_of_mem_filter hmem)

/-- A climb that ends at a type without properties has the same properties without it:
once its super type is passed, the type can only close a circle. -/
theorem properties_climb_passing (hs : r.Lists s) (hup : r.superType s = .ok (some t))
    (hown : s.declaration.ownProperties = []) (unseen : List String) (h : Handle)
    (ht : t.fullName ∉ unseen) :
    (r.climb (passing s.fullName unseen) h).properties = (r.climb unseen h).properties := by
  induction unseen, h using climb.induct (r := r) with
  | case1 unseen h cause hfail => rw [climb, hfail, climb, hfail]
  | case2 unseen h htop => rw [climb, htop, climb, htop]
  | case3 unseen h up hnext hunseen ih =>
    rw [climb_of_superType hnext unseen, if_pos hunseen,
      climb_of_superType hnext (passing s.fullName unseen)]
    by_cases hname : up.fullName = s.fullName
    · -- the next declaration is the type itself, and its own super type has been passed
      obtain rfl : up = s := (lists_of_superType hnext).eq_of_fullName hs hname
      rw [if_neg (not_mem_passing_self up.fullName unseen), climb_of_superType hup,
        if_neg (not_mem_passing ht), Lineage.properties_below, Lineage.properties_cycle,
        Lineage.properties_cycle, hown]
      rfl
    · have hthere : up.fullName ∈ passing s.fullName unseen :=
        List.mem_filter.mpr ⟨hunseen, by simpa using hname⟩
      rw [if_pos hthere, Lineage.properties_below, Lineage.properties_below, passing_comm,
        ih (not_mem_passing ht)]
  | case4 unseen h up hnext hseen =>
    rw [climb_of_superType hnext unseen, if_neg hseen,
      climb_of_superType hnext (passing s.fullName unseen), if_neg (not_mem_passing hseen)]

/-- **A type without properties of its own has those of the type that it extends.** -/
theorem properties_of_superType (hs : r.Lists s) (hup : r.superType s = .ok (some t))
    (hown : s.declaration.ownProperties = []) : r.properties s = r.properties t := by
  have ht : r.Lists t := lists_of_superType hup
  by_cases hname : t.fullName = s.fullName
  · rw [ht.eq_of_fullName hs hname]
  · have hunseen : t.fullName ∈ passing s.fullName r.typeNames :=
      List.mem_filter.mpr ⟨ht.mem_typeNames, by simpa using hname⟩
    show (r.climb (passing s.fullName r.typeNames) s).properties
      = (r.climb (passing t.fullName r.typeNames) t).properties
    rw [climb_of_superType hup, if_pos hunseen, Lineage.properties_below_of_bare hown,
      passing_comm, properties_climb_passing hs hup hown _ t (not_mem_passing_self _ _)]

/-! ## What properties refer to -/

/-- A reference with a namespace refers to the same declaration from every file. -/
theorem resolve_iff_of_not_blank {ident : TypeIdentifier}
    (hns : ident.namespaceName.isBlank = false) (f g : ModelFile) (h : Handle) :
    r.resolve f ident = .ok h ↔ r.resolve g ident = .ok h := by
  obtain ⟨name, ns⟩ := ident
  rw [resolve_of_not_blank name hns, resolve_of_not_blank name hns,
    typeIn_of_not_blank name hns, typeIn_of_not_blank name hns]

/-- **What a type inherits means the same in its own file** as in the file of the type
that it extends: a property that holds values of a declaration, and whose type omits its
namespace, refers to the same declaration from both files. None of the properties takes
the name under which an object names its type. -/
structure InheritsAlike (r : Registry) (s t : Handle) (ps : List Property) : Prop where
  references : ∀ p ∈ ps, p.kind.primitive? = none → p.kind ≠ .relationship →
    ∀ ident ∈ p.type, ident.namespaceName.isBlank = true →
      ∀ h, r.resolve s.file ident = .ok h ↔ r.resolve t.file ident = .ok h
  names : ∀ p ∈ ps, p.name ≠ .str classKey

/-- The type of an inherited property is the same declaration on both types. -/
theorem InheritsAlike.propertyType_iff {ps : List Property} (h : r.InheritsAlike s t ps)
    {p : Property} (hp : p ∈ ps) (hnone : p.kind.primitive? = none)
    (hrel : p.kind ≠ .relationship) (target : Handle) :
    r.propertyType s p = .ok target ↔ r.propertyType t p = .ok target := by
  unfold propertyType
  cases htype : p.type with
  | none => exact iff_of_false (fun hs => by cases hs) (fun ht => by cases ht)
  | some ident =>
    cases hns : ident.namespaceName.isBlank with
    | true => exact h.references p hp hnone hrel ident htype hns target
    | false => exact resolve_iff_of_not_blank hns s.file t.file target

/-- A single value conforms to an inherited property on both types alike. -/
theorem InheritsAlike.singleConforms_iff {ps : List Property} (h : r.InheritsAlike s t ps)
    {p : Property} (hp : p ∈ ps) (v : Value) : r.SingleConforms s p v ↔ r.SingleConforms t p v := by
  cases hprim : p.kind.primitive? with
  | some primitive => rw [singleConforms_primitive hprim, singleConforms_primitive hprim]
  | none =>
    by_cases hrel : p.kind = .relationship
    · rw [singleConforms_relationship hrel, singleConforms_relationship hrel]
    · rw [singleConforms_target hprim hrel, singleConforms_target hprim hrel]
      simp only [h.propertyType_iff hp hprim hrel]

/-- The value of a field fits an inherited property on both types alike. -/
theorem InheritsAlike.fieldFits_iff {ps : List Property} (h : r.InheritsAlike s t ps)
    {p : Property} (hp : p ∈ ps) (v : Value) : r.FieldFits s p v ↔ r.FieldFits t p v := by
  cases harray : p.isArray with
  | false => rw [fieldFits_single harray, fieldFits_single harray, h.singleConforms_iff hp]
  | true =>
    rw [fieldFits_array harray, fieldFits_array harray]
    simp only [h.singleConforms_iff hp]

/-! ## Objects of both types -/

/-- An entry of a table that was put into is the new one or was there. -/
theorem mem_put {α : Type} {table : Table α} {name : Value} {a : α} {entry : Value × α}
    (h : entry ∈ table.put name a) : (entry.1 = name ∨ entry.1 ∈ table.map Prod.fst)
      ∧ (entry.2 = a ∨ entry.2 ∈ table.map Prod.snd) := by
  induction table with
  | nil =>
    obtain rfl := List.mem_singleton.mp h
    exact ⟨Or.inl rfl, Or.inl rfl⟩
  | cons first rest ih =>
    obtain ⟨n, b⟩ := first
    unfold Table.put at h ih
    rw [Table.modify] at h
    split at h
    · rcases List.mem_cons.mp h with rfl | h
      · exact ⟨Or.inr List.mem_cons_self, Or.inl rfl⟩
      · exact ⟨Or.inr (List.mem_cons_of_mem _ (List.mem_map_of_mem h)),
          Or.inr (List.mem_cons_of_mem _ (List.mem_map_of_mem h))⟩
    · rcases List.mem_cons.mp h with rfl | h
      · exact ⟨Or.inr List.mem_cons_self, Or.inr List.mem_cons_self⟩
      · exact ⟨(ih h).1.imp_right (List.mem_cons_of_mem _),
          (ih h).2.imp_right (List.mem_cons_of_mem _)⟩

/-- The entries of a table by name are elements under names of elements. -/
theorem mem_byName {α : Type} {nameOf : α → Value} {elements : List α} {table : Table α}
    (h : Table.byName nameOf elements = .ok table) :
    ∀ entry ∈ table, entry.1 ∈ elements.map nameOf ∧ entry.2 ∈ elements := by
  refine Checked.foldlM_keeps (p := fun table : Table α =>
    ∀ entry ∈ table, entry.1 ∈ elements.map nameOf ∧ entry.2 ∈ elements) ?_
    (fun entry hentry => absurd hentry List.not_mem_nil) h
  intro table htable a ha table' hput entry hentry
  obtain ⟨name, hname, hput⟩ := Checked.bind_eq_ok.mp hput
  obtain ⟨_, rfl⟩ := Value.asKey_eq_ok.mp hname
  obtain rfl := Checked.pure_eq_ok.mp hput
  obtain ⟨hfst, hsnd⟩ := mem_put hentry
  refine ⟨?_, ?_⟩
  · rcases hfst with heq | hmem
    · exact heq ▸ List.mem_map_of_mem ha
    · obtain ⟨old, hold, heq⟩ := List.mem_map.mp hmem
      exact heq ▸ (htable old hold).1
  · rcases hsnd with heq | hmem
    · exact heq ▸ ha
    · obtain ⟨old, hold, heq⟩ := List.mem_map.mp hmem
      exact heq ▸ (htable old hold).2

/-- Setting a member leaves what belongs to other names. -/
theorem memberNamed_put {ms : Members} {key : String} {name : Value} (hname : name ≠ .str key)
    (v : Value) : memberNamed (ms.put (.str key) v) name = memberNamed ms name := by
  have hkey : (Value.str key).sameKey name = false := by
    rw [Bool.eq_false_iff, ne_eq, Value.str_sameKey_iff]
    exact hname
  unfold memberNamed
  refine congrArg (Option.map Prod.snd) ?_
  induction ms with
  | nil => rw [Members.put, List.find?_cons_of_neg (by rw [hkey]; exact Bool.false_ne_true)]
  | cons m rest ih =>
    obtain ⟨k, w⟩ := m
    rw [Members.put]
    split
    · rename_i hsame
      obtain rfl := (Value.sameKey_str_iff k key).mp hsame
      rw [List.find?_cons_of_neg (by rw [hkey]; exact Bool.false_ne_true),
        List.find?_cons_of_neg (by rw [hkey]; exact Bool.false_ne_true)]
    · rw [List.find?_cons, List.find?_cons, ih]

/-- **An object of a type that names its type** conforms if it fills the type. -/
theorem objectConforms_put_class {h : Handle} (hfound : r.lookup? h.fullName = some h)
    (ms : Members) :
    r.ObjectConforms none (ms.put (.str classKey) (.str h.fullName))
      ↔ r.FilledBy h (ms.put (.str classKey) (.str h.fullName)) := by
  have hclass : (ms.put (.str classKey) (.str h.fullName)).get? classKey
      = some (.str h.fullName) := by
    rw [Members.get?_put, if_pos rfl]
  rw [objectConforms_iff]
  simp only [hasType_of_text hclass, hfound, Option.some.injEq]
  constructor
  · rintro ⟨_, ⟨rfl, _⟩, hfilled⟩
    exact hfilled
  · exact fun hfilled => ⟨h, ⟨rfl, fun e he => absurd he (Option.not_mem_none e)⟩, hfilled⟩

/-- The members of an object fill a type as they fill the type that it extends. -/
theorem InheritsAlike.filledBy_iff {ps : List Property} (halike : r.InheritsAlike s t ps)
    (hs : isInstantiable s = true) (ht : isInstantiable t = true)
    (hsps : r.properties s = .ok ps) (htps : r.properties t = .ok ps) (ms : Members) :
    r.FilledBy s (ms.put (.str classKey) (.str s.fullName))
      ↔ r.FilledBy t (ms.put (.str classKey) (.str t.fullName)) := by
  have htables : r.propertyTable s = r.propertyTable t := by
    unfold propertyTable
    rw [hsps, htps]
  have hkeys : (ms.put (.str classKey) (.str s.fullName)).keys
      = (ms.put (.str classKey) (.str t.fullName)).keys := by
    rw [Members.keys_put, Members.keys_put]
  -- the two objects differ in their class alone, which is the value of no property
  have hfits : ∀ table, r.propertyTable t = .ok table → ∀ entry ∈ table,
      (r.FieldFits s entry.2 ((memberNamed (ms.put (.str classKey) (.str s.fullName)) entry.1).getD
        .null)
      ↔ r.FieldFits t entry.2 ((memberNamed (ms.put (.str classKey) (.str t.fullName))
        entry.1).getD .null)) := by
    intro table htable entry hentry
    unfold propertyTable at htable
    rw [htps] at htable
    obtain ⟨hname, hmem⟩ := mem_byName htable entry hentry
    obtain ⟨p, hp, hpname⟩ := List.mem_map.mp hname
    have hne : entry.1 ≠ .str classKey := hpname ▸ halike.names p hp
    rw [memberNamed_put hne, memberNamed_put hne, halike.fieldFits_iff hmem]
  constructor
  · rintro ⟨_, table, htable, hknown, hall⟩
    rw [htables] at htable
    rw [hkeys] at hknown
    exact ⟨ht, table, htable, hknown, fun e he => (hfits table htable e he).mp (hall e he)⟩
  · rintro ⟨_, table, htable, hknown, hall⟩
    rw [← hkeys] at hknown
    exact ⟨hs, table, htables.trans htable, hknown,
      fun e he => (hfits table htable e he).mpr (hall e he)⟩

/-- An object without a default class passes its check if it conforms to the type that it
names. -/
theorem checkInstance_none_eq_ok (label : Option Label) (ms : Members) :
    r.checkInstance (.object label ms) none = .ok () ↔ r.ObjectConforms none ms :=
  r.checkObject_eq_ok ms none "$"

/-- **Inherited properties keep their types where their references mean the same.** Of two
types that have instances, the first extends the second and declares no properties of its
own. If what it inherits means the same in its own file, an object is accepted as an
instance of the one exactly if it is accepted as an instance of the other. -/
theorem checkInstance_iff_of_superType (hs : r.lookup? s.fullName = some s)
    (ht : r.lookup? t.fullName = some t) (hsinst : isInstantiable s = true)
    (htinst : isInstantiable t = true) (hup : r.superType s = .ok (some t))
    (hown : s.declaration.ownProperties = [])
    (halike : ∀ ps, r.properties t = .ok ps → r.InheritsAlike s t ps)
    (label : Option Label) (ms : Members) :
    r.checkInstance (.object label (ms.put (.str classKey) (.str s.fullName))) none = .ok ()
      ↔ r.checkInstance (.object label (ms.put (.str classKey) (.str t.fullName))) none
        = .ok () := by
  have hsame : r.properties s = r.properties t :=
    properties_of_superType (lists_of_lookup? hs) hup hown
  rw [checkInstance_none_eq_ok, checkInstance_none_eq_ok, objectConforms_put_class hs,
    objectConforms_put_class ht]
  cases hps : r.properties t with
  | ok ps => exact (halike ps hps).filledBy_iff hsinst htinst (hsame.trans hps) hps ms
  | error e =>
    -- the properties of a lineage that ends in a failure are those of no object
    have hnone : ∀ {h : Handle} {ms : Members}, r.properties h = .error e → ¬ r.FilledBy h ms := by
      rintro h ms herr ⟨_, table, htable, _⟩
      unfold propertyTable at htable
      rw [herr] at htable
      cases htable
    exact iff_of_false (hnone (hsame.trans hps)) (hnone hps)

end Registry

/-! ## A chair is a coloured thing -/

/-- The namespace of things. -/
theorem Namespace.parse_things :
    parse "org.things@1.0.0" = .ok ⟨"org.things", some "1.0.0"⟩ := by
  decide +kernel

namespace Chair

/-- The type of colours, by its short name alone. -/
def colourType : TypeIdentifier := ⟨.str "Colour", .null⟩

/-- The property that every thing has. -/
def colour : Property where
  name := .str "colour"
  kind := .object
  isArray := false
  isOptional := false
  type := some colourType
  decorators := none
  extras := []

/-- A file that declares colours, and things that have one. -/
def thingFile : ModelFile where
  namespaceText := "org.things@1.0.0"
  info := ⟨"org.things", some "1.0.0"⟩
  declarations := [⟨.str "Colour", .concept, some [], false, none, none, []⟩,
    ⟨.str "Thing", .concept, some [colour], false, none, none, []⟩]
  decorators := none
  extras := []
  parse_eq := Namespace.parse_things

/-- A file with some imports that declares chairs, which are things and nothing more. -/
def chairFile (imports : List Value) : ModelFile where
  namespaceText := "org.acme@1.0.0"
  info := ⟨"org.acme", some "1.0.0"⟩
  declarations := [⟨.str "Chair", .concept, some [], false,
    some ⟨.str "Thing", .str "org.things@1.0.0"⟩, none, []⟩]
  decorators := none
  extras := [("imports", .list none imports)]
  parse_eq := Namespace.parse_acme

/-- The registry of the two files. -/
def registry (imports : List Value) : Registry where
  strict := false
  files := [thingFile, chairFile imports]
  distinct := by
    show ["org.things@1.0.0", "org.acme@1.0.0"].Nodup
    decide

/-- The import of colours. -/
def colourImport : Value := .object none [("namespace", "org.things@1.0.0"), ("name", "Colour")]

/-- The type of things. -/
def thing : Handle := ⟨thingFile, thingFile.declarations[1]⟩

/-- The type of chairs. -/
def chair (imports : List Value) : Handle :=
  ⟨chairFile imports, ⟨.str "Chair", .concept, some [], false,
    some ⟨.str "Thing", .str "org.things@1.0.0"⟩, none, []⟩⟩

/-- An object that has a colour and names no type. -/
def coloured : Members := [("colour", .object none [])]

/-- Where colours are imported, chairs have the colours of things. -/
theorem inheritsAlike_colour :
    (registry [colourImport]).InheritsAlike (chair [colourImport]) thing [colour] where
  references := by
    intro p hp _ _ ident hident _ h
    obtain rfl := List.mem_singleton.mp hp
    obtain rfl := Option.some.inj hident
    have hchair : (registry [colourImport]).resolve (chair [colourImport]).file colourType
        = .ok ⟨thingFile, thingFile.declarations[0]⟩ := by
      decide +kernel
    have hthing : (registry [colourImport]).resolve thing.file colourType
        = .ok ⟨thingFile, thingFile.declarations[0]⟩ := by
      decide +kernel
    rw [hchair, hthing]
  names := by decide +kernel

theorem checkInstance_iff_of_superType_chair :
    (registry [colourImport]).lookup? (chair [colourImport]).fullName
        = some (chair [colourImport])
      ∧ (registry [colourImport]).lookup? thing.fullName = some thing
      ∧ (registry [colourImport]).superType (chair [colourImport]) = .ok (some thing)
      ∧ ((registry [colourImport]).checkInstance (.object none (coloured.put (.str classKey)
          (.str (chair [colourImport]).fullName))) none = .ok ()
        ↔ (registry [colourImport]).checkInstance (.object none (coloured.put (.str classKey)
          (.str thing.fullName))) none = .ok ()) := by
  have hchair : (registry [colourImport]).lookup? (chair [colourImport]).fullName
      = some (chair [colourImport]) := by
    decide +kernel
  have hthing : (registry [colourImport]).lookup? thing.fullName = some thing := by
    decide +kernel
  have hup : (registry [colourImport]).superType (chair [colourImport]) = .ok (some thing) := by
    decide +kernel
  have hroot : (registry [colourImport]).superType thing = .ok none := rfl
  refine ⟨hchair, hthing, hup, ?_⟩
  refine Registry.checkInstance_iff_of_superType hchair hthing rfl rfl hup rfl ?_ none coloured
  intro ps hps
  rw [Registry.properties_of_root hroot] at hps
  obtain rfl := Except.ok.inj hps
  exact inheritsAlike_colour

/-- **Without the import a chair cannot have a colour.** Chairs are things and declare no
properties of their own. An object with a colour is accepted as a thing, and not as a
chair: the name of the type is looked up in the file of chairs, where it stands for
nothing. -/
theorem chair_without_colour :
    (registry []).lookup? (chair []).fullName = some (chair [])
      ∧ (registry []).lookup? thing.fullName = some thing
      ∧ Registry.isInstantiable (chair []) = true ∧ Registry.isInstantiable thing = true
      ∧ (registry []).superType (chair []) = .ok (some thing)
      ∧ (chair []).declaration.ownProperties = [] ∧ coloured.get? classKey = none
      ∧ (registry []).checkInstance (.object none (coloured.put (.str classKey)
          (.str thing.fullName))) none = .ok ()
      ∧ (registry []).checkInstance (.object none (coloured.put (.str classKey)
          (.str (chair []).fullName))) none
        = .error (.command (.nonconforming
          (.unresolvedType (.str "Colour") (.str "org.acme@1.0.0")) "$.colour") none) := by
  decide +kernel

end Chair

end DecoratorSets
