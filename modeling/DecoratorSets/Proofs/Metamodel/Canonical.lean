import DecoratorSets.Proofs.Metamodel.Rereading

/-!
# Canonical documents

The same models have many documents. Class names may be short, flags may be left out or
be any value, an absent list may be null, and an argument may leave out its class. One
form is canonical: every node has its class in full and its flags as truth values, what
is absent is left out, and only models, declarations, properties and decorators have
members that are not theirs (`Models.IsCanonical`).

Reading a document and writing what was read makes it canonical, and nothing more happens
to a document that is (`Models.canonical_of_ofDocument`): what is written is written again
as it is, and a canonical document is written back up to the order of members
(`Value.WrittenBack`).
-/

namespace DecoratorSets

/-! ## Shapes of values -/

/-- An object whose members meet a condition. -/
def Value.IsObject (p : Members → Prop) (v : Value) : Prop :=
  ∃ label ms, v = .object label ms ∧ p ms

/-- A list of objects whose members meet a condition. -/
def Value.IsListOf (p : Members → Prop) (v : Value) : Prop :=
  ∃ label items, v = .list label items ∧ ∀ w ∈ items, w.IsObject p

namespace Members

/-- The members have no other names than these. -/
def Only (names : List String) (ms : Members) : Prop := ∀ m ∈ ms, ∃ key ∈ names, m.1 = .str key

/-- A member that is a truth value. -/
def HasFlag (ms : Members) (key : String) : Prop := ∃ b, ms.get? key = some (.bool b)

end Members

/-! ## Canonical nodes -/

/-- The members of a canonical reference: its class, a name, and possibly a namespace. -/
structure TypeIdentifier.IsCanonical (ms : Members) : Prop where
  className : ms.get? classKey = some (.str (metamodelClass "TypeIdentifier"))
  name : (ms.get? "name").isSome
  namespaceName : ms.get? "namespace" ≠ some .null
  only : ms.Only [classKey, "name", "namespace"]

/-- The members of a canonical literal: its class and a value. -/
structure LiteralKind.IsCanonical (kind : LiteralKind) (ms : Members) : Prop where
  className : ms.get? classKey = some (.str (ArgumentKind.literal kind).className)
  value : (ms.get? "value").isSome
  only : ms.Only [classKey, "value"]

/-- The members of a canonical reference in an argument: its class, a type and whether it
stands for a list. -/
structure Argument.IsCanonicalReference (ms : Members) : Prop where
  className : ms.get? classKey = some (.str ArgumentKind.typeReference.className)
  type : ∃ v ∈ ms.get? "type", v.IsObject TypeIdentifier.IsCanonical
  isArray : ms.HasFlag "isArray"
  only : ms.Only [classKey, "type", "isArray"]

/-- The members of a canonical argument: a literal of some kind, or a reference. -/
def Argument.IsCanonical (ms : Members) : Prop :=
  (∃ kind : LiteralKind, kind.IsCanonical ms) ∨ IsCanonicalReference ms

/-- The members of a canonical decorator. -/
structure Decorator.IsCanonical (ms : Members) : Prop where
  className : ms.get? classKey = some (.str (metamodelClass "Decorator"))
  name : (ms.get? "name").isSome
  arguments : ∀ v ∈ ms.get? "arguments", v.IsListOf Argument.IsCanonical

/-- The members of a canonical property of some kind. Only members of enumerations have no
flags. -/
structure PropertyKind.IsCanonical (kind : PropertyKind) (ms : Members) : Prop where
  className : ms.get? classKey = some (.str kind.className)
  name : (ms.get? "name").isSome
  isArray : if kind = .enum then ms.get? "isArray" = none else ms.HasFlag "isArray"
  isOptional : if kind = .enum then ms.get? "isOptional" = none else ms.HasFlag "isOptional"
  type : ∀ v ∈ ms.get? "type", v.IsObject TypeIdentifier.IsCanonical
  decorators : ∀ v ∈ ms.get? "decorators", v.IsListOf Decorator.IsCanonical

/-- The members of a canonical property. -/
def Property.IsCanonical (ms : Members) : Prop := ∃ kind : PropertyKind, kind.IsCanonical ms

/-- The members of a canonical declaration of some kind. Only declarations that have
instances have a flag. -/
structure DeclarationKind.IsCanonical (kind : DeclarationKind) (ms : Members) : Prop where
  className : ms.get? classKey = some (.str kind.className)
  name : (ms.get? "name").isSome
  isAbstract : if kind.isClassLike then ms.HasFlag "isAbstract" else ms.get? "isAbstract" = none
  superType : ∀ v ∈ ms.get? "superType", v.IsObject TypeIdentifier.IsCanonical
  properties : ∀ v ∈ ms.get? "properties", v.IsListOf Property.IsCanonical
  decorators : ∀ v ∈ ms.get? "decorators", v.IsListOf Decorator.IsCanonical

/-- The members of a canonical declaration. -/
def Declaration.IsCanonical (ms : Members) : Prop := ∃ kind : DeclarationKind, kind.IsCanonical ms

/-- The members of a canonical model, which has a list of declarations. -/
structure Model.IsCanonical (ms : Members) : Prop where
  className : ms.get? classKey = some (.str className)
  namespaceName : (ms.get? "namespace").isSome
  declarations : ∃ v ∈ ms.get? "declarations", v.IsListOf Declaration.IsCanonical
  decorators : ∀ v ∈ ms.get? "decorators", v.IsListOf Decorator.IsCanonical

/-- **The members of a canonical document of models**: its class and the models. -/
structure Models.IsCanonical (ms : Members) : Prop where
  className : ms.get? classKey = some (.str (metamodelClass "Models"))
  models : ∃ v ∈ ms.get? "models", v.IsListOf Model.IsCanonical
  only : ms.Only [classKey, "models"]

/-! ## What is written is canonical -/

section Written

open Members

theorem isListOf_map {α : Type} {write : α → Value} {p : Members → Prop} {xs : List α}
    (h : ∀ x ∈ xs, (write x).IsObject p) : (Value.list none (xs.map write)).IsListOf p := by
  refine ⟨none, xs.map write, rfl, fun w hw => ?_⟩
  obtain ⟨x, hx, rfl⟩ := List.mem_map.mp hw
  exact h x hx

theorem only_ofFields {fields : List (String × Option Value)} {names : List String}
    (h : ∀ field ∈ fields, field.1 ∈ names) : Only names (ofFields fields) := by
  intro m hm
  obtain ⟨key, hfield, hkey⟩ := exists_of_mem_ofFields hm
  exact ⟨key, h _ hfield, hkey⟩

theorem TypeIdentifier.isCanonical_toDocument (ident : TypeIdentifier) :
    ident.toDocument.IsObject IsCanonical := by
  refine ⟨none, _, ident.toDocument_eq, ?_, ?_, ?_, only_ofFields (by simp [fields])⟩
  · simp [fields]
  · simp [fields, classKey]
  · have hnull : ident.namespaceName.ifPresent ≠ some .null := by
      cases ident.namespaceName <;> simp [Value.ifPresent]
    simpa [fields, classKey] using hnull

theorem Argument.isCanonical_toDocument (a : Argument) : a.toDocument.IsObject IsCanonical := by
  cases a with
  | literal kind value =>
    refine ⟨none, _, rfl, Or.inl ⟨kind, ?_, ?_, ?_⟩⟩
    · simp [get?_cons]
    · simp [get?_cons, classKey]
    · simp [Only]
  | reference type isArray =>
    refine ⟨none, _, rfl, Or.inr ⟨?_, ⟨type.toDocument, ?_, type.isCanonical_toDocument⟩,
      ⟨isArray, ?_⟩, ?_⟩⟩
    · simp [get?_cons]
    · simp [get?_cons, classKey]
    · simp [get?_cons, classKey]
    · simp [Only]

/-- An optional list that is written is a list. -/
theorem isListOf_of_mem_map {α : Type} {write : α → Value} {p : Members → Prop}
    {found : Option (List α)} (h : ∀ xs ∈ found, ∀ x ∈ xs, (write x).IsObject p) :
    ∀ v ∈ found.map (fun xs => Value.list none (xs.map write)), v.IsListOf p := by
  intro v hv
  obtain ⟨xs, hxs, rfl⟩ := Option.map_eq_some_iff.mp hv
  exact isListOf_map (h xs hxs)

theorem isObject_of_mem_map (found : Option TypeIdentifier) :
    ∀ v ∈ found.map TypeIdentifier.toDocument, v.IsObject TypeIdentifier.IsCanonical := by
  intro v hv
  obtain ⟨ident, -, rfl⟩ := Option.map_eq_some_iff.mp hv
  exact ident.isCanonical_toDocument

theorem Decorator.isCanonical_toDocument {d : Decorator} (h : Extra knownKeys d.extras) :
    d.toDocument.IsObject IsCanonical := by
  refine ⟨none, _, toDocument_eq h, ?_, ?_, ?_⟩
  · rw [h.get?_around (by decide)]
    simp [fields]
  · rw [h.get?_around (by decide)]
    simp [fields, classKey]
  · have harguments : ∀ v ∈ d.arguments.map
        (fun args => Value.list none (args.map Argument.toDocument)),
        v.IsListOf Argument.IsCanonical :=
      isListOf_of_mem_map fun _ _ a _ => a.isCanonical_toDocument
    rw [h.get?_around (by decide)]
    simpa [fields, classKey] using harguments

theorem Decorator.isListOf_of_mem_map {found : Option (List Decorator)}
    (h : ∀ ds ∈ found, ∀ d ∈ ds, Extra knownKeys d.extras) :
    ∀ v ∈ found.map listDocument, v.IsListOf IsCanonical :=
  DecoratorSets.isListOf_of_mem_map fun ds hds d hd => isCanonical_toDocument (h ds hds d hd)

theorem Property.isCanonical_toDocument {p : Property} (h : p.KeepsExtras) :
    p.toDocument.IsObject IsCanonical := by
  refine ⟨none, _, toDocument_eq h.extras, p.kind, ?_, ?_, ?_, ?_, ?_, ?_⟩
  · rw [h.extras.get?_around (by decide)]
    simp [fields]
  · rw [h.extras.get?_around (by decide)]
    simp [fields, classKey]
  · rw [HasFlag, h.extras.get?_around (by decide)]
    split <;> simp [fields, classKey, *]
  · rw [HasFlag, h.extras.get?_around (by decide)]
    split <;> simp [fields, classKey, *]
  · rw [h.extras.get?_around (by decide)]
    simpa [fields, classKey] using isObject_of_mem_map p.type
  · rw [h.extras.get?_around (by decide)]
    simpa [fields, classKey] using Decorator.isListOf_of_mem_map h.decorators

theorem Declaration.isCanonical_toDocument {d : Declaration} (h : d.KeepsExtras) :
    d.toDocument.IsObject IsCanonical := by
  have hproperties : ∀ v ∈ d.properties.map propertiesDocument,
      v.IsListOf Property.IsCanonical :=
    isListOf_of_mem_map fun ps hps p hp =>
      Property.isCanonical_toDocument (h.properties ps hps p hp)
  refine ⟨none, _, toDocument_eq h.extras, d.kind, ?_, ?_, ?_, ?_, ?_, ?_⟩
  · rw [h.extras.get?_around (by decide)]
    simp [fields]
  · rw [h.extras.get?_around (by decide)]
    simp [fields, classKey]
  · rw [HasFlag, h.extras.get?_around (by decide)]
    split <;> simp [fields, classKey, *]
  · rw [h.extras.get?_around (by decide)]
    simpa [fields, classKey] using isObject_of_mem_map d.superType
  · rw [h.extras.get?_around (by decide)]
    simpa [fields, classKey] using hproperties
  · rw [h.extras.get?_around (by decide)]
    simpa [fields, classKey] using Decorator.isListOf_of_mem_map h.decorators

theorem Model.isCanonical_toDocument {m : Model} (h : m.KeepsExtras) :
    m.toDocument.IsObject IsCanonical := by
  have hdeclarations : (Value.list none (m.declarations.map Declaration.toDocument)).IsListOf
      Declaration.IsCanonical :=
    isListOf_map fun d hd => Declaration.isCanonical_toDocument (h.declarations d hd)
  refine ⟨none, _, toDocument_eq h.extras, ?_, ?_, ⟨_, ?_, hdeclarations⟩, ?_⟩
  · rw [h.extras.get?_around (by decide)]
    simp [front]
  · rw [h.extras.get?_around (by decide)]
    simp [front, classKey]
  · rw [h.extras.get?_around (by decide)]
    simp [front, back, classKey]
  · rw [h.extras.get?_around (by decide)]
    simpa [front, back, classKey] using Decorator.isListOf_of_mem_map h.decorators

/-- **What is written is canonical.** -/
theorem Models.isCanonical_toDocument {ms : Models} (h : ∀ m ∈ ms.models, m.KeepsExtras) :
    ms.toDocument.IsObject IsCanonical := by
  have hmodels : (Value.list none (ms.models.map Model.toDocument)).IsListOf Model.IsCanonical :=
    isListOf_map fun m hm => Model.isCanonical_toDocument (h m hm)
  refine ⟨none, _, rfl, ?_, ⟨_, ?_, hmodels⟩, ?_⟩
  · simp [get?_cons]
  · simp [get?_cons, classKey]
  · simp [Only]

end Written

/-! ## Canonical documents are written back -/

/-- **A document is written back** if it is read, and what is written then is the same
document up to order. -/
def Value.WrittenBack {α : Type} (read : Value → Checked α) (write : α → Value) (v : Value) :
    Prop :=
  ∃ x, read v = .ok x ∧ v.Reordered (write x)

section WrittenBack

open Members

variable {α : Type} {read : Value → Checked α} {write : α → Value} {p : Members → Prop}

theorem reordered_of_eq {found found' : Option Value} (h : found = found') :
    Option.Rel Value.Reordered found found' := by
  subst h
  cases found with
  | none => exact .none
  | some v => exact .some (.refl v)

/-- Items that are written back make a list that is written back. -/
theorem exists_mapM_of_writtenBack {items : List Value}
    (h : ∀ w ∈ items, w.WrittenBack read write) :
    ∃ xs, items.mapM read = .ok xs ∧ List.Forall₂ Value.Reordered items (xs.map write) := by
  induction items with
  | nil => exact ⟨[], rfl, .nil⟩
  | cons w rest ih =>
    obtain ⟨⟨x, hx, hwx⟩, hrest⟩ := List.forall_mem_cons.mp h
    obtain ⟨xs, hxs, hall⟩ := ih hrest
    exact ⟨x :: xs, Checked.mapM_eq_ok.mpr (.cons hx (Checked.mapM_eq_ok.mp hxs)), .cons hwx hall⟩

/-- A list of objects whose members meet a condition is written back if such objects are. -/
theorem exists_of_isListOf {v : Value} (hv : v.IsListOf p) (hdistinct : v.hasDistinctKeys = true)
    (hback : ∀ w : Value, w.hasDistinctKeys = true → w.IsObject p → w.WrittenBack read write) :
    ∃ items xs, v.items = .ok items ∧ items.mapM read = .ok xs
      ∧ v.Reordered (.list none (xs.map write)) ∧ readList? read v = .ok (some xs) := by
  obtain ⟨label, items, rfl, hitems⟩ := hv
  have hdistinct' := (Value.hasDistinctKeys_list label items).mp hdistinct
  obtain ⟨xs, hxs, hall⟩ := exists_mapM_of_writtenBack fun w hw =>
    hback w (hdistinct' w hw) (hitems w hw)
  refine ⟨items, xs, rfl, hxs, .list hall, ?_⟩
  rw [readList?_list, hxs, Checked.map_ok]

variable {label : Option Label} {ms : Members} {key : String}

/-- A member that is absent or such a list is written back. -/
theorem exists_readList?_of_isListOf (hdistinct : (Value.object label ms).hasDistinctKeys = true)
    (hlist : ∀ v ∈ ms.get? key, v.IsListOf p)
    (hback : ∀ w : Value, w.hasDistinctKeys = true → w.IsObject p → w.WrittenBack read write) :
    ∃ found, readList? read (ms.field key) = .ok found ∧ Option.Rel Value.Reordered (ms.get? key)
      (found.map fun xs => .list none (xs.map write)) := by
  unfold field
  cases hget : ms.get? key with
  | none => exact ⟨none, rfl, .none⟩
  | some v =>
    obtain ⟨_, xs, -, -, hreordered, hread⟩ :=
      exists_of_isListOf (hlist v hget) (Value.hasDistinctKeys_of_get? hdistinct hget) hback
    exact ⟨some xs, hread, .some hreordered⟩

theorem Members.HasFlag.get?_eq (h : ms.HasFlag key) :
    ms.get? key = some (.bool (!(ms.field key).isBlank)) := by
  obtain ⟨b, hb⟩ := h
  unfold field
  rw [hb, Option.getD_some, Value.isBlank, Bool.not_not]

theorem ifPresent_field (h : ms.get? key ≠ some .null) :
    (ms.field key).ifPresent = ms.get? key := by
  unfold field
  cases hget : ms.get? key with
  | none => rfl
  | some v =>
    cases v with
    | null => exact absurd hget h
    | _ => rfl

/-- A closed object is its fields, up to order. -/
theorem reordered_of_only {fields : List (String × Option Value)}
    (hdistinct : (Value.object label ms).hasDistinctKeys = true)
    (hnodup : (fields.map Prod.fst).Nodup) (honly : ms.Only (fields.map Prod.fst))
    (hvalues : ∀ f ∈ fields, Option.Rel Value.Reordered (ms.get? f.1) f.2) :
    (Value.object label ms).Reordered (.object none (ofFields fields)) := by
  have hclosed : (Value.object label ms).Reordered
      (.object none (around fields (without (fields.map Prod.fst) ms) [])) :=
    Value.reordered_of_fields (Value.distinct_of_object hdistinct) hnodup
      (by rw [List.append_nil]) (by rwa [List.append_nil])
  rwa [around, without_eq_nil honly, ofFields_nil, List.append_nil, List.append_nil] at hclosed

theorem TypeIdentifier.writtenBack {v : Value} (hdistinct : v.hasDistinctKeys = true)
    (h : v.IsObject IsCanonical) : v.WrittenBack ofDocument toDocument := by
  obtain ⟨label, ms, rfl, h⟩ := h
  obtain ⟨name, hname⟩ := Option.isSome_iff_exists.mp h.name
  refine ⟨_, ofDocument_object hname, ?_⟩
  rw [toDocument_eq]
  refine reordered_of_only hdistinct (by simp [fields, classKey]) h.only ?_
  simp only [fields, List.forall_mem_cons]
  refine ⟨reordered_of_eq h.className, reordered_of_eq hname, reordered_of_eq ?_,
    List.forall_mem_nil _⟩
  exact (ifPresent_field h.namespaceName).symm

theorem Argument.writtenBack {v : Value} (hdistinct : v.hasDistinctKeys = true)
    (h : v.IsObject IsCanonical) : v.WrittenBack ofDocument toDocument := by
  obtain ⟨label, ms, rfl, ⟨kind, h⟩ | h⟩ := h
  · obtain ⟨value, hvalue⟩ := Option.isSome_iff_exists.mp h.value
    refine ⟨_, ofDocument_literal h.className (ArgumentKind.ofClassName_className _) hvalue, ?_⟩
    rw [toDocument_eq]
    refine reordered_of_only hdistinct (by simp [fields, classKey]) h.only ?_
    simp only [fields, List.forall_mem_cons]
    exact ⟨reordered_of_eq h.className, reordered_of_eq hvalue, List.forall_mem_nil _⟩
  · obtain ⟨data, hdata, hobject⟩ := h.type
    obtain ⟨type, htype, hreordered⟩ :=
      TypeIdentifier.writtenBack (Value.hasDistinctKeys_of_get? hdistinct hdata) hobject
    refine ⟨_, ofDocument_reference h.className (ArgumentKind.ofClassName_className _) hdata htype,
      ?_⟩
    rw [toDocument_eq]
    refine reordered_of_only hdistinct (by simp [fields, classKey]) h.only ?_
    simp only [fields, List.forall_mem_cons]
    refine ⟨reordered_of_eq h.className, ?_, reordered_of_eq h.isArray.get?_eq,
      List.forall_mem_nil _⟩
    have hget : get? ms "type" = some data := hdata
    rw [hget]
    exact .some hreordered

theorem Decorator.writtenBack {v : Value} (hdistinct : v.hasDistinctKeys = true)
    (h : v.IsObject IsCanonical) : v.WrittenBack ofDocument toDocument := by
  obtain ⟨label, ms, rfl, h⟩ := h
  have hms := Value.distinct_of_object hdistinct
  obtain ⟨name, hname⟩ := Option.isSome_iff_exists.mp h.name
  obtain ⟨arguments, harguments, hreordered⟩ :=
    exists_readList?_of_isListOf hdistinct h.arguments fun w => Argument.writtenBack
  let d : Decorator := ⟨name, arguments, without knownKeys ms⟩
  refine ⟨d, ofDocument_object.mpr ⟨hname, harguments, rfl⟩, ?_⟩
  rw [toDocument_eq (hms.extra_without knownKeys)]
  refine Value.reordered_of_fields hms (by decide) (.refl _) ?_
  simp only [fields, List.append_nil, List.forall_mem_cons]
  exact ⟨reordered_of_eq h.className, reordered_of_eq hname, hreordered,
    List.forall_mem_nil _⟩

/-- A reference with a class is not blank. -/
theorem TypeIdentifier.isBlank_of_isCanonical {v : Value} (h : v.IsObject IsCanonical) :
    v.isBlank = false := by
  obtain ⟨label, ms, rfl, h⟩ := h
  cases ms with
  | nil => cases h.className
  | cons m rest => rfl

theorem exists_ofDocument?_of_isObject (hdistinct : (Value.object label ms).hasDistinctKeys = true)
    (hobject : ∀ v ∈ ms.get? key, v.IsObject TypeIdentifier.IsCanonical) :
    ∃ found, TypeIdentifier.ofDocument? (ms.field key) = .ok found
      ∧ Option.Rel Value.Reordered (ms.get? key) (found.map TypeIdentifier.toDocument) := by
  unfold field
  cases hget : ms.get? key with
  | none => exact ⟨none, rfl, .none⟩
  | some v =>
    obtain ⟨ident, hread, hreordered⟩ :=
      TypeIdentifier.writtenBack (Value.hasDistinctKeys_of_get? hdistinct hget) (hobject v hget)
    have hblank : v.isBlank = false := TypeIdentifier.isBlank_of_isCanonical (hobject v hget)
    refine ⟨some ident, ?_, .some hreordered⟩
    rw [Option.getD_some, TypeIdentifier.ofDocument?, if_neg (by rw [hblank]; decide), hread,
      Checked.map_ok]

theorem Property.writtenBack {v : Value} (hdistinct : v.hasDistinctKeys = true)
    (h : v.IsObject IsCanonical) : v.WrittenBack ofDocument toDocument := by
  obtain ⟨label, ms, rfl, kind, h⟩ := h
  have hms := Value.distinct_of_object hdistinct
  obtain ⟨name, hname⟩ := Option.isSome_iff_exists.mp h.name
  obtain ⟨type, htype, htypeSame⟩ := exists_ofDocument?_of_isObject hdistinct h.type
  obtain ⟨decorators, hdecorators, hdecoratorsSame⟩ :=
    exists_readList?_of_isListOf hdistinct h.decorators fun w => Decorator.writtenBack
  have hflag : ∀ key, (if kind = .enum then get? ms key = none else HasFlag ms key) →
      get? ms key = if kind = .enum then none else some (.bool (!(field ms key).isBlank)) := by
    intro key h
    split at h
    · rw [if_pos ‹_›, h]
    · rw [if_neg ‹_›, h.get?_eq]
  let p : Property := ⟨name, kind, !(field ms "isArray").isBlank, !(field ms "isOptional").isBlank,
    type, decorators, without knownKeys ms⟩
  refine ⟨p, ofDocument_object.mpr ⟨⟨_, h.className, kind.ofClassName_className⟩, hname, rfl, rfl,
    htype, hdecorators, rfl⟩, ?_⟩
  rw [toDocument_eq (hms.extra_without knownKeys)]
  refine Value.reordered_of_fields hms (by decide) ?_ ?_
  · show knownKeys.Perm [classKey, "name", "isArray", "isOptional", "type", "decorators"]
    decide
  · simp only [fields, List.cons_append, List.nil_append, List.forall_mem_cons]
    exact ⟨reordered_of_eq h.className, reordered_of_eq hname,
      reordered_of_eq (hflag _ h.isArray), reordered_of_eq (hflag _ h.isOptional), htypeSame,
      hdecoratorsSame, List.forall_mem_nil _⟩

theorem Declaration.writtenBack {v : Value} (hdistinct : v.hasDistinctKeys = true)
    (h : v.IsObject IsCanonical) : v.WrittenBack ofDocument toDocument := by
  obtain ⟨label, ms, rfl, kind, h⟩ := h
  have hms := Value.distinct_of_object hdistinct
  obtain ⟨name, hname⟩ := Option.isSome_iff_exists.mp h.name
  obtain ⟨superType, hsuperType, hsuperTypeSame⟩ :=
    exists_ofDocument?_of_isObject hdistinct h.superType
  obtain ⟨properties, hproperties, hpropertiesSame⟩ :=
    exists_readList?_of_isListOf hdistinct h.properties fun w => Property.writtenBack
  obtain ⟨decorators, hdecorators, hdecoratorsSame⟩ :=
    exists_readList?_of_isListOf hdistinct h.decorators fun w => Decorator.writtenBack
  have hflag : get? ms "isAbstract"
      = if kind.isClassLike then some (.bool (!(field ms "isAbstract").isBlank)) else none := by
    have h := h.isAbstract
    split at h
    · rw [if_pos ‹_›, h.get?_eq]
    · rw [if_neg ‹_›, h]
  let d : Declaration := ⟨name, kind, properties, !(field ms "isAbstract").isBlank, superType,
    decorators, without knownKeys ms⟩
  refine ⟨d, ofDocument_object.mpr ⟨⟨_, h.className, kind.ofClassName_className⟩, hname,
    hproperties, rfl, hsuperType, hdecorators, rfl⟩, ?_⟩
  rw [toDocument_eq (hms.extra_without knownKeys)]
  refine Value.reordered_of_fields hms (by decide) ?_ ?_
  · show knownKeys.Perm [classKey, "name", "isAbstract", "superType", "properties", "decorators"]
    decide
  · simp only [fields, List.cons_append, List.nil_append, List.forall_mem_cons]
    exact ⟨reordered_of_eq h.className, reordered_of_eq hname, reordered_of_eq hflag,
      hsuperTypeSame, hpropertiesSame, hdecoratorsSame, List.forall_mem_nil _⟩

theorem Model.writtenBack {v : Value} (hdistinct : v.hasDistinctKeys = true)
    (h : v.IsObject IsCanonical) : v.WrittenBack ofDocument toDocument := by
  obtain ⟨label, ms, rfl, h⟩ := h
  have hms := Value.distinct_of_object hdistinct
  obtain ⟨namespaceName, hnamespace⟩ := Option.isSome_iff_exists.mp h.namespaceName
  obtain ⟨list, hlist, hlistOf⟩ := h.declarations
  obtain ⟨items, declarations, hitems, hmapM, hdeclarationsSame, -⟩ :=
    exists_of_isListOf hlistOf (Value.hasDistinctKeys_of_get? hdistinct hlist) fun w =>
      Declaration.writtenBack
  obtain ⟨decorators, hdecorators, hdecoratorsSame⟩ :=
    exists_readList?_of_isListOf hdistinct h.decorators fun w => Decorator.writtenBack
  let m : Model := ⟨namespaceName, declarations, decorators, without knownKeys ms⟩
  refine ⟨m, ofDocument_object.mpr ⟨hnamespace, Or.inl ⟨list, items, hlist, hitems, hmapM⟩,
    hdecorators, rfl⟩, ?_⟩
  rw [toDocument_eq (hms.extra_without knownKeys)]
  refine Value.reordered_of_fields hms (by decide) (.refl _) ?_
  simp only [front, back, List.cons_append, List.nil_append, List.forall_mem_cons]
  refine ⟨reordered_of_eq h.className, reordered_of_eq hnamespace, ?_, hdecoratorsSame,
    List.forall_mem_nil _⟩
  have hget : get? ms "declarations" = some list := hlist
  rw [hget]
  exact .some hdeclarationsSame

/-- **Canonical documents are written back**, up to order. -/
theorem Models.writtenBack {v : Value} (hdistinct : v.hasDistinctKeys = true)
    (h : v.IsObject IsCanonical) : v.WrittenBack ofDocument toDocument := by
  obtain ⟨label, ms, rfl, h⟩ := h
  obtain ⟨list, hlist, hlistOf⟩ := h.models
  have hmodels := exists_of_isListOf hlistOf (Value.hasDistinctKeys_of_get? hdistinct hlist)
    fun w => Model.writtenBack
  obtain ⟨label', values, rfl, -⟩ := hlistOf
  obtain ⟨items, models, hitems, hmapM, hsame, -⟩ := hmodels
  obtain rfl := Except.ok.inj hitems
  have hread : ofDocument (.object label ms) = .ok ⟨models⟩ := by
    rw [ofDocument_object h.className hlist, hmapM, Checked.map_ok]
  refine ⟨⟨models⟩, hread, ?_⟩
  have hfields : toDocument ⟨models⟩ = .object none (ofFields
      [(classKey, some (.str (metamodelClass "Models"))),
        ("models", some (.list none (models.map Model.toDocument)))]) := rfl
  rw [hfields]
  refine reordered_of_only hdistinct (by simp [classKey]) h.only ?_
  simp only [List.forall_mem_cons]
  refine ⟨reordered_of_eq h.className, ?_, List.forall_mem_nil _⟩
  have hget : get? ms "models" = some (.list label' values) := hlist
  rw [hget]
  exact .some hsame

end WrittenBack

/-! ## Writing what was read -/

theorem Property.toDocument_written (p : Property) : p.written.toDocument = p.toDocument := by
  have hflags : p.written.flagMembers = p.flagMembers := by
    unfold flagMembers
    by_cases hkind : p.kind = .enum <;> simp [written, hkind]
  unfold toDocument
  rw [hflags]
  rfl

theorem Declaration.toDocument_written (d : Declaration) : d.written.toDocument = d.toDocument := by
  have hflag : d.written.flagMembers = d.flagMembers := by
    unfold flagMembers
    by_cases hkind : d.kind.isClassLike <;> simp [written, hkind]
  have hproperties : d.written.properties.map propertiesDocument
      = d.properties.map propertiesDocument := by
    show (d.properties.map (·.map Property.written)).map propertiesDocument = _
    rw [Option.map_map]
    congr 1
    funext ps
    show propertiesDocument (ps.map Property.written) = propertiesDocument ps
    unfold propertiesDocument
    rw [List.map_map, List.map_congr_left fun p _ => p.toDocument_written]
  unfold toDocument
  rw [hflag, hproperties]
  rfl

theorem Model.toDocument_written (m : Model) : m.written.toDocument = m.toDocument := by
  have hdeclarations : m.written.declarations.map Declaration.toDocument
      = m.declarations.map Declaration.toDocument := by
    show (m.declarations.map Declaration.written).map Declaration.toDocument = _
    rw [List.map_map, List.map_congr_left fun d _ => d.toDocument_written]
  unfold toDocument
  rw [hdeclarations]
  rfl

/-- Idle flags do not show in what is written. -/
theorem Models.toDocument_written (ms : Models) : ms.written.toDocument = ms.toDocument := by
  have hmodels : ms.written.models.map Model.toDocument = ms.models.map Model.toDocument := by
    show (ms.models.map Model.written).map Model.toDocument = _
    rw [List.map_map, List.map_congr_left fun m _ => m.toDocument_written]
  unfold toDocument
  rw [hmodels]

/-- **Reading and writing makes documents canonical, and keeps canonical ones.** What is
written of a document that was read is canonical, and it is written again as it is. A
canonical document is read, and what is written of it is the same document up to the order
of members. -/
theorem Models.canonical_of_ofDocument {data : Value} (hdata : data.hasDistinctKeys = true) :
    (∀ ms, ofDocument data = .ok ms → ms.toDocument.IsObject IsCanonical
        ∧ ∃ again, ofDocument ms.toDocument = .ok again ∧ again.toDocument = ms.toDocument)
      ∧ (data.IsObject IsCanonical →
        ∃ ms, ofDocument data = .ok ms ∧ data.Reordered ms.toDocument) := by
  refine ⟨fun ms h => ?_, Models.writtenBack hdata⟩
  have hkeeps := keepsExtras_of_ofDocument hdata h
  exact ⟨isCanonical_toDocument hkeeps, ms.written, ofDocument_toDocument hkeeps,
    ms.toDocument_written⟩

theorem Models.canonical_of_ofDocument_seasons :
    seasonsDocument.hasDistinctKeys = true ∧ ofDocument seasonsDocument = .ok (seasons true)
      ∧ (seasons true).toDocument.hasDistinctKeys = true
      ∧ (seasons true).toDocument.IsObject IsCanonical
      ∧ ∃ ms, ofDocument (seasons true).toDocument = .ok ms
        ∧ (seasons true).toDocument.Reordered ms.toDocument := by
  have hdistinct : seasonsDocument.hasDistinctKeys = true := by decide +kernel
  have hread : ofDocument seasonsDocument = .ok (seasons true) := by decide +kernel
  have hwritten : (seasons true).toDocument.hasDistinctKeys = true := by decide +kernel
  obtain ⟨hcanonical, -⟩ := (canonical_of_ofDocument hdistinct).1 _ hread
  exact ⟨hdistinct, hread, hwritten, hcanonical, (canonical_of_ofDocument hwritten).2 hcanonical⟩

end DecoratorSets
