import DecoratorSets.Proofs.Metamodel.Reading

/-!
# Reading what was written

A writer puts what the reader kept between the fields that it knows. As long as none of
the members that were kept has a name that the reader knows (`Members.Extra`), the object
that is written has each field once, and the reader finds all of them again. What is read
from a document whose objects have distinct keys is of that kind
(`Models.keepsExtras_of_ofDocument`).

Not every flag is written: members of an enumeration are no lists and not optional, and
what has no instances is not abstract. So models that were read, written and read again
are the same up to those flags, which are reset, and they are the very same if no such
flag was set (`Models.reread_eq_written`).
-/

namespace DecoratorSets

/-! ## Members that a reader keeps -/

namespace Members

variable {extras ms : Members} {known : List String} {key : String}
  {front back : List (String × Option Value)}

/-- **Members that a reader keeps** as they are: no key occurs twice, and none of them is
a name that the reader knows. -/
structure Extra (known : List String) (extras : Members) : Prop where
  distinct : extras.Distinct
  unknown : ∀ m ∈ extras, ∀ key ∈ known, m.1 ≠ .str key

theorem Distinct.extra_without (h : ms.Distinct) (known : List String) :
    Extra known (ms.without known) :=
  ⟨h.without known, fun _ hm => (mem_without.mp hm).2⟩

/-- A name that is known is that of a field. -/
theorem Extra.get?_around (h : Extra known extras) (hkey : key ∈ known) :
    get? (around front extras back) key = get? (ofFields (front ++ back)) key := by
  have hnone : extras.get? key = none := get?_eq_none fun m hm => h.unknown m hm key hkey
  rw [around, ofFields_append, get?_append, get?_append, get?_append, hnone, Option.or_none]

theorem Extra.field_around (h : Extra known extras) (hkey : key ∈ known) :
    field (around front extras back) key = (get? (ofFields (front ++ back)) key).getD .null := by
  rw [field, h.get?_around hkey]

/-- The other members are those that were kept. -/
theorem Extra.without_around (h : Extra known extras)
    (hfields : ∀ field ∈ front ++ back, field.1 ∈ known) :
    without known (around front extras back) = extras := by
  obtain ⟨hfront, hback⟩ := List.forall_mem_append.mp hfields
  rw [around, without_append, without_append, ofFields_without hfront, ofFields_without hback,
    without_eq_self h.unknown, List.nil_append, List.append_nil]

/-- Fields whose names are known stand in front of the members that are kept. -/
theorem Extra.putAll_ofFields (h : Extra known extras) (hnodup : (front.map Prod.fst).Nodup)
    (hfields : ∀ field ∈ front, field.1 ∈ known) :
    (ofFields front).putAll extras = around front extras [] := by
  rw [around, ofFields_nil, List.append_nil]
  refine putAll_eq_append (List.pairwise_append.mpr ⟨distinct_ofFields hnodup, h.distinct, ?_⟩)
  intro m hm m' hm'
  obtain ⟨key, hfield, hkey⟩ := exists_of_mem_ofFields hm
  rw [hkey]
  refine Bool.eq_false_iff.mpr fun hsame => ?_
  exact h.unknown m' hm' key (hfields _ hfield) ((Value.str_sameKey_iff m'.1 key).mp hsame)

/-- A further field whose name is known goes to the end. -/
theorem Extra.putSome_around (h : Extra known extras) (hkey : key ∈ known)
    (hnew : key ∉ (front ++ back).map Prod.fst) (value : Option Value) :
    (around front extras back).putSome key value
      = around front extras (back ++ [(key, value)]) := by
  have hfields : ∀ m ∈ ofFields (front ++ back), m.1 ≠ .str key := by
    intro m hm heq
    obtain ⟨k, hfield, hk⟩ := exists_of_mem_ofFields hm
    obtain rfl := Value.str.inj (hk.symm.trans heq)
    exact hnew (List.mem_map_of_mem hfield)
  rw [ofFields_append] at hfields
  obtain ⟨hfront, hback⟩ := List.forall_mem_append.mp hfields
  unfold around
  rw [ofFields_append, ← List.append_assoc]
  refine putSome_eq_append (List.forall_mem_append.mpr ⟨List.forall_mem_append.mpr
    ⟨hfront, fun m hm => h.unknown m hm key hkey⟩, hback⟩) value

/-- A field with a new name is one more field. -/
theorem putSome_ofFields (front : List (String × Option Value)) (hnew : key ∉ front.map Prod.fst)
    (value : Option Value) :
    (ofFields front).putSome key value = ofFields (front ++ [(key, value)]) := by
  rw [ofFields_append]
  refine putSome_eq_append (fun m hm => ?_) value
  obtain ⟨k, hfield, hk⟩ := exists_of_mem_ofFields hm
  rw [hk]
  rintro ⟨⟩
  exact hnew (List.mem_map_of_mem hfield)

end Members

/-! ## Lists -/

section Lists

variable {α : Type} {read : Value → Checked α} {write : α → Value} {p : α → Prop}

/-- An optional list that was written is read item by item. -/
theorem readList?_map (change : α → α) {found : Option (List α)}
    (h : ∀ xs ∈ found, ∀ x ∈ xs, read (write x) = .ok (change x)) :
    readList? read ((found.map fun xs => .list none (xs.map write)).getD .null)
      = .ok (found.map (·.map change)) := by
  cases found with
  | none => rfl
  | some xs =>
    rw [Option.map_some, Option.getD_some, readList?_list,
      Checked.mapM_map_eq_ok (h xs rfl), Checked.map_ok, Option.map_some]

/-- An optional list whose items are read as they were written is read as it was written. -/
theorem readList?_map_same (found : Option (List α))
    (h : ∀ xs ∈ found, ∀ x ∈ xs, read (write x) = .ok x) :
    readList? read ((found.map fun xs => .list none (xs.map write)).getD .null) = .ok found := by
  rw [readList?_map id h]
  simp

/-- What is read from the items of a document with distinct keys is read from documents
with distinct keys. -/
theorem forall_of_readList? {data : Value} {found : Option (List α)}
    (hread : ∀ w, w.hasDistinctKeys = true → ∀ x, read w = .ok x → p x)
    (hdata : data.hasDistinctKeys = true) (h : readList? read data = .ok found) :
    ∀ xs ∈ found, ∀ x ∈ xs, p x := by
  rcases readList?_eq_ok.mp h with ⟨-, rfl⟩ | ⟨items, xs, -, hitems, hmapM, rfl⟩
  · exact fun _ hxs => absurd hxs (Option.not_mem_none _)
  · intro xs' hxs' x hx
    obtain rfl := Option.some.inj hxs'
    obtain ⟨w, hw, hwx⟩ := Checked.exists_of_mapM_eq_ok hmapM hx
    exact hread w (Value.hasDistinctKeys_of_mem_items hdata hitems w hw) x hwx

end Lists

/-! ## References and arguments -/

namespace TypeIdentifier

/-- The fields of the document of a reference. -/
def fields (ident : TypeIdentifier) : List (String × Option Value) :=
  [(classKey, some (.str (metamodelClass "TypeIdentifier"))), ("name", some ident.name),
    ("namespace", ident.namespaceName.ifPresent)]

theorem toDocument_eq (ident : TypeIdentifier) :
    ident.toDocument = .object none (Members.ofFields ident.fields) :=
  congrArg (Value.object none) (Members.putSome_ofFields
    [(classKey, some (.str (metamodelClass "TypeIdentifier"))), ("name", some ident.name)]
    (by simp [classKey]) ident.namespaceName.ifPresent)

/-- A reference is read as it was written. -/
theorem ofDocument_toDocument (ident : TypeIdentifier) :
    ofDocument ident.toDocument = .ok ident := by
  have hname : (Members.ofFields ident.fields).get? "name" = some ident.name := by
    simp [fields, classKey]
  have hns : (Members.ofFields ident.fields).field "namespace" = ident.namespaceName := by
    simp [Members.field, fields, classKey]
  rw [toDocument_eq, ofDocument_object hname, hns]

/-- An optional reference is read as it was written. -/
theorem ofDocument?_map (found : Option TypeIdentifier) :
    ofDocument? ((found.map toDocument).getD .null) = .ok found := by
  cases found with
  | none => rfl
  | some ident =>
    have hblank : ident.toDocument.isBlank = false := by
      rw [toDocument_eq]
      rfl
    rw [Option.map_some, Option.getD_some, ofDocument?, if_neg (by rw [hblank]; decide),
      ofDocument_toDocument, Checked.map_ok]

end TypeIdentifier

/-- The fields of the document of an argument. -/
def Argument.fields : Argument → List (String × Option Value)
  | .literal kind value =>
    [(classKey, some (.str (ArgumentKind.literal kind).className)), ("value", some value)]
  | .reference type isArray =>
    [(classKey, some (.str ArgumentKind.typeReference.className)),
      ("type", some type.toDocument), ("isArray", some (.bool isArray))]

theorem Argument.toDocument_eq (a : Argument) :
    a.toDocument = .object none (Members.ofFields a.fields) := by
  cases a <;> rfl

/-- An argument is read as it was written. -/
theorem Argument.ofDocument_toDocument (a : Argument) : ofDocument a.toDocument = .ok a := by
  rw [toDocument_eq]
  cases a with
  | literal kind value =>
    exact ofDocument_literal (by simp [fields]) (ArgumentKind.ofClassName_className _)
      (by simp [fields, classKey])
  | reference type isArray =>
    refine (ofDocument_reference (by simp [fields]) (ArgumentKind.ofClassName_className _)
      (by simp [fields, classKey]) type.ofDocument_toDocument).trans ?_
    simp [Members.field, fields, classKey, Value.isBlank]

/-! ## Decorators -/

namespace Decorator

/-- The fields of the document of a decorator. -/
def fields (d : Decorator) : List (String × Option Value) :=
  [(classKey, some (.str (metamodelClass "Decorator"))), ("name", some d.name),
    ("arguments", d.arguments.map fun args => .list none (args.map Argument.toDocument))]

variable {d : Decorator}

theorem toDocument_eq (h : Members.Extra knownKeys d.extras) :
    d.toDocument = .object none (Members.around d.fields d.extras []) := by
  have hfront : Members.ofFields d.fields = Members.putSome "arguments"
      (d.arguments.map fun args => .list none (args.map Argument.toDocument))
      [(classKey, .str (metamodelClass "Decorator")), ("name", d.name)] :=
    (Members.putSome_ofFields [(classKey, some (.str (metamodelClass "Decorator"))),
      ("name", some d.name)] (by simp [classKey]) _).symm
  rw [← h.putAll_ofFields (by simp [fields, classKey]) (by simp [fields, knownKeys]), hfront]
  rfl

/-- **A decorator is read as it was written.** -/
theorem ofDocument_toDocument (h : Members.Extra knownKeys d.extras) :
    ofDocument d.toDocument = .ok d := by
  rw [toDocument_eq h]
  refine ofDocument_object.mpr ⟨?_, ?_, ?_⟩
  · rw [h.get?_around (by decide)]
    simp [fields, classKey]
  · rw [h.field_around (by decide)]
    simpa [fields, classKey] using
      readList?_map_same d.arguments fun _ _ a _ => a.ofDocument_toDocument
  · exact h.without_around (by simp [fields, knownKeys])

/-- The decorators of a node are read as they were written. -/
theorem readList?_listDocument {found : Option (List Decorator)}
    (h : ∀ ds ∈ found, ∀ d ∈ ds, Members.Extra knownKeys d.extras) :
    readList? ofDocument ((found.map listDocument).getD .null) = .ok found :=
  readList?_map_same found fun ds hds d hd => ofDocument_toDocument (h ds hds d hd)

/-- What is read from a document with distinct keys keeps members that are not known. -/
theorem extra_of_ofDocument {data : Value} (hdata : data.hasDistinctKeys = true)
    (h : ofDocument data = .ok d) : Members.Extra knownKeys d.extras := by
  obtain ⟨label, ms, rfl, hd⟩ := ofDocument_eq_ok.mp h
  rw [← hd.extras]
  exact (Value.distinct_of_object hdata).extra_without knownKeys

end Decorator

/-! ## Properties -/

namespace Property

/-- The fields of the document of a property that stand in front. -/
def fields (p : Property) : List (String × Option Value) :=
  [(classKey, some (.str p.kind.className)), ("name", some p.name),
    ("isArray", if p.kind = .enum then none else some (.bool p.isArray)),
    ("isOptional", if p.kind = .enum then none else some (.bool p.isOptional)),
    ("type", p.type.map TypeIdentifier.toDocument)]

/-- **The property as it is written**: members of an enumeration have no flags. -/
def written (p : Property) : Property :=
  { p with isArray := p.kind ≠ .enum && p.isArray, isOptional := p.kind ≠ .enum && p.isOptional }

/-- What was kept of a property is unknown to the readers. -/
structure KeepsExtras (p : Property) : Prop where
  extras : Members.Extra knownKeys p.extras
  decorators : ∀ ds ∈ p.decorators, ∀ d ∈ ds, Members.Extra Decorator.knownKeys d.extras

variable {p : Property}

theorem toDocument_eq (h : Members.Extra knownKeys p.extras) :
    p.toDocument = .object none (Members.around p.fields p.extras
      [("decorators", p.decorators.map Decorator.listDocument)]) := by
  have hflags : (Value.str classKey, Value.str p.kind.className) :: (.str "name", p.name)
        :: p.flagMembers
      = Members.ofFields [(classKey, some (.str p.kind.className)), ("name", some p.name),
        ("isArray", if p.kind = .enum then none else some (.bool p.isArray)),
        ("isOptional", if p.kind = .enum then none else some (.bool p.isOptional))] := by
    unfold flagMembers
    split <;> rfl
  have hfront : Members.putSome "type" (p.type.map TypeIdentifier.toDocument)
      ((.str classKey, .str p.kind.className) :: (.str "name", p.name) :: p.flagMembers)
      = Members.ofFields p.fields := by
    rw [hflags]
    exact Members.putSome_ofFields _ (by simp [classKey]) _
  unfold toDocument
  rw [hfront, h.putAll_ofFields (by simp [fields, classKey]) (by simp [fields, knownKeys]),
    h.putSome_around (by decide) (by simp [fields, classKey]), List.nil_append]

/-- **A property is read as it was written.** -/
theorem ofDocument_toDocument (h : p.KeepsExtras) : ofDocument p.toDocument = .ok p.written := by
  rw [toDocument_eq h.extras]
  refine ofDocument_object.mpr ⟨⟨p.kind.className, ?_, p.kind.ofClassName_className⟩, ?_, ?_, ?_,
    ?_, ?_, ?_⟩
  · rw [h.extras.get?_around (by decide)]
    simp [fields]
  · rw [h.extras.get?_around (by decide)]
    simp [fields, classKey, written]
  · rw [h.extras.field_around (by decide)]
    by_cases hkind : p.kind = .enum <;> simp [fields, classKey, written, hkind, Value.isBlank]
  · rw [h.extras.field_around (by decide)]
    by_cases hkind : p.kind = .enum <;> simp [fields, classKey, written, hkind, Value.isBlank]
  · rw [h.extras.field_around (by decide)]
    simpa [fields, classKey, written] using TypeIdentifier.ofDocument?_map p.type
  · rw [h.extras.field_around (by decide)]
    simpa [fields, classKey, written] using Decorator.readList?_listDocument h.decorators
  · exact h.extras.without_around (by simp [fields, knownKeys])

/-- What is read from a document with distinct keys keeps members that are not known. -/
theorem keepsExtras_of_ofDocument {data : Value} (hdata : data.hasDistinctKeys = true)
    (h : ofDocument data = .ok p) : p.KeepsExtras := by
  obtain ⟨label, ms, rfl, hp⟩ := ofDocument_eq_ok.mp h
  refine ⟨?_, forall_of_readList? (fun _ hw _ hd => Decorator.extra_of_ofDocument hw hd)
    (Value.hasDistinctKeys_field hdata "decorators") hp.decorators⟩
  rw [← hp.extras]
  exact (Value.distinct_of_object hdata).extra_without knownKeys

end Property

/-! ## Declarations -/

namespace Declaration

/-- The fields of the document of a declaration that stand in front. -/
def fields (d : Declaration) : List (String × Option Value) :=
  [(classKey, some (.str d.kind.className)), ("name", some d.name),
    ("isAbstract", if d.kind.isClassLike then some (.bool d.isAbstract) else none),
    ("superType", d.superType.map TypeIdentifier.toDocument),
    ("properties", d.properties.map propertiesDocument)]

/-- **The declaration as it is written**: what has no instances is not abstract. -/
def written (d : Declaration) : Declaration :=
  { d with
    isAbstract := d.kind.isClassLike && d.isAbstract
    properties := d.properties.map (·.map Property.written) }

/-- What was kept of a declaration is unknown to the readers. -/
structure KeepsExtras (d : Declaration) : Prop where
  extras : Members.Extra knownKeys d.extras
  properties : ∀ ps ∈ d.properties, ∀ p ∈ ps, p.KeepsExtras
  decorators : ∀ ds ∈ d.decorators, ∀ d ∈ ds, Members.Extra Decorator.knownKeys d.extras

variable {d : Declaration}

theorem toDocument_eq (h : Members.Extra knownKeys d.extras) :
    d.toDocument = .object none (Members.around d.fields d.extras
      [("decorators", d.decorators.map Decorator.listDocument)]) := by
  have hflag : (Value.str classKey, Value.str d.kind.className) :: (.str "name", d.name)
        :: d.flagMembers
      = Members.ofFields [(classKey, some (.str d.kind.className)), ("name", some d.name),
        ("isAbstract", if d.kind.isClassLike then some (.bool d.isAbstract) else none)] := by
    unfold flagMembers
    split <;> rfl
  have hfront : Members.putSome "properties" (d.properties.map propertiesDocument)
      (Members.putSome "superType" (d.superType.map TypeIdentifier.toDocument)
        ((.str classKey, .str d.kind.className) :: (.str "name", d.name) :: d.flagMembers))
      = Members.ofFields d.fields := by
    rw [hflag, Members.putSome_ofFields _ (by simp [classKey])]
    exact Members.putSome_ofFields _ (by simp [classKey]) _
  unfold toDocument
  rw [hfront, h.putAll_ofFields (by simp [fields, classKey]) (by simp [fields, knownKeys]),
    h.putSome_around (by decide) (by simp [fields, classKey]), List.nil_append]

/-- **A declaration is read as it was written.** -/
theorem ofDocument_toDocument (h : d.KeepsExtras) : ofDocument d.toDocument = .ok d.written := by
  have hproperties : readList? Property.ofDocument
      ((d.properties.map propertiesDocument).getD .null)
      = .ok (d.properties.map (·.map Property.written)) :=
    readList?_map Property.written fun ps hps p hp =>
      Property.ofDocument_toDocument (h.properties ps hps p hp)
  rw [toDocument_eq h.extras]
  refine ofDocument_object.mpr ⟨⟨d.kind.className, ?_, d.kind.ofClassName_className⟩, ?_, ?_, ?_,
    ?_, ?_, ?_⟩
  · rw [h.extras.get?_around (by decide)]
    simp [fields]
  · rw [h.extras.get?_around (by decide)]
    simp [fields, classKey, written]
  · rw [h.extras.field_around (by decide)]
    simpa [fields, classKey, written] using hproperties
  · rw [h.extras.field_around (by decide)]
    by_cases hkind : d.kind.isClassLike <;>
      simp [fields, classKey, written, hkind, Value.isBlank]
  · rw [h.extras.field_around (by decide)]
    simpa [fields, classKey, written] using TypeIdentifier.ofDocument?_map d.superType
  · rw [h.extras.field_around (by decide)]
    simpa [fields, classKey, written] using Decorator.readList?_listDocument h.decorators
  · exact h.extras.without_around (by simp [fields, knownKeys])

/-- What is read from a document with distinct keys keeps members that are not known. -/
theorem keepsExtras_of_ofDocument {data : Value} (hdata : data.hasDistinctKeys = true)
    (h : ofDocument data = .ok d) : d.KeepsExtras := by
  obtain ⟨label, ms, rfl, hd⟩ := ofDocument_eq_ok.mp h
  refine ⟨?_, forall_of_readList? (fun _ hw _ hp => Property.keepsExtras_of_ofDocument hw hp)
    (Value.hasDistinctKeys_field hdata "properties") hd.properties,
    forall_of_readList? (fun _ hw _ hd => Decorator.extra_of_ofDocument hw hd)
    (Value.hasDistinctKeys_field hdata "decorators") hd.decorators⟩
  rw [← hd.extras]
  exact (Value.distinct_of_object hdata).extra_without knownKeys

end Declaration

/-! ## Models -/

namespace Model

/-- The fields of the document of a model that stand in front. -/
def front (m : Model) : List (String × Option Value) :=
  [(classKey, some (.str className)), ("namespace", some m.namespaceName)]

/-- The fields of the document of a model that stand at the end. -/
def back (m : Model) : List (String × Option Value) :=
  [("declarations", some (.list none (m.declarations.map Declaration.toDocument))),
    ("decorators", m.decorators.map Decorator.listDocument)]

/-- The model with its declarations as they are written. -/
def written (m : Model) : Model := { m with declarations := m.declarations.map Declaration.written }

/-- What was kept of a model is unknown to the readers. -/
structure KeepsExtras (m : Model) : Prop where
  extras : Members.Extra knownKeys m.extras
  declarations : ∀ d ∈ m.declarations, d.KeepsExtras
  decorators : ∀ ds ∈ m.decorators, ∀ d ∈ ds, Members.Extra Decorator.knownKeys d.extras

variable {m : Model}

theorem toDocument_eq (h : Members.Extra knownKeys m.extras) :
    m.toDocument = .object none (Members.around m.front m.extras m.back) := by
  have hfront : Members.putAll
      [(.str classKey, .str className), (.str "namespace", m.namespaceName)] m.extras
      = Members.around m.front m.extras [] := by
    show (Members.ofFields m.front).putAll m.extras = _
    exact h.putAll_ofFields (by simp [front, classKey]) (by simp [front, knownKeys])
  unfold toDocument
  rw [hfront]
  show Value.object none (Members.putSome "decorators" (m.decorators.map Decorator.listDocument)
    (Members.putSome "declarations"
      (some (.list none (m.declarations.map Declaration.toDocument)))
      (Members.around m.front m.extras []))) = _
  rw [h.putSome_around (by decide) (by simp [front, classKey]),
    h.putSome_around (by decide) (by simp [front, classKey])]
  rfl

/-- **A model is read as it was written.** -/
theorem ofDocument_toDocument (h : m.KeepsExtras) : ofDocument m.toDocument = .ok m.written := by
  have hdeclarations : (m.declarations.map Declaration.toDocument).mapM Declaration.ofDocument
      = .ok (m.declarations.map Declaration.written) :=
    Checked.mapM_map_eq_ok fun d hd => Declaration.ofDocument_toDocument (h.declarations d hd)
  rw [toDocument_eq h.extras]
  refine ofDocument_object.mpr ⟨?_, Or.inl ⟨.list none _, _, ?_, rfl, hdeclarations⟩, ?_, ?_⟩
  · rw [h.extras.get?_around (by decide)]
    simp [front, classKey, written]
  · rw [h.extras.get?_around (by decide)]
    simp [front, back, classKey]
  · rw [h.extras.field_around (by decide)]
    simpa [front, back, classKey, written] using Decorator.readList?_listDocument h.decorators
  · exact h.extras.without_around (by simp [front, back, knownKeys])

/-- What is read from a document with distinct keys keeps members that are not known. -/
theorem keepsExtras_of_ofDocument {data : Value} (hdata : data.hasDistinctKeys = true)
    (h : ofDocument data = .ok m) : m.KeepsExtras := by
  obtain ⟨label, ms, rfl, hm⟩ := ofDocument_eq_ok.mp h
  refine ⟨?_, ?_, forall_of_readList? (fun _ hw _ hd => Decorator.extra_of_ofDocument hw hd)
    (Value.hasDistinctKeys_field hdata "decorators") hm.decorators⟩
  · rw [← hm.extras]
    exact (Value.distinct_of_object hdata).extra_without knownKeys
  · intro d hd
    rcases hm.declarations with ⟨v, items, hv, hitems, hmapM⟩ | ⟨-, hnil⟩
    · obtain ⟨w, hw, hwd⟩ := Checked.exists_of_mapM_eq_ok hmapM hd
      exact Declaration.keepsExtras_of_ofDocument
        (Value.hasDistinctKeys_of_mem_items (Value.hasDistinctKeys_of_get? hdata hv) hitems w hw)
        hwd
    · rw [hnil] at hd
      exact absurd hd List.not_mem_nil

end Model

namespace Models

/-- Models as they are written. -/
def written (ms : Models) : Models := ⟨ms.models.map Model.written⟩

variable {ms : Models}

/-- **Models are read as they were written.** -/
theorem ofDocument_toDocument (h : ∀ m ∈ ms.models, m.KeepsExtras) :
    ofDocument ms.toDocument = .ok ms.written := by
  have hmodels : (ms.models.map Model.toDocument).mapM Model.ofDocument
      = .ok (ms.models.map Model.written) :=
    Checked.mapM_map_eq_ok fun m hm => Model.ofDocument_toDocument (h m hm)
  have hread : ofDocument ms.toDocument
      = Models.mk <$> (ms.models.map Model.toDocument).mapM Model.ofDocument :=
    ofDocument_object rfl rfl
  rw [hread, hmodels]
  rfl

/-- **What is read from a document with distinct keys** keeps members that are not known,
at every node. -/
theorem keepsExtras_of_ofDocument {data : Value} (hdata : data.hasDistinctKeys = true)
    (h : ofDocument data = .ok ms) : ∀ m ∈ ms.models, m.KeepsExtras := by
  intro m hm
  rcases exists_of_ofDocument h with ⟨m', hsingle, hm'⟩ | ⟨v, items, hv, hitems, hmapM⟩
  · rw [hsingle] at hm
    obtain rfl := List.mem_singleton.mp hm
    exact Model.keepsExtras_of_ofDocument hdata hm'
  · obtain ⟨w, hw, hwm⟩ := Checked.exists_of_mapM_eq_ok hmapM hm
    obtain ⟨label, members, rfl, hget⟩ := required_eq_ok.mp hv
    exact Model.keepsExtras_of_ofDocument
      (Value.hasDistinctKeys_of_mem_items (Value.hasDistinctKeys_of_get? hdata hget) hitems w hw)
      hwm

end Models

/-! ## Idle flags -/

section IdleFlags

/-- A flag of a member of an enumeration, which is not written. -/
def Property.hasIdleFlag (p : Property) : Bool := p.kind = .enum && (p.isArray || p.isOptional)

/-- A flag of a declaration without instances, or of one of its properties, that is not
written. -/
def Declaration.hasIdleFlag (d : Declaration) : Bool :=
  (!d.kind.isClassLike && d.isAbstract) || d.ownProperties.any Property.hasIdleFlag

/-- **Some flag is set that is not written.** -/
def Models.hasIdleFlag (ms : Models) : Bool :=
  ms.models.any fun m => m.declarations.any Declaration.hasIdleFlag

theorem map_eq_self_iff {α : Type} {f : α → α} {xs : List α} :
    xs.map f = xs ↔ ∀ x ∈ xs, f x = x := by
  have h := List.map_eq_map_iff (f := f) (g := id) (l := xs)
  rwa [List.map_id] at h

theorem Property.written_eq_self_iff (p : Property) : p.written = p ↔ p.hasIdleFlag = false := by
  have hflags : p.written = p ↔ (decide (p.kind ≠ .enum) && p.isArray) = p.isArray
      ∧ (decide (p.kind ≠ .enum) && p.isOptional) = p.isOptional := by
    obtain ⟨name, kind, isArray, isOptional, type, decorators, extras⟩ := p
    simp only [written, mk.injEq, true_and, and_true]
  rw [hflags, hasIdleFlag]
  by_cases hkind : p.kind = .enum <;> cases p.isArray <;> cases p.isOptional <;> simp [hkind]

theorem Declaration.written_eq_self_iff (d : Declaration) :
    d.written = d ↔ d.hasIdleFlag = false := by
  have hparts : d.written = d ↔ d.properties.map (·.map Property.written) = d.properties
      ∧ (d.kind.isClassLike && d.isAbstract) = d.isAbstract := by
    obtain ⟨name, kind, properties, isAbstract, superType, decorators, extras⟩ := d
    simp only [written, mk.injEq, true_and, and_true]
  have hproperties : d.properties.map (·.map Property.written) = d.properties
      ↔ d.ownProperties.any Property.hasIdleFlag = false := by
    unfold ownProperties
    cases d.properties with
    | none => exact iff_of_true rfl rfl
    | some ps =>
      rw [Option.map_some, Option.some.injEq, Option.getD_some, map_eq_self_iff, List.any_eq_false]
      exact forall₂_congr fun p _ => p.written_eq_self_iff.trans Bool.eq_false_iff
  rw [hparts, hproperties, hasIdleFlag, Bool.or_eq_false_iff, and_comm]
  by_cases hkind : d.kind.isClassLike <;> cases d.isAbstract <;> simp [hkind]

/-- **Models are written as they are** if no flag is idle. -/
theorem Models.written_eq_self_iff (ms : Models) : ms.written = ms ↔ ms.hasIdleFlag = false := by
  have hmodel : ∀ m : Model, m.written = m ↔ ∀ d ∈ m.declarations, d.written = d := by
    intro m
    rw [← map_eq_self_iff]
    obtain ⟨namespaceName, declarations, decorators, extras⟩ := m
    simp only [Model.written, Model.mk.injEq, true_and, and_true]
  have hmodels : ms.written = ms ↔ ∀ m ∈ ms.models, m.written = m := by
    rw [← map_eq_self_iff]
    exact ⟨fun h => congrArg models h, fun h => congrArg Models.mk h⟩
  rw [hmodels, hasIdleFlag, List.any_eq_false]
  refine forall₂_congr fun m _ => (hmodel m).trans ?_
  rw [Bool.not_eq_true, List.any_eq_false]
  exact forall₂_congr fun d _ => d.written_eq_self_iff.trans Bool.eq_false_iff

end IdleFlags

/-! ## Reading what was read and written -/

/-- **Models that were read and written are read again** with their idle flags reset. They
are read as they were exactly if no flag was idle. -/
theorem Models.reread_eq_written {data : Value} {ms : Models} (hdata : data.hasDistinctKeys = true)
    (h : ofDocument data = .ok ms) : ofDocument ms.toDocument = .ok ms.written
      ∧ (ofDocument ms.toDocument = .ok ms ↔ ms.hasIdleFlag = false) := by
  have hread : ofDocument ms.toDocument = .ok ms.written :=
    ofDocument_toDocument (keepsExtras_of_ofDocument hdata h)
  refine ⟨hread, ?_⟩
  rw [hread, Except.ok.injEq]
  exact ms.written_eq_self_iff

/-! ## Seasons are not abstract -/

/-- The members of an enumeration of seasons. An enumeration is not abstract, and its
members are no lists. -/
def seasonsDocument : Value := .object none
  [("$class", "concerto.metamodel@1.0.0.Model"), ("namespace", "org.acme@1.0.0"),
    ("imports", .list none []),
    ("declarations", .list none [.object none
      [("$class", "EnumDeclaration"), ("name", "Season"), ("isAbstract", .bool true),
        ("properties", .list none [.object none
          [("$class", "EnumProperty"), ("name", "SPRING"), ("isArray", .bool true)]])]])]

/-- The model of seasons, with or without flags that are idle. -/
def seasons (idle : Bool) : Models where
  models := [{
    namespaceName := "org.acme@1.0.0"
    declarations := [⟨"Season", .enum, some [⟨"SPRING", .enum, idle, false, none, none, []⟩], idle,
      none, none, []⟩]
    decorators := none
    extras := [("imports", .list none [])] }]

theorem Models.reread_eq_written_seasons :
    seasonsDocument.hasDistinctKeys = true ∧ ofDocument seasonsDocument = .ok (seasons true)
      ∧ ofDocument (seasons true).toDocument = .ok (seasons false)
      ∧ ofDocument (seasons true).toDocument ≠ .ok (seasons true) := by
  have hdistinct : seasonsDocument.hasDistinctKeys = true := by decide +kernel
  have hread : ofDocument seasonsDocument = .ok (seasons true) := by decide +kernel
  obtain ⟨hagain, hidle⟩ := reread_eq_written hdistinct hread
  exact ⟨hdistinct, hread, hagain, fun h => absurd (hidle.mp h) (by decide)⟩

end DecoratorSets
