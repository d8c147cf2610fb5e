import DecoratorSets.Decoration.Apply
import DecoratorSets.Proofs.Names

/-!
# What a command reaches

The target of a command says in four fields which elements the command is for. This
module says the same without running anything: a field covers a name if it is blank,
is that name, or lists it (`Value.Covers`), and a command reaches a declaration or a
property if the fields of its target cover the names that the element goes by
(`CommandTarget.ReachesDeclaration`, `CommandTarget.ReachesProperty`).

The tests that are carried out agree with that wherever they give an answer
(`CommandTarget.selectsDeclaration_eq_ok`, `CommandTarget.selectsProperty_eq_ok`).
They always give one for names that can be compared at all, that is for names that
are no lists, sets or objects (`CommandTarget.exists_selectsProperty`).
-/

namespace DecoratorSets

/-! ## Selectors -/

/-- A selector as a target holds it: absent, a text, or a list of texts. -/
inductive Value.IsSelector : Value → Prop where
  | absent : IsSelector .null
  | text (s : String) : IsSelector (.str s)
  | texts (label : Option Label) (names : List String) :
    IsSelector (.list label (names.map Value.str))

namespace Value

/-- The names that a selector offers: a text itself, and the items of a list. -/
def choices : Value → List Value
  | .str s => [.str s]
  | .list _ items => items
  | _ => []

/-- **A selector covers a name** if it is blank or offers the name. -/
def Covers (selector name : Value) : Prop :=
  selector.isBlank = true ∨ name ∈ selector.choices

instance (selector name : Value) : Decidable (selector.Covers name) :=
  inferInstanceAs (Decidable (_ ∨ _))

/-- A text that is not blank covers itself and nothing else. -/
theorem str_covers_iff {s : String} (hs : s ≠ "") (name : Value) :
    (Value.str s).Covers name ↔ name = .str s := by
  unfold Covers choices
  rw [isBlank_str, or_iff_right hs, List.mem_singleton]

/-- A blank selector covers everything. -/
theorem covers_of_isBlank {selector : Value} (h : selector.isBlank = true) (name : Value) :
    selector.Covers name := Or.inl h

end Value

/-- One of some texts is a name exactly if the name is among them. -/
theorem any_sameAs_map_str (names : List String) (v : Value) :
    (names.map Value.str).any v.sameAs = true ↔ v ∈ names.map Value.str := by
  rw [List.any_eq_true]
  constructor
  · rintro ⟨w, hw, hsame⟩
    obtain ⟨s, _, rfl⟩ := List.mem_map.mp hw
    exact (Value.sameAs_str_iff v s).mp hsame ▸ hw
  · intro hv
    obtain ⟨s, _, rfl⟩ := List.mem_map.mp hv
    exact ⟨.str s, hv, (Value.sameAs_str_iff _ s).mpr rfl⟩

/-- Names that are tried one after the other against some texts. -/
theorem anyShared_eq_ok {texts : List String} {names : List Value} {b : Bool}
    (h : anyShared (texts.map Value.str) names = .ok b) :
    b = true ↔ ∃ name ∈ names, name ∈ texts.map Value.str := by
  induction names with
  | nil =>
    obtain rfl := Except.ok.inj h
    simp
  | cons name rest ih =>
    -- the search ends at the first name that is shared: those behind it are not even keys
    obtain ⟨key, hkey, h⟩ := Checked.bind_eq_ok.mp h
    obtain ⟨_, rfl⟩ := Value.asKey_eq_ok.mp hkey
    by_cases hany : (texts.map Value.str).any name.sameAs = true
    · rw [if_pos hany] at h
      obtain rfl := Except.ok.inj h
      exact iff_of_true rfl ⟨name, List.mem_cons_self, (any_sameAs_map_str texts name).mp hany⟩
    · rw [if_neg hany] at h
      have hnot : name ∉ texts.map Value.str := fun hmem =>
        hany ((any_sameAs_map_str texts name).mpr hmem)
      rw [ih h, List.exists_mem_cons_iff, or_iff_right hnot]

/-- Names that can be compared are tried without failure. -/
theorem exists_anyShared {items names : List Value} (h : ∀ name ∈ names, name.canName = true) :
    ∃ b, anyShared items names = .ok b := by
  induction names with
  | nil => exact ⟨false, rfl⟩
  | cons name rest ih =>
    have hkey : name.asKey = .ok name :=
      Value.asKey_eq_ok.mpr ⟨h name List.mem_cons_self, rfl⟩
    obtain ⟨b, hb⟩ := ih (fun n hn => h n (List.mem_cons_of_mem name hn))
    by_cases hany : items.any name.sameAs = true
    · exact ⟨true, by rw [anyShared, hkey, Checked.ok_bind, if_pos hany, Checked.pure_ok]⟩
    · exact ⟨b, by rw [anyShared, hkey, Checked.ok_bind, if_neg hany, hb]⟩

/-- Texts can all name something. -/
theorem mapM_asKey_str (texts : List String) :
    (texts.map Value.str).mapM Value.asKey = .ok (texts.map Value.str) := by
  rw [Checked.mapM_eq_ok, List.forall₂_same]
  intro v hv
  obtain ⟨s, _, rfl⟩ := List.mem_map.mp hv
  exact Value.asKey_str s

/-- The test of a list of texts, unless it is empty. -/
theorem selects_texts {label : Option Label} {texts : List String} (hne : texts ≠ [])
    (names : List Value) :
    selects (.list label (texts.map Value.str)) names = anyShared (texts.map Value.str) names := by
  have hblank : (Value.list label (texts.map Value.str)).isBlank = false := by
    simpa [Value.isBlank] using hne
  unfold selects
  rw [if_neg (by rw [hblank]; exact Bool.false_ne_true)]
  show (texts.map Value.str).mapM Value.asKey >>= (anyShared · names) = _
  rw [mapM_asKey_str, Checked.ok_bind]

/-- The test of a blank selector. -/
theorem selects_of_isBlank {selector : Value} (h : selector.isBlank = true)
    (names : List Value) : selects selector names = .ok true := by
  unfold selects
  rw [if_pos h]

/-- The test of a text that is not blank. -/
theorem selects_str {s : String} (h : ¬ (Value.str s).isBlank = true) (names : List Value) :
    selects (.str s) names = .ok (names.any (Value.str s).sameAs) := by
  unfold selects
  rw [if_neg h]

/-- A text that is not empty selects an element that goes by a single name exactly if it is
that name. -/
theorem selects_str_singleton {s : String} (hs : s ≠ "") (name : Value) :
    selects (.str s) [name] = .ok true ↔ name = .str s := by
  rw [selects_str (mt (Value.isBlank_str s).mp hs), Except.ok.injEq, List.any_cons, List.any_nil,
    Bool.or_false, Value.str_sameAs_iff]

/-- **The test of a selector says which names it covers**, where it gives an
answer. -/
theorem selects_eq_ok {selector : Value} (hsel : selector.IsSelector) {name : Value}
    {others : List Value} {b : Bool} (h : selects selector (name :: others) = .ok b) :
    b = true ↔ ∃ n ∈ name :: others, selector.Covers n := by
  by_cases hblank : selector.isBlank = true
  · rw [selects_of_isBlank hblank] at h
    obtain rfl := Except.ok.inj h
    exact iff_of_true rfl ⟨name, List.mem_cons_self, Value.covers_of_isBlank hblank name⟩
  · cases hsel with
    | absent => exact absurd rfl hblank
    | text s =>
      rw [selects_str hblank] at h
      obtain rfl := Except.ok.inj h
      rw [List.any_eq_true]
      refine exists_congr (fun n => and_congr_right (fun _ => ?_))
      have hne : s ≠ "" := fun hs => hblank ((Value.isBlank_str s).mpr hs)
      rw [Value.str_sameAs_iff, Value.str_covers_iff hne]
    | texts label texts =>
      have hne : texts ≠ [] := by
        rintro rfl
        exact hblank rfl
      rw [selects_texts hne] at h
      rw [anyShared_eq_ok h]
      refine exists_congr (fun n => and_congr_right (fun _ => ?_))
      unfold Value.Covers Value.choices
      rw [or_iff_right hblank]

/-- **The test of a selector gives an answer**, unless it is a list and a name
cannot be compared. -/
theorem exists_selects {selector : Value} (hsel : selector.IsSelector) {names : List Value}
    (h : ∀ label items, selector = .list label items → ∀ name ∈ names, name.canName = true) :
    ∃ b, selects selector names = .ok b := by
  by_cases hblank : selector.isBlank = true
  · exact ⟨true, selects_of_isBlank hblank names⟩
  · cases hsel with
    | absent => exact absurd rfl hblank
    | text s => exact ⟨_, selects_str hblank names⟩
    | texts label texts =>
      rw [selects_texts (by rintro rfl; exact hblank rfl)]
      exact exists_anyShared (h label _ rfl)

/-! ## Targets -/

/-- The names that a model goes by: its namespace with and without the version. -/
def modelNames : Value → List Value
  | .str s => [.str s, .str (bareName s)]
  | v => [v]

/-- A target whose fields are absent, texts or lists of texts. -/
structure CommandTarget.IsPlain (t : CommandTarget) : Prop where
  namespaceName : t.namespaceName.IsSelector
  declaration : t.declaration.IsSelector
  property : t.property.IsSelector
  properties : ∀ names ∈ t.properties, ∃ texts : List String, names = texts.map Value.str
  type : t.type.IsSelector

namespace CommandTarget

/-- A target covers a declaration of a model if it covers one of the names of the
model and the name of the declaration. -/
def CoversDeclaration (t : CommandTarget) (model : List Value) (declaration : Value) : Prop :=
  (∃ name ∈ model, t.namespaceName.Covers name) ∧ t.declaration.Covers declaration

/-- A target covers the name of a property by its single property if there is one,
and by its list of properties otherwise. No list is an empty list. -/
def CoversProperty (t : CommandTarget) (property : Value) : Prop :=
  if t.property.isBlank then t.properties.getD [] = [] ∨ property ∈ t.properties.getD []
  else t.property.Covers property

/-- **A target reaches a declaration** if it covers it, and names neither a single
property nor a kind of property. -/
def ReachesDeclaration (t : CommandTarget) (model : List Value) (declaration : Value) : Prop :=
  t.CoversDeclaration model declaration ∧ t.property.isBlank = true ∧ t.type.isBlank = true

/-- **A target reaches a property** if it covers its declaration, names a single
property or a kind of property, and covers both the name and the kind. -/
def ReachesProperty (t : CommandTarget) (model : List Value) (declaration : Value)
    (p : Property) : Prop :=
  t.CoversDeclaration model declaration ∧ ¬ (t.property.isBlank = true ∧ t.type.isBlank = true)
    ∧ t.CoversProperty p.name ∧ t.type.Covers (.str p.kind.className)

instance (t : CommandTarget) (model : List Value) (declaration : Value) :
    Decidable (t.CoversDeclaration model declaration) :=
  inferInstanceAs (Decidable (_ ∧ _))

instance (t : CommandTarget) (property : Value) : Decidable (t.CoversProperty property) :=
  inferInstanceAs (Decidable (if t.property.isBlank = true then _ ∨ _ else _))

instance (t : CommandTarget) (model : List Value) (declaration : Value) :
    Decidable (t.ReachesDeclaration model declaration) :=
  inferInstanceAs (Decidable (_ ∧ _ ∧ _))

instance (t : CommandTarget) (model : List Value) (declaration : Value) (p : Property) :
    Decidable (t.ReachesProperty model declaration p) :=
  inferInstanceAs (Decidable (_ ∧ _ ∧ _ ∧ _))

variable {t : CommandTarget}

/-! ## The tests that are carried out -/

theorem isDeclarationLevel_iff :
    t.isDeclarationLevel = true ↔ t.property.isBlank = true ∧ t.type.isBlank = true := by
  unfold isDeclarationLevel
  rw [Bool.and_eq_true]

/-- The names of a property that a target selects, as a selector. -/
theorem propertySelector_isSelector (ht : t.IsPlain) : t.propertySelector.IsSelector := by
  unfold propertySelector
  split
  · cases hprops : t.properties with
    | none => exact .absent
    | some names =>
      obtain ⟨texts, rfl⟩ := ht.properties names hprops
      exact .texts none texts
  · exact ht.property

/-- What the selector of properties covers is what the target covers. -/
theorem propertySelector_covers_iff (name : Value) :
    t.propertySelector.Covers name ↔ t.CoversProperty name := by
  unfold propertySelector CoversProperty
  split
  · cases t.properties with
    | none => exact iff_of_true (Or.inl rfl) (Or.inl rfl)
    | some names =>
      show (names.isEmpty = true ∨ name ∈ names) ↔ _
      rw [List.isEmpty_iff]
      rfl
  · exact Iff.rfl

/-- **A declaration that is selected is one that is covered.** -/
theorem selectsDeclaration_eq_ok (ht : t.IsPlain) {s : String} (hs : Namespace.IsWellFormed s)
    {d : Declaration} {b : Bool} (h : t.selectsDeclaration (.str s) d = .ok b) :
    b = true ↔ t.CoversDeclaration (modelNames (.str s)) d.name := by
  unfold selectsDeclaration at h
  rw [show (Value.str s).asText = .ok s from rfl, Checked.ok_bind,
    unversioned_of_isWellFormed hs, Checked.ok_bind] at h
  obtain ⟨inModel, hmodel, h⟩ := Checked.bind_eq_ok.mp h
  have hcov := selects_eq_ok ht.namespaceName hmodel
  cases inModel with
  | false =>
    obtain rfl := Except.ok.inj h
    exact iff_of_false Bool.false_ne_true (fun hc => Bool.false_ne_true (hcov.mpr hc.1))
  | true =>
    have hmodel : ∃ name ∈ modelNames (.str s), t.namespaceName.Covers name := hcov.mp rfl
    unfold CoversDeclaration
    rw [selects_eq_ok ht.declaration h, and_iff_right hmodel]
    simp

/-- Declarations are tested only where the namespace of their model can be read. -/
theorem exists_namespace_of_selectsDeclaration {model : Value} {d : Declaration} {b : Bool}
    (h : t.selectsDeclaration model d = .ok b) :
    ∃ s, model = .str s ∧ Namespace.IsWellFormed s := by
  obtain ⟨s, hs, h⟩ := Checked.bind_eq_ok.mp h
  obtain ⟨name, hname, _⟩ := Checked.bind_eq_ok.mp h
  obtain ⟨ns, hns, _⟩ := Checked.map_eq_ok.mp hname
  refine ⟨s, ?_, Namespace.isWellFormed_of_parse hns⟩
  cases model with
  | str s' => rw [Except.ok.inj hs]
  | _ => cases hs

/-- **A property that is selected is one that is covered.** -/
theorem selectsProperty_eq_ok (ht : t.IsPlain) {p : Property} {b : Bool}
    (h : t.selectsProperty p = .ok b) :
    b = true ↔ t.CoversProperty p.name ∧ t.type.Covers (.str p.kind.className) := by
  obtain ⟨named, hnamed, h⟩ := Checked.bind_eq_ok.mp h
  have hcov := selects_eq_ok (propertySelector_isSelector ht) hnamed
  simp only [List.mem_singleton, exists_eq_left, propertySelector_covers_iff] at hcov
  cases named with
  | false =>
    obtain rfl := Except.ok.inj h
    exact iff_of_false Bool.false_ne_true (fun hc => Bool.false_ne_true (hcov.mpr hc.1))
  | true =>
    rw [selects_eq_ok ht.type h, and_iff_right (hcov.mp rfl)]
    simp

/-- A declaration is tested without failure, unless names are listed and its own
cannot be compared. -/
theorem exists_selectsDeclaration (ht : t.IsPlain) {s : String} (hs : Namespace.IsWellFormed s)
    {d : Declaration}
    (hd : ∀ label items, t.declaration = .list label items → d.name.canName = true) :
    ∃ b, t.selectsDeclaration (.str s) d = .ok b := by
  have hmodel : ∃ b, selects t.namespaceName (modelNames (.str s)) = .ok b := by
    refine exists_selects ht.namespaceName ?_
    intro _ _ _ name hname
    rcases List.mem_pair.mp hname with rfl | rfl <;> rfl
  have hnamed : ∃ b, selects t.declaration [d.name] = .ok b :=
    exists_selects ht.declaration
      (fun label items heq name hname => List.mem_singleton.mp hname ▸ hd label items heq)
  obtain ⟨inModel, hmodel⟩ := hmodel
  obtain ⟨named, hnamed⟩ := hnamed
  refine ⟨if inModel then named else false, ?_⟩
  unfold selectsDeclaration
  rw [show (Value.str s).asText = .ok s from rfl, Checked.ok_bind,
    unversioned_of_isWellFormed hs, Checked.ok_bind]
  refine Checked.bind_eq_ok.mpr ⟨inModel, hmodel, ?_⟩
  cases inModel with
  | false => rfl
  | true => exact hnamed

/-- A property whose name can be compared is tested without failure. -/
theorem exists_selectsProperty (ht : t.IsPlain) {p : Property} (hp : p.name.canName = true) :
    ∃ b, t.selectsProperty p = .ok b := by
  have hnamed : ∃ b, selects t.propertySelector [p.name] = .ok b :=
    exists_selects (propertySelector_isSelector ht)
      (fun _ _ _ name hname => List.mem_singleton.mp hname ▸ hp)
  have htyped : ∃ b, selects t.type [.str p.kind.className] = .ok b :=
    exists_selects ht.type (fun _ _ _ name hname => List.mem_singleton.mp hname ▸ rfl)
  obtain ⟨named, hnamed⟩ := hnamed
  obtain ⟨typed, htyped⟩ := htyped
  refine ⟨if named then typed else false, Checked.bind_eq_ok.mpr ⟨named, hnamed, ?_⟩⟩
  cases named with
  | false => rfl
  | true => exact htyped

end CommandTarget

end DecoratorSets
