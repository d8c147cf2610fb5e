import DecoratorSets.Proofs.Names
import DecoratorSets.Registry.Conformance

/-!
# Payloads that conform

The check of a payload reports the first fault that it meets and where it is. Whether
there is a fault at all can be said without places and without an order of visiting: an
object conforms to an expected type if its own type fits, can have instances and knows
all its members, and if the members conform to their properties
(`Registry.ObjectConforms`); a value conforms to a property if it is one single value,
or a list of single values, of what the property holds (`Registry.FieldConforms`,
`Registry.SingleConforms`).

The check succeeds exactly on what conforms (`Registry.fieldCheck_eq_ok`,
`Registry.checkObject_eq_ok`). Types may be recursive, so the proof goes by the size of
the payload and not by its type.
-/

namespace DecoratorSets

namespace Registry

/-! ## The relation -/

/-- **The type of an object**: the one that it names, if that fits the expected one, or
else the expected one. -/
inductive HasType (r : Registry) (ms : Members) : Option Handle → Handle → Prop where
  /-- An object that names no type is of the expected type. -/
  | expected {h : Handle} (hclass : (ms.get? classKey).getD .null = .null) :
    HasType r ms (some h) h
  /-- An object that names a type is of that type. -/
  | own {expected : Option Handle} {className : String} {h : Handle}
    (hclass : ms.get? classKey = some (.str className)) (hfound : r.lookup? className = some h)
    (hfits : ∀ e ∈ expected, r.isAssignable h e = .ok true) : HasType r ms expected h

mutual

/-- **An object conforms** to an expected type, if there is one. -/
inductive ObjectConforms (r : Registry) : Option Handle → Members → Prop where
  | intro {expected : Option Handle} {ms : Members} {h : Handle} {table : Table Property}
    (htype : r.HasType ms expected h) (hinstance : isInstantiable h = true)
    (htable : r.propertyTable h = .ok table)
    (hknown : ∀ key ∈ ms.keys, key = .str classKey ∨ table.has key = true)
    (hthere : ∀ entry ∈ table,
      (memberNamed ms entry.1).getD .null = .null → entry.2.isOptional = true)
    (hfields : ∀ entry ∈ table, ∀ v, memberNamed ms entry.1 = some v → v ≠ .null →
      FieldConforms r h entry.2 v) : ObjectConforms r expected ms

/-- **A value conforms** to a property that a declaration has or inherits. -/
inductive FieldConforms (r : Registry) : Handle → Property → Value → Prop where
  | single {owner : Handle} {p : Property} {v : Value} (hp : p.isArray = false)
    (hv : SingleConforms r owner p v) : FieldConforms r owner p v
  | array {owner : Handle} {p : Property} {label : Option Label} {items : List Value}
    (hp : p.isArray = true) (hitems : ∀ v ∈ items, SingleConforms r owner p v) :
    FieldConforms r owner p (.list label items)

/-- **A single value conforms** to what a property holds. -/
inductive SingleConforms (r : Registry) : Handle → Property → Value → Prop where
  | primitive {owner : Handle} {p : Property} {v : Value} {primitive : Primitive}
    (hp : p.kind.primitive? = some primitive) (hv : primitive.admits v = true) :
    SingleConforms r owner p v
  | relationship {owner : Handle} {p : Property} {s : String} (hp : p.kind = .relationship) :
    SingleConforms r owner p (.str s)
  | enum {owner : Handle} {p : Property} {v : Value} {target : Handle}
    (hp : p.kind.primitive? = none) (hrel : p.kind ≠ .relationship)
    (htarget : r.propertyType owner p = .ok target) (hkind : target.declaration.kind = .enum)
    (hv : (target.declaration.ownProperties.map Property.name).any v.sameAs = true) :
    SingleConforms r owner p v
  | scalar {owner : Handle} {p : Property} {v : Value} {target : Handle} {primitive : Primitive}
    (hp : p.kind.primitive? = none) (hrel : p.kind ≠ .relationship)
    (htarget : r.propertyType owner p = .ok target)
    (hkind : target.declaration.kind.primitive? = some primitive)
    (hv : primitive.admits v = true) : SingleConforms r owner p v
  | object {owner : Handle} {p : Property} {label : Option Label} {ms : Members}
    {target : Handle} (hp : p.kind.primitive? = none) (hrel : p.kind ≠ .relationship)
    (htarget : r.propertyType owner p = .ok target) (henum : target.declaration.kind ≠ .enum)
    (hkind : target.declaration.kind.primitive? = none)
    (hms : ObjectConforms r (some target) ms) : SingleConforms r owner p (.object label ms)

end

variable {r : Registry}

/-! ## The type of an object -/

theorem reject_ne_ok {α : Type} (cause : Nonconformity) (path : String) (a : α) :
    reject cause path ≠ .ok a := by
  unfold reject
  exact fun h => by cases h

theorem classHandle_eq_ok {className path : String} {h : Handle} :
    r.classHandle className path = .ok h ↔ r.lookup? className = some h := by
  unfold classHandle
  cases r.lookup? className with
  | none => exact iff_of_false (reject_ne_ok _ _ _) (Option.some_ne_none h).symm
  | some found => rw [Except.ok.injEq, Option.some.injEq]

/-- An object that names no type is of the expected one. -/
theorem hasType_of_null {ms : Members} {expected : Option Handle} {h : Handle}
    (hclass : (ms.get? classKey).getD .null = .null) :
    r.HasType ms expected h ↔ expected = some h := by
  constructor
  · intro htype
    cases htype with
    | expected _ => rfl
    | own hown _ _ =>
      rw [hown] at hclass
      cases hclass
  · rintro rfl
    exact .expected hclass

/-- An object that names a type is of that type, if it fits the expected one. -/
theorem hasType_of_text {ms : Members} {expected : Option Handle} {className : String} {h : Handle}
    (hclass : ms.get? classKey = some (.str className)) :
    r.HasType ms expected h ↔ r.lookup? className = some h
      ∧ ∀ e ∈ expected, r.isAssignable h e = .ok true := by
  constructor
  · intro htype
    cases htype with
    | expected hnull =>
      rw [hclass] at hnull
      cases hnull
    | own hown hfound hfits =>
      rw [hclass, Option.some.injEq, Value.str.injEq] at hown
      exact ⟨hown ▸ hfound, hfits⟩
  · exact fun ⟨hfound, hfits⟩ => .own hclass hfound hfits

/-- The check that a type fits the expected one. -/
theorem fits_eq_ok {expected : Option Handle} {path : String} {found h : Handle} :
    (match expected with
      | none => .ok found
      | some e => r.isAssignable found e >>= fun fits =>
        if fits then .ok found else reject (.notAssignable found.fullName e.fullName) path)
      = (.ok h : Checked Handle)
      ↔ found = h ∧ ∀ e ∈ expected, r.isAssignable found e = .ok true := by
  cases expected with
  | none => simp
  | some e =>
    simp only [Checked.bind_eq_ok, Option.mem_some, forall_eq']
    constructor
    · rintro ⟨fits, hassign, hfits⟩
      cases fits with
      | false => exact absurd hfits (reject_ne_ok _ _ _)
      | true => exact ⟨Except.ok.inj hfits, hassign⟩
    · rintro ⟨rfl, hassign⟩
      exact ⟨true, hassign, rfl⟩

/-- **The type that an object is checked as** is its type. -/
theorem objectType_eq_ok {ms : Members} {expected : Option Handle} {path : String} {h : Handle} :
    r.objectType ms expected path = .ok h ↔ r.HasType ms expected h := by
  unfold objectType
  split
  · rename_i hclass
    rw [hasType_of_null hclass]
    cases expected with
    | none => exact iff_of_false (reject_ne_ok _ _ _) (Option.some_ne_none h).symm
    | some e => rw [Except.ok.injEq, Option.some.injEq]
  · rename_i className hclass
    have hown : ms.get? classKey = some (.str className) := by
      cases hget : ms.get? classKey with
      | none =>
        rw [hget] at hclass
        cases hclass
      | some v =>
        rw [hget, Option.getD_some] at hclass
        rw [hclass]
    rw [hasType_of_text hown, Checked.bind_eq_ok]
    simp only [classHandle_eq_ok]
    constructor
    · rintro ⟨found, hfound, hfits⟩
      obtain ⟨rfl, hassign⟩ := fits_eq_ok.mp hfits
      exact ⟨hfound, hassign⟩
    · rintro ⟨hfound, hassign⟩
      exact ⟨h, hfound, fits_eq_ok.mpr ⟨rfl, hassign⟩⟩
  · rename_i hnull htext
    refine iff_of_false (reject_ne_ok _ _ _) (fun htype => ?_)
    cases htype with
    | expected hclass => exact hnull hclass
    | own hown _ _ => exact htext _ (by rw [hown]; rfl)

/-! ## The members of an object -/

/-- Members are known one by one. -/
theorem checkKnown_eq_ok {h : Handle} {table : Table Property} {path : String}
    {keys : List Value} :
    checkKnown h table path keys = .ok ()
      ↔ ∀ key ∈ keys, key = .str classKey ∨ table.has key = true := by
  induction keys with
  | nil => exact iff_of_true rfl (fun key hkey => absurd hkey List.not_mem_nil)
  | cons key rest ih =>
    rw [checkKnown, List.forall_mem_cons]
    split
    · rename_i hunknown
      refine iff_of_false (reject_ne_ok _ _ _) (fun hall => ?_)
      rcases hall.1 with hclass | hhas
      · exact hunknown.1 hclass
      · rw [hhas] at hunknown
        exact Bool.false_ne_true hunknown.2
    · rename_i hknown
      rw [ih]
      refine (and_iff_right ?_).symm
      by_cases hclass : key = .str classKey
      · exact Or.inl hclass
      · refine Or.inr ?_
        by_contra hhas
        exact hknown ⟨hclass, by simpa using hhas⟩

/-- The checks of members are prepared one for each. -/
theorem memberChecks_eq (ms : Members) :
    r.memberChecks ms = ms.map fun m => (m.1, r.fieldCheck m.2) := by
  induction ms with
  | nil => rw [memberChecks, List.map_nil]
  | cons m rest ih => rw [memberChecks, ih, List.map_cons]

/-- The checks of items are prepared one for each. -/
theorem itemChecks_eq (items : List Value) : r.itemChecks items = items.map r.singleCheck := by
  induction items with
  | nil => rw [itemChecks, List.map_nil]
  | cons v rest ih => rw [itemChecks, ih, List.map_cons]

/-- What belongs to a changed member is the change of what belongs to it. -/
theorem memberNamed_map {α β : Type} (f : α → β) (entries : List (Value × α)) (name : Value) :
    memberNamed (entries.map fun m => (m.1, f m.2)) name = (memberNamed entries name).map f := by
  unfold memberNamed
  rw [List.find?_map, Option.map_map, Option.map_map]
  rfl

/-- A member that is found is one of the members. -/
theorem mem_of_memberNamed {α : Type} {entries : List (Value × α)} {name : Value} {a : α}
    (h : memberNamed entries name = some a) : ∃ key, (key, a) ∈ entries := by
  obtain ⟨entry, hentry, rfl⟩ := Option.map_eq_some_iff.mp h
  exact ⟨entry.1, List.mem_of_find?_eq_some hentry⟩

/-- A property without a value has to be optional. -/
theorem checkProperties_of_absent {h : Handle} {ms : Members} {path : String} {name : Value}
    {p : Property} {rest : Table Property} (hv : (memberNamed ms name).getD .null = .null) :
    checkProperties h ms (r.memberChecks ms) path ((name, p) :: rest) = .ok ()
      ↔ p.isOptional = true ∧ checkProperties h ms (r.memberChecks ms) path rest = .ok () := by
  have hcases : memberNamed ms name = none ∨ memberNamed ms name = some .null := by
    cases hget : memberNamed ms name with
    | none => exact Or.inl rfl
    | some v =>
      rw [hget, Option.getD_some] at hv
      exact Or.inr (congrArg some hv)
  rw [checkProperties]
  rcases hcases with hget | hget
  · rw [hget]
    cases p.isOptional with
    | false => exact iff_of_false (fun h => by cases h) (fun h => Bool.false_ne_true h.1)
    | true => exact (and_iff_right rfl).symm
  · rw [hget]
    cases p.isOptional with
    | false => exact iff_of_false (fun h => by cases h) (fun h => Bool.false_ne_true h.1)
    | true => exact (and_iff_right rfl).symm

/-- A property with a value has the value checked. -/
theorem checkProperties_of_present {h : Handle} {ms : Members} {path : String} {name v : Value}
    {p : Property} {rest : Table Property} (hv : memberNamed ms name = some v) (hne : v ≠ .null) :
    checkProperties h ms (r.memberChecks ms) path ((name, p) :: rest) = .ok ()
      ↔ r.fieldCheck v h p (path ++ "." ++ name.text) = .ok ()
        ∧ checkProperties h ms (r.memberChecks ms) path rest = .ok () := by
  -- the checks were prepared in the order of the members, so the name picks the same one
  have hcheck : memberNamed (r.memberChecks ms) name = some (r.fieldCheck v) := by
    rw [memberChecks_eq, memberNamed_map, hv, Option.map_some]
  rw [checkProperties, hv, hcheck]
  have hbind : (r.fieldCheck v h p (path ++ "." ++ name.text) >>= fun _ =>
      checkProperties h ms (r.memberChecks ms) path rest) = .ok ()
        ↔ r.fieldCheck v h p (path ++ "." ++ name.text) = .ok ()
          ∧ checkProperties h ms (r.memberChecks ms) path rest = .ok () := by
    rw [Checked.bind_eq_ok]
    exact ⟨fun ⟨_, hfield, hrest⟩ => ⟨hfield, hrest⟩, fun ⟨hfield, hrest⟩ => ⟨(), hfield, hrest⟩⟩
  cases v with
  | null => exact absurd rfl hne
  | _ => exact hbind

/-- **The members of an object are checked property by property.** -/
theorem checkProperties_eq_ok {h : Handle} {ms : Members} {path : String} {table : Table Property}
    (hcheck : ∀ m ∈ ms, ∀ owner p path,
      r.fieldCheck m.2 owner p path = .ok () ↔ r.FieldConforms owner p m.2) :
    checkProperties h ms (r.memberChecks ms) path table = .ok ()
      ↔ (∀ entry ∈ table,
          (memberNamed ms entry.1).getD .null = .null → entry.2.isOptional = true)
        ∧ ∀ entry ∈ table, ∀ v, memberNamed ms entry.1 = some v → v ≠ .null →
          r.FieldConforms h entry.2 v := by
  induction table with
  | nil =>
    exact iff_of_true rfl ⟨fun e he => absurd he List.not_mem_nil,
      fun e he => absurd he List.not_mem_nil⟩
  | cons entry rest ih =>
    obtain ⟨name, p⟩ := entry
    rw [List.forall_mem_cons, List.forall_mem_cons, and_and_and_comm, ← ih]
    by_cases hv : (memberNamed ms name).getD .null = .null
    · rw [checkProperties_of_absent hv]
      refine and_congr_left (fun _ => ⟨fun hp => ⟨fun _ => hp, fun v hget hne => ?_⟩,
        fun hp => hp.1 hv⟩)
      rw [hget] at hv
      exact absurd hv hne
    · obtain ⟨v, hget⟩ : ∃ v, memberNamed ms name = some v := by
        cases hget : memberNamed ms name with
        | none =>
          rw [hget] at hv
          exact absurd rfl hv
        | some v => exact ⟨v, rfl⟩
      have hne : v ≠ .null := by
        rw [hget] at hv
        exact hv
      obtain ⟨key, hmem⟩ := mem_of_memberNamed hget
      rw [checkProperties_of_present hget hne, hcheck _ hmem]
      refine and_congr_left (fun _ => ⟨fun hfield => ⟨fun hnull => absurd hnull hv,
        fun v' hget' _ => ?_⟩, fun hp => hp.2 v hget hne⟩)
      rw [hget, Option.some.injEq] at hget'
      exact hget' ▸ hfield

/-- **An object passes its check exactly if it conforms**, if that holds of the values
of its members. -/
theorem checkObject_eq_ok_of {ms : Members} {expected : Option Handle} {path : String}
    (hcheck : ∀ m ∈ ms, ∀ owner p path,
      r.fieldCheck m.2 owner p path = .ok () ↔ r.FieldConforms owner p m.2) :
    r.checkObject ms (r.memberChecks ms) expected path = .ok ()
      ↔ r.ObjectConforms expected ms := by
  have hunfold : r.checkObject ms (r.memberChecks ms) expected path = .ok ()
      ↔ ∃ h, r.objectType ms expected path = .ok h ∧ isInstantiable h = true
        ∧ ∃ table, r.propertyTable h = .ok table
          ∧ checkKnown h table path ms.keys = .ok ()
          ∧ checkProperties h ms (r.memberChecks ms) path table = .ok () := by
    unfold checkObject
    rw [Checked.bind_eq_ok]
    refine exists_congr (fun h => and_congr_right (fun _ => ?_))
    cases isInstantiable h with
    | false => exact iff_of_false (fun h => by cases h) (fun h => Bool.false_ne_true h.1)
    | true =>
      refine Checked.bind_eq_ok.trans (Iff.trans ?_ (and_iff_right rfl).symm)
      refine exists_congr (fun table => and_congr_right (fun _ => ?_))
      rw [Checked.bind_eq_ok]
      exact ⟨fun ⟨_, hknown, hprops⟩ => ⟨hknown, hprops⟩,
        fun ⟨hknown, hprops⟩ => ⟨(), hknown, hprops⟩⟩
  rw [hunfold]
  constructor
  · rintro ⟨h, htype, hinstance, table, htable, hknown, hprops⟩
    obtain ⟨hthere, hfields⟩ := (checkProperties_eq_ok hcheck).mp hprops
    exact .intro (objectType_eq_ok.mp htype) hinstance htable (checkKnown_eq_ok.mp hknown)
      hthere hfields
  · rintro ⟨htype, hinstance, htable, hknown, hthere, hfields⟩
    exact ⟨_, objectType_eq_ok.mpr htype, hinstance, _, htable, checkKnown_eq_ok.mpr hknown,
      (checkProperties_eq_ok hcheck).mpr ⟨hthere, hfields⟩⟩

/-! ## What a property holds -/

section Single

variable {owner : Handle} {p : Property} {v : Value}

/-- **A property of a primitive kind** holds primitive values. -/
theorem singleConforms_primitive {primitive : Primitive}
    (hp : p.kind.primitive? = some primitive) :
    r.SingleConforms owner p v ↔ primitive.admits v = true := by
  constructor
  · intro h
    cases h with
    | primitive hp' hv =>
      rw [hp, Option.some.injEq] at hp'
      exact hp' ▸ hv
    | relationship hrel =>
      rw [hrel] at hp
      cases hp
    | enum hnone =>
      rw [hnone] at hp
      cases hp
    | scalar hnone =>
      rw [hnone] at hp
      cases hp
    | object hnone =>
      rw [hnone] at hp
      cases hp
  · exact .primitive hp

/-- **A relationship** holds texts. -/
theorem singleConforms_relationship (hp : p.kind = .relationship) :
    r.SingleConforms owner p v ↔ ∃ s, v = .str s := by
  constructor
  · intro h
    cases h with
    | primitive hprim =>
      rw [hp] at hprim
      cases hprim
    | relationship _ => exact ⟨_, rfl⟩
    | enum _ hrel => exact absurd hp hrel
    | scalar _ hrel => exact absurd hp hrel
    | object _ hrel => exact absurd hp hrel
  · rintro ⟨s, rfl⟩
    exact .relationship hp

/-- **A property of any other kind** refers to a type. It holds members of an
enumeration, values of a scalar, or objects of the type. -/
theorem singleConforms_target (hnone : p.kind.primitive? = none) (hrel : p.kind ≠ .relationship) :
    r.SingleConforms owner p v ↔ ∃ target, r.propertyType owner p = .ok target
      ∧ ((target.declaration.kind = .enum
          ∧ (target.declaration.ownProperties.map Property.name).any v.sameAs = true)
        ∨ (∃ primitive, target.declaration.kind.primitive? = some primitive
          ∧ primitive.admits v = true)
        ∨ (target.declaration.kind ≠ .enum ∧ target.declaration.kind.primitive? = none
          ∧ ∃ label ms, v = .object label ms ∧ r.ObjectConforms (some target) ms)) := by
  constructor
  · intro h
    cases h with
    | primitive hprim =>
      rw [hnone] at hprim
      cases hprim
    | relationship hrel' => exact absurd hrel' hrel
    | enum _ _ htarget hkind hv => exact ⟨_, htarget, Or.inl ⟨hkind, hv⟩⟩
    | scalar _ _ htarget hkind hv => exact ⟨_, htarget, Or.inr (Or.inl ⟨_, hkind, hv⟩)⟩
    | object _ _ htarget henum hkind hms =>
      exact ⟨_, htarget, Or.inr (Or.inr ⟨henum, hkind, _, _, rfl, hms⟩)⟩
  · rintro ⟨target, htarget, ⟨hkind, hv⟩ | ⟨primitive, hkind, hv⟩
      | ⟨henum, hkind, label, ms, rfl, hms⟩⟩
    · exact .enum hnone hrel htarget hkind hv
    · exact .scalar hnone hrel htarget hkind hv
    · exact .object hnone hrel htarget henum hkind hms

/-- **A property that is no array** holds a single value. -/
theorem fieldConforms_single (hp : p.isArray = false) :
    r.FieldConforms owner p v ↔ r.SingleConforms owner p v := by
  constructor
  · intro h
    cases h with
    | single _ hv => exact hv
    | array hp' =>
      rw [hp] at hp'
      cases hp'
  · exact .single hp

/-- **A property that is an array** holds a list of single values. -/
theorem fieldConforms_array (hp : p.isArray = true) :
    r.FieldConforms owner p v
      ↔ ∃ label items, v = .list label items ∧ ∀ w ∈ items, r.SingleConforms owner p w := by
  constructor
  · intro h
    cases h with
    | single hp' =>
      rw [hp] at hp'
      cases hp'
    | array _ hitems => exact ⟨_, _, rfl, hitems⟩
  · rintro ⟨label, items, rfl, hitems⟩
    exact .array hp hitems

/-! ## Single values -/

/-- The members of a value that is an object. -/
def membersOf : Value → Members
  | .object _ ms => ms
  | _ => []

theorem singleCheck_eq (v : Value) :
    r.singleCheck v = r.checkSingle v (r.memberChecks (membersOf v)) := by
  cases v <;> simp only [singleCheck, membersOf, memberChecks]

/-- A value is checked against an enumeration by its members. -/
theorem checkAgainst_enum {checks : List (Value × FieldCheck)} {target : Handle} {path : String}
    (hkind : target.declaration.kind = .enum) :
    r.checkAgainst v checks target path = .ok ()
      ↔ (target.declaration.ownProperties.map Property.name).any v.sameAs = true := by
  unfold checkAgainst
  rw [hkind]
  dsimp only
  cases (target.declaration.ownProperties.map Property.name).any v.sameAs with
  | true => exact iff_of_true rfl rfl
  | false =>
    refine iff_of_false (fun h => ?_) Bool.false_ne_true
    obtain ⟨texts, _, h⟩ := Checked.bind_eq_ok.mp h
    cases h

/-- A value is checked against a scalar by its primitive type. -/
theorem checkAgainst_scalar {checks : List (Value × FieldCheck)} {target : Handle} {path : String}
    {primitive : Primitive} (hkind : target.declaration.kind.primitive? = some primitive) :
    r.checkAgainst v checks target path = .ok () ↔ primitive.admits v = true := by
  have henum : target.declaration.kind ≠ .enum := by
    intro henum
    rw [henum] at hkind
    cases hkind
  unfold checkAgainst
  split
  · rename_i hkind'
    exact absurd hkind' henum
  · rename_i hprim _
    obtain rfl := Option.some.inj (hkind.symm.trans hprim)
    cases primitive.admits v with
    | true => exact iff_of_true rfl rfl
    | false => exact iff_of_false (reject_ne_ok _ _ _) Bool.false_ne_true
  · rename_i hprim _
    rw [hkind] at hprim
    cases hprim

/-- A value is checked against any other declaration as an object. -/
theorem checkAgainst_object {target : Handle} {path : String}
    (hcheck : ∀ m ∈ membersOf v, ∀ owner p path,
      r.fieldCheck m.2 owner p path = .ok () ↔ r.FieldConforms owner p m.2)
    (henum : target.declaration.kind ≠ .enum)
    (hkind : target.declaration.kind.primitive? = none) :
    r.checkAgainst v (r.memberChecks (membersOf v)) target path = .ok ()
      ↔ ∃ label ms, v = .object label ms ∧ r.ObjectConforms (some target) ms := by
  unfold checkAgainst
  split
  · rename_i hkind'
    exact absurd hkind' henum
  · rename_i hprim _
    rw [hkind] at hprim
    cases hprim
  · cases v with
    | object label ms =>
      have hobject : r.checkObject ms (r.memberChecks ms) (some target) path = .ok ()
          ↔ r.ObjectConforms (some target) ms := checkObject_eq_ok_of hcheck
      show r.checkObject ms (r.memberChecks ms) (some target) path = .ok () ↔ _
      rw [hobject]
      constructor
      · exact fun h => ⟨label, ms, rfl, h⟩
      · rintro ⟨label', ms', heq, h⟩
        obtain ⟨_, rfl⟩ := Value.object.inj heq
        exact h
    | _ => exact iff_of_false (reject_ne_ok _ _ _) (fun ⟨_, _, h, _⟩ => by cases h)

/-- A value is checked against the declaration that its property refers to. -/
theorem checkAgainst_eq_ok {target : Handle} {path : String}
    (hcheck : ∀ m ∈ membersOf v, ∀ owner p path,
      r.fieldCheck m.2 owner p path = .ok () ↔ r.FieldConforms owner p m.2) :
    r.checkAgainst v (r.memberChecks (membersOf v)) target path = .ok ()
      ↔ (target.declaration.kind = .enum
          ∧ (target.declaration.ownProperties.map Property.name).any v.sameAs = true)
        ∨ (∃ primitive, target.declaration.kind.primitive? = some primitive
          ∧ primitive.admits v = true)
        ∨ (target.declaration.kind ≠ .enum ∧ target.declaration.kind.primitive? = none
          ∧ ∃ label ms, v = .object label ms ∧ r.ObjectConforms (some target) ms) := by
  by_cases henum : target.declaration.kind = .enum
  · have hnone : DeclarationKind.primitive? .enum = none := rfl
    rw [checkAgainst_enum henum]
    simp [henum, hnone]
  · cases hkind : target.declaration.kind.primitive? with
    | some primitive =>
      rw [checkAgainst_scalar hkind]
      simp [henum]
    | none =>
      rw [checkAgainst_object hcheck henum hkind]
      simp [henum]

/-- **A single value passes its check exactly if it conforms**, if that holds of the
values of its members. -/
theorem singleCheck_eq_ok_of
    (hcheck : ∀ m ∈ membersOf v, ∀ owner p path,
      r.fieldCheck m.2 owner p path = .ok () ↔ r.FieldConforms owner p m.2)
    (owner : Handle) (p : Property) (path : String) :
    r.singleCheck v owner p path = .ok () ↔ r.SingleConforms owner p v := by
  rw [singleCheck_eq]
  unfold checkSingle
  split
  · rename_i primitive hp
    rw [singleConforms_primitive hp]
    cases primitive.admits v with
    | true => exact iff_of_true rfl rfl
    | false => exact iff_of_false (reject_ne_ok _ _ _) Bool.false_ne_true
  · rename_i hnone
    split
    · rename_i hrel
      rw [singleConforms_relationship hrel]
      cases v with
      | str s => exact iff_of_true rfl ⟨s, rfl⟩
      | _ => exact iff_of_false (reject_ne_ok _ _ _) (fun ⟨_, h⟩ => by cases h)
    · rename_i hrel
      rw [singleConforms_target hnone hrel]
      cases r.propertyType owner p with
      | error e =>
        refine iff_of_false ?_ (fun ⟨_, h, _⟩ => by cases h)
        cases e <;> exact fun h => by cases h
      | ok target =>
        rw [checkAgainst_eq_ok hcheck]
        simp only [Except.ok.injEq, exists_eq_left']

end Single

/-! ## The walk over a payload -/

/-- A list that is no array is checked as a single value. -/
theorem fieldCheck_list (label : Option Label) (items : List Value) (owner : Handle)
    (p : Property) (path : String) :
    r.fieldCheck (.list label items) owner p path
      = if p.isArray then checkEach owner p path 0 (items.map r.singleCheck)
        else r.singleCheck (.list label items) owner p path := by
  rw [fieldCheck, singleCheck_eq, itemChecks_eq]
  rfl

/-- A value that is no list is checked as a single value. -/
theorem fieldCheck_of_not_list {v : Value} (hv : ∀ label items, v ≠ .list label items)
    (owner : Handle) (p : Property) (path : String) :
    r.fieldCheck v owner p path
      = if p.isArray then reject (.notAnArray v) path else r.singleCheck v owner p path := by
  cases v with
  | list label items => exact absurd rfl (hv label items)
  | _ =>
    rw [singleCheck_eq]
    simp only [fieldCheck, unlessArray, membersOf, memberChecks]

/-- Items are checked one by one. -/
theorem checkEach_eq_ok {owner : Handle} {p : Property} {path : String} {i : Nat}
    {items : List Value} (hcheck : ∀ v ∈ items, ∀ path,
      r.singleCheck v owner p path = .ok () ↔ r.SingleConforms owner p v) :
    checkEach owner p path i (items.map r.singleCheck) = .ok ()
      ↔ ∀ v ∈ items, r.SingleConforms owner p v := by
  induction items generalizing i with
  | nil => exact iff_of_true rfl (fun v hv => absurd hv List.not_mem_nil)
  | cons v rest ih =>
    rw [List.map_cons, checkEach, Checked.bind_eq_ok, List.forall_mem_cons,
      ← hcheck v List.mem_cons_self, ← ih (fun w hw => hcheck w (List.mem_cons_of_mem v hw))]
    exact ⟨fun ⟨_, hfirst, hrest⟩ => ⟨hfirst, hrest⟩, fun ⟨hfirst, hrest⟩ => ⟨(), hfirst, hrest⟩⟩

/-- The check of a value as the value of a property, if the checks of its items and the
check of itself as a single value are right. -/
theorem fieldCheck_eq_ok_of {v : Value} {owner : Handle} {p : Property} {path : String}
    (hsingle : ∀ path, r.singleCheck v owner p path = .ok () ↔ r.SingleConforms owner p v)
    (hitems : ∀ label items, v = .list label items → ∀ w ∈ items, ∀ path,
      r.singleCheck w owner p path = .ok () ↔ r.SingleConforms owner p w) :
    r.fieldCheck v owner p path = .ok () ↔ r.FieldConforms owner p v := by
  cases hp : p.isArray with
  | false =>
    have hcheck : r.fieldCheck v owner p path = r.singleCheck v owner p path := by
      by_cases hlist : ∃ label items, v = .list label items
      · obtain ⟨label, items, rfl⟩ := hlist
        rw [fieldCheck_list, hp, if_neg Bool.false_ne_true]
      · rw [fieldCheck_of_not_list (fun label items h => hlist ⟨label, items, h⟩), hp,
          if_neg Bool.false_ne_true]
    rw [hcheck, hsingle, fieldConforms_single hp]
  | true =>
    rw [fieldConforms_array hp]
    by_cases hlist : ∃ label items, v = .list label items
    · obtain ⟨label, items, rfl⟩ := hlist
      rw [fieldCheck_list, hp, if_pos rfl, checkEach_eq_ok (hitems label items rfl)]
      constructor
      · exact fun hall => ⟨label, items, rfl, hall⟩
      · rintro ⟨_, _, heq, hall⟩
        obtain ⟨_, rfl⟩ := Value.list.inj heq
        exact hall
    · rw [fieldCheck_of_not_list (fun label items h => hlist ⟨label, items, h⟩), hp, if_pos rfl]
      exact iff_of_false (reject_ne_ok _ _ _)
        (fun ⟨label, items, heq, _⟩ => hlist ⟨label, items, heq⟩)

/-- The values of an object are smaller than the object. -/
theorem sizeOf_member_lt {v : Value} {m : Value × Value} (h : m ∈ membersOf v) :
    sizeOf m.2 < sizeOf v := by
  cases v with
  | object label ms =>
    have hlt : sizeOf m < sizeOf ms := List.sizeOf_lt_of_mem h
    have hpair : sizeOf m = 1 + sizeOf m.1 + sizeOf m.2 := by
      obtain ⟨key, w⟩ := m
      rfl
    simp only [Value.object.sizeOf_spec]
    omega
  | _ => exact absurd h List.not_mem_nil

/-- **Induction along the walk.** What holds of a value as soon as it holds of the values
of its members, and of their items where these are lists, holds of every value. -/
theorem walk_induction {motive : Value → Prop}
    (step : ∀ v, (∀ m ∈ membersOf v, motive m.2
      ∧ ∀ label items, m.2 = .list label items → ∀ w ∈ items, motive w) → motive v)
    (v : Value) : motive v := by
  induction hn : sizeOf v using Nat.strongRecOn generalizing v with
  | _ n ih =>
    subst hn
    refine step v fun m hm => ?_
    have hlt := sizeOf_member_lt hm
    refine ⟨ih _ hlt m.2 rfl, fun label items heq w hw => ?_⟩
    -- a member that is a list is walked item by item, which goes two levels down
    have hitem := List.sizeOf_lt_of_mem hw
    have hlist : sizeOf items < sizeOf m.2 := by
      rw [heq, Value.list.sizeOf_spec]
      omega
    exact ih _ (by omega) w rfl

/-- **The check of a value succeeds exactly if the value conforms**, as a single value
and as the value of a property. -/
theorem singleCheck_eq_ok (r : Registry) (v : Value) (owner : Handle) (p : Property)
    (path : String) : r.singleCheck v owner p path = .ok () ↔ r.SingleConforms owner p v := by
  induction v using walk_induction generalizing owner p path with
  | step v ih =>
    refine singleCheck_eq_ok_of (fun m hm owner p path => ?_) owner p path
    exact fieldCheck_eq_ok_of ((ih m hm).1 owner p)
      fun label items heq w hw => (ih m hm).2 label items heq w hw owner p

theorem fieldCheck_eq_ok (r : Registry) (v : Value) (owner : Handle) (p : Property)
    (path : String) : r.fieldCheck v owner p path = .ok () ↔ r.FieldConforms owner p v :=
  fieldCheck_eq_ok_of (fun path => r.singleCheck_eq_ok v owner p path)
    (fun _ _ _ w _ path => r.singleCheck_eq_ok w owner p path)

/-- **The check of an object succeeds exactly if the object conforms.** -/
theorem checkObject_eq_ok (r : Registry) (ms : Members) (expected : Option Handle)
    (path : String) :
    r.checkObject ms (r.memberChecks ms) expected path = .ok ()
      ↔ r.ObjectConforms expected ms :=
  checkObject_eq_ok_of (fun m _ owner p path => r.fieldCheck_eq_ok m.2 owner p path)

/-- **The check of a payload succeeds exactly if it is an object that conforms** to the
default class, which has to exist. -/
theorem checkInstance_eq_ok (r : Registry) (payload : Value) (className : String) :
    r.checkInstance payload (some className) = .ok ()
      ↔ ∃ h label ms, r.lookup? className = some h ∧ payload = .object label ms
        ∧ r.ObjectConforms (some h) ms := by
  have hunfold : r.checkInstance payload (some className)
      = (some <$> r.classHandle className "$" >>= fun expected =>
        match payload with
        | .object _ ms => r.checkObject ms (r.memberChecks ms) expected "$"
        | v => reject (.notAnObject v) "$") := rfl
  rw [hunfold, Checked.bind_eq_ok]
  simp only [Checked.map_eq_ok, classHandle_eq_ok]
  constructor
  · rintro ⟨_, ⟨h, hfound, rfl⟩, hcheck⟩
    cases payload with
    | object label ms =>
      exact ⟨h, label, ms, hfound, rfl, (r.checkObject_eq_ok ms (some h) "$").mp hcheck⟩
    | _ => exact absurd hcheck (reject_ne_ok _ _ _)
  · rintro ⟨h, label, ms, hfound, rfl, hconforms⟩
    exact ⟨some h, ⟨h, hfound, rfl⟩, (r.checkObject_eq_ok ms (some h) "$").mpr hconforms⟩

end Registry

end DecoratorSets
