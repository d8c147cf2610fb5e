import DecoratorSets.Proofs.Documents
import DecoratorSets.Proofs.Registry.Instances

/-!
# The order of members in a payload

The check of a payload meets the members of an object twice: in the order in which they
were written, to see that each is a property, and in the order of the properties, to see
that each property has its value. It stops at the first fault, so the order of the members
decides which fault is reported.

It does not decide whether there is one. Payloads in JSON that are the same up to the order
of members, in all their objects, are accepted or rejected together
(`Registry.checkInstance_iff_of_reordered`), in any registry. Two things are behind this:
the keys of an object are different texts, so a property picks the same member in any order
(`Members.HasTextKeys.memberNamed_perm`), and loose equality, by which values are compared
with the members of an enumeration, does not look at the order either
(`Value.Reordered.sameAs_eq`).
-/

namespace DecoratorSets

/-! ## Members in another order -/

namespace Members

variable {ms ms' ns : Members}

theorem HasTextKeys.perm (h : ms.HasTextKeys) (hperm : ms.Perm ms') : ms'.HasTextKeys := by
  have hkeys : ms.keys.Perm ms'.keys := hperm.map Prod.fst
  exact ⟨fun key hkey => h.texts key (hkeys.mem_iff.mpr hkey), hkeys.nodup_iff.mp h.nodup⟩

theorem HasTextKeys.of_names (names : List String) (h : ms.keys = names.map Value.str)
    (hnodup : names.Nodup) : ms.HasTextKeys := by
  refine ⟨fun key hkey => ?_, ?_⟩
  · obtain ⟨s, _, hs⟩ := List.mem_map.mp (h ▸ hkey)
    exact ⟨s, hs.symm⟩
  · rw [h]
    exact hnodup.map fun _ _ => Value.str.inj

/-- A member whose key is a text is the one that is found under that text. -/
theorem get?_of_mem (hnodup : ms.keys.Nodup) {key : String} {v : Value}
    (h : (Value.str key, v) ∈ ms) : ms.get? key = some v := by
  induction ms with
  | nil => exact absurd h List.not_mem_nil
  | cons m rest ih =>
    obtain ⟨k, w⟩ := m
    obtain ⟨hnot, hrest⟩ := List.nodup_cons.mp hnodup
    rw [get?_cons]
    rcases List.mem_cons.mp h with heq | hmem
    · obtain ⟨rfl, rfl⟩ := Prod.mk.inj heq
      rw [if_pos rfl]
    · have hkey : Value.str key ∈ keys rest := List.mem_map_of_mem hmem
      have hne : k ≠ .str key := fun hk => hnot (hk ▸ hkey)
      rw [if_neg hne, ih hrest hmem]

/-- **The member that a property picks** is the one whose key is the name of the property. -/
theorem HasTextKeys.memberNamed_iff (h : ms.HasTextKeys) {name v : Value} :
    Registry.memberNamed ms name = some v ↔ (name, v) ∈ ms := by
  constructor
  · intro hfound
    obtain ⟨m, hentry, rfl⟩ := Option.map_eq_some_iff.mp hfound
    have hmem := List.mem_of_find?_eq_some hentry
    have hsame : m.1.sameKey name = true :=
      List.find?_some (p := fun entry : Value × Value => entry.1.sameKey name) hentry
    obtain ⟨s, hs⟩ := h.texts m.1 (List.mem_map_of_mem hmem)
    rw [hs, Value.str_sameKey_iff] at hsame
    rw [hsame, ← hs]
    exact hmem
  · intro hmem
    have hkey : name ∈ ms.keys := List.mem_map_of_mem hmem
    obtain ⟨s, rfl⟩ := h.texts name hkey
    rw [memberNamed_str]
    exact get?_of_mem h.nodup hmem

/-- A property picks the same member in any order. -/
theorem HasTextKeys.memberNamed_perm (h : ms.HasTextKeys) (hperm : ms.Perm ms') (name : Value) :
    Registry.memberNamed ms name = Registry.memberNamed ms' name := by
  refine Option.ext fun v => ?_
  rw [h.memberNamed_iff, (h.perm hperm).memberNamed_iff, hperm.mem_iff]

/-- **Members with the same keys, one by one, and related values.** -/
def Related (R : Value → Value → Prop) : Members → Members → Prop :=
  List.Forall₂ fun m n => m.1 = n.1 ∧ R m.2 n.2

section Related

variable {R : Value → Value → Prop}

theorem Related.keys_eq (h : Related R ms ns) : ms.keys = ns.keys := by
  induction h with
  | nil => rfl
  | cons hm _ ih => exact congrArg₂ List.cons hm.1 ih

/-- A property picks related values. -/
theorem Related.memberNamed (h : Related R ms ns) (name : Value) :
    Option.Rel R (Registry.memberNamed ms name) (Registry.memberNamed ns name) := by
  unfold Registry.memberNamed
  induction h with
  | nil => exact .none
  | @cons m n _ _ hm _ ih =>
    rw [List.find?_cons, List.find?_cons, ← hm.1]
    cases m.1.sameKey name with
    | true => exact .some hm.2
    | false => exact ih

end Related

end Members

/-! ## Induction on documents up to order -/

namespace Value

variable {v w : Value} {ms ms' ns : Members}

/-- **Induction along two documents that are the same up to order**: what holds of a
document and itself, of lists if it holds of their items one by one, and of objects if it
holds of the values of their members, once these are in the same order. -/
theorem Reordered.induction {motive : Value → Value → Prop} (refl : ∀ v, motive v v)
    (list : ∀ label label' vs ws, List.Forall₂ motive vs ws →
      motive (.list label vs) (.list label' ws))
    (object : ∀ label label' (ms ms' ns : Members), ms.Perm ms' → ms'.Related motive ns →
      motive (.object label ms) (.object label' ns)) (h : v.Reordered w) : motive v w :=
  @Reordered.rec (fun v w _ => motive v w) (fun m n _ => m.1 = n.1 ∧ motive m.2 n.2)
    (fun vs ws _ => List.Forall₂ motive vs ws) (fun ms ns _ => Members.Related motive ms ns)
    refl (fun _ hitems => list _ _ _ _ hitems)
    (fun hperm _ hmembers => object _ _ _ _ _ hperm hmembers)
    (fun _ hvalue => ⟨rfl, hvalue⟩) .nil (fun _ _ hfirst hrest => .cons hfirst hrest)
    .nil (fun _ _ hfirst hrest => .cons hfirst hrest) _ _ h

/-- Objects are the same up to order if their members are, in the same order. -/
theorem Reordered.object_of_related {label label' : Option Label} (hperm : ms.Perm ms')
    (h : ms'.Related Reordered ns) : (Value.object label ms).Reordered (.object label' ns) := by
  refine .object hperm (h.imp fun m n hm => ?_)
  obtain ⟨k, v⟩ := m
  obtain ⟨l, w⟩ := n
  obtain ⟨rfl, hvalue⟩ : k = l ∧ v.Reordered w := hm
  exact .value hvalue

/-- A document is null up to order only if it is null. -/
theorem Reordered.eq_null_iff (h : v.Reordered w) : v = .null ↔ w = .null := by
  cases h with
  | refl => exact Iff.rfl
  | list _ => exact iff_of_false Value.noConfusion Value.noConfusion
  | object _ _ => exact iff_of_false Value.noConfusion Value.noConfusion

/-- A document is a text up to order only if it is that text. -/
theorem Reordered.eq_str_iff (h : v.Reordered w) (s : String) : v = .str s ↔ w = .str s := by
  cases h with
  | refl => exact Iff.rfl
  | list _ => exact iff_of_false Value.noConfusion Value.noConfusion
  | object _ _ => exact iff_of_false Value.noConfusion Value.noConfusion

/-- Primitive types do not look at the order of members. -/
theorem Reordered.admits_eq (h : v.Reordered w) (primitive : Primitive) :
    primitive.admits v = primitive.admits w := by
  cases h with
  | refl => rfl
  | list _ => cases primitive <;> rfl
  | object _ _ => cases primitive <;> rfl

/-! ## Loose equality -/

/-- Lists with loosely equal items are loosely equal to the same lists. -/
theorem sameItems_congr {vs ws : List Value}
    (h : List.Forall₂ (fun v w => ∀ x, v.sameAs x = w.sameAs x) vs ws) (xs : List Value) :
    sameItems vs xs = sameItems ws xs := by
  induction h generalizing xs with
  | nil => rfl
  | cons hfirst _ ih =>
    cases xs with
    | nil => rfl
    | cons x xs => rw [sameItems, sameItems, hfirst x, ih xs]

/-- Objects are compared member by member. -/
theorem sameMembers_iff (ms xs : Members) :
    sameMembers ms xs = true
      ↔ ∀ m ∈ ms, ∃ x, xs.find? m.1 = some x ∧ m.2.sameAs x = true := by
  induction ms with
  | nil => exact iff_of_true rfl fun m hm => absurd hm List.not_mem_nil
  | cons m rest ih =>
    obtain ⟨k, v⟩ := m
    rw [sameMembers, Bool.and_eq_true, ih, List.forall_mem_cons]
    refine and_congr_left fun _ => ?_
    cases xs.find? k with
    | none => simp
    | some x => simp

theorem sameMembers_congr
    (h : ms.Related (fun v w => ∀ x, v.sameAs x = w.sameAs x) ns) (xs : Members) :
    sameMembers ms xs = sameMembers ns xs := by
  induction h with
  | nil => rfl
  | @cons m n _ _ hm _ ih =>
    obtain ⟨k, v⟩ := m
    obtain ⟨l, w⟩ := n
    obtain ⟨rfl, hvalue⟩ : k = l ∧ ∀ x, v.sameAs x = w.sameAs x := hm
    rw [sameMembers, sameMembers, ih]
    cases xs.find? k with
    | none => rfl
    | some x => exact congrArg (· && _) (hvalue x)

theorem sameMembers_perm (hperm : ms.Perm ms') (xs : Members) :
    sameMembers ms xs = sameMembers ms' xs := by
  rw [Bool.eq_iff_iff, sameMembers_iff, sameMembers_iff]
  exact forall_congr' fun m => by rw [hperm.mem_iff]

/-- **Loose equality does not depend on the order of members.** -/
theorem Reordered.sameAs_eq (h : v.Reordered w) (x : Value) : v.sameAs x = w.sameAs x := by
  refine Reordered.induction (motive := fun v w => ∀ x, v.sameAs x = w.sameAs x) (fun _ _ => rfl)
    (fun label label' vs ws hitems x => ?_)
    (fun label label' ms ms' ns hperm hmembers x => ?_) h x
  · cases x with
    | list _ xs => exact sameItems_congr hitems xs
    | _ => rfl
  · have hlength : ms.length = ns.length := hperm.length_eq.trans hmembers.length_eq
    cases x with
    | object _ xs =>
      rw [sameAs, sameAs, hlength, sameMembers_perm hperm, sameMembers_congr hmembers]
    | _ => rfl

end Value

/-! ## Conforming -/

namespace Registry

variable {r : Registry} {v w : Value} {ms ms' ns : Members}

/-- **A value conforms to an expected type**, if there is one, as an object. -/
def ConformsTo (r : Registry) (expected : Option Handle) (v : Value) : Prop :=
  ∃ label, ∃ ms : Members, v = .object label ms ∧ r.ObjectConforms expected ms

theorem conformsTo_object {expected : Option Handle} {label : Option Label} {ms : Members} :
    r.ConformsTo expected (.object label ms) ↔ r.ObjectConforms expected ms := by
  constructor
  · rintro ⟨_, _, heq, hconforms⟩
    exact (Value.object.inj heq).2 ▸ hconforms
  · exact fun hconforms => ⟨label, ms, rfl, hconforms⟩

/-- **Two values fare alike** if they are the same up to order and conform to the same
types and to the same properties, as single values and as values of fields. -/
structure FareAlike (r : Registry) (v w : Value) : Prop where
  reordered : v.Reordered w
  conforms : ∀ expected, r.ConformsTo expected v ↔ r.ConformsTo expected w
  single : ∀ owner p, r.SingleConforms owner p v ↔ r.SingleConforms owner p w
  field : ∀ owner p, r.FieldConforms owner p v ↔ r.FieldConforms owner p w

theorem FareAlike.refl (v : Value) : r.FareAlike v v :=
  ⟨.refl v, fun _ => Iff.rfl, fun _ _ => Iff.rfl, fun _ _ => Iff.rfl⟩

section Found

variable {found found' : Option Value}

/-- Nothing is found, or null, if that is so in another order. -/
theorem getD_eq_null_iff (h : Option.Rel r.FareAlike found found') :
    found.getD .null = .null ↔ found'.getD .null = .null := by
  cases h with
  | none => exact Iff.rfl
  | some halike => exact halike.reordered.eq_null_iff

/-- A text is found if it is found in another order. -/
theorem eq_some_str_iff (h : Option.Rel r.FareAlike found found') (s : String) :
    found = some (.str s) ↔ found' = some (.str s) := by
  cases h with
  | none => exact Iff.rfl
  | some halike =>
    rw [Option.some.injEq, Option.some.injEq]
    exact halike.reordered.eq_str_iff s

/-- What is found fits a property if it does in another order. -/
theorem fieldFits_iff_of_rel (h : Option.Rel r.FareAlike found found') (owner : Handle)
    (p : Property) :
    r.FieldFits owner p (found.getD .null) ↔ r.FieldFits owner p (found'.getD .null) := by
  have hnull := getD_eq_null_iff h
  unfold FieldFits
  cases h with
  | none => exact Iff.rfl
  | @some v w halike =>
    rw [Option.getD_some, Option.getD_some] at hnull ⊢
    by_cases hv : v = .null
    · rw [if_pos hv, if_pos (hnull.mp hv)]
    · rw [if_neg hv, if_neg (mt hnull.mpr hv), halike.field owner p]

end Found

/-- **Two objects fare alike** if they have the same members up to order and these fare
alike. -/
structure ObjectsFareAlike (r : Registry) (ms ns : Members) : Prop where
  keys : ms.keys.Perm ns.keys
  named : ∀ name, Option.Rel r.FareAlike (memberNamed ms name) (memberNamed ns name)

theorem ObjectsFareAlike.of_related (hkeys : ms.HasTextKeys) (hperm : ms.Perm ms')
    (h : ms'.Related r.FareAlike ns) : r.ObjectsFareAlike ms ns := by
  refine ⟨h.keys_eq ▸ hperm.map Prod.fst, fun name => ?_⟩
  rw [hkeys.memberNamed_perm hperm name]
  exact h.memberNamed name

variable {expected : Option Handle} {h : Handle}

/-- An object names the same type in any order of its members. -/
theorem ObjectsFareAlike.hasType_iff (halike : r.ObjectsFareAlike ms ns) :
    r.HasType ms expected h ↔ r.HasType ns expected h := by
  have hclass := halike.named (.str classKey)
  rw [Members.memberNamed_str, Members.memberNamed_str] at hclass
  constructor
  · intro htype
    cases htype with
    | expected hnull => exact .expected ((getD_eq_null_iff hclass).mp hnull)
    | own htext hfound hfits =>
      exact .own ((eq_some_str_iff hclass _).mp htext) hfound hfits
  · intro htype
    cases htype with
    | expected hnull => exact .expected ((getD_eq_null_iff hclass).mpr hnull)
    | own htext hfound hfits =>
      exact .own ((eq_some_str_iff hclass _).mpr htext) hfound hfits

/-- An object fills the same types in any order of its members. -/
theorem ObjectsFareAlike.filledBy_iff (halike : r.ObjectsFareAlike ms ns) :
    r.FilledBy h ms ↔ r.FilledBy h ns := by
  have hfits : ∀ entry : Value × Property,
      r.FieldFits h entry.2 ((memberNamed ms entry.1).getD .null)
        ↔ r.FieldFits h entry.2 ((memberNamed ns entry.1).getD .null) :=
    fun entry => fieldFits_iff_of_rel (halike.named entry.1) h entry.2
  constructor
  · rintro ⟨hinstance, table, htable, hknown, hall⟩
    exact ⟨hinstance, table, htable, fun key hkey => hknown key (halike.keys.mem_iff.mpr hkey),
      fun entry hentry => (hfits entry).mp (hall entry hentry)⟩
  · rintro ⟨hinstance, table, htable, hknown, hall⟩
    exact ⟨hinstance, table, htable, fun key hkey => hknown key (halike.keys.mem_iff.mp hkey),
      fun entry hentry => (hfits entry).mpr (hall entry hentry)⟩

/-- **An object conforms in any order of its members**, or in none. -/
theorem ObjectsFareAlike.objectConforms_iff (halike : r.ObjectsFareAlike ms ns) :
    r.ObjectConforms expected ms ↔ r.ObjectConforms expected ns := by
  rw [Registry.objectConforms_iff, Registry.objectConforms_iff]
  exact exists_congr fun h => and_congr halike.hasType_iff halike.filledBy_iff

/-- **Single values conform alike** if they conform to the same types. -/
theorem singleConforms_iff_of_reordered (hsame : v.Reordered w)
    (hobject : ∀ expected, r.ConformsTo expected v ↔ r.ConformsTo expected w) (owner : Handle)
    (p : Property) :
    r.SingleConforms owner p v ↔ r.SingleConforms owner p w := by
  cases hp : p.kind.primitive? with
  | some primitive =>
    rw [singleConforms_primitive hp, singleConforms_primitive hp, hsame.admits_eq]
  | none =>
    by_cases hrel : p.kind = .relationship
    · rw [singleConforms_relationship hrel, singleConforms_relationship hrel]
      exact exists_congr hsame.eq_str_iff
    · have hany : ∀ names : List Value, names.any v.sameAs = names.any w.sameAs :=
        fun names => congrArg names.any (funext hsame.sameAs_eq)
      rw [singleConforms_target hp hrel, singleConforms_target hp hrel]
      refine exists_congr fun target => and_congr_right fun _ => ?_
      simp only [hany, hsame.admits_eq]
      exact or_congr Iff.rfl (or_congr Iff.rfl
        (and_congr_right fun _ => and_congr_right fun _ => hobject (some target)))

/-- Values that are no lists conform to no array. -/
theorem fieldConforms_iff_of_not_list (hv : ∀ label items, v ≠ .list label items)
    (hw : ∀ label items, w ≠ .list label items) {owner : Handle} {p : Property}
    (hsingle : r.SingleConforms owner p v ↔ r.SingleConforms owner p w) :
    r.FieldConforms owner p v ↔ r.FieldConforms owner p w := by
  cases hp : p.isArray with
  | false => rw [fieldConforms_single hp, fieldConforms_single hp, hsingle]
  | true =>
    rw [fieldConforms_array hp, fieldConforms_array hp]
    exact iff_of_false (fun ⟨label, items, heq, _⟩ => hv label items heq)
      (fun ⟨label, items, heq, _⟩ => hw label items heq)

/-- A list conforms to an array if its items are single values of it. -/
theorem fieldConforms_list {owner : Handle} {p : Property} (hp : p.isArray = true)
    {label : Option Label} {items : List Value} :
    r.FieldConforms owner p (.list label items) ↔ ∀ v ∈ items, r.SingleConforms owner p v := by
  rw [fieldConforms_array hp]
  constructor
  · rintro ⟨_, _, heq, hitems⟩
    exact (Value.list.inj heq).2 ▸ hitems
  · exact fun hitems => ⟨label, items, rfl, hitems⟩

/-- Items conform alike if each does. -/
theorem forall_singleConforms_iff {vs ws : List Value} (h : List.Forall₂ r.FareAlike vs ws)
    (owner : Handle) (p : Property) :
    (∀ v ∈ vs, r.SingleConforms owner p v) ↔ ∀ w ∈ ws, r.SingleConforms owner p w := by
  induction h with
  | nil => exact Iff.rfl
  | cons hfirst _ ih =>
    rw [List.forall_mem_cons, List.forall_mem_cons, hfirst.single owner p, ih]

/-- **Lists fare alike** if their items do, one by one. -/
theorem FareAlike.list {label label' : Option Label} {vs ws : List Value}
    (h : List.Forall₂ r.FareAlike vs ws) : r.FareAlike (.list label vs) (.list label' ws) := by
  have hsame : (Value.list label vs).Reordered (.list label' ws) :=
    .list (h.imp fun _ _ halike => halike.reordered)
  have hobject : ∀ expected,
      r.ConformsTo expected (.list label vs) ↔ r.ConformsTo expected (.list label' ws) :=
    fun _ => iff_of_false (fun ⟨_, _, heq, _⟩ => Value.noConfusion heq)
      (fun ⟨_, _, heq, _⟩ => Value.noConfusion heq)
  have hsingle := singleConforms_iff_of_reordered hsame hobject
  refine ⟨hsame, hobject, hsingle, fun owner p => ?_⟩
  cases hp : p.isArray with
  | false => rw [fieldConforms_single hp, fieldConforms_single hp, hsingle]
  | true =>
    rw [fieldConforms_list hp, fieldConforms_list hp]
    exact forall_singleConforms_iff h owner p

/-- **Objects fare alike** if the values of their members do, once these are in the same
order. -/
theorem FareAlike.object {label label' : Option Label} (hkeys : ms.HasTextKeys)
    (hperm : ms.Perm ms') (h : ms'.Related r.FareAlike ns) :
    r.FareAlike (.object label ms) (.object label' ns) := by
  have hsame : (Value.object label ms).Reordered (.object label' ns) :=
    .object_of_related hperm (h.imp fun _ _ hm => ⟨hm.1, hm.2.reordered⟩)
  have halike : r.ObjectsFareAlike ms ns := .of_related hkeys hperm h
  have hobject : ∀ expected,
      r.ConformsTo expected (.object label ms) ↔ r.ConformsTo expected (.object label' ns) :=
    fun _ => conformsTo_object.trans (halike.objectConforms_iff.trans conformsTo_object.symm)
  have hsingle := singleConforms_iff_of_reordered hsame hobject
  exact ⟨hsame, hobject, hsingle, fun owner p => fieldConforms_iff_of_not_list
    (fun _ _ => Value.noConfusion) (fun _ _ => Value.noConfusion) (hsingle owner p)⟩

/-- **Documents in JSON that are the same up to order fare alike.** -/
theorem fareAlike_of_reordered (h : v.Reordered w) (hjson : v.IsJson) : r.FareAlike v w := by
  refine Value.Reordered.induction (motive := fun v w => v.IsJson → r.FareAlike v w)
    (fun v _ => .refl v) (fun label label' vs ws hitems hjson => ?_)
    (fun label label' ms ms' ns hperm hmembers hjson => ?_) h hjson
  · have hall := (List.forall₂_and_left _ _).mpr ⟨hjson.items, hitems⟩
    exact .list (hall.imp fun _ _ hitem => hitem.2 hitem.1)
  · obtain ⟨hkeys, hvalues⟩ := hjson.members
    have hvalues' : ∀ m ∈ ms', m.2.IsJson := fun m hm => hvalues m (hperm.mem_iff.mpr hm)
    have hall := (List.forall₂_and_left _ _).mpr ⟨hvalues', hmembers⟩
    exact .object hkeys hperm (hall.imp fun _ _ hm => ⟨hm.2.1, hm.2.2 hm.1⟩)

/-! ## The check of a payload -/

/-- A payload without a default class is accepted if it conforms to the type that it
names. -/
theorem checkInstance_none_iff {payload : Value} :
    r.checkInstance payload none = .ok () ↔ r.ConformsTo none payload := by
  cases payload with
  | object label ms => rw [checkInstance_none_eq_ok, conformsTo_object]
  | _ => exact iff_of_false (reject_ne_ok _ _ _) (fun ⟨_, _, heq, _⟩ => Value.noConfusion heq)

/-- A payload with a default class is accepted if that is a type to which it conforms. -/
theorem checkInstance_some_iff {payload : Value} {className : String} :
    r.checkInstance payload (some className) = .ok ()
      ↔ ∃ t, r.lookup? className = some t ∧ r.ConformsTo (some t) payload := by
  rw [checkInstance_eq_ok]
  constructor
  · rintro ⟨t, label, ms, hfound, heq, hconforms⟩
    exact ⟨t, hfound, label, ms, heq, hconforms⟩
  · rintro ⟨t, hfound, label, ms, heq, hconforms⟩
    exact ⟨t, label, ms, hfound, heq, hconforms⟩

/-- **Whether a payload is accepted does not depend on the order of members**, in any of its
objects. The registry may be any, with types that are not there or names that are no texts,
and there may be a default class or none. -/
theorem checkInstance_iff_of_reordered (r : Registry) {payload payload' : Value}
    (hjson : payload.IsJson) (h : payload.Reordered payload') (defaultClass : Option String) :
    r.checkInstance payload defaultClass = .ok ()
      ↔ r.checkInstance payload' defaultClass = .ok () := by
  have halike : r.FareAlike payload payload' := fareAlike_of_reordered h hjson
  cases defaultClass with
  | none => rw [checkInstance_none_iff, checkInstance_none_iff, halike.conforms none]
  | some className =>
    rw [checkInstance_some_iff, checkInstance_some_iff]
    exact exists_congr fun t => and_congr_right fun _ => halike.conforms (some t)

end Registry

/-! ## A box in another order -/

namespace Boxes

/-- The large box that holds a box of some size, written from the end. -/
def turnedBox (size : String) : Value :=
  .object none [("inner", .object none [("label", .null), ("size", .str size)]),
    ("tags", .list none ["fragile"]), ("size", "LARGE"), ("$class", "org.acme@1.0.0.Box")]

theorem isJson_boxInBox (size : String) : (boxInBox size).IsJson := by
  have hinner : (Value.object none [("size", .str size), ("label", .null)]).IsJson := by
    refine .object (.of_names ["size", "label"] rfl (by decide)) ?_
    exact List.forall_mem_cons.mpr ⟨.str size, List.forall_mem_singleton.mpr .null⟩
  refine .object (.of_names ["$class", "size", "tags", "inner"] rfl (by decide)) ?_
  simp only [List.forall_mem_cons]
  exact ⟨.str _, .str _, .list (List.forall_mem_singleton.mpr (.str _)), hinner, nofun⟩

/-- The members of both boxes come from the end. -/
theorem reordered_boxInBox (size : String) : (boxInBox size).Reordered (turnedBox size) := by
  have hinner : (Value.object none [("size", .str size), ("label", .null)]).Reordered
      (.object none [("label", .null), ("size", .str size)]) :=
    .object (List.reverse_perm _).symm (List.forall₂_same.mpr fun m _ => .refl m)
  exact .object_of_related (List.reverse_perm _).symm
    (.cons ⟨rfl, hinner⟩ (List.forall₂_same.mpr fun m _ => ⟨rfl, .refl m.2⟩))

/-- A small box inside a large one is accepted in either order, by its own class and as a
labelled thing, and one of unknown size in neither. -/
theorem checkInstance_iff_of_reordered_boxes :
    (∀ size, (boxInBox size).IsJson ∧ (boxInBox size).Reordered (turnedBox size))
      ∧ registry.checkInstance (turnedBox "SMALL") none = .ok ()
      ∧ registry.checkInstance (turnedBox "SMALL") (some "org.acme.Labelled") = .ok ()
      ∧ registry.checkInstance (turnedBox "HUGE") none ≠ .ok () := by
  have hchecks : registry.checkInstance (boxInBox "SMALL") none = .ok ()
      ∧ registry.checkInstance (boxInBox "SMALL") (some "org.acme.Labelled") = .ok ()
      ∧ registry.checkInstance (boxInBox "HUGE") none ≠ .ok () := by
    decide +kernel
  have hiff := fun size => Registry.checkInstance_iff_of_reordered registry
    (isJson_boxInBox size) (reordered_boxInBox size)
  exact ⟨fun size => ⟨isJson_boxInBox size, reordered_boxInBox size⟩,
    (hiff "SMALL" none).mp hchecks.1, (hiff "SMALL" _).mp hchecks.2.1,
    mt (hiff "HUGE" none).mpr hchecks.2.2⟩

end Boxes

end DecoratorSets
