import Mathlib.Data.List.Forall2
import DecoratorSets.Value.Access

/-!
# Members by name

Reading a node asks for members by their names, and writing one sets them name by name.
A field that an object lacks and one that is null are mostly the same thing: both have
the value null (`Members.field`).

An object has no key twice, and neither has any object inside a document
(`Value.hasDistinctKeys`). Setting members with new keys is then appending them
(`Members.putAll_eq_append`), and an object is its fields of some names, as far as they
are there, followed by the members of other names, up to the order
(`Members.perm_fields`). Documents that differ in the order of members alone are related
by `Value.Reordered`.
-/

namespace DecoratorSets

namespace Members

variable {ms : Members} {key : String}

/-! ## Fields -/

/-- The value of a field, which is null where an object lacks it. -/
def field (ms : Members) (key : String) : Value := (ms.get? key).getD .null

/-- A field with a value is a member. -/
theorem get?_of_field {v : Value} (h : ms.field key = v) (hv : v ≠ .null) :
    ms.get? key = some v := by
  unfold field at h
  cases hget : ms.get? key with
  | none =>
    rw [hget] at h
    exact absurd h.symm hv
  | some w =>
    rw [hget] at h
    rw [← h]
    rfl

/-- An object that is read has its fields read. -/
theorem member_object (label : Option Label) (ms : Members) (key : String) :
    (Value.object label ms).member key = .ok (ms.field key) := rfl

/-- A field with a value is there when it is required. -/
theorem required_object {label : Option Label} {v : Value} (h : ms.field key = v)
    (hv : v ≠ .null) : (Value.object label ms).required key = .ok v := by
  have hget := get?_of_field h hv
  simp only [Value.required, hget]

theorem has_eq_isSome_get? (ms : Members) (key : String) : ms.has key = (ms.get? key).isSome := by
  unfold has get?
  rw [Option.isSome_map, Bool.eq_iff_iff, List.any_eq_true, List.find?_isSome]

@[simp] theorem field_nil (key : String) : field [] key = .null := rfl

@[simp] theorem field_cons (k v : Value) (ms : Members) (key : String) :
    field ((k, v) :: ms) key = if k = .str key then v else ms.field key := by
  unfold field
  rw [get?_cons]
  split <;> rfl

@[simp] theorem field_put (ms : Members) (key other : String) (v : Value) :
    (ms.put key v).field other = if other = key then v else ms.field other := by
  unfold field
  rw [get?_put]
  split <;> rfl

@[simp] theorem field_putSome (ms : Members) (key other : String) (v : Option Value) :
    (ms.putSome key v).field other = if other = key then v.getD (ms.field other)
      else ms.field other := by
  cases v with
  | none =>
    rw [Option.getD_none, ite_self]
    rfl
  | some v => exact ms.field_put key other v

/-- Setting a member adds no other key. -/
theorem mem_keys_put {k v : Value} {other : Value} (h : other ∈ (ms.put k v).keys) :
    other ∈ ms.keys ∨ other = k := by
  rw [keys_put] at h
  split at h
  · exact Or.inl h
  · rcases List.mem_append.mp h with h | h
    · exact Or.inl h
    · exact Or.inr (List.mem_singleton.mp h)

theorem get?_append (ms ns : Members) (key : String) :
    get? (ms ++ ns) key = (ms.get? key).or (get? ns key) := by
  unfold get?
  rw [List.find?_append, Option.map_or]

/-- A member that is found is one of the members. -/
theorem mem_of_get? {v : Value} (h : ms.get? key = some v) : (Value.str key, v) ∈ ms := by
  induction ms with
  | nil => cases h
  | cons m rest ih =>
    obtain ⟨k, w⟩ := m
    rw [get?_cons] at h
    split at h
    · rename_i hk
      obtain rfl := Option.some.inj h
      rw [hk]
      exact List.mem_cons_self
    · exact List.mem_cons_of_mem _ (ih h)

/-- Nothing is found under a name that no member has. -/
theorem get?_eq_none (h : ∀ m ∈ ms, m.1 ≠ .str key) : ms.get? key = none := by
  cases hget : ms.get? key with
  | none => rfl
  | some v => exact absurd rfl (h _ (mem_of_get? hget))

/-! ## Members of other names -/

section Without

variable {known : List String}

theorem mem_without {m : Value × Value} :
    m ∈ ms.without known ↔ m ∈ ms ∧ ∀ key ∈ known, m.1 ≠ .str key := by
  unfold without
  rw [List.mem_filter, Bool.not_eq_true', List.any_eq_false]
  simp only [Value.isNamed_eq_true_iff, ne_eq]

theorem without_cons (k v : Value) (ms : Members) (known : List String) :
    without known ((k, v) :: ms)
      = if k ∈ known.map Value.str then ms.without known else (k, v) :: ms.without known := by
  have hknown : known.any (fun key => k.isNamed key) = true ↔ k ∈ known.map Value.str := by
    rw [List.any_eq_true, List.mem_map]
    exact exists_congr fun key =>
      and_congr_right fun _ => (Value.isNamed_eq_true_iff key k).trans eq_comm
  unfold without
  rw [List.filter_cons]
  by_cases h : k ∈ known.map Value.str
  · rw [if_neg (by simpa using hknown.mpr h), if_pos h]
  · rw [if_pos (by simpa using mt hknown.mp h), if_neg h]

theorem get?_without_of_not_mem (h : key ∉ known) :
    (ms.without known).get? key = ms.get? key := by
  induction ms with
  | nil => rfl
  | cons m rest ih =>
    obtain ⟨k, v⟩ := m
    rw [without_cons, get?_cons]
    split
    · rename_i hknown
      have hk : k ≠ .str key := by
        rintro rfl
        exact h ((List.mem_map_of_injective fun _ _ => Value.str.inj).mp hknown)
      rw [ih, if_neg hk]
    · rw [get?_cons, ih]

theorem without_append (ms ns : Members) (known : List String) :
    without known (ms ++ ns) = ms.without known ++ ns.without known :=
  List.filter_append _ _

theorem without_eq_nil (h : ∀ m ∈ ms, ∃ key ∈ known, m.1 = .str key) : ms.without known = [] := by
  refine List.eq_nil_iff_forall_not_mem.mpr fun m hm => ?_
  obtain ⟨hmem, hother⟩ := mem_without.mp hm
  obtain ⟨key, hkey, heq⟩ := h m hmem
  exact hother key hkey heq

theorem without_eq_self (h : ∀ m ∈ ms, ∀ key ∈ known, m.1 ≠ .str key) :
    ms.without known = ms := by
  refine List.filter_eq_self.mpr fun m hm => ?_
  rw [Bool.not_eq_true', List.any_eq_false]
  exact fun key hkey => mt (Value.isNamed_eq_true_iff key m.1).mp (h m hm key hkey)

theorem without_congr {known' : List String} (h : ∀ key, key ∈ known ↔ key ∈ known') :
    ms.without known = ms.without known' := by
  refine List.filter_congr fun m _ => congrArg Bool.not ?_
  rw [Bool.eq_iff_iff, List.any_eq_true, List.any_eq_true]
  exact exists_congr fun key => and_congr_left fun _ => h key

theorem without_cons_eq (key : String) (known : List String) (ms : Members) :
    ms.without (key :: known) = (ms.without known).without [key] := by
  unfold without
  rw [List.filter_filter]
  refine List.filter_congr fun m _ => ?_
  simp only [List.any_cons, List.any_nil, Bool.or_false, Bool.not_or]

end Without

/-! ## Members with distinct keys -/

/-- **No key occurs twice.** -/
def Distinct (ms : Members) : Prop := ms.Pairwise fun a b => a.1.sameKey b.1 = false

instance (ms : Members) : Decidable ms.Distinct :=
  inferInstanceAs (Decidable (List.Pairwise _ _))

theorem Distinct.without (h : ms.Distinct) (known : List String) : (ms.without known).Distinct :=
  List.Pairwise.filter _ h

/-- A member with a new key goes to the end. -/
theorem put_eq_append {k : Value} (h : ∀ m ∈ ms, m.1.sameKey k = false) (v : Value) :
    ms.put k v = ms ++ [(k, v)] := by
  induction ms with
  | nil => rfl
  | cons m rest ih =>
    obtain ⟨k', w⟩ := m
    obtain ⟨hk, hrest⟩ := List.forall_mem_cons.mp h
    rw [put, if_neg (Bool.eq_false_iff.mp hk), ih hrest]
    rfl

/-- **Members with new keys** go to the end. -/
theorem putAll_eq_append {extra : Members} (h : Distinct (ms ++ extra)) :
    ms.putAll extra = ms ++ extra := by
  induction extra generalizing ms with
  | nil => exact (List.append_nil ms).symm
  | cons m rest ih =>
    have hnew : ∀ m' ∈ ms, m'.1.sameKey m.1 = false := fun m' hm' =>
      (List.pairwise_append.mp h).2.2 m' hm' m List.mem_cons_self
    rw [← List.singleton_append, ← List.append_assoc] at h ⊢
    rw [← ih h, ← put_eq_append hnew m.2]
    rfl

/-! ## Fields that are there -/

/-- The members that hold the fields that are there. -/
def ofFields (fields : List (String × Option Value)) : Members :=
  fields.filterMap fun (key, value) => value.map fun v => (.str key, v)

/-- Other members between two lists of fields. -/
def around (front : List (String × Option Value)) (others : Members)
    (back : List (String × Option Value)) : Members :=
  ofFields front ++ others ++ ofFields back

section OfFields

variable {fields : List (String × Option Value)} {known : List String}

theorem ofFields_nil : ofFields [] = [] := rfl

theorem ofFields_cons (key : String) (value : Option Value)
    (fields : List (String × Option Value)) :
    ofFields ((key, value) :: fields) = ofFields [(key, value)] ++ ofFields fields :=
  List.filterMap_append (l := [(key, value)])

theorem ofFields_append (fields others : List (String × Option Value)) :
    ofFields (fields ++ others) = ofFields fields ++ ofFields others :=
  List.filterMap_append

@[simp] theorem get?_ofFields_nil (key : String) : get? (ofFields []) key = none := rfl

@[simp] theorem get?_ofFields_cons (k : String) (value : Option Value) (key : String) :
    get? (ofFields ((k, value) :: fields)) key
      = if k = key then value.or (get? (ofFields fields) key)
        else get? (ofFields fields) key := by
  rw [ofFields_cons, get?_append]
  cases value with
  | none => exact (ite_self _).symm
  | some v =>
    have hsingle : get? (ofFields [(k, some v)]) key = if k = key then some v else none := by
      show get? [(Value.str k, v)] key = _
      simp only [get?_cons, Value.str.injEq, get?_nil]
    rw [hsingle]
    split <;> rfl

theorem exists_of_mem_ofFields {m : Value × Value} (h : m ∈ ofFields fields) :
    ∃ key, (key, some m.2) ∈ fields ∧ m.1 = .str key := by
  obtain ⟨⟨key, value⟩, hmem, hm⟩ := List.mem_filterMap.mp h
  obtain ⟨v, rfl, rfl⟩ := Option.map_eq_some_iff.mp hm
  exact ⟨key, hmem, rfl⟩

theorem ofFields_without (h : ∀ field ∈ fields, field.1 ∈ known) :
    (ofFields fields).without known = [] := by
  refine List.eq_nil_iff_forall_not_mem.mpr fun m hm => ?_
  obtain ⟨hmem, hother⟩ := mem_without.mp hm
  obtain ⟨key, hfield, heq⟩ := exists_of_mem_ofFields hmem
  exact hother key (h _ hfield) heq

/-- Setting a field that is new puts it to the end, if there is a value for it. -/
theorem putSome_eq_append (h : ∀ m ∈ ms, m.1 ≠ .str key) (value : Option Value) :
    ms.putSome key value = ms ++ ofFields [(key, value)] := by
  cases value with
  | none => exact (List.append_nil ms).symm
  | some v =>
    exact put_eq_append (fun m hm => Bool.eq_false_iff.mpr fun hsame =>
      h m hm ((Value.sameKey_str_iff m.1 key).mp hsame)) v

theorem distinct_ofFields (h : (fields.map Prod.fst).Nodup) : (ofFields fields).Distinct := by
  refine List.Pairwise.filterMap _ ?_ (List.pairwise_map.mp h)
  rintro ⟨k, value⟩ ⟨k', value'⟩ hne m hm m' hm'
  obtain ⟨v, rfl, rfl⟩ := Option.map_eq_some_iff.mp hm
  obtain ⟨v', rfl, rfl⟩ := Option.map_eq_some_iff.mp hm'
  exact Bool.eq_false_iff.mpr fun hsame =>
    hne (Value.str.inj ((Value.sameKey_str_iff _ k').mp hsame))

/-- The field of a name, and the members of other names. -/
theorem perm_field (h : ms.Distinct) (key : String) :
    ms.Perm (ofFields [(key, ms.get? key)] ++ ms.without [key]) := by
  induction ms with
  | nil => exact .nil
  | cons m rest ih =>
    obtain ⟨k, v⟩ := m
    obtain ⟨hfirst, hrest⟩ := List.pairwise_cons.mp h
    rw [get?_cons, without_cons]
    by_cases hk : k = .str key
    · rw [if_pos hk, if_pos (hk ▸ List.mem_cons_self)]
      have hother : without [key] rest = rest := by
        refine without_eq_self fun m hm other hmem => ?_
        obtain rfl := List.mem_singleton.mp hmem
        exact mt (Value.str_sameKey_iff m.1 other).mpr
          (Bool.eq_false_iff.mp (hk ▸ hfirst m hm))
      rw [hother, hk]
      exact .refl _
    · have hother : k ∉ [key].map Value.str := by simpa using hk
      rw [if_neg hk, if_neg hother]
      exact ((ih hrest).cons _).trans List.perm_middle.symm

/-- **An object is its fields of some names**, as far as they are there, and its members
of other names, up to the order. -/
theorem perm_fields (h : ms.Distinct) (hknown : known.Nodup) :
    ms.Perm (ofFields (known.map fun key => (key, ms.get? key)) ++ ms.without known) := by
  induction known with
  | nil =>
    have hall : ms.without [] = ms := List.filter_eq_self.mpr fun _ _ => rfl
    rw [hall]
    exact .refl _
  | cons key known ih =>
    obtain ⟨hkey, hknown⟩ := List.nodup_cons.mp hknown
    have hfield := perm_field (h.without known) key
    rw [get?_without_of_not_mem hkey, ← without_cons_eq] at hfield
    rw [List.map_cons, ofFields_cons, List.append_assoc]
    refine (ih hknown).trans ((hfield.append_left _).trans ?_)
    rw [← List.append_assoc, ← List.append_assoc]
    exact List.perm_append_comm.append_right _

end OfFields

end Members

namespace Value

/-! ## Documents with distinct keys -/

mutual

/-- **No object of a document has a key twice.** -/
def hasDistinctKeys : Value → Bool
  | .list _ items => haveDistinctKeys items
  | .pair a b => hasDistinctKeys a && hasDistinctKeys b
  | .set _ items => haveDistinctKeys items
  | .object _ members => decide (Members.Distinct members) && membersHaveDistinctKeys members
  | _ => true

/-- Whether no object in some values has a key twice. -/
def haveDistinctKeys : List Value → Bool
  | [] => true
  | v :: rest => hasDistinctKeys v && haveDistinctKeys rest

/-- Whether no object in some members has a key twice. -/
def membersHaveDistinctKeys : List (Value × Value) → Bool
  | [] => true
  | (k, v) :: rest => hasDistinctKeys k && hasDistinctKeys v && membersHaveDistinctKeys rest

end

theorem haveDistinctKeys_iff (vs : List Value) :
    haveDistinctKeys vs = true ↔ ∀ v ∈ vs, v.hasDistinctKeys = true := by
  induction vs with
  | nil => simp [haveDistinctKeys]
  | cons v rest ih => rw [haveDistinctKeys, Bool.and_eq_true, ih, List.forall_mem_cons]

theorem membersHaveDistinctKeys_iff (ms : Members) :
    membersHaveDistinctKeys ms = true
      ↔ ∀ m ∈ ms, m.1.hasDistinctKeys = true ∧ m.2.hasDistinctKeys = true := by
  induction ms with
  | nil => simp [membersHaveDistinctKeys]
  | cons m rest ih =>
    obtain ⟨k, v⟩ := m
    rw [membersHaveDistinctKeys, Bool.and_eq_true, Bool.and_eq_true, ih, List.forall_mem_cons]

theorem hasDistinctKeys_list (label : Option Label) (items : List Value) :
    (Value.list label items).hasDistinctKeys = true ↔ ∀ v ∈ items, v.hasDistinctKeys = true := by
  rw [hasDistinctKeys, haveDistinctKeys_iff]

theorem hasDistinctKeys_object (label : Option Label) (ms : Members) :
    (Value.object label ms).hasDistinctKeys = true
      ↔ ms.Distinct ∧ ∀ m ∈ ms, m.1.hasDistinctKeys = true ∧ m.2.hasDistinctKeys = true := by
  rw [hasDistinctKeys, Bool.and_eq_true, decide_eq_true_iff, membersHaveDistinctKeys_iff]

theorem distinct_of_object {label : Option Label} {ms : Members}
    (h : (Value.object label ms).hasDistinctKeys = true) : ms.Distinct :=
  ((hasDistinctKeys_object label ms).mp h).1

/-- A member of such a document is one, too. -/
theorem hasDistinctKeys_of_get? {label : Option Label} {ms : Members} {key : String} {v : Value}
    (h : (Value.object label ms).hasDistinctKeys = true) (hget : ms.get? key = some v) :
    v.hasDistinctKeys = true :=
  (((hasDistinctKeys_object label ms).mp h).2 _ (Members.mem_of_get? hget)).2

theorem hasDistinctKeys_field {label : Option Label} {ms : Members}
    (h : (Value.object label ms).hasDistinctKeys = true) (key : String) :
    (ms.field key).hasDistinctKeys = true := by
  unfold Members.field
  cases hget : ms.get? key with
  | none => rfl
  | some v => exact hasDistinctKeys_of_get? h hget

/-- The items of such a document are documents of this kind. -/
theorem hasDistinctKeys_of_mem_items {v : Value} {vs : List Value}
    (h : v.hasDistinctKeys = true) (hvs : v.items = .ok vs) :
    ∀ w ∈ vs, w.hasDistinctKeys = true := by
  cases v with
  | list label items =>
    obtain rfl := Except.ok.inj hvs
    exact (hasDistinctKeys_list label items).mp h
  | set label items =>
    obtain rfl := Except.ok.inj hvs
    rw [hasDistinctKeys] at h
    exact (haveDistinctKeys_iff items).mp h
  | pair a b =>
    obtain rfl := Except.ok.inj hvs
    rw [hasDistinctKeys, Bool.and_eq_true] at h
    exact List.forall_mem_cons.mpr ⟨h.1, List.forall_mem_singleton.mpr h.2⟩
  | object label ms =>
    obtain rfl := Except.ok.inj hvs
    intro k hk
    obtain ⟨m, hm, rfl⟩ := List.mem_map.mp hk
    exact (((hasDistinctKeys_object label ms).mp h).2 m hm).1
  | str s =>
    obtain rfl := Except.ok.inj hvs
    intro w hw
    obtain ⟨c, _, rfl⟩ := List.mem_map.mp hw
    rfl
  | bytes data =>
    obtain rfl := Except.ok.inj hvs
    intro w hw
    obtain ⟨b, _, rfl⟩ := List.mem_map.mp hw
    rfl
  | _ => cases hvs

/-! ## Documents up to the order of members -/

mutual

/-- **The same document up to order**: the members of objects may come in another order.
Labels do not count. -/
inductive Reordered : Value → Value → Prop
  | refl (v : Value) : Reordered v v
  | list {label label' : Option Label} {vs ws : List Value} (h : List.Forall₂ Reordered vs ws) :
    Reordered (.list label vs) (.list label' ws)
  | object {label label' : Option Label} {ms ms' ns : Members} (hperm : ms.Perm ms')
    (h : List.Forall₂ MemberReordered ms' ns) : Reordered (.object label ms) (.object label' ns)

/-- The same key with the same value up to order. -/
inductive MemberReordered : Value × Value → Value × Value → Prop
  | value {k v w : Value} (h : Reordered v w) : MemberReordered (k, v) (k, w)

end

theorem MemberReordered.refl (m : Value × Value) : MemberReordered m m := .value (.refl m.2)

open Members in
theorem forall₂_ofFields {ms : Members} {fields : List (String × Option Value)}
    (h : ∀ f ∈ fields, Option.Rel Reordered (ms.get? f.1) f.2) :
    List.Forall₂ MemberReordered (ofFields (fields.map fun f => (f.1, ms.get? f.1)))
      (ofFields fields) := by
  induction fields with
  | nil => exact .nil
  | cons f rest ih =>
    obtain ⟨key, value⟩ := f
    obtain ⟨hfirst, hrest⟩ := List.forall_mem_cons.mp h
    rw [List.map_cons, ofFields_cons, ofFields_cons key value]
    refine List.rel_append ?_ (ih hrest)
    generalize ms.get? key = found at hfirst
    cases hfirst with
    | none => exact .nil
    | some hvalue => exact .cons (.value hvalue) .nil

open Members in
/-- **An object whose fields of some names are written anew**, in another order and with
the same values up to order, around its other members. -/
theorem reordered_of_fields {label label' : Option Label} {ms : Members} {known : List String}
    {front back : List (String × Option Value)} (h : ms.Distinct) (hnodup : known.Nodup)
    (hknown : known.Perm ((front ++ back).map Prod.fst))
    (hvalues : ∀ f ∈ front ++ back, Option.Rel Reordered (ms.get? f.1) f.2) :
    Reordered (.object label ms) (.object label' (around front (ms.without known) back)) := by
  have hwithout : ms.without ((front ++ back).map Prod.fst) = ms.without known :=
    without_congr fun key => hknown.mem_iff.symm
  have hperm := perm_fields h (hknown.nodup_iff.mp hnodup)
  have hvalues' := List.forall_mem_append.mp hvalues
  rw [hwithout, List.map_map, List.map_append, ofFields_append, List.append_assoc] at hperm
  refine .object (hperm.trans (List.perm_append_comm.append_left _)) ?_
  rw [around, ← List.append_assoc]
  exact List.rel_append (List.rel_append (forall₂_ofFields hvalues'.1)
    (List.forall₂_same.mpr fun m _ => .refl m)) (forall₂_ofFields hvalues'.2)

end Value

end DecoratorSets
