import DecoratorSets.Proofs.Registry.Inheritance

/-!
# Registries that grow

Names are looked up in all files of a registry at once, so loading one more file may
change what a name stands for: a namespace without a version names the first file that
has it with one. This module says what does not change as long as the names that matter
keep their meaning.

One registry grows into another, as far as some class names go, if the references that
its declarations make and those class names stand for the same declarations in the other
(`Registry.GrowsInto`). Its declarations then have the same ancestors and the same
properties there (`Registry.GrowsInto.lineage`, `Registry.GrowsInto.propertyTable`), and
a payload that names no other classes conforms there to everything it conforms to
(`Registry.GrowsInto.objectConforms`, `Registry.GrowsInto.checkInstance`). A check that
fails may well succeed in the other registry, where more can be found.
-/

namespace DecoratorSets

/-! ## The names that matter -/

/-- **A payload names a class** if that is the class name of an object in it. -/
inductive Value.NamesClass (className : String) : Value → Prop where
  | object {label : Option Label} {ms : Members}
    (hclass : ms.get? classKey = some (.str className)) : NamesClass className (.object label ms)
  | member {label : Option Label} {ms : Members} {m : Value × Value} (hm : m ∈ ms)
    (hv : NamesClass className m.2) : NamesClass className (.object label ms)
  | item {label : Option Label} {items : List Value} {v : Value} (hmem : v ∈ items)
    (hv : NamesClass className v) : NamesClass className (.list label items)

/-- The label of an object does not matter to the classes that it names. -/
theorem Value.NamesClass.relabel {className : String} {label : Option Label} {ms : Members}
    (h : Value.NamesClass className (.object label ms)) (label' : Option Label) :
    Value.NamesClass className (.object label' ms) := by
  cases h with
  | object hclass => exact .object hclass
  | member hm hv => exact .member hm hv

namespace Registry

/-- **The declarations of a registry make a reference**: it is the super type of one of
them or the type of a property of one. -/
def Refers (r : Registry) (ident : TypeIdentifier) : Prop :=
  ∃ f ∈ r.files, ∃ d ∈ f.declarations,
    d.superType = some ident ∨ ∃ p ∈ d.ownProperties, p.type = some ident

/-- **A registry grows into another**, as far as some class names go: its references and
these names stand for the same declarations there. -/
structure GrowsInto (r r' : Registry) (named : String → Prop) : Prop where
  references : ∀ f ∈ r.files, ∀ ident, r.Refers ident → ∀ h,
    r.resolve f ident = .ok h → r'.resolve f ident = .ok h
  names : ∀ className, named className → ∀ h,
    r.lookup? className = some h → r'.lookup? className = some h

variable {r r' : Registry} {named : String → Prop}

/-! ## Lineages -/

/-- What a declaration extends is the same in the other registry. -/
theorem GrowsInto.superType (hgrow : r.GrowsInto r' named) {h : Handle} (hh : r.Lists h)
    {up : Option Handle} (hup : r.superType h = .ok up) : r'.superType h = .ok up := by
  unfold Registry.superType at hup ⊢
  cases hident : h.declaration.superType with
  | none =>
    rw [hident] at hup
    exact hup
  | some ident =>
    rw [hident] at hup
    obtain ⟨target, htarget, rfl⟩ := Checked.map_eq_ok.mp hup
    have hrefers : r.Refers ident := ⟨h.file, hh.file, _, hh.mem_declarations, Or.inl hident⟩
    exact Checked.map_eq_ok.mpr
      ⟨target, hgrow.references h.file hh.file ident hrefers target htarget, rfl⟩

end Registry

/-- **A lineage goes on in another**, which starts with its declarations. Unless it ends
in a failure it is all of the other. -/
structure Lineage.GoesOn (l l' : Lineage) : Prop where
  handles : l.handles <+: l'.handles
  complete : (∀ cause, l.ending ≠ .failed cause) → l' = l

/-- What goes on above a declaration goes on below it. -/
theorem Lineage.GoesOn.below {l l' : Lineage} (h : l.GoesOn l') (a : Handle) :
    (l.below a).GoesOn (l'.below a) :=
  ⟨List.cons_prefix_cons.mpr ⟨rfl, h.handles⟩,
    fun hending => congrArg (Lineage.below a) (h.complete hending)⟩

namespace Registry

variable {r r' : Registry} {named : String → Prop}

/-- The names that are left agree on all super types after one of them was passed. -/
theorem mem_passing_congr {unseen unseen' : List String} {name : String} (passed : String)
    (h : name ∈ unseen ↔ name ∈ unseen') :
    name ∈ passing passed unseen ↔ name ∈ passing passed unseen' := by
  unfold passing
  rw [List.mem_filter, List.mem_filter, h]

/-- **A climb goes on in another registry** where the declarations on the way extend the same
ones, if the names that are left agree on what it may come to. -/
theorem goesOn_climb {unseen unseen' : List String} {h : Handle}
    (hsuper : ∀ a up, r.Extends h a → r.superType a = .ok up → r'.superType a = .ok up)
    (hnames : ∀ a up, r.Extends h a → r.superType a = .ok (some up) →
      (up.fullName ∈ unseen ↔ up.fullName ∈ unseen')) :
    (r.climb unseen h).GoesOn (r'.climb unseen' h) := by
  induction unseen, h using climb.induct (r := r) generalizing unseen' with
  | case1 unseen h cause hfail =>
    -- the other registry may find what is missing here, and climb on from it
    obtain ⟨rest, hrest⟩ := r'.handles_climb unseen' h
    rw [climb, hfail]
    refine ⟨?_, fun hending => absurd rfl (hending cause)⟩
    rw [hrest]
    exact List.prefix_append [h] rest
  | case2 unseen h htop =>
    rw [climb, htop, climb, hsuper h none (.refl h) htop]
    exact ⟨List.prefix_rfl, fun _ => rfl⟩
  | case3 unseen h up hnext hunseen ih =>
    rw [climb_of_superType hnext, if_pos hunseen,
      climb_of_superType (hsuper h _ (.refl h) hnext),
      if_pos ((hnames h up (.refl h) hnext).mp hunseen)]
    exact (ih (fun a up' hext => hsuper a up' (.step hnext hext)) fun a up' hext hup' =>
      mem_passing_congr _ (hnames a up' (.step hnext hext) hup')).below h
  | case4 unseen h up hnext hseen =>
    rw [climb_of_superType hnext, if_neg hseen, climb_of_superType (hsuper h _ (.refl h) hnext),
      if_neg (mt (hnames h up (.refl h) hnext).mpr hseen)]
    exact ⟨List.prefix_rfl, fun _ => rfl⟩

/-- **The lineage of a declaration goes on in another registry** where the declarations that it
extends extend the same ones. -/
theorem goesOn_lineage {h : Handle}
    (hsuper : ∀ a up, r.Extends h a → r.superType a = .ok up → r'.superType a = .ok up) :
    (r.lineage h).GoesOn (r'.lineage h) := by
  -- a super type is a declaration of both registries, and so has its name in both
  refine goesOn_climb hsuper fun a up hext hup => mem_passing_congr _ (iff_of_true ?_ ?_)
  · exact (lists_of_superType hup).mem_typeNames
  · exact (lists_of_superType (hsuper a _ hext hup)).mem_typeNames

/-- The lineage of a listed declaration goes on in a registry that the first grows into. -/
theorem GrowsInto.goesOn_lineage (hgrow : r.GrowsInto r' named) {h : Handle} (hh : r.Lists h) :
    (r.lineage h).GoesOn (r'.lineage h) :=
  Registry.goesOn_lineage fun _ _ hext hup => hgrow.superType (hext.lists hh) hup

/-- A type that fits another fits it in the other registry. -/
theorem GrowsInto.isAssignable (hgrow : r.GrowsInto r' named) {h e : Handle} (hh : r.Lists h)
    (hfits : r.isAssignable h e = .ok true) : r'.isAssignable h e = .ok true := by
  obtain ⟨a, ha⟩ := isAssignable_eq_true.mp hfits
  obtain ⟨rest, hrest⟩ := (hgrow.goesOn_lineage hh).handles
  refine isAssignable_eq_true.mpr ⟨a, ?_⟩
  rw [← hrest, List.find?_append, ha, Option.some_or]

/-- A declaration that has properties has the same ones in the other registry. -/
theorem GrowsInto.properties (hgrow : r.GrowsInto r' named) {h : Handle} (hh : r.Lists h)
    {ps : List Property} (hps : r.properties h = .ok ps) : r'.properties h = .ok ps := by
  have hcomplete : ∀ cause, (r.lineage h).ending ≠ .failed cause := by
    intro cause hfail
    unfold Registry.properties Lineage.all at hps
    rw [hfail] at hps
    cases hps
  unfold Registry.properties at hps ⊢
  rw [(hgrow.goesOn_lineage hh).complete hcomplete]
  exact hps

/-- The table of the properties is the same as well. -/
theorem GrowsInto.propertyTable (hgrow : r.GrowsInto r' named) {h : Handle} (hh : r.Lists h)
    {table : Table Property} (htable : r.propertyTable h = .ok table) :
    r'.propertyTable h = .ok table := by
  obtain ⟨ps, hps, htable⟩ := Checked.bind_eq_ok.mp htable
  exact Checked.bind_eq_ok.mpr ⟨ps, hgrow.properties hh hps, htable⟩

/-- The properties in the table of a declaration are those of a listed one. -/
theorem Lists.refers_of_mem_table {h : Handle} (hh : r.Lists h) {table : Table Property}
    (htable : r.propertyTable h = .ok table) {entry : Value × Property} (hentry : entry ∈ table)
    {ident : TypeIdentifier} (hident : entry.2.type = some ident) : r.Refers ident := by
  obtain ⟨ps, hps, htable⟩ := Checked.bind_eq_ok.mp htable
  have hmem : entry.2 ∈ ps := (mem_byName htable entry hentry).2
  obtain ⟨handles, hall, hps⟩ := Checked.bind_eq_ok.mp hps
  obtain rfl := Checked.pure_eq_ok.mp hps
  obtain ⟨a, ha, hown⟩ := List.mem_flatMap.mp hmem
  have hhandles : handles = (r.lineage h).handles := by
    unfold Lineage.all at hall
    split at hall
    · cases hall
    · exact (Except.ok.inj hall).symm
  rw [List.mem_reverse, hhandles] at ha
  have hlists : r.Lists a := (extends_of_mem_climb _ h a ha).lists hh
  exact ⟨a.file, hlists.file, a.declaration, hlists.mem_declarations, Or.inr ⟨_, hown, hident⟩⟩

/-! ## Payloads -/

/-- The type of an object is the same in the other registry. -/
theorem GrowsInto.hasType (hgrow : r.GrowsInto r' named) {ms : Members} {label : Option Label}
    (hnamed : ∀ s, Value.NamesClass s (.object label ms) → named s) {expected : Option Handle}
    {h : Handle} (htype : r.HasType ms expected h) : r'.HasType ms expected h := by
  cases htype with
  | expected hclass => exact .expected hclass
  | own hclass hfound hfits =>
    refine .own hclass (hgrow.names _ (hnamed _ (.object hclass)) _ hfound) fun e he => ?_
    exact hgrow.isAssignable (lists_of_lookup? hfound) (hfits e he)

/-- What a property refers to is the same in the other registry. -/
theorem GrowsInto.propertyType (hgrow : r.GrowsInto r' named) {owner : Handle}
    (howner : r.Lists owner) {p : Property} (hp : ∀ ident ∈ p.type, r.Refers ident)
    {target : Handle} (htarget : r.propertyType owner p = .ok target) :
    r'.propertyType owner p = .ok target := by
  unfold Registry.propertyType at htarget ⊢
  cases hident : p.type with
  | none =>
    rw [hident] at htarget
    cases htarget
  | some ident =>
    rw [hident] at htarget
    exact hgrow.references owner.file howner.file ident (hp ident hident) target htarget

mutual

/-- **An object that conforms** conforms in the other registry. -/
theorem GrowsInto.objectConforms (hgrow : r.GrowsInto r' named) {expected : Option Handle}
    {ms : Members} : r.ObjectConforms expected ms → (∀ e ∈ expected, r.Lists e) →
      (∀ s, Value.NamesClass s (.object none ms) → named s) → r'.ObjectConforms expected ms
  | .intro htype hinstance htable hknown hthere hfields, hexpected, hnamed =>
    have howner := htype.lists hexpected
    .intro (hgrow.hasType hnamed htype) hinstance (hgrow.propertyTable howner htable) hknown hthere
      fun entry hentry v hv hne =>
        have hrefers := fun _ hident => howner.refers_of_mem_table htable hentry hident
        have hmember := (mem_of_memberNamed hv).choose_spec
        hgrow.fieldConforms (hfields entry hentry v hv hne) howner hrefers
          fun s hs => hnamed s (.member hmember hs)

/-- A value that conforms to a property conforms to it in the other registry. -/
theorem GrowsInto.fieldConforms (hgrow : r.GrowsInto r' named) {owner : Handle} {p : Property}
    {v : Value} : r.FieldConforms owner p v → r.Lists owner →
      (∀ ident ∈ p.type, r.Refers ident) → (∀ s, Value.NamesClass s v → named s) →
      r'.FieldConforms owner p v
  | .single hp hv, howner, hrefers, hnamed =>
    .single hp (hgrow.singleConforms hv howner hrefers hnamed)
  | .array hp hitems, howner, hrefers, hnamed =>
    .array hp fun v hv => hgrow.singleConforms (hitems v hv) howner hrefers
      fun s hs => hnamed s (.item hv hs)

/-- A single value that conforms to a property conforms to it in the other registry. -/
theorem GrowsInto.singleConforms (hgrow : r.GrowsInto r' named) {owner : Handle} {p : Property}
    {v : Value} : r.SingleConforms owner p v → r.Lists owner →
      (∀ ident ∈ p.type, r.Refers ident) → (∀ s, Value.NamesClass s v → named s) →
      r'.SingleConforms owner p v
  | .primitive hp hv, _, _, _ => .primitive hp hv
  | .relationship hp, _, _, _ => .relationship hp
  | .enum hp hrel htarget hkind hv, howner, hrefers, _ =>
    .enum hp hrel (hgrow.propertyType howner hrefers htarget) hkind hv
  | .scalar hp hrel htarget hkind hv, howner, hrefers, _ =>
    .scalar hp hrel (hgrow.propertyType howner hrefers htarget) hkind hv
  | .object hp hrel htarget henum hkind hms, howner, hrefers, hnamed =>
    have hexpected := (lists_of_propertyType htarget).of_mem_some
    .object hp hrel (hgrow.propertyType howner hrefers htarget) henum hkind
      (hgrow.objectConforms hms hexpected fun s hs => hnamed s (hs.relabel _))

end

/-- **A payload that is accepted** is accepted in the other registry, if the class names
that matter are among those that keep their meaning. -/
theorem GrowsInto.checkInstance (hgrow : r.GrowsInto r' named) {payload : Value}
    {defaultClass : Option String} (hdefault : ∀ className ∈ defaultClass, named className)
    (hnamed : ∀ className, payload.NamesClass className → named className)
    (h : r.checkInstance payload defaultClass = .ok ()) :
    r'.checkInstance payload defaultClass = .ok () := by
  cases defaultClass with
  | none =>
    cases payload with
    | object label ms =>
      rw [checkInstance_none_eq_ok] at h ⊢
      exact hgrow.objectConforms h lists_of_mem_none fun s hs => hnamed s (hs.relabel label)
    | _ => exact absurd h (reject_ne_ok _ _ _)
  | some className =>
    rw [checkInstance_eq_ok] at h ⊢
    obtain ⟨target, label, ms, hfound, rfl, hconforms⟩ := h
    have hlists := (lists_of_lookup? hfound).of_mem_some
    exact ⟨target, label, ms, hgrow.names className (hdefault className rfl) target hfound, rfl,
      hgrow.objectConforms hconforms hlists fun s hs => hnamed s (hs.relabel label)⟩

end Registry

end DecoratorSets
