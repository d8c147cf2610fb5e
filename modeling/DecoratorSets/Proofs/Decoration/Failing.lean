import DecoratorSets.Proofs.Command.Targets

/-!
# Commands that fail

A command decorates the properties of a declaration one after the other, in place, and stops
where it fails. Nothing is undone, so it could leave behind a declaration that is decorated in
part. It does not: where it fails, the declaration and its properties are as they were before
(`Declaration.eq_of_execute_eq_failure`).

The reason is that the properties have no say in the failure. A selector can be tested against
every name that can be looked for, or against none, since what can go wrong is an item of the
selector (`exists_selects_of_selects`); and whether a decorator can be merged depends on the
type of the command alone. The test of the kind is reached only by properties whose names are
selected, but a property that is decorated has passed both tests and the merging. So after it
the command succeeds everywhere (`Property.exists_execute_of_changed`), and a failure finds
only properties before it that were left alone.

Names that are lists, sets or objects are another matter. They cannot be looked for, so that a
list of names can be tested against one property and not against the next.
-/

namespace DecoratorSets

/-! ## What decides over a failure -/

/-- **A selector that can be tested once can be tested again**, against all names that can be
looked for. -/
theorem exists_selects_of_selects {selector : Value} {names names' : List Value} {b : Bool}
    (h : selects selector names = .ok b) (hnames : ∀ name ∈ names', name.canName = true) :
    ∃ b', selects selector names' = .ok b' := by
  by_cases hblank : selector.isBlank = true
  · exact ⟨true, selects_of_isBlank hblank names'⟩
  · unfold selects at h ⊢
    rw [if_neg hblank] at h ⊢
    cases selector with
    | str s => exact ⟨_, rfl⟩
    | _ =>
      -- the items are looked at before any name is
      obtain ⟨items, hitems, h⟩ := Checked.bind_eq_ok.mp h
      obtain ⟨keys, hkeys, -⟩ := Checked.bind_eq_ok.mp h
      obtain ⟨b', hshared⟩ : ∃ b', anyShared keys names' = .ok b' := exists_anyShared hnames
      refine ⟨b', Checked.bind_eq_ok.mpr ⟨items, hitems, ?_⟩⟩
      exact Checked.bind_eq_ok.mpr ⟨keys, hkeys, hshared⟩

/-- A target that selects one property can be tested against every other. -/
theorem CommandTarget.exists_selectsProperty_of_selected {t : CommandTarget} {p q : Property}
    (hp : t.selectsProperty p = .ok true) (hq : q.name.canName = true) :
    ∃ b, t.selectsProperty q = .ok b := by
  obtain ⟨hname, hkind⟩ := selectsProperty_eq_true.mp hp
  obtain ⟨named, hnamed⟩ : ∃ b, selects t.propertySelector [q.name] = .ok b :=
    exists_selects_of_selects hname (List.forall_mem_singleton.mpr hq)
  obtain ⟨typed, htyped⟩ : ∃ b, selects t.type [.str q.kind.className] = .ok b :=
    exists_selects_of_selects hkind (List.forall_mem_singleton.mpr rfl)
  refine ⟨if named then typed else false, Checked.bind_eq_ok.mpr ⟨named, hnamed, ?_⟩⟩
  cases named with
  | false => rfl
  | true => exact htyped

/-- A decorator that is merged into one list is merged into every other. -/
theorem Decorator.exists_mergeInto_of_mergeInto {d : Decorator} {type : CommandType}
    {ds ds' out : Option (List Decorator)} (h : d.mergeInto type ds = .ok out) :
    ∃ out', d.mergeInto type ds' = .ok out' := by
  cases type with
  | upsert => exact ⟨_, rfl⟩
  | append => exact ⟨_, rfl⟩
  | other v => cases h

section OneCommand

variable {c : Command} {e : Failure}

/-- **A command that has changed one property succeeds on every other.** -/
theorem Property.exists_execute_of_changed {p p' q : Property} (hp : p.execute c = .ok p')
    (hchanged : p' ≠ p) (hq : q.name.canName = true) : ∃ q', q.execute c = .ok q' := by
  obtain ⟨selected, hselected, hp⟩ := Checked.bind_eq_ok.mp hp
  cases selected with
  | false => exact absurd (Checked.pure_eq_ok.mp hp).symm hchanged
  | true =>
    obtain ⟨ds, hmerged, -⟩ := Checked.bind_eq_ok.mp hp
    obtain ⟨b, htested⟩ := CommandTarget.exists_selectsProperty_of_selected hselected hq
    obtain ⟨ds', hmerged'⟩ : ∃ out, c.decorator.mergeInto c.type q.decorators = .ok out :=
      Decorator.exists_mergeInto_of_mergeInto hmerged
    cases b with
    | false => exact ⟨q, Checked.bind_eq_ok.mpr ⟨false, htested, rfl⟩⟩
    | true =>
      refine ⟨{ q with decorators := ds' }, Checked.bind_eq_ok.mpr ⟨true, htested, ?_⟩⟩
      exact Checked.bind_eq_ok.mpr ⟨ds', hmerged', rfl⟩

/-! ## Properties and declarations -/

/-- **Properties on which a command fails are as before**, those that it passed included. -/
theorem eq_of_executeOnProperties_eq_failure {ps ps' : List Property}
    (hps : ∀ p ∈ ps, p.name.canName = true)
    (h : executeOnProperties c ps = (ps', some e)) : ps' = ps := by
  induction ps generalizing ps' with
  | nil => cases h
  | cons p rest ih =>
    obtain ⟨-, hrest⟩ := List.forall_mem_cons.mp hps
    unfold executeOnProperties at h
    cases hp : p.execute c with
    | error cause =>
      rw [hp] at h
      exact (congrArg Prod.fst h).symm
    | ok p' =>
      rw [hp] at h
      obtain ⟨rfl, hfailure⟩ := Prod.mk.inj h
      have hunchanged : p' = p := by
        by_contra hchanged
        obtain ⟨out, hout⟩ := Checked.exists_mapM fun q hq =>
          Property.exists_execute_of_changed hp hchanged (hrest q hq)
        rw [executeOnProperties_eq.mpr hout] at hfailure
        cases hfailure
      have hbehind : (executeOnProperties c rest).1 = rest := ih hrest (Prod.ext rfl hfailure)
      rw [hunchanged]
      exact congrArg (p :: ·) hbehind

end OneCommand

/-- **A command that fails changes nothing.** Let the names of the properties be such that can
be looked for, as texts are. If a command fails on a declaration, whatever its target and its
type are, the declaration and all its properties are as they were. -/
theorem Declaration.eq_of_execute_eq_failure (ns : Value) (d : Declaration) (c : Command)
    (hnames : ∀ p ∈ d.ownProperties, p.name.canName = true) (d' : Declaration) (e : Failure)
    (h : d.execute ns c = (d', some e)) : d' = d := by
  unfold execute at h
  split at h
  · exact (congrArg Prod.fst h).symm
  · cases h
  · split at h
    · exact eq_of_attempt h
    · unfold executeBelow at h
      cases hps : d.properties with
      | none =>
        rw [hps] at h
        cases h
      | some ps =>
        rw [hps] at h
        obtain ⟨rfl, hfailure⟩ := Prod.mk.inj h
        have hown : ∀ p ∈ ps, p.name.canName = true := by
          unfold ownProperties at hnames
          rwa [hps] at hnames
        have hsame : (executeOnProperties c ps).1 = ps :=
          eq_of_executeOnProperties_eq_failure hown (Prod.ext rfl hfailure)
        show { d with properties := some (executeOnProperties c ps).1 } = d
        rw [hsame, ← hps]

/-! ## Failing in the middle -/

namespace Mailing

/-- A property that holds a text. -/
def textField (name : Value) : Property := ⟨name, .string, false, false, none, none, []⟩

/-- A concept with some properties. -/
def letter (properties : List Property) : Declaration :=
  ⟨"Letter", .concept, some properties, false, none, none, []⟩

/-- A command for two properties, whose kind is one of two that cannot be looked for. -/
def audit : Command where
  target := ⟨.null, .null, .null, some ["sender", "receiver"],
    .list none [.list none [], .object none []]⟩
  decorator := ⟨"Audit", none, []⟩
  type := .upsert

/-- The document of the command. -/
def auditDocument : Value :=
  .object none [("type", "UPSERT"),
    ("target", .object none [("properties", .list none ["sender", "receiver"]),
      ("type", .list none [.list none [], .object none []])]),
    ("decorator", .object none [("name", "Audit")])]

/-- The command passes over the first property and fails at the second. -/
theorem eq_of_execute_eq_failure_letter :
    Command.ofDocument auditDocument = .ok audit
      ∧ (textField "weight").execute audit = .ok (textField "weight")
      ∧ (∀ p ∈ (letter [textField "weight", textField "sender"]).ownProperties,
        p.name.canName = true)
      ∧ ∃ d', (letter [textField "weight", textField "sender"]).execute "org.post@1.0.0" audit
          = (d', some (.misuse .compositeKey))
        ∧ d' = letter [textField "weight", textField "sender"] := by
  have hnames : ∀ p ∈ (letter [textField "weight", textField "sender"]).ownProperties,
      p.name.canName = true := by
    decide +kernel
  have hfails : ((letter [textField "weight", textField "sender"]).execute
      "org.post@1.0.0" audit).2 = some (.misuse .compositeKey) := by
    decide +kernel
  exact ⟨by decide +kernel, by decide +kernel, hnames, _, Prod.ext rfl hfails,
    Declaration.eq_of_execute_eq_failure _ _ _ hnames _ _ (Prod.ext rfl hfails)⟩

/-- A name that is a list is met too late: the property in front of it stays decorated. -/
example : (letter [textField "sender", textField (.list none ["sender"])]).execute
      "org.post@1.0.0" { audit with
        target := ⟨.null, .null, .null, some ["sender"], metamodelClass "StringProperty"⟩ }
    = (letter [{ textField "sender" with decorators := some [audit.decorator] },
        textField (.list none ["sender"])], some (.misuse .compositeKey)) := by
  decide +kernel

end Mailing

end DecoratorSets
