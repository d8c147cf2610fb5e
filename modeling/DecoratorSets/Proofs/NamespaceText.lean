import DecoratorSets.Proofs.Names

/-!
# Namespaces as text

A namespace is read from a text and can be rendered as one. Reading loses nothing: the text is
the name and what stands behind it (`Namespace.parse_eq_ok`), and an empty version is told apart
from one that is missing. Rendering does not tell them apart, as it leaves an empty version out
together with its `@`. The gist is therefore a comparison of two versions, the one that was read
and the one that is shown: a text comes back exactly if they are the same
(`Namespace.ReadFrom.render_eq_iff`). From the text alone this can be seen at its end, since a
version has no `@` of its own: the texts that come back are those that do not end in `@`
(`Namespace.render_eq_iff_of_parse`), and of the others the last `@` is all that is lost.

The name comes back in any case, and so does a version that is not empty: what is rendered can
be read, as the same namespace without the empty version (`Namespace.parse_render`). Taking the
version off can be repeated for the same reason (`unversioned_unversioned`): a name has no `@`,
so it is read as a namespace without a version, of that name.
-/

namespace DecoratorSets

/-- What is left of a namespace without its version is left as it is the second time. Where
there is no namespace to be read, both attempts fail alike. -/
theorem unversioned_unversioned (s : String) :
    (unversioned s >>= unversioned) = unversioned s := by
  cases hparse : Namespace.parse s with
  | error cause =>
    rw [unversioned, hparse]
    rfl
  | ok ns =>
    rw [unversioned_of_parse hparse, Checked.ok_bind,
      unversioned_of_parse (Namespace.parse_name hparse)]

namespace Namespace

variable {s : String} {ns : Namespace}

/-! ## The version that is shown -/

/-- What stands behind a name tells the version. -/
theorem suffix_inj {version version' : Option String} :
    suffix version = suffix version' ↔ version = version' := by
  rw [← String.toList_inj]
  cases version with
  | none => cases version' <;> simp
  | some text => cases version' <;> simp [String.toList_inj]

/-- The version that is shown is the one that there is, unless that is empty. -/
theorem properVersion_eq_version_iff : ns.properVersion = ns.version ↔ ns.version ≠ some "" := by
  unfold properVersion
  cases ns.version with
  | none => simp
  | some text =>
    by_cases hempty : text = ""
    · simp [hempty]
    · simp [hempty]

/-- **The rendered namespace in closed form**: its name and what stands behind it, for the
version that is shown. -/
theorem render_eq (ns : Namespace) : ns.render = ns.name ++ suffix ns.properVersion := by
  unfold render
  cases ns.properVersion with
  | none => exact String.append_empty.symm
  | some version => exact String.append_assoc

/-! ## Reading what is rendered, rendering what is read -/

/-- **A text comes back** exactly if the version that was read from it is shown. -/
theorem ReadFrom.render_eq_iff (h : ns.ReadFrom s) : ns.render = s ↔ ns.version ≠ some "" := by
  rw [render_eq, h.text, String.append_right_inj, suffix_inj, properVersion_eq_version_iff]

/-- An empty version is read from a text that ends in `@`, and from no other. -/
theorem ReadFrom.version_eq_empty_iff (h : ns.ReadFrom s) :
    ns.version = some "" ↔ s.toList.getLast? = some '@' := by
  rw [h.toList]
  cases hversion : ns.version with
  | none =>
    rw [toList_suffix_none, List.append_nil]
    exact iff_of_false (Option.some_ne_none "").symm fun hlast =>
      h.name (List.mem_of_getLast? hlast)
  | some version =>
    rw [toList_suffix_some, List.getLast?_append_cons, List.getLast?_cons, Option.some.injEq,
      Option.some.injEq]
    constructor
    · rintro rfl
      rfl
    · intro hlast
      cases hend : version.toList.getLast? with
      | none => exact String.toList_eq_nil_iff.mp (List.getLast?_eq_none_iff.mp hend)
      | some c =>
        -- the last character would be an `@` of the version's own
        rw [hend, Option.getD_some] at hlast
        exact absurd (List.mem_of_getLast? (hlast ▸ hend)) (h.version version hversion)

/-- Where the text ends in `@`, this is what rendering leaves out. -/
theorem ReadFrom.render_append (h : ns.ReadFrom s) (hversion : ns.version = some "") :
    ns.render ++ "@" = s := by
  have hproper : ns.properVersion = none := by
    unfold properVersion
    rw [hversion]
    rfl
  rw [render_eq, hproper, h.text, hversion, String.append_assoc]
  rfl

/-- **What is rendered can be read**: it is the namespace without an empty version. -/
theorem parse_render (h : parse s = .ok ns) :
    parse ns.render = .ok ⟨ns.name, ns.properVersion⟩ := by
  have hread := parse_eq_ok.mp h
  refine parse_eq_ok.mpr ⟨render_eq ns, hread.name, fun version hversion => ?_⟩
  exact hread.version version (Option.filter_eq_some_iff.mp hversion).1

/-- **A text survives being read.** It can be read exactly if it has at most one `@`, and is
refused as a malformed namespace otherwise. The name that is read has no `@`, taking the version
off twice takes it off once, and rendering gives the text back exactly if the text does not end
in `@`; if it does, this `@` is missing. -/
theorem render_eq_iff_of_parse (s : String) :
    ((∃ ns, parse s = .ok ns) ↔ s.toList.count '@' ≤ 1)
      ∧ (1 < s.toList.count '@' → parse s = .error (.malformedNamespace s))
      ∧ ∀ ns, parse s = .ok ns →
        '@' ∉ ns.name.toList
          ∧ unversioned s = .ok ns.name ∧ (unversioned s >>= unversioned) = unversioned s
          ∧ (ns.render = s ↔ s.toList.getLast? ≠ some '@')
          ∧ (s.toList.getLast? = some '@' → ns.render ++ "@" = s) := by
  refine ⟨⟨?_, ?_⟩, fun hmany => ?_, fun ns hparse => ?_⟩
  · rintro ⟨ns, hparse⟩
    exact isWellFormed_of_parse hparse
  · intro hwell
    obtain ⟨version, hparse⟩ := parse_of_isWellFormed hwell
    exact ⟨_, hparse⟩
  · cases hparse : parse s with
    | error cause => rw [eq_malformed_of_parse hparse]
    | ok ns => exact absurd (isWellFormed_of_parse hparse) (Nat.not_le.mpr hmany)
  · have hread := parse_eq_ok.mp hparse
    have hend := hread.version_eq_empty_iff
    refine ⟨hread.name, unversioned_of_parse hparse, unversioned_unversioned s, ?_, ?_⟩
    · rw [hread.render_eq_iff, ne_eq, hend]
    · exact fun hlast => hread.render_append (hend.mpr hlast)

/-- A version without a name comes back, a name with an empty version lacks its `@`, and a
second `@` is refused. -/
theorem render_eq_iff_of_parse_nameless :
    parse "@1.0.0" = .ok ⟨"", some "1.0.0"⟩ ∧ '@' ∉ "".toList
      ∧ unversioned "@1.0.0" = .ok ""
      ∧ (⟨"", some "1.0.0"⟩ : Namespace).render = "@1.0.0"
      ∧ parse "org.acme@" = .ok ⟨"org.acme", some ""⟩
      ∧ (⟨"org.acme", some ""⟩ : Namespace).render ++ "@" = "org.acme@"
      ∧ parse "org@1@2" = .error (.malformedNamespace "org@1@2") := by
  have hnameless : parse "@1.0.0" = .ok ⟨"", some "1.0.0"⟩ := by decide +kernel
  have hempty : parse "org.acme@" = .ok ⟨"org.acme", some ""⟩ := by decide +kernel
  obtain ⟨-, -, hread⟩ := render_eq_iff_of_parse "@1.0.0"
  obtain ⟨hname, hbare, -, hrender, -⟩ := hread _ hnameless
  obtain ⟨-, -, hread⟩ := render_eq_iff_of_parse "org.acme@"
  obtain ⟨-, -, -, -, hlost⟩ := hread _ hempty
  obtain ⟨-, hmany, -⟩ := render_eq_iff_of_parse "org@1@2"
  exact ⟨hnameless, hname, hbare, hrender.mpr (by decide), hempty, hlost (by decide),
    hmany (by decide)⟩

/-- **An empty version is left out**: the text has one `@` and can be read, but what is rendered
is another text. -/
theorem empty_version_left_out :
    "org.acme@".toList.count '@' ≤ 1
      ∧ ∃ ns, parse "org.acme@" = .ok ns ∧ ns.render = "org.acme" ∧ ns.render ≠ "org.acme@" := by
  refine ⟨by decide, ⟨"org.acme", some ""⟩, by decide +kernel, by decide +kernel, ?_⟩
  decide +kernel

end Namespace

end DecoratorSets
