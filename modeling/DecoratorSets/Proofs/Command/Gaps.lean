import DecoratorSets.Proofs.Command.Decision

/-!
# Where the check of a command fails by itself

A command is refused with a cause of its own, and all the lookups of the check that fail
are turned into such refusals – all but one. The search for a listed property climbs from
the declaration to its ancestors. If it comes to a super type that cannot be looked up, the
failure of that lookup is what the check ends in, and nothing is said about the command.

This happens exactly where the target leads to a declaration whose lineage breaks off, and
lists a property that is not exposed before the gap (`Command.RunsIntoGap`). Everywhere else
a well-typed target is accepted or refused (`Command.accepted_or_refused_iff`). The gap does
no harm to commands that list no properties, or only such as are found below it.
-/

namespace DecoratorSets

namespace Command

variable {c : Command} {r : Registry} {h : Handle} {cause : Failure}

/-- **The search for the listed properties runs into a gap**: nothing is refused before, the
lineage of the declaration breaks off, and one of the properties is not exposed. -/
structure RunsIntoGap (c : Command) (r : Registry) (h : Handle) (cause : Failure) : Prop where
  conflict : ¬ c.IsConflicting
  type : ¬ c.NamesNoType r
  found : ∃ ns name f, c.target.namespaceName.Gives ns ∧ c.target.declaration.Gives name
    ∧ r.Names ns f ∧ r.lookup? (typeName f.namespaceText name) = some h
  gap : r.BreaksOff h cause
  missing : ∃ s, .str s ∈ c.listedProperties ∧ ¬ r.Exposes h s

/-- Listed properties are searched up to the first that is not exposed, **and the search for
that one fails** if the lineage breaks off. -/
theorem checkProperties_of_gap (hh : r.Lists h) {name : String}
    (hmissing : c.FirstMissing r h name) (hgap : r.BreaksOff h cause) :
    c.checkProperties r h c.listedProperties = .error cause := by
  obtain ⟨before, after, hlisted, hbefore, hname⟩ := hmissing
  rw [hlisted, checkProperties_append hh hbefore, checkProperties,
    (hh.property?_eq_error_iff name cause).mpr ⟨hname, hgap⟩]
  rfl

/-- **The check ends in the failure of the gap.** -/
theorem check_of_runsIntoGap (ht : c.target.WellTyped) (hgap : c.RunsIntoGap r h cause) :
    c.check r = .error cause := by
  obtain ⟨ns, name, f, hns, hname, hnames, hfound⟩ := hgap.found
  obtain ⟨s, hs, hmissing⟩ := hgap.missing
  rw [check_of_names ht hgap.conflict hgap.type hns hname hnames, hfound]
  rcases exposed_or_firstMissing ht r h with hall | ⟨first, hfirst⟩
  · exact absurd (hall s hs) hmissing
  · exact checkProperties_of_gap (Registry.lists_of_lookup? hfound) hfirst hgap.gap

/-- **Where there is no gap, a command is accepted or refused.** -/
theorem accepted_or_refused (ht : c.target.WellTyped)
    (hfree : ∀ h cause, ¬ c.RunsIntoGap r h cause) :
    c.check r = .ok () ∨ ∃ cause, c.check r = c.refuse cause := by
  by_cases hconflict : c.IsConflicting
  · exact Or.inr ⟨_, check_of_isConflicting hconflict r⟩
  by_cases htype : c.NamesNoType r
  · exact Or.inr ⟨_, check_of_namesNoType ht hconflict htype⟩
  by_cases hfile : c.NamesNoFile r
  · exact Or.inr ⟨_, check_of_namesNoFile ht hconflict htype hfile⟩
  rcases ht.namespaceName.isBlank_or_gives with hblank | ⟨ns, hns⟩
  · exact Or.inl (check_of_blank ht hconflict htype hfile (Or.inl hblank))
  rcases ht.declaration.isBlank_or_gives with hblank | ⟨name, hname⟩
  · exact Or.inl (check_of_blank ht hconflict htype hfile (Or.inr hblank))
  obtain ⟨f, hnames⟩ := exists_names_of_not hns hfile
  rw [check_of_names ht hconflict htype hns hname hnames]
  cases hfound : r.lookup? (typeName f.namespaceText name) with
  | none => exact Or.inr ⟨_, rfl⟩
  | some h =>
    have hh := Registry.lists_of_lookup? hfound
    rcases exposed_or_firstMissing ht r h with hall | ⟨first, hfirst⟩
    · exact Or.inl (checkProperties_of_exposed ht hh hall)
    · obtain ⟨before, after, hlisted, -, hmissing⟩ := id hfirst
      have hchain : ∀ cause, ¬ r.BreaksOff h cause := fun cause hgap =>
        hfree h cause ⟨hconflict, htype, ⟨ns, name, f, hns, hname, hnames, hfound⟩, hgap,
          first, by rw [hlisted]; simp, hmissing⟩
      exact Or.inr ⟨_, checkProperties_of_firstMissing hh hfirst hchain⟩

/-- **When a command is accepted or refused.** Let the fields of the target be texts or left
out, and let the command have a JSON text to be reported with. Then the check succeeds, or
reports the command with a cause, exactly if the search for its properties runs into no gap.
If it does, the check ends in the failure of a reference, which says nothing about the
command. -/
theorem accepted_or_refused_iff (ht : c.target.WellTyped) (htext : c.HasText) (r : Registry) :
    ((c.check r = .ok () ∨ ∃ cause, c.check r = .error (.command cause (some c.toDocument)))
        ↔ ∀ h cause, ¬ c.RunsIntoGap r h cause)
      ∧ ∀ h cause, c.RunsIntoGap r h cause → c.check r = .error cause ∧ cause.IsOfReference := by
  have hgap : ∀ h cause, c.RunsIntoGap r h cause →
      c.check r = .error cause ∧ cause.IsOfReference :=
    fun h cause hgap => ⟨check_of_runsIntoGap ht hgap, hgap.gap.isOfReference⟩
  refine ⟨⟨?_, fun hfree => ?_⟩, hgap⟩
  · rintro (haccepted | ⟨cause, hrefused⟩) h failure hruns
    · cases haccepted.symm.trans (hgap h failure hruns).1
    · obtain ⟨hfailed, hreference⟩ := hgap h failure hruns
      obtain rfl := Except.error.inj (hrefused.symm.trans hfailed)
      exact hreference
  · refine (accepted_or_refused ht hfree).imp_right fun ⟨cause, hrefused⟩ => ⟨cause, ?_⟩
    exact hrefused.trans (refuse_eq_command_iff.mpr ⟨rfl, rfl, htext⟩)

end Command

/-! ### Invoices without documents -/

namespace Billing

/-- A file with a declaration that extends one of a file that is not loaded. -/
def billingFile : ModelFile where
  namespaceText := "org.acme@1.0.0"
  info := ⟨"org.acme", some "1.0.0"⟩
  declarations := [{
    name := .str "Invoice"
    kind := .concept
    properties := some [⟨.str "total", .double, false, false, none, none, []⟩]
    isAbstract := false
    superType := some ⟨.str "Document", .str "org.base@1.0.0"⟩
    decorators := none
    extras := [] }]
  decorators := none
  extras := []
  parse_eq := Namespace.parse_acme

/-- The registry of that file. -/
def registry : Registry where
  strict := true
  files := [billingFile]
  distinct := List.nodup_singleton _

/-- The declaration. -/
def invoice : Handle := ⟨billingFile, billingFile.declarations[0]⟩

/-- A command for a property of invoices. -/
def stamp (property : String) : Command where
  target := ⟨.str "org.acme@1.0.0", .str "Invoice", .str property, none, .null⟩
  decorator := ⟨.str "Stamp", none, []⟩
  type := .upsert

/-- The type that is missing. -/
def noDocument : Failure := .typeNotFound (.str "org.base@1.0.0.Document") (.str "")

theorem stamp_wellTyped (property : String) : (stamp property).target.WellTyped :=
  ⟨Or.inr ⟨_, rfl⟩, Or.inr ⟨_, rfl⟩, Or.inr ⟨_, rfl⟩,
    fun names hnames => absurd hnames (Option.not_mem_none names), Or.inl rfl⟩

theorem stamp_hasText : (stamp "author").HasText := ⟨_, rfl⟩

/-- The search for a property that the declaration does not have climbs to the gap. -/
theorem stamp_runsIntoGap : (stamp "author").RunsIntoGap registry invoice noDocument := by
  have hlists : registry.Lists invoice := ⟨List.mem_cons_self, "Invoice", by decide, rfl⟩
  have hsearch : registry.property? invoice (.str "author") = .error noDocument := by
    decide +kernel
  obtain ⟨hmissing, hgap⟩ := (hlists.property?_eq_error_iff "author" noDocument).mp hsearch
  refine ⟨fun hconflict => hconflict.2 rfl, ?_, ?_, hgap, "author", List.mem_cons_self, hmissing⟩
  · rintro ⟨T, hT, -⟩
    cases hT.1
  · exact ⟨"org.acme@1.0.0", "Invoice", billingFile, ⟨rfl, by decide⟩, ⟨rfl, by decide⟩,
      .exact List.mem_cons_self rfl, by decide +kernel⟩

theorem accepted_or_refused_iff_author :
    (stamp "author").target.WellTyped ∧ (stamp "author").HasText
      ∧ (stamp "author").RunsIntoGap registry invoice noDocument
      ∧ (stamp "author").check registry = .error noDocument :=
  ⟨stamp_wellTyped "author", stamp_hasText, stamp_runsIntoGap,
    ((Command.accepted_or_refused_iff (stamp_wellTyped "author") stamp_hasText registry).2
      invoice noDocument stamp_runsIntoGap).1⟩

/-- **A command can be neither accepted nor refused.** The same command for a property that
the declaration has is accepted. For one that it would have to inherit, the check ends in
the lookup of the type that is missing. -/
theorem stamp_neither_accepted_nor_refused :
    (stamp "total").check registry = .ok () ∧ (stamp "author").target.WellTyped
      ∧ (stamp "author").check registry
        = .error (.typeNotFound (.str "org.base@1.0.0.Document") (.str ""))
      ∧ ¬ ((stamp "author").check registry = .ok () ∨ ∃ cause document,
        (stamp "author").check registry = .error (.command cause document)) := by
  have hcheck : (stamp "author").check registry = .error noDocument :=
    Command.check_of_runsIntoGap (stamp_wellTyped "author") stamp_runsIntoGap
  refine ⟨by decide +kernel, stamp_wellTyped "author", hcheck, ?_⟩
  rw [hcheck]
  rintro (haccepted | ⟨cause, document, hrefused⟩)
  · cases haccepted
  · cases hrefused

end Billing

end DecoratorSets
