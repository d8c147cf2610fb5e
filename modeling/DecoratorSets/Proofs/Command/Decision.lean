import DecoratorSets.Proofs.Command.Kinds
import DecoratorSets.Proofs.Command.Versions
import DecoratorSets.Proofs.Registry.Search

/-!
# What the check of a command decides

The check of a target asks five questions in a fixed order and reports the first that has
the wrong answer. Each question is put here without the functions that answer it: whether
both kinds of property fields are filled (`Command.IsConflicting`), whether the kind is the
name of a type (`Command.NamesNoType`), whether some file goes by the namespace
(`Command.NamesNoFile`), whether the file that it names has the declaration
(`Command.NamesNoDeclaration`), and whether all listed properties are exposed there
(`Command.FirstMissing`). A field that is left out or empty asks nothing.

The documented verdict on a command is read off the answers (`Command.Verdict`). Some
verdict always holds, and whichever holds is what the check comes to, provided that the
lineage of the declaration has no gap (`Command.check_decides`).

A refusal is reported with the JSON text of the command. A command that has none, such as
one whose decorator carries a day, is refused all the same, but what is reported then is
that it cannot be written (`Command.HasText`, `Dated.conflict_not_reported`).
-/

namespace DecoratorSets

/-- **A field gives a text** if it is that text, and not the empty one, which counts as left
out. -/
def Value.Gives (v : Value) (s : String) : Prop := v = .str s ∧ s ≠ ""

/-- A field that gives a text is not blank. -/
theorem Value.Gives.isBlank_eq_false {v : Value} {s : String} (h : v.Gives s) :
    v.isBlank = false := by
  obtain ⟨rfl, hne⟩ := h
  exact Bool.eq_false_iff.mpr (mt (isBlank_str s).mp hne)

/-- What may be left out is blank or gives a text. -/
theorem Value.IsOptionalText.isBlank_or_gives {v : Value} (h : v.IsOptionalText) :
    v.isBlank = true ∨ ∃ s, v.Gives s := by
  by_cases hblank : v.isBlank = true
  · exact Or.inl hblank
  · exact Or.inr (h.exists_text hblank)

namespace Command

variable {c : Command} {r : Registry} {f : ModelFile} {h : Handle} {ns name : String}

/-! ## The questions -/

/-- The target has both a property and a list of properties. -/
def IsConflicting (c : Command) : Prop :=
  (∃ name, c.target.property.Gives name) ∧ c.target.properties.getD [] ≠ []

/-- The kind of the target is not the name of a type. -/
def NamesNoType (c : Command) (r : Registry) : Prop :=
  ∃ T, c.target.type.Gives T ∧ ¬ r.DeclaresType T

/-- No file goes by the namespace of the target. -/
def NamesNoFile (c : Command) (r : Registry) : Prop :=
  ∃ ns, c.target.namespaceName.Gives ns ∧ ∀ f ∈ r.files, ¬ f.GoesBy ns

/-- The file that the namespace names does not have the declaration. -/
def NamesNoDeclaration (c : Command) (r : Registry) : Prop :=
  ∃ ns name f, c.target.namespaceName.Gives ns ∧ c.target.declaration.Gives name
    ∧ r.Names ns f ∧ ∀ d ∈ f.declarations, d.name ≠ .str name

/-- The target is for a declaration, the first of its name in the file that the namespace
names. -/
def Aims (c : Command) (r : Registry) (h : Handle) : Prop :=
  ∃ ns name, c.target.namespaceName.Gives ns ∧ c.target.declaration.Gives name
    ∧ r.Names ns h.file ∧ h.file.declaration? (.str name) = some h.declaration

/-- A name is the first of those listed that the declaration does not expose. -/
def FirstMissing (c : Command) (r : Registry) (h : Handle) (name : String) : Prop :=
  ∃ (before : List String) (after : List Value),
    c.listedProperties = before.map Value.str ++ .str name :: after
      ∧ (∀ s ∈ before, r.Exposes h s) ∧ ¬ r.Exposes h name

/-- **The verdict on a command**: the first fault in the documented order, or none. -/
inductive Verdict (c : Command) (r : Registry) : Option CommandFault → Prop where
  | conflictingTarget (hconflict : c.IsConflicting) : Verdict c r (some .conflictingTarget)
  | unknownType (hconflict : ¬ c.IsConflicting) (htype : c.NamesNoType r) :
    Verdict c r (some (.unknownType c.target.type))
  | unknownNamespace (hconflict : ¬ c.IsConflicting) (htype : ¬ c.NamesNoType r)
    (hfile : c.NamesNoFile r) : Verdict c r (some (.unknownNamespace c.target.namespaceName))
  | unknownDeclaration (hconflict : ¬ c.IsConflicting) (htype : ¬ c.NamesNoType r)
    (hfile : ¬ c.NamesNoFile r) (hdeclaration : c.NamesNoDeclaration r) :
    Verdict c r (some (.unknownDeclaration c.target.namespaceName c.target.declaration))
  | unknownProperty {h : Handle} {name : String} (hconflict : ¬ c.IsConflicting)
    (htype : ¬ c.NamesNoType r) (hfile : ¬ c.NamesNoFile r)
    (hdeclaration : ¬ c.NamesNoDeclaration r) (haims : c.Aims r h)
    (hmissing : c.FirstMissing r h name) :
    Verdict c r (some (.unknownProperty c.target.namespaceName c.target.declaration (.str name)))
  | accepted (hconflict : ¬ c.IsConflicting) (htype : ¬ c.NamesNoType r)
    (hfile : ¬ c.NamesNoFile r) (hdeclaration : ¬ c.NamesNoDeclaration r)
    (hexposed : ∀ h, c.Aims r h → ∀ name, .str name ∈ c.listedProperties → r.Exposes h name) :
    Verdict c r none

/-! ## Refusals -/

/-- **The document of a command has a JSON text**, with which a refusal is reported. -/
def HasText (c : Command) : Prop := ∃ text, Json.message.render c.toDocument = .ok text

/-- What the check comes to under a verdict. -/
def outcome (c : Command) : Option CommandFault → Checked Unit
  | none => .ok ()
  | some cause => c.refuse cause

/-- When a command is refused, **the cause and the command are reported** if it has a
text. -/
theorem refuse_eq_command_iff {α : Type} {cause cause' : CommandFault}
    {document : Option Value} : (c.refuse cause : Checked α) = .error (.command cause' document)
      ↔ cause = cause' ∧ document = some c.toDocument ∧ c.HasText := by
  unfold refuse HasText
  cases Json.message.render c.toDocument with
  | error fault => simp
  | ok text => simp [eq_comm]

/-- Nothing is done after a refusal. -/
theorem refuse_bind {α β : Type} (cause : CommandFault) (next : α → Checked β) :
    (c.refuse cause >>= next) = c.refuse cause := by
  unfold refuse
  split <;> rfl

/-- When a command is refused that has no text, that is what is reported. -/
theorem refuse_eq_unwritable_iff {α : Type} {cause : CommandFault} {fault : WritingFault} :
    (c.refuse cause : Checked α) = .error (.unwritable fault)
      ↔ Json.message.render c.toDocument = .error fault := by
  unfold refuse
  cases Json.message.render c.toDocument with
  | error fault => simp
  | ok text => simp

/-! ## The answers -/

/-- The list of properties is blank if it is empty. -/
theorem checkConflict_eq (c : Command) : c.checkConflict
    = if c.target.property.isBlank = false ∧ c.target.properties.getD [] ≠ [] then
        c.refuse .conflictingTarget else .ok () := by
  have hlist : (Value.list none (c.target.properties.getD [])).isBlank
      = (c.target.properties.getD []).isEmpty := rfl
  unfold checkConflict
  rw [hlist]
  refine if_congr ?_ rfl rfl
  simp

/-- A conflict is refused. -/
theorem checkConflict_of_isConflicting (hconflict : c.IsConflicting) :
    c.checkConflict = c.refuse .conflictingTarget := by
  obtain ⟨⟨name, hname⟩, hlist⟩ := hconflict
  rw [checkConflict_eq, if_pos ⟨hname.isBlank_eq_false, hlist⟩]

/-- Where there is no conflict the check goes on. -/
theorem checkConflict_of_not (ht : c.target.WellTyped) (hconflict : ¬ c.IsConflicting) :
    c.checkConflict = .ok () := by
  rw [checkConflict_eq, if_neg]
  rintro ⟨hproperty, hlist⟩
  have hname := ht.property.isBlank_or_gives.resolve_left (by rw [hproperty]; exact Bool.noConfusion)
  exact hconflict ⟨hname, hlist⟩

/-- A kind that is not the name of a type is refused. -/
theorem checkType_of_namesNoType (htype : c.NamesNoType r) :
    c.checkType r = c.refuse (.unknownType c.target.type) := by
  obtain ⟨T, hT, hnone⟩ := htype
  have hfound : r.lookup? T = none :=
    Option.eq_none_iff_forall_ne_some.mpr fun t ht => hnone (Registry.exists_lookup?_iff.mp ⟨t, ht⟩)
  unfold checkType Registry.requireType
  rw [if_neg (by rw [hT.isBlank_eq_false]; exact Bool.false_ne_true), hT.1,
    show (Value.str T).asText = .ok T from rfl, Checked.ok_bind, hfound]

/-- A kind that is the name of a type passes. -/
theorem checkType_of_not (ht : c.target.WellTyped) (htype : ¬ c.NamesNoType r) :
    c.checkType r = .ok () := by
  rcases ht.type.isBlank_or_gives with hblank | ⟨T, hT⟩
  · unfold checkType
    rw [if_pos hblank]
  · refine (checkType_eq_ok hT.1 hT.2).mpr (Registry.exists_lookup?_iff.mpr ?_)
    by_contra hnone
    exact htype ⟨T, hT, hnone⟩

/-- The file of a target is looked for under its namespace. -/
theorem findOf_of_gives (hns : c.target.namespaceName.Gives ns) :
    r.findOf c.target.namespaceName = r.find ns := by
  rw [hns.1]
  rfl

/-- **A namespace that no file goes by is refused**, whether it can be read or not. -/
theorem targetFile_of_namesNoFile (hfile : c.NamesNoFile r) :
    c.targetFile r = c.refuse (.unknownNamespace c.target.namespaceName) := by
  obtain ⟨ns, hns, hnone⟩ := hfile
  have hfind : ∀ f, r.find ns ≠ .ok (some f) := fun f hfind =>
    have hgoes := Registry.goesBy_of_find hfind
    hnone f hgoes.1 hgoes.2
  unfold targetFile
  rw [findOf_of_gives hns]
  cases hfound : r.find ns with
  | error e =>
    obtain rfl := Registry.eq_malformed_of_find hfound
    rfl
  | ok found =>
    cases found with
    | none => rfl
    | some f => exact absurd hfound (hfind f)

/-- The file that the namespace names is the file of the target. -/
theorem targetFile_of_names (hns : c.target.namespaceName.Gives ns) (hnames : r.Names ns f) :
    c.targetFile r = .ok f := by
  rw [targetFile_eq_ok, findOf_of_gives hns]
  exact Registry.find_eq_some_iff.mpr hnames

/-- A namespace that some file goes by names a file. -/
theorem exists_names_of_not (hns : c.target.namespaceName.Gives ns) (hfile : ¬ c.NamesNoFile r) :
    ∃ f, r.Names ns f := by
  have hgoes : ∃ f ∈ r.files, f.GoesBy ns := by
    by_contra hnone
    exact hfile ⟨ns, hns, fun f hf hgoes => hnone ⟨f, hf, hgoes⟩⟩
  obtain ⟨f, hfind⟩ := Registry.exists_find_iff.mpr hgoes
  exact ⟨f, Registry.find_eq_some_iff.mp hfind⟩

/-- Under the full name of the target **the declaration that it aims at** is found. -/
theorem lookup?_target_iff (hns : c.target.namespaceName.Gives ns) (hdot : '.' ∉ name.toList)
    (hnames : r.Names ns f) :
    r.lookup? (typeName f.namespaceText name) = some h
      ↔ h.file = f ∧ f.declaration? (.str name) = some h.declaration := by
  obtain ⟨hf, hgoes⟩ := Registry.goesBy_of_find (Registry.find_eq_some_iff.mpr hnames)
  exact Registry.lookup?_typeName_iff hf (hgoes.namespaceText_ne hns.2) hdot

/-- Listed properties that are exposed are passed. -/
theorem checkProperties_append (hh : r.Lists h) {before : List String}
    (hbefore : ∀ s ∈ before, r.Exposes h s) (rest : List Value) :
    c.checkProperties r h (before.map Value.str ++ rest) = c.checkProperties r h rest := by
  induction before with
  | nil => rfl
  | cons s before ih =>
    obtain ⟨p, hp⟩ := (hh.property?_eq_some_iff s).mpr (hbefore s List.mem_cons_self)
    rw [List.map_cons, List.cons_append, checkProperties, hp, Checked.ok_bind]
    exact ih fun t ht => hbefore t (List.mem_cons_of_mem s ht)

/-- The listed properties of a target are texts. -/
theorem exists_texts_listedProperties (ht : c.target.WellTyped) :
    ∃ names : List String, c.listedProperties = names.map Value.str := by
  unfold listedProperties
  rcases ht.property.isBlank_or_gives with hblank | ⟨name, hname⟩
  · rw [if_pos hblank]
    cases hproperties : c.target.properties with
    | none => exact ⟨[], rfl⟩
    | some names => exact ht.properties names hproperties
  · rw [hname.isBlank_eq_false, hname.1]
    exact ⟨[name], rfl⟩

/-- **All listed properties are exposed, or one is the first that is not.** -/
theorem exposed_or_firstMissing (ht : c.target.WellTyped) (r : Registry) (h : Handle) :
    (∀ name, .str name ∈ c.listedProperties → r.Exposes h name)
      ∨ ∃ name, c.FirstMissing r h name := by
  obtain ⟨names, hnames⟩ := exists_texts_listedProperties ht
  unfold FirstMissing
  rw [hnames]
  clear hnames
  induction names with
  | nil => exact Or.inl fun name hname => absurd hname List.not_mem_nil
  | cons s rest ih =>
    by_cases hs : r.Exposes h s
    · rcases ih with hall | ⟨name, before, after, hrest, hbefore, hname⟩
      · refine Or.inl fun name hname => ?_
        rcases List.mem_cons.mp hname with heq | hname
        · exact Value.str.inj heq ▸ hs
        · exact hall name hname
      · refine Or.inr ⟨name, s :: before, after, ?_, List.forall_mem_cons.mpr ⟨hs, hbefore⟩, hname⟩
        rw [List.map_cons, hrest]
        rfl
    · exact Or.inr ⟨s, [], rest.map Value.str, rfl,
        fun t ht => absurd ht List.not_mem_nil, hs⟩

/-- **The first listed property that is not exposed is refused**, if the search for it comes
to an end. -/
theorem checkProperties_of_firstMissing (hh : r.Lists h) (hmissing : c.FirstMissing r h name)
    (hchain : ∀ cause, ¬ r.BreaksOff h cause) : c.checkProperties r h c.listedProperties
      = c.refuse (.unknownProperty c.target.namespaceName h.declaration.name (.str name)) := by
  obtain ⟨before, after, hlisted, hbefore, hname⟩ := hmissing
  rw [hlisted, checkProperties_append hh hbefore, checkProperties,
    (hh.property?_eq_none_iff name).mpr ⟨hname, hchain⟩]
  rfl

/-- Listed properties that are all exposed pass. -/
theorem checkProperties_of_exposed (ht : c.target.WellTyped) (hh : r.Lists h)
    (hexposed : ∀ name, .str name ∈ c.listedProperties → r.Exposes h name) :
    c.checkProperties r h c.listedProperties = .ok () := by
  obtain ⟨names, hnames⟩ := exists_texts_listedProperties ht
  rw [hnames] at hexposed ⊢
  rw [← List.append_nil (names.map Value.str), checkProperties_append hh fun s hs =>
    hexposed s (List.mem_map_of_mem hs)]
  rfl

/-! ## The decision -/

/-- A conflict is what the check comes to, whatever else is wrong. -/
theorem check_of_isConflicting (hconflict : c.IsConflicting) (r : Registry) :
    c.check r = c.refuse .conflictingTarget := by
  unfold check
  rw [checkConflict_of_isConflicting hconflict, refuse_bind]

section Order

variable (ht : c.target.WellTyped) (hconflict : ¬ c.IsConflicting)

include ht hconflict

/-- A kind that is not the name of a type comes next. -/
theorem check_of_namesNoType (htype : c.NamesNoType r) :
    c.check r = c.refuse (.unknownType c.target.type) := by
  unfold check
  rw [checkConflict_of_not ht hconflict, Checked.ok_bind, checkType_of_namesNoType htype,
    refuse_bind]

variable (htype : ¬ c.NamesNoType r)

include htype

/-- **What is left of the check** once there is no conflict and the kind passes. -/
theorem check_of_passed :
    c.check r = if c.target.namespaceName.isBlank then .ok () else
      c.targetFile r >>= fun file =>
        if c.target.declaration.isBlank then .ok () else
          match r.lookup? (typeName file.namespaceText c.target.declaration.text) with
          | none => c.refuse (.unknownDeclaration c.target.namespaceName c.target.declaration)
          | some h => c.checkProperties r h c.listedProperties := by
  unfold check
  rw [checkConflict_of_not ht hconflict, Checked.ok_bind, checkType_of_not ht htype,
    Checked.ok_bind]
  rfl

/-- A namespace that no file goes by comes after the kind. -/
theorem check_of_namesNoFile (hfile : c.NamesNoFile r) :
    c.check r = c.refuse (.unknownNamespace c.target.namespaceName) := by
  obtain ⟨ns, hns, -⟩ := id hfile
  rw [check_of_passed ht hconflict htype, hns.isBlank_eq_false, targetFile_of_namesNoFile hfile]
  exact refuse_bind _ _

/-- A target without a namespace, or with one that leads to a file and without a
declaration, passes. -/
theorem check_of_blank (hfile : ¬ c.NamesNoFile r)
    (hblank : c.target.namespaceName.isBlank = true ∨ c.target.declaration.isBlank = true) :
    c.check r = .ok () := by
  refine check_eq_ok.mpr ⟨checkConflict_of_not ht hconflict, checkType_of_not ht htype, ?_⟩
  rcases ht.namespaceName.isBlank_or_gives with hnone | ⟨ns, hns⟩
  · exact Or.inl hnone
  · obtain ⟨f, hnames⟩ := exists_names_of_not hns hfile
    refine Or.inr ⟨f, targetFile_of_names hns hnames, Or.inl (hblank.resolve_left ?_)⟩
    rw [hns.isBlank_eq_false]
    exact Bool.false_ne_true

/-- A command whose namespace and declaration lead to a file is checked there. -/
theorem check_of_names (hns : c.target.namespaceName.Gives ns)
    (hname : c.target.declaration.Gives name) (hnames : r.Names ns f) :
    c.check r = match r.lookup? (typeName f.namespaceText name) with
      | none => c.refuse (.unknownDeclaration c.target.namespaceName c.target.declaration)
      | some h => c.checkProperties r h c.listedProperties := by
  rw [check_of_passed ht hconflict htype, hns.isBlank_eq_false, targetFile_of_names hns hnames,
    Checked.ok_bind, hname.isBlank_eq_false, hname.1]
  rfl

/-- The declaration that the target aims at is checked for the listed properties. -/
theorem check_of_aims (hdot : ∀ name, c.target.declaration = .str name → '.' ∉ name.toList)
    (haims : c.Aims r h) :
    r.Lists h ∧ h.declaration.name = c.target.declaration
      ∧ c.check r = c.checkProperties r h c.listedProperties := by
  obtain ⟨ns, name, hns, hname, hnames, hd⟩ := haims
  have hfound := (lookup?_target_iff hns (hdot name hname.1) hnames).mpr ⟨rfl, hd⟩
  refine ⟨Registry.lists_of_lookup? hfound, (ModelFile.name_of_declaration? hd).trans hname.1.symm,
    ?_⟩
  rw [check_of_names ht hconflict htype hns hname hnames, hfound]

end Order

/-- **Some verdict holds** of every command. -/
theorem exists_verdict (ht : c.target.WellTyped) (r : Registry) :
    ∃ verdict, c.Verdict r verdict := by
  by_cases hconflict : c.IsConflicting
  · exact ⟨_, .conflictingTarget hconflict⟩
  by_cases htype : c.NamesNoType r
  · exact ⟨_, .unknownType hconflict htype⟩
  by_cases hfile : c.NamesNoFile r
  · exact ⟨_, .unknownNamespace hconflict htype hfile⟩
  by_cases hdeclaration : c.NamesNoDeclaration r
  · exact ⟨_, .unknownDeclaration hconflict htype hfile hdeclaration⟩
  by_cases hmissing : ∃ h name, c.Aims r h ∧ c.FirstMissing r h name
  · obtain ⟨h, name, haims, hname⟩ := hmissing
    exact ⟨_, .unknownProperty hconflict htype hfile hdeclaration haims hname⟩
  · refine ⟨_, .accepted hconflict htype hfile hdeclaration fun h haims => ?_⟩
    refine (exposed_or_firstMissing ht r h).resolve_right fun hname => ?_
    obtain ⟨name, hname⟩ := hname
    exact hmissing ⟨h, name, haims, hname⟩

/-- **What the check comes to under a verdict.** -/
theorem check_of_verdict (ht : c.target.WellTyped)
    (hdot : ∀ name, c.target.declaration = .str name → '.' ∉ name.toList)
    (hchain : ∀ h, c.Aims r h → ∀ cause, ¬ r.BreaksOff h cause) {verdict : Option CommandFault}
    (hverdict : c.Verdict r verdict) : c.check r = c.outcome verdict := by
  cases hverdict with
  | conflictingTarget hconflict => exact check_of_isConflicting hconflict r
  | unknownType hconflict htype => exact check_of_namesNoType ht hconflict htype
  | unknownNamespace hconflict htype hfile => exact check_of_namesNoFile ht hconflict htype hfile
  | unknownDeclaration hconflict htype hfile hdeclaration =>
    obtain ⟨ns, name, f, hns, hname, hnames, hnone⟩ := hdeclaration
    rw [check_of_names ht hconflict htype hns hname hnames]
    cases hfound : r.lookup? (typeName f.namespaceText name) with
    | none => rfl
    | some h =>
      obtain ⟨-, hd⟩ := (lookup?_target_iff hns (hdot name hname.1) hnames).mp hfound
      exact absurd (ModelFile.name_of_declaration? hd)
        (hnone h.declaration (ModelFile.mem_of_declaration? hd))
  | unknownProperty hconflict htype hfile hdeclaration haims hmissing =>
    obtain ⟨hh, hname, hcheck⟩ := check_of_aims ht hconflict htype hdot haims
    rw [hcheck, checkProperties_of_firstMissing hh hmissing (hchain _ haims), hname]
    rfl
  | accepted hconflict htype hfile hdeclaration hexposed =>
    rcases ht.namespaceName.isBlank_or_gives with hblank | ⟨ns, hns⟩
    · exact check_of_blank ht hconflict htype hfile (Or.inl hblank)
    rcases ht.declaration.isBlank_or_gives with hblank | ⟨name, hname⟩
    · exact check_of_blank ht hconflict htype hfile (Or.inr hblank)
    -- the file has the declaration, so the target aims at it
    obtain ⟨f, hnames⟩ := exists_names_of_not hns hfile
    have hd : ∃ d ∈ f.declarations, d.name = .str name := by
      by_contra hnone
      exact hdeclaration ⟨ns, name, f, hns, hname, hnames, fun d hd heq => hnone ⟨d, hd, heq⟩⟩
    obtain ⟨d, hd⟩ := ModelFile.exists_declaration?_iff.mpr hd
    have haims : c.Aims r ⟨f, d⟩ := ⟨ns, name, hns, hname, hnames, hd⟩
    obtain ⟨hh, -, hcheck⟩ := check_of_aims ht hconflict htype hdot haims
    rw [hcheck, checkProperties_of_exposed ht hh (hexposed _ haims)]
    rfl

/-- **The check decides the documented verdict.** Let the fields of the target be texts or
left out, the name of the declaration without dots, and the lineage of the declaration, if
there is one, without a gap. Then the check succeeds exactly if there is no fault. It
reports a fault, with the command, exactly if this is the first one in the documented order
and the command has a text, and the lack of a text exactly if there is some fault and the
command has none. -/
theorem check_decides (ht : c.target.WellTyped)
    (hdot : ∀ name, c.target.declaration = .str name → '.' ∉ name.toList)
    (hchain : ∀ h, c.Aims r h → ∀ cause, ¬ r.BreaksOff h cause) :
    (c.check r = .ok () ↔ c.Verdict r none)
      ∧ (∀ cause document, c.check r = .error (.command cause document)
        ↔ c.Verdict r (some cause) ∧ document = some c.toDocument ∧ c.HasText)
      ∧ ∀ fault, c.check r = .error (.unwritable fault)
        ↔ (∃ cause, c.Verdict r (some cause))
          ∧ Json.message.render c.toDocument = .error fault := by
  have houtcome : ∀ {verdict}, c.Verdict r verdict → c.check r = c.outcome verdict :=
    fun hverdict => check_of_verdict ht hdot hchain hverdict
  obtain ⟨verdict, hverdict⟩ := exists_verdict ht r
  refine ⟨⟨fun hcheck => ?_, houtcome⟩, fun cause document => ⟨fun hcheck => ?_, ?_⟩,
    fun fault => ⟨fun hcheck => ?_, ?_⟩⟩
  · rw [houtcome hverdict] at hcheck
    cases verdict with
    | none => exact hverdict
    | some cause => exact absurd hcheck (refuse_ne_ok c cause ())
  · rw [houtcome hverdict] at hcheck
    cases verdict with
    | none => cases hcheck
    | some other =>
      obtain ⟨rfl, hreport⟩ := refuse_eq_command_iff.mp hcheck
      exact ⟨hverdict, hreport⟩
  · rintro ⟨hcause, hreport⟩
    exact (houtcome hcause).trans (refuse_eq_command_iff.mpr ⟨rfl, hreport⟩)
  · rw [houtcome hverdict] at hcheck
    cases verdict with
    | none => cases hcheck
    | some cause => exact ⟨⟨cause, hverdict⟩, refuse_eq_unwritable_iff.mp hcheck⟩
  · rintro ⟨⟨cause, hcause⟩, hfault⟩
    exact (houtcome hcause).trans (refuse_eq_unwritable_iff.mpr hfault)

end Command

/-! ### Ships that extend each other -/

namespace Fleet

/-- A concept that extends another of the file. -/
def vessel (name superName : String) (properties : List Property) : Declaration where
  name := .str name
  kind := .concept
  properties := some properties
  isAbstract := false
  superType := some ⟨.str superName, .null⟩
  decorators := none
  extras := []

/-- The property of the name of a vessel. -/
def nameField : Property where
  name := .str "name"
  kind := .string
  isArray := false
  isOptional := false
  type := none
  decorators := none
  extras := []

/-- A file whose two declarations extend each other. -/
def fleetFile : ModelFile where
  namespaceText := "org.acme@1.0.0"
  info := ⟨"org.acme", some "1.0.0"⟩
  declarations := [vessel "Ship" "Ferry" [], vessel "Ferry" "Ship" [nameField]]
  decorators := none
  extras := []
  parse_eq := Namespace.parse_acme

/-- The registry of that file. -/
def registry : Registry where
  strict := true
  files := [fleetFile]
  distinct := List.nodup_singleton _

/-- The first of the declarations. -/
def ship : Handle := ⟨fleetFile, fleetFile.declarations[0]⟩

/-- A command for properties of ships, one of which is inherited and the other missing. -/
def label : Command where
  target := ⟨.str "org.acme", .str "Ship", .null, some [.str "name", .str "flag"], .null⟩
  decorator := ⟨.str "Label", none, []⟩
  type := .upsert

/-- A command for ships is for the first declaration. -/
theorem eq_ship_of_aims {h : Handle} (haims : label.Aims registry h) : h = ship := by
  obtain ⟨ns, name, hns, hname, hnames, hd⟩ := haims
  obtain rfl : "org.acme" = ns := Value.str.inj hns.1
  obtain rfl : "Ship" = name := Value.str.inj hname.1
  have hfind : registry.find "org.acme" = .ok (some fleetFile) := by decide +kernel
  obtain ⟨f, d⟩ := h
  obtain rfl : f = fleetFile :=
    Option.some.inj (Except.ok.inj ((Registry.find_eq_some_iff.mpr hnames).symm.trans hfind))
  exact congrArg (Handle.mk fleetFile) (Option.some.inj hd).symm

/-- The search for a property goes round the circle once and comes to nothing. -/
theorem check_decides_ship :
    label.check registry = .error (.command
        (.unknownProperty (.str "org.acme") (.str "Ship") (.str "flag")) (some label.toDocument))
      ∧ label.Verdict registry
        (some (.unknownProperty (.str "org.acme") (.str "Ship") (.str "flag"))) := by
  have hcheck : label.check registry = .error (.command
      (.unknownProperty (.str "org.acme") (.str "Ship") (.str "flag"))
      (some label.toDocument)) := by
    decide +kernel
  have ht : label.target.WellTyped := by
    refine ⟨Or.inr ⟨_, rfl⟩, Or.inr ⟨_, rfl⟩, Or.inl rfl, fun names hnames => ?_, Or.inl rfl⟩
    exact ⟨["name", "flag"], (Option.some.inj hnames).symm⟩
  have hdot : ∀ name, label.target.declaration = .str name → '.' ∉ name.toList := by
    intro name hname
    obtain rfl : "Ship" = name := Value.str.inj hname
    decide
  have hchain : ∀ h, label.Aims registry h → ∀ cause, ¬ registry.BreaksOff h cause := by
    intro h haims cause hgap
    obtain rfl := eq_ship_of_aims haims
    have hlists : registry.Lists ship := ⟨List.mem_cons_self, "Ship", by decide, rfl⟩
    have hending : (registry.lineage ship).ending = .cycle := by decide +kernel
    rw [← hlists.ending_lineage_iff, hending] at hgap
    cases hgap
  exact ⟨hcheck, (((Command.check_decides ht hdot hchain).2.1 _ _).mp hcheck).1⟩

end Fleet

/-! ### Decorators that carry a day -/

namespace Dated

/-- A day, as a document that is not written in JSON may give it. -/
def newYear : Value := .moment none (.day ⟨2024, 1, 1⟩)

/-- A file with an enumeration of days, whose only member is a day and no text, and with a
class of decorators that carry such a day. -/
def dayFile : ModelFile where
  namespaceText := "org.acme@1.0.0"
  info := ⟨"org.acme", some "1.0.0"⟩
  declarations := [
    { name := .str "Day"
      kind := .enum
      properties := some [⟨newYear, .enum, false, false, none, none, []⟩]
      isAbstract := false
      superType := none
      decorators := none
      extras := [] },
    { name := .str "Dated"
      kind := .concept
      properties := some [⟨.str "day", .object, false, false, some ⟨.str "Day", .null⟩, none, []⟩]
      isAbstract := false
      superType := some ⟨.str "Decorator", .str metamodelNamespace⟩
      decorators := none
      extras := [] }]
  decorators := none
  extras := []
  parse_eq := Namespace.parse_acme

/-- The registry of the schema and that file. -/
def registry : Registry where
  strict := true
  files := [Schema.metamodelFile, dayFile, Schema.commandsFile]
  distinct := by decide +kernel

/-- A payload with a command whose target has both kinds of property fields, and whose
decorator carries a day. -/
def payload : Members :=
  [("name", "s"), ("version", "1.0.0"),
    ("commands", .list none [.object none [("type", "UPSERT"),
      ("target", .object none [("property", "a"), ("properties", .list none ["b"])]),
      ("decorator", .object none [("$class", "org.acme@1.0.0.Dated"), ("name", "Since"),
        ("day", newYear)])]])]

/-- The command that is read from it. -/
def since : Command where
  target := ⟨.null, .null, "a", some ["b"], .null⟩
  decorator := ⟨"Since", none, [("day", newYear)]⟩
  type := .upsert

/-- **A conflict that is not reported.** The payload passes the structural check next to the
file. Its only command has conflicting fields, but no JSON text, and so the report of the
conflict fails. -/
theorem conflict_not_reported :
    (CommandSetSource.document (.object none payload)).validate [dayFile] = .ok registry
      ∧ CommandSet.ofDocument (.object none payload) = .ok ⟨"s", "1.0.0", [since], none⟩
      ∧ since.target.WellTyped ∧ since.IsConflicting
      ∧ (∀ document, since.check registry ≠ .error (.command .conflictingTarget document))
      ∧ since.check registry = .error (.unwritable .unwritable) := by
  have hcheck : since.check registry = .error (.unwritable .unwritable) := by decide +kernel
  have ht : since.target.WellTyped := by
    refine ⟨Or.inl rfl, Or.inl rfl, Or.inr ⟨_, rfl⟩, fun names hnames => ?_, Or.inl rfl⟩
    exact ⟨["b"], (Option.some.inj hnames).symm⟩
  have hconflict : since.IsConflicting :=
    ⟨⟨"a", rfl, by decide⟩, List.cons_ne_nil _ _⟩
  refine ⟨by decide +kernel, by decide +kernel, ht, hconflict, fun document hreport => ?_, hcheck⟩
  rw [hcheck] at hreport
  cases hreport

end Dated

end DecoratorSets
