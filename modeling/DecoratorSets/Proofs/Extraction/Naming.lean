import DecoratorSets.Proofs.Extraction.Complete

/-!
# Names of command sets

A command set goes by the name and the version of its namespace, and by `1.0.0` where the
namespace has no version. The namespaces of an index are all different, but they need not
give different sets of names and versions: a namespace without a version, with an empty
one, and with the version `1.0.0` all go by the same. Such namespaces are rivals
(`Namespace.Rivals`), and there are no others: two namespaces go by the same name and
version exactly if they are equal or rivals (`Namespace.sameLabel_iff`).

The command sets of an extraction can therefore be told apart by name and version, and so
by the names of the files that they are written to, exactly if the index lists no rivals
(`Registry.nodup_labels_of_extract`, `Registry.nodup_fileNames_of_extract`).
-/

namespace DecoratorSets

namespace Namespace

/-! ## Namespaces and their labels -/

/-- The version that the command set of a namespace goes by. -/
def setVersion (info : Namespace) : String := info.properVersion.getD defaultVersion

/-- The name and the version that the command set of a namespace goes by. -/
def label (info : Namespace) : String × String := (info.name, info.setVersion)

/-- **A namespace goes by the default version** if it has none, an empty one, or that one. -/
def GoesByDefault (s : String) : Prop :=
  s = bareName s ∨ s = bareName s ++ "@" ∨ s = bareName s ++ ("@" ++ defaultVersion)

instance (s : String) : Decidable (GoesByDefault s) := inferInstanceAs (Decidable (_ ∨ _ ∨ _))

/-- **Two namespaces are rivals** if they are different spellings of one name in the default
version. -/
def Rivals (s t : String) : Prop :=
  s ≠ t ∧ bareName s = bareName t ∧ GoesByDefault s ∧ GoesByDefault t

instance (s t : String) : Decidable (Rivals s t) := inferInstanceAs (Decidable (_ ∧ _ ∧ _ ∧ _))

variable {s t : String} {info info' : Namespace}

/-- A version that is not empty is that of the set. -/
theorem setVersion_of_ne {version : String} (h : version ≠ "") (name : String) :
    setVersion ⟨name, some version⟩ = version := by
  unfold setVersion properVersion
  rw [Option.filter_some, if_pos (by simpa using h), Option.getD_some]

/-- The name that is read is what stands in front of the `@`. -/
theorem name_of_parse (h : parse s = .ok info) : info.name = bareName s := by
  obtain ⟨version, hparse⟩ := parse_of_isWellFormed (isWellFormed_of_parse h)
  rw [← Except.ok.inj (hparse.symm.trans h)]

/-- A namespace goes by the default version if its set does. -/
theorem goesByDefault_iff (h : parse s = .ok info) :
    GoesByDefault s ↔ info.setVersion = defaultVersion := by
  have hs := (parse_eq_ok.mp h).text
  have hsuffix : GoesByDefault s ↔ suffix info.version = "" ∨ suffix info.version = "@"
      ∨ suffix info.version = "@" ++ defaultVersion := by
    unfold GoesByDefault
    rw [← name_of_parse h]
    have hnone : info.name = info.name ++ "" := (String.append_empty).symm
    constructor
    · rintro (heq | heq | heq)
      · exact Or.inl (String.append_right_inj info.name |>.mp (hs.symm.trans (heq.trans hnone)))
      · exact Or.inr (Or.inl (String.append_right_inj info.name |>.mp (hs.symm.trans heq)))
      · exact Or.inr (Or.inr (String.append_right_inj info.name |>.mp (hs.symm.trans heq)))
    · rintro (heq | heq | heq)
      · exact Or.inl (hs.trans (by rw [heq, String.append_empty]))
      · exact Or.inr (Or.inl (hs.trans (by rw [heq])))
      · exact Or.inr (Or.inr (hs.trans (by rw [heq])))
  rw [hsuffix]
  obtain ⟨name, version⟩ := info
  cases version with
  | none => exact iff_of_true (Or.inl rfl) rfl
  | some version =>
    by_cases hempty : version = ""
    · subst hempty
      exact iff_of_true (Or.inr (Or.inl rfl)) rfl
    · rw [setVersion_of_ne hempty]
      simp [suffix, hempty, String.append_right_inj]

/-- A set that does not go by the default version goes by that of its namespace. -/
theorem version_of_setVersion (h : info.setVersion ≠ defaultVersion) :
    info.version = some info.setVersion := by
  obtain ⟨name, version⟩ := info
  cases version with
  | none => exact absurd rfl h
  | some version =>
    by_cases hempty : version = ""
    · subst hempty
      exact absurd rfl h
    · exact congrArg some (setVersion_of_ne hempty name).symm

/-- **Two namespaces go by the same name and version** exactly if they are equal or
rivals. -/
theorem sameLabel_iff (hs : parse s = .ok info) (ht : parse t = .ok info') :
    info.label = info'.label ↔ s = t ∨ Rivals s t := by
  unfold label Rivals
  rw [Prod.mk.injEq, goesByDefault_iff hs, goesByDefault_iff ht, ← name_of_parse hs,
    ← name_of_parse ht]
  constructor
  · rintro ⟨hname, hversion⟩
    by_cases hdefault : info.setVersion = defaultVersion
    · by_cases heq : s = t
      · exact Or.inl heq
      · exact Or.inr ⟨heq, hname, hdefault, hversion ▸ hdefault⟩
    · -- both have a version, which is then the same, and so is all the rest
      have hthis := version_of_setVersion hdefault
      have hother := version_of_setVersion (hversion ▸ hdefault)
      refine Or.inl ?_
      rw [(parse_eq_ok.mp hs).text, (parse_eq_ok.mp ht).text, hthis, hother, hname, hversion]
  · rintro (rfl | ⟨-, hname, hdefault, hdefault'⟩)
    · obtain rfl := Except.ok.inj (hs.symm.trans ht)
      exact ⟨rfl, rfl⟩
    · exact ⟨hname, hdefault.trans hdefault'.symm⟩

example : Rivals "org.acme" "org.acme@1.0.0" := by decide

end Namespace

/-! ## Command sets and their files -/

/-- What is in the second of two related lists is related to something in the first. -/
theorem exists_mem_of_forall₂ {α β : Type} {R : α → β → Prop} {xs : List α} {ys : List β}
    (h : List.Forall₂ R xs ys) {y : β} (hy : y ∈ ys) : ∃ x ∈ xs, R x y := by
  induction h with
  | nil => cases hy
  | cons hxy _ ih =>
    rcases List.mem_cons.mp hy with rfl | hy
    · exact ⟨_, List.mem_cons_self, hxy⟩
    · obtain ⟨x, hx, hR⟩ := ih hy
      exact ⟨x, List.mem_cons_of_mem _ hx, hR⟩

namespace CommandSet

/-- The name and the version of a command set. -/
def label (set : CommandSet) : Value × Value := (set.name, set.version)

/-- The name of the file that a command set is written to. -/
def fileName (set : CommandSet) : String :=
  set.name.text ++ "@" ++ set.version.text ++ ".dcs.json"

/-- **A command set goes by a namespace**: it has its name and its version, or the default
one. -/
def GoesBy (s : String) (set : CommandSet) : Prop :=
  ∃ info, Namespace.parse s = .ok info ∧ set.label = (.str info.name, .str info.setVersion)

variable {s t : String} {set set' : CommandSet}

/-- **Two command sets have the same label** exactly if their namespaces are equal or
rivals. -/
theorem GoesBy.label_eq_iff (hs : set.GoesBy s) (ht : set'.GoesBy t) :
    set.label = set'.label ↔ s = t ∨ Namespace.Rivals s t := by
  obtain ⟨info, hinfo, hlabel⟩ := hs
  obtain ⟨info', hinfo', hlabel'⟩ := ht
  rw [hlabel, hlabel', ← Namespace.sameLabel_iff hinfo hinfo']
  simp [Namespace.label]

/-- The name of a file, by the name and the version of the set. -/
theorem toList_fileName {info : Namespace}
    (h : set.label = (.str info.name, .str info.setVersion)) :
    set.fileName.toList
      = info.name.toList ++ '@' :: (info.setVersion.toList ++ ".dcs.json".toList) := by
  obtain ⟨hname, hversion⟩ := Prod.mk.inj h
  unfold fileName
  rw [hname, hversion]
  simp

/-- **Two command sets have the same file** exactly if they have the same label: the name of
a file can be taken apart at the `@`. -/
theorem GoesBy.fileName_eq_iff (hs : set.GoesBy s) (ht : set'.GoesBy t) :
    set.fileName = set'.fileName ↔ set.label = set'.label := by
  obtain ⟨info, hinfo, hlabel⟩ := hs
  obtain ⟨info', hinfo', hlabel'⟩ := ht
  refine ⟨fun heq => ?_, fun heq => ?_⟩
  · have hcut := congrArg (cutAt '@') (congrArg String.toList heq)
    rw [toList_fileName hlabel, toList_fileName hlabel',
      cutAt_append_cons (Namespace.parse_eq_ok.mp hinfo).name,
      cutAt_append_cons (Namespace.parse_eq_ok.mp hinfo').name] at hcut
    obtain ⟨hname, hrest⟩ := Prod.mk.inj hcut
    rw [hlabel, hlabel', String.toList_inj.mp hname,
      String.toList_inj.mp (List.append_cancel_right (Option.some.inj hrest))]
  · obtain ⟨hname, hversion⟩ := Prod.mk.inj heq
    unfold fileName
    rw [hname, hversion]

/-- A slash in the name of a file is one of the namespace. -/
theorem GoesBy.slash_not_mem_fileName (hs : set.GoesBy s) (hslash : '/' ∉ s.toList) :
    '/' ∉ set.fileName.toList := by
  obtain ⟨info, hinfo, hlabel⟩ := hs
  have hnamespace := (Namespace.parse_eq_ok.mp hinfo).text
  rw [hnamespace, String.toList_append, List.mem_append, not_or] at hslash
  have hversion : '/' ∉ info.setVersion.toList := by
    by_cases hdefault : info.setVersion = defaultVersion
    · rw [hdefault]
      decide
    · rw [Namespace.version_of_setVersion hdefault] at hslash
      simpa [Namespace.suffix] using hslash.2
  rw [toList_fileName hlabel]
  simpa using ⟨hslash.1, hversion⟩

/-- The label of a command set is not among those of others exactly if its namespace has no
rival among theirs. -/
theorem GoesBy.label_not_mem_iff {texts : List String} {sets : List CommandSet}
    (hset : set.GoesBy s) (h : List.Forall₂ GoesBy texts sets) (hs : s ∉ texts) :
    set.label ∉ sets.map label ↔ ∀ t ∈ texts, ¬ Namespace.Rivals s t := by
  induction h with
  | nil => simp
  | @cons t set' texts sets hset' _ ih =>
    obtain ⟨hne, hs⟩ := not_or.mp (mt List.mem_cons.mpr hs)
    rw [List.map_cons, List.mem_cons, not_or, List.forall_mem_cons, ih hs,
      hset.label_eq_iff hset', or_iff_right hne]

/-- **Command sets that go by different namespaces** have different labels exactly if no two
of the namespaces are rivals. -/
theorem nodup_labels_iff {texts : List String} {sets : List CommandSet}
    (h : List.Forall₂ GoesBy texts sets) (hdistinct : texts.Nodup) :
    (sets.map label).Nodup ↔ texts.Pairwise fun s t => ¬ Namespace.Rivals s t := by
  induction h with
  | nil => simp
  | @cons s set texts sets hset hsets ih =>
    obtain ⟨hs, hdistinct⟩ := List.nodup_cons.mp hdistinct
    rw [List.map_cons, List.nodup_cons, List.pairwise_cons, hset.label_not_mem_iff hsets hs,
      ih hdistinct]

/-- Their files are different exactly if their labels are. -/
theorem nodup_fileNames_iff {texts : List String} {sets : List CommandSet}
    (h : List.Forall₂ GoesBy texts sets) :
    (sets.map fileName).Nodup ↔ (sets.map label).Nodup := by
  unfold List.Nodup
  rw [List.pairwise_map, List.pairwise_map]
  refine List.Pairwise.iff_of_mem fun hset hset' => ?_
  obtain ⟨s, _, hs⟩ := exists_mem_of_forall₂ h hset
  obtain ⟨t, _, ht⟩ := exists_mem_of_forall₂ h hset'
  exact not_congr (hs.fileName_eq_iff ht)

end CommandSet

/-! ## The command sets of an extraction -/

namespace Registry

variable {r : Registry} {remove : Bool} {locale : String}

/-- The index lists the namespaces of the files that have decorators. -/
theorem namespaces_eq_of_extract {ex : Extraction} (h : r.extract remove locale = .ok ex) :
    ex.index.namespaces = r.decoratedNamespaces.map Value.str := by
  obtain ⟨ms, hms, _⟩ := Checked.bind_eq_ok.mp h
  rw [namespaces_of_extract hms h, map_str_decoratedNamespaces]

/-- There is a vocabulary for each namespace of the index. -/
theorem length_vocabularies_of_extract {ex : Extraction}
    (h : r.extract remove locale = .ok ex) :
    ex.vocabularies.length = ex.index.namespaces.length := by
  obtain ⟨ms, hms, _⟩ := Checked.bind_eq_ok.mp h
  have hwritten := Checked.mapM_eq_ok.mp (vocabularies_of_extract hms h)
  rw [index_of_extract hms h, ← hwritten.length_eq]
  exact (List.length_map _).symm

/-- **The command sets of an extraction go by the namespaces of the files that have
decorators**, one by each. -/
theorem forall₂_goesBy_of_extract {ex : Extraction} (h : r.extract remove locale = .ok ex) :
    List.Forall₂ CommandSet.GoesBy r.decoratedNamespaces ex.commandSets := by
  obtain ⟨ms, hms, _⟩ := Checked.bind_eq_ok.mp h
  obtain ⟨sets, hsets, hcommandSets⟩ := commandSets_of_extract hms h
  have hcompiled : List.Forall₂ (fun ns set => ∀ s, ns = Value.str s → set.GoesBy s)
      ex.index.namespaces ex.commandSets := by
    rw [index_of_extract hms h, hcommandSets]
    unfold ExtractionIndex.namespaces
    rw [List.forall₂_map_left_iff, List.forall₂_map_right_iff]
    refine (Checked.mapM_eq_ok.mp hsets).imp fun bucket set hset s hs => ?_
    obtain ⟨s', info, hs', hinfo, hname, hversion⟩ := header_eq_of_compileNamespace hset
    obtain rfl := Value.str.inj (hs.symm.trans hs')
    exact ⟨info, hinfo, Prod.ext hname hversion⟩
  rw [namespaces_eq_of_extract h, List.forall₂_map_left_iff] at hcompiled
  exact hcompiled.imp fun s set hset => hset s rfl

/-- **No two namespaces are rivals**, of those whose files have decorators. -/
def HasNoRivals (r : Registry) : Prop :=
  r.decoratedNamespaces.Pairwise fun s t => ¬ Namespace.Rivals s t

instance (r : Registry) : Decidable r.HasNoRivals :=
  inferInstanceAs (Decidable (List.Pairwise _ _))

/-- **The command sets of an extraction can be told apart** by name and version exactly if
no two namespaces are rivals. -/
theorem nodup_labels_of_extract {ex : Extraction} (h : r.extract remove locale = .ok ex) :
    (ex.commandSets.map CommandSet.label).Nodup ↔ r.HasNoRivals :=
  CommandSet.nodup_labels_iff (forall₂_goesBy_of_extract h) r.nodup_decoratedNamespaces

/-- So can their files. -/
theorem nodup_fileNames_of_extract {ex : Extraction} (h : r.extract remove locale = .ok ex) :
    (ex.commandSets.map CommandSet.fileName).Nodup ↔ r.HasNoRivals :=
  (CommandSet.nodup_fileNames_iff (forall₂_goesBy_of_extract h)).trans
    (nodup_labels_of_extract h)

end Registry

end DecoratorSets
