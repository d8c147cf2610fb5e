import DecoratorSets.Proofs.CommandLine.Messages
import DecoratorSets.Proofs.CommandLine.Steps
import DecoratorSets.Proofs.Extraction.Naming

/-!
# The files of an extraction

The command that extracts decorators writes a file for each command set, one for each
vocabulary, and one for the models that are left. It first gathers them by name, and a
document that is added under a name replaces the one before it.

Nothing is replaced if no two namespaces are rivals. The names of command sets are then
different, those of vocabularies always are, and the endings keep the three kinds apart, so
the documents are all there, in order (`documents_of_extract`). Each is then written to the
end of its own path. A slash in a namespace would lead elsewhere, perhaps to where another
file is; without one, the file of each command set is found after the run as it was written
(`command_sets_kept_apart`). With rivals there are fewer files than command sets, and one
set has taken the place of another.
-/

namespace DecoratorSets

namespace CommandLine

/-! ## Documents by name -/

section Documents

variable {docs more : List (String × String)} {name text : String}

/-- A document under a new name is added behind the others. -/
theorem addDocument_of_not_mem (h : name ∉ docs.map Prod.fst) :
    addDocument name text docs = docs ++ [(name, text)] := by
  induction docs with
  | nil => rfl
  | cons doc docs ih =>
    obtain ⟨other, old⟩ := doc
    obtain ⟨hne, hrest⟩ := not_or.mp (mt List.mem_cons.mpr h)
    rw [addDocument, if_neg (Ne.symm hne), ih hrest]
    rfl

/-- Adds documents by name, one after the other. -/
def addDocuments (docs more : List (String × String)) : List (String × String) :=
  more.foldl (fun docs doc => addDocument doc.1 doc.2 docs) docs

/-- **Documents with different names** are all there, in order. -/
theorem addDocuments_of_nodup (h : ((docs ++ more).map Prod.fst).Nodup) :
    addDocuments docs more = docs ++ more := by
  induction more generalizing docs with
  | nil => exact (List.append_nil docs).symm
  | cons doc more ih =>
    have hnew : doc.1 ∉ docs.map Prod.fst := by
      rw [List.map_append, List.nodup_append] at h
      exact fun hmem => h.2.2 _ hmem _ List.mem_cons_self rfl
    have hrest : (((docs ++ [doc]) ++ more).map Prod.fst).Nodup := by
      rwa [List.append_assoc]
    show addDocuments (addDocument doc.1 doc.2 docs) more = docs ++ doc :: more
    rw [addDocument_of_not_mem hnew, ih hrest, List.append_assoc]
    rfl

end Documents

/-! ## Names of documents -/

/-- A document is that of a command set: it has its name, and its text in JSON. -/
def IsDocumentOf (set : CommandSet) (doc : String × String) : Prop :=
  doc.1 = set.fileName ∧ (Json.document "  ").render set.toDocument = .ok doc.2

/-- The name of the file that the vocabulary of a namespace is written to. -/
def vocabularyName (locale ns : String) : String := ns ++ "_" ++ locale ++ ".voc.yaml"

/-- The documents of the vocabularies. -/
def vocabularyDocuments (locale : String) (ex : Extraction) : List (String × String) :=
  (ex.index.namespaces.zip ex.vocabularies).map fun doc =>
    (vocabularyName locale doc.1.text, doc.2)

/-- A name that is not one of a command set: it ends as that of a vocabulary does, or as that
of the models. -/
def IsOtherName (name : String) : Prop :=
  ∃ front ending, name = front ++ ending ∧ (ending = ".voc.yaml" ∨ ending = "dels.json")

variable {set set' : CommandSet} {name : String}

/-- Texts with different endings of one length are different. -/
theorem append_ne_append {front front' ending ending' : String}
    (hlength : ending.toList.length = ending'.toList.length) (hne : ending ≠ ending') :
    front ++ ending ≠ front' ++ ending' := by
  intro heq
  have hlists := congrArg String.toList heq
  rw [String.toList_append, String.toList_append] at hlists
  exact hne (String.toList_inj.mp (List.append_inj_right' hlists hlength))

/-- The name of a command set is no other name. -/
theorem append_ne_of_isOtherName {front : String} (h : IsOtherName name) :
    front ++ ".dcs.json" ≠ name := by
  obtain ⟨front', ending, rfl, rfl | rfl⟩ := h
  · exact append_ne_append (by decide) (by decide)
  · exact append_ne_append (by decide) (by decide)

/-- The names of vocabularies and of the models are other names. -/
theorem isOtherName_vocabularyName (locale ns : String) :
    IsOtherName (vocabularyName locale ns) :=
  ⟨_, _, rfl, Or.inl rfl⟩

theorem isOtherName_models : IsOtherName "models.json" := ⟨"mo", _, rfl, Or.inr rfl⟩

/-- The vocabularies of different namespaces have different names. -/
theorem vocabularyName_injective (locale : String) :
    Function.Injective (vocabularyName locale) := by
  intro ns ns' h
  unfold vocabularyName at h
  simpa only [String.append_left_inj] using h

/-- The name of a command set has more than three characters. -/
theorem three_le_length_fileName (set : CommandSet) : 3 ≤ set.fileName.toList.length := by
  unfold CommandSet.fileName
  rw [String.toList_append, List.length_append]
  have hending : ".dcs.json".toList.length = 9 := rfl
  omega

/-- **The file of a command set is apart from those of others**, if their names are
different and without slashes. -/
theorem apart_fileName (hslash : '/' ∉ set.fileName.toList)
    (hslash' : '/' ∉ set'.fileName.toList) (hne : set.fileName ≠ set'.fileName) :
    FilePath.Apart set.fileName set'.fileName := by
  have hlong := three_le_length_fileName set
  have hlong' := three_le_length_fileName set'
  exact ⟨_, _, FilePath.lastPart?_of_slash_not_mem hslash hlong,
    FilePath.lastPart?_of_slash_not_mem hslash' hlong', (FilePath.counts_of_length hlong).2,
    (FilePath.counts_of_length hlong').2, hne⟩

/-- **The file of a command set is apart from all that are not of command sets.** -/
theorem apart_of_isOtherName (hslash : '/' ∉ set.fileName.toList) (h : IsOtherName name) :
    FilePath.Apart set.fileName name := by
  obtain ⟨front, ending, rfl, hending⟩ := h
  have hplain : '/' ∉ ending.toList ∧ 3 ≤ ending.toList.length := by
    rcases hending with rfl | rfl
    · decide
    · decide
  obtain ⟨s, hs⟩ := FilePath.exists_lastPart?_append front hplain.1 hplain.2
  have hlong := three_le_length_fileName set
  have hlong' : 3 ≤ (s ++ ending).toList.length := by
    rw [String.toList_append, List.length_append]
    omega
  exact ⟨_, _, FilePath.lastPart?_of_slash_not_mem hslash hlong, hs,
    (FilePath.counts_of_length hlong).2, (FilePath.counts_of_length hlong').2,
    append_ne_of_isOtherName ⟨s, ending, rfl, hending⟩⟩

/-! ## The documents of an extraction -/

variable {r : Registry} {remove : Bool} {locale : String} {ex : Extraction} {p p' : Progress}

/-- **The documents that are gathered**: one for each command set, one for each vocabulary,
and the models where they are asked for, added one after the other. -/
theorem exists_of_extractedDocuments {docs : List (String × String)}
    (h : (extractedDocuments ex locale remove).Gives p docs p') :
    ∃ sets models, List.Forall₂ IsDocumentOf ex.commandSets sets
      ∧ (models = [] ∨ ∃ text, models = [("models.json", text)])
      ∧ docs = addDocuments [] (sets ++ vocabularyDocuments locale ex ++ models) := by
  obtain ⟨sets, p₁, hsets, h⟩ := Step.gives_bind.mp h
  have hsets : List.Forall₂ IsDocumentOf ex.commandSets sets := by
    refine (Step.forall₂_of_gives_mapM (fun set doc p p' hdoc => ?_) hsets).1
    obtain ⟨text, p₁, htext, hdoc⟩ := Step.gives_bind.mp hdoc
    obtain ⟨rfl, rfl⟩ := Step.gives_pure.mp hdoc
    obtain ⟨hrender, rfl⟩ := gives_jsonText.mp htext
    exact ⟨⟨rfl, hrender⟩, rfl⟩
  cases remove with
  | false =>
    obtain ⟨models, p₂, hmodels, h⟩ := Step.gives_bind.mp h
    obtain ⟨rfl, rfl⟩ := Step.gives_pure.mp hmodels
    obtain ⟨rfl, rfl⟩ := Step.gives_pure.mp h
    exact ⟨sets, [], hsets, Or.inl rfl, rfl⟩
  | true =>
    obtain ⟨text, p₂, _, h⟩ := Step.gives_bind.mp h
    obtain ⟨models, p₃, hmodels, h⟩ := Step.gives_bind.mp h
    obtain ⟨rfl, rfl⟩ := Step.gives_pure.mp hmodels
    obtain ⟨rfl, rfl⟩ := Step.gives_pure.mp h
    exact ⟨sets, _, hsets, Or.inr ⟨text, rfl⟩, rfl⟩

/-- The names of the documents of vocabularies are those of the namespaces. -/
theorem map_fst_vocabularyDocuments (h : r.extract remove locale = .ok ex) :
    (vocabularyDocuments locale ex).map Prod.fst
      = r.decoratedNamespaces.map (vocabularyName locale) := by
  have hnames : (vocabularyDocuments locale ex).map Prod.fst
      = ((ex.index.namespaces.zip ex.vocabularies).map Prod.fst).map
          fun ns => vocabularyName locale ns.text := by
    unfold vocabularyDocuments
    rw [List.map_map, List.map_map]
    rfl
  rw [hnames, List.map_fst_zip (Nat.le_of_eq (Registry.length_vocabularies_of_extract h).symm),
    Registry.namespaces_eq_of_extract h, List.map_map]
  rfl

/-- The documents of vocabularies and of the models have other names, and no two the same. -/
theorem names_of_others (h : r.extract remove locale = .ok ex) {models : List (String × String)}
    (hmodels : models = [] ∨ ∃ text, models = [("models.json", text)]) :
    (∀ doc ∈ vocabularyDocuments locale ex ++ models, IsOtherName doc.1)
      ∧ ((vocabularyDocuments locale ex ++ models).map Prod.fst).Nodup := by
  have hnames := map_fst_vocabularyDocuments h
  have hvocabulary : ∀ doc ∈ vocabularyDocuments locale ex,
      IsOtherName doc.1 ∧ doc.1 ≠ "models.json" := by
    intro doc hdoc
    have hname := List.mem_map_of_mem (f := Prod.fst) hdoc
    rw [hnames] at hname
    obtain ⟨ns, _, hns⟩ := List.mem_map.mp hname
    rw [← hns]
    refine ⟨isOtherName_vocabularyName locale ns, ?_⟩
    show vocabularyName locale ns ≠ "mo" ++ "dels.json"
    exact append_ne_append (by decide) (by decide)
  have hmodel : (∀ doc ∈ models, doc.1 = "models.json") ∧ (models.map Prod.fst).Nodup := by
    rcases hmodels with rfl | ⟨text, rfl⟩
    · simp
    · simp
  refine ⟨fun doc hdoc => ?_, ?_⟩
  · rcases List.mem_append.mp hdoc with hdoc | hdoc
    · exact (hvocabulary doc hdoc).1
    · exact hmodel.1 doc hdoc ▸ isOtherName_models
  · rw [List.map_append, List.nodup_append]
    refine ⟨hnames ▸ r.nodup_decoratedNamespaces.map (vocabularyName_injective locale),
      hmodel.2, fun name hname other hother => ?_⟩
    obtain ⟨doc, hdoc, rfl⟩ := List.mem_map.mp hname
    obtain ⟨doc', hdoc', rfl⟩ := List.mem_map.mp hother
    rw [hmodel.1 doc' hdoc']
    exact (hvocabulary doc hdoc).2

/-- The documents of command sets have the names of their files. -/
theorem map_fst_of_isDocumentOf {sets : List CommandSet} {docs : List (String × String)}
    (h : List.Forall₂ IsDocumentOf sets docs) :
    docs.map Prod.fst = sets.map CommandSet.fileName := by
  have hnames : List.Forall₂ Eq (docs.map Prod.fst) (sets.map CommandSet.fileName) := by
    rw [List.forall₂_map_left_iff, List.forall₂_map_right_iff]
    exact (h.imp fun _ _ hdoc => hdoc.1).flip
  rwa [List.forall₂_eq_eq_eq] at hnames

/-- **Without rivals all documents are there**: one for each command set, then the others. -/
theorem documents_of_extract (h : r.extract remove locale = .ok ex) (hrivals : r.HasNoRivals)
    {docs : List (String × String)}
    (hdocs : (extractedDocuments ex locale remove).Gives p docs p') :
    ∃ sets others, List.Forall₂ IsDocumentOf ex.commandSets sets
      ∧ (∀ doc ∈ others, IsOtherName doc.1) ∧ docs = sets ++ others := by
  obtain ⟨sets, models, hsets, hmodels, rfl⟩ := exists_of_extractedDocuments hdocs
  obtain ⟨hothers, hdistinct⟩ := names_of_others h hmodels
  refine ⟨sets, _, hsets, hothers, ?_⟩
  rw [List.append_assoc]
  refine addDocuments_of_nodup ?_
  rw [List.nil_append, List.map_append, List.nodup_append, map_fst_of_isDocumentOf hsets]
  refine ⟨(Registry.nodup_fileNames_of_extract h).mpr hrivals, hdistinct, ?_⟩
  intro name hname other hother
  obtain ⟨set, _, rfl⟩ := List.mem_map.mp hname
  obtain ⟨doc, hdoc, rfl⟩ := List.mem_map.mp hother
  exact append_ne_of_isOtherName (hothers doc hdoc)

/-! ## The files after a run -/

/-- **The documents of command sets can be read** once all documents are written to a
directory, if their names are different and without slashes. -/
theorem read_of_documents {t t' : FileTree} {directory : String} {sets : List CommandSet}
    {docs others : List (String × String)} (hsets : List.Forall₂ IsDocumentOf sets docs)
    (hdistinct : (sets.map CommandSet.fileName).Nodup)
    (hslash : ∀ set ∈ sets, '/' ∉ set.fileName.toList)
    (hothers : ∀ doc ∈ others, IsOtherName doc.1)
    (h : t.writeAll ((docs ++ others).map fun doc => (FilePath.inside directory doc.1, doc.2))
      = .ok t') {doc : String × String} (hdoc : doc ∈ docs) :
    t'.read (FilePath.inside directory doc.1) = .ok doc.2 := by
  have hname : ∀ doc ∈ docs, ∃ set ∈ sets, doc.1 = set.fileName := fun doc hdoc =>
    (exists_mem_of_forall₂ hsets hdoc).imp fun set hset => ⟨hset.1, hset.2.1⟩
  rw [← map_fst_of_isDocumentOf hsets] at hdistinct
  obtain ⟨before, after, rfl⟩ := List.append_of_mem hdoc
  obtain ⟨set, hset, heq⟩ := hname doc hdoc
  have hapart : ∀ later ∈ after ++ others, FilePath.Apart doc.1 later.1 := by
    intro later hlater
    rw [heq]
    rcases List.mem_append.mp hlater with hafter | hother
    · obtain ⟨set', hset', heq'⟩ := hname later
        (List.mem_append_right _ (List.mem_cons_of_mem _ hafter))
      rw [heq']
      refine apart_fileName (hslash set hset) (hslash set' hset') ?_
      rw [← heq, ← heq']
      rw [List.map_append, List.map_cons, List.nodup_append, List.nodup_cons] at hdistinct
      exact fun hsame => hdistinct.2.1.1 (hsame ▸ List.mem_map_of_mem hafter)
    · exact apart_of_isOtherName (hslash set hset) (hothers later hother)
  rw [List.append_assoc, List.map_append, List.cons_append, List.map_cons] at h
  have hread := FileTree.read_of_writeAll h fun other hother => by
    obtain ⟨later, hlater, rfl⟩ := List.mem_map.mp hother
    exact FilePath.Apart.inside (hapart later hlater)
  exact hread

/-- **What extracting into a directory writes**: the documents, if there are any, one after
the other. -/
theorem exists_writeAll_of_runExtract {models directory : String} {p₀ : Progress}
    (hr : (loadModels models).Gives p r p₀) (hex : r.extract remove locale = .ok ex)
    (h : (runExtract models locale remove (some directory)).Gives p () p') :
    ∃ docs p₁, (extractedDocuments ex locale remove).Gives p₀ docs p₁ ∧ (docs = [] ∨
      ∃ t : FileTree, t.writeAll (docs.map fun doc => (FilePath.inside directory doc.1, doc.2))
        = .ok p'.files) := by
  obtain ⟨r', p₁, hr', h⟩ := Step.gives_bind.mp h
  obtain ⟨rfl, rfl⟩ := hr.unique hr'
  obtain ⟨ex', p₂, hex', h⟩ := Step.gives_bind.mp h
  obtain ⟨hextract, rfl⟩ := Step.gives_report.mp hex'
  obtain rfl := Except.ok.inj (hex.symm.trans hextract)
  obtain ⟨docs, p₃, hdocs, h⟩ := Step.gives_bind.mp h
  refine ⟨docs, p₃, hdocs, ?_⟩
  split at h
  · rename_i hempty
    exact Or.inl (List.isEmpty_iff.mp hempty)
  · obtain ⟨_, p₄, _, h⟩ := Step.gives_bind.mp h
    obtain ⟨_, p₅, hwrite, h⟩ := Step.gives_bind.mp h
    refine Or.inr ⟨p₄.files, ?_⟩
    rw [files_of_say h]
    refine writeAll_of_forM (fun doc p p' hdoc => ?_) hwrite
    obtain ⟨_, p₆, hfile, hdoc⟩ := Step.gives_bind.mp hdoc
    obtain ⟨t, ht, rfl⟩ := gives_writeFile.mp hfile
    rw [files_of_say hdoc]
    exact ht

/-- Writes a document to a directory, and says so. -/
def writeDocument (directory : String) (doc : String × String) : Step Unit := do
  let path := FilePath.inside directory doc.1
  writeFile path doc.2
  say ("[green]Written:[/green] " ++ path)

/-- A document that can be written is, and the message about it can be shown. -/
theorem exists_gives_writeDocument {directory : String} {doc : String × String} {t : FileTree}
    (hpath : '[' ∉ (FilePath.inside directory doc.1).toList)
    (hwrite : p.files.write (FilePath.inside directory doc.1) doc.2 = .ok t) :
    ∃ p', (writeDocument directory doc).Gives p () p' ∧ p'.files = t := by
  have hbracket : '[' ∉ "Written:".toList := by decide
  have hslash : '\\' ∉ "Written:".toList := by decide
  have hrest : '[' ∉ (" " ++ FilePath.inside directory doc.1).toList := by simpa using hpath
  obtain ⟨lines, hlines⟩ := Page.exists_messageLines_green hbracket hslash hrest
  rw [← String.append_assoc] at hlines
  exact ⟨_, Step.gives_bind.mpr ⟨(), _, gives_writeFile.mpr ⟨t, hwrite, rfl⟩,
    gives_say.mpr ⟨lines, hlines, rfl⟩⟩, rfl⟩

/-- The message that a command for extraction ends with. -/
def summary (locale : String) (ex : Extraction) : String :=
  "\n[bold]Extracted[/bold] " ++ toString ex.commandSets.length ++ " command set(s) and "
    ++ toString ex.vocabularies.length ++ " vocabular(ies) [dim]→ locale: " ++ locale
    ++ "[/dim]"

/-- **Extracting into a directory succeeds** if the directory can be made, the documents
written, and the last message shown. No bracket in a path is taken for a tag. -/
theorem run_extract_of_writeAll {files : FileTree} {args : List String} {models directory : String}
    {docs : List (String × String)} {t t' : FileTree}
    (hargs : Request.ofArguments args = .ok (.extract models locale remove (some directory)))
    (hr : (loadModels models).Gives ⟨files, [], []⟩ r p) (hex : r.extract remove locale = .ok ex)
    (hdocs : (extractedDocuments ex locale remove).Gives p docs p') (hne : docs ≠ [])
    (hdirectory : p'.files.makeDirectories directory = .ok t)
    (hall : t.writeAll (docs.map fun doc => (FilePath.inside directory doc.1, doc.2)) = .ok t')
    (hpaths : ∀ doc ∈ docs, '[' ∉ (FilePath.inside directory doc.1).toList)
    (hsummary : ∃ lines, Page.messageLines (summary locale ex) = .ok lines) :
    (run files args).exitCode = 0 ∧ (run files args).progress.files = t' := by
  have hstart : Progress.files { p' with files := t } = t := rfl
  rw [← hstart] at hall
  obtain ⟨p₁, hwritten, hfiles⟩ := exists_gives_forM (writeDocument directory)
    (fun doc => (FilePath.inside directory doc.1, doc.2))
    (fun doc hdoc _ _ => exists_gives_writeDocument (hpaths doc hdoc)) hall
  obtain ⟨lines, hlines⟩ := hsummary
  have hempty : docs.isEmpty = false := List.isEmpty_eq_false_iff.mpr hne
  have hrun : (Request.extract models locale remove (some directory)).run.Gives ⟨files, [], []⟩
      () { p₁ with output := p₁.output ++ lines } := by
    refine Step.gives_bind.mpr ⟨r, p, hr, ?_⟩
    refine Step.gives_bind.mpr ⟨ex, p, Step.gives_report.mpr ⟨hex, rfl⟩, ?_⟩
    refine Step.gives_bind.mpr ⟨docs, p', hdocs, ?_⟩
    rw [hempty, if_neg Bool.false_ne_true]
    refine Step.gives_bind.mpr ⟨(), _, gives_makeDirectory.mpr ⟨t, hdirectory, rfl⟩, ?_⟩
    exact Step.gives_bind.mpr ⟨(), p₁, hwritten, gives_say.mpr ⟨lines, hlines, rfl⟩⟩
  obtain ⟨hexit, hprogress⟩ := (gives_request_iff hargs).mp hrun
  refine ⟨hexit, ?_⟩
  rw [hprogress]
  exact hfiles

/-- The tree of files after an extraction into a directory, if nothing keeps it from being
written and reported. -/
def treeAfterExtract (r : Registry) (locale : String) (remove : Bool) (directory : String)
    (files : FileTree) : Option FileTree :=
  match r.extract remove locale with
  | .error _ => none
  | .ok ex =>
    match (extractedDocuments ex locale remove).run.run ⟨files, [], []⟩ with
    | (.error _, _) => none
    | (.ok docs, p) =>
      let paths := docs.map fun doc => (FilePath.inside directory doc.1, doc.2)
      match p.files.makeDirectories directory >>= fun t => t.writeAll paths,
        Page.messageLines (summary locale ex) with
      | .ok t, .ok _ =>
        if docs.isEmpty || paths.any fun path => path.1.toList.contains '[' then none else some t
      | _, _ => none

/-- **That is the tree that the command leaves.** -/
theorem run_extract_of_treeAfter {files t : FileTree} {args : List String}
    {models directory : String}
    (hargs : Request.ofArguments args = .ok (.extract models locale remove (some directory)))
    (hr : (loadModels models).Gives ⟨files, [], []⟩ r ⟨files, [], []⟩)
    (h : treeAfterExtract r locale remove directory files = some t) :
    ∃ ex, r.extract remove locale = .ok ex ∧ (run files args).exitCode = 0
      ∧ (run files args).progress.files = t := by
  unfold treeAfterExtract at h
  split at h
  · cases h
  · rename_i ex hex
    split at h
    · cases h
    · rename_i docs p hdocs
      dsimp only at h
      split at h
      · rename_i t' lines hwritten hlines
        split at h
        · cases h
        · rename_i hchecked
          obtain rfl := Option.some.inj h
          rw [Bool.or_eq_true, not_or, List.any_eq_true, List.isEmpty_iff] at hchecked
          obtain ⟨hne, hbrackets⟩ := hchecked
          have hpaths : ∀ doc ∈ docs, '[' ∉ (FilePath.inside directory doc.1).toList :=
            fun doc hdoc hmem => hbrackets ⟨_, List.mem_map_of_mem hdoc, by simpa using hmem⟩
          cases hdirectory : p.files.makeDirectories directory with
          | error fault => rw [hdirectory] at hwritten; cases hwritten
          | ok made =>
            rw [hdirectory] at hwritten
            exact ⟨ex, hex, run_extract_of_writeAll hargs hr hex hdocs hne hdirectory hwritten
              hpaths ⟨lines, hlines⟩⟩
      · cases h

/-- **Command sets are kept apart exactly if no two namespaces are rivals.** The sets of an
extraction go by the namespaces of its index, which are all different. Their names and
versions are distinct exactly if no two of the namespaces are rivals, and so are the names
of their files. Without rivals and without slashes in namespaces, whenever the command that
extracts the same models into a directory succeeds, the file of each set can be read in that
directory, and has the text of the set. -/
theorem command_sets_kept_apart (h : r.extract remove locale = .ok ex) :
    ex.index.namespaces = r.decoratedNamespaces.map Value.str ∧ r.decoratedNamespaces.Nodup
      ∧ List.Forall₂ CommandSet.GoesBy r.decoratedNamespaces ex.commandSets
      ∧ ((ex.commandSets.map CommandSet.label).Nodup ↔ r.HasNoRivals)
      ∧ ((ex.commandSets.map CommandSet.fileName).Nodup ↔ r.HasNoRivals)
      ∧ (r.HasNoRivals → (∀ s ∈ r.decoratedNamespaces, '/' ∉ s.toList) →
          ∀ (files : FileTree) (args : List String) (models directory : String) (p : Progress),
            Request.ofArguments args = .ok (.extract models locale remove (some directory)) →
            (loadModels models).Gives ⟨files, [], []⟩ r p → (run files args).exitCode = 0 →
            ∀ set ∈ ex.commandSets, ∃ text,
              (Json.document "  ").render set.toDocument = .ok text
                ∧ (run files args).progress.files.read (FilePath.inside directory set.fileName)
                  = .ok text) := by
  have hgoes := Registry.forall₂_goesBy_of_extract h
  refine ⟨Registry.namespaces_eq_of_extract h, r.nodup_decoratedNamespaces, hgoes,
    Registry.nodup_labels_of_extract h, Registry.nodup_fileNames_of_extract h, ?_⟩
  intro hrivals hplain files args models directory p hargs hr hexit set hset
  have hslash : ∀ set ∈ ex.commandSets, '/' ∉ set.fileName.toList := by
    intro set hset
    obtain ⟨s, hs, hgoes⟩ := exists_mem_of_forall₂ hgoes hset
    exact hgoes.slash_not_mem_fileName (hplain s hs)
  obtain ⟨docs, p₁, hdocs, hwritten⟩ :=
    exists_writeAll_of_runExtract hr h ((gives_request_iff hargs).mpr ⟨hexit, rfl⟩)
  obtain ⟨sets, others, hsets, hothers, rfl⟩ := documents_of_extract h hrivals hdocs
  obtain ⟨doc, hdoc, hname, htext⟩ := exists_mem_of_forall₂ hsets.flip hset
  rcases hwritten with hnone | ⟨t, ht⟩
  · rw [(List.append_eq_nil_iff.mp hnone).1] at hdoc
    cases hdoc
  · refine ⟨doc.2, htext, ?_⟩
    rw [← hname]
    exact read_of_documents hsets ((Registry.nodup_fileNames_of_extract h).mpr hrivals) hslash
      hothers ht hdoc

namespace Notices

/-- The file of a namespace that has one decorator, and no declarations. -/
def file (ns : String) (info : Namespace) (h : Namespace.parse ns = .ok info) : ModelFile where
  namespaceText := ns
  info := info
  declarations := []
  decorators := some [⟨.str "Notice", none, []⟩]
  extras := []
  parse_eq := h

/-- The text of two such models, and what it is read as. -/
def modelsText (ns ns' : String) : String :=
  "\x7b\"models\":[" ++ modelText ns ++ "," ++ modelText ns' ++ "]\x7d"
where
  /-- The text of the model of a namespace. -/
  modelText (ns : String) : String :=
    "\x7b\"namespace\":\"" ++ ns ++ "\",\"decorators\":[\x7b\"name\":\"Notice\"\x7d]\x7d"

def document (ns ns' : String) : Value := .object none [("models", .list none [model ns, model ns'])]
where
  /-- The model of a namespace. -/
  model (ns : String) : Value :=
    .object none [("namespace", .str ns),
      ("decorators", .list none [.object none [("name", .str "Notice")]])]

/-- A tree with one file, which holds this text. -/
def files (ns ns' : String) : FileTree := .ofFiles [("models.json", modelsText ns ns')]

/-- The registry of two versions of a namespace. -/
def versions : Registry where
  strict := false
  files := [file "org.acme@1.0.0" _ Namespace.parse_acme,
    file "org.acme@2.0.0" _ Namespace.parse_acme_next]
  distinct := by
    show ["org.acme@1.0.0", "org.acme@2.0.0"].Nodup
    decide

/-- The registry of a namespace without a version and of its first version. -/
def rivals : Registry where
  strict := false
  files := [file "org.acme" ⟨"org.acme", none⟩ (by decide),
    file "org.acme@1.0.0" _ Namespace.parse_acme]
  distinct := by
    show ["org.acme", "org.acme@1.0.0"].Nodup
    decide

/-- A command line that extracts into a directory. -/
def args : List String := ["extract", "models.json", "-o", "out"]

theorem request_args :
    Request.ofArguments args = .ok (.extract "models.json" "en" false (some "out")) := rfl

/-- The names of the files in a tree. -/
def names (t : FileTree) : List (List String) := t.files.map fun file => file.1.names

theorem read_files (ns ns' : String) :
    (files ns ns').read "models.json" = .ok (modelsText ns ns') := rfl

/-- The registry is that of the models in the file. -/
theorem gives_versions : (loadModels "models.json").Gives
    ⟨files "org.acme@1.0.0" "org.acme@2.0.0", [], []⟩ versions
    ⟨files "org.acme@1.0.0" "org.acme@2.0.0", [], []⟩ := by
  have hjson : Json.read (modelsText "org.acme@1.0.0" "org.acme@2.0.0")
      = .ok (document "org.acme@1.0.0" "org.acme@2.0.0") := by
    decide +kernel
  exact gives_loadModels (read_files _ _) (by decide) hjson (by decide +kernel)

theorem command_sets_kept_apart_versions :
    ∃ ex, versions.extract false "en" = .ok ex ∧ (ex.commandSets.map CommandSet.label).Nodup
      ∧ (run (files "org.acme@1.0.0" "org.acme@2.0.0") args).exitCode = 0
      ∧ ∀ set ∈ ex.commandSets, ∃ text, (Json.document "  ").render set.toDocument = .ok text
        ∧ (run (files "org.acme@1.0.0" "org.acme@2.0.0") args).progress.files.read
            (FilePath.inside "out" set.fileName) = .ok text := by
  obtain ⟨hrivals, hplain⟩ : versions.HasNoRivals
      ∧ ∀ s ∈ versions.decoratedNamespaces, '/' ∉ s.toList := by
    decide +kernel
  have htree : (treeAfterExtract versions "en" false "out"
      (files "org.acme@1.0.0" "org.acme@2.0.0")).isSome = true := by
    decide +kernel
  obtain ⟨t, ht⟩ := Option.isSome_iff_exists.mp htree
  obtain ⟨ex, hex, hexit, -⟩ := run_extract_of_treeAfter request_args gives_versions ht
  obtain ⟨-, -, -, hlabels, -, hfiles⟩ := command_sets_kept_apart hex
  exact ⟨ex, hex, hlabels.mpr hrivals, hexit, hfiles hrivals hplain _ _ _ _ _ request_args
    gives_versions hexit⟩

/-- The registry is that of the models in the file. -/
theorem gives_rivals : (loadModels "models.json").Gives
    ⟨files "org.acme" "org.acme@1.0.0", [], []⟩ rivals
    ⟨files "org.acme" "org.acme@1.0.0", [], []⟩ := by
  have hjson : Json.read (modelsText "org.acme" "org.acme@1.0.0")
      = .ok (document "org.acme" "org.acme@1.0.0") := by
    decide +kernel
  exact gives_loadModels (read_files _ _) (by decide) hjson (by decide +kernel)

/-- The command sets of rivals have one label, and one of the two is not written. -/
theorem one_file_for_two_sets :
    ∃ ex, rivals.extract false "en" = .ok ex
      ∧ ex.index.namespaces = [.str "org.acme", .str "org.acme@1.0.0"]
      ∧ ex.commandSets.map CommandSet.label
        = [(.str "org.acme", .str "1.0.0"), (.str "org.acme", .str "1.0.0")]
      ∧ (run (files "org.acme" "org.acme@1.0.0") args).exitCode = 0
      ∧ names (run (files "org.acme" "org.acme@1.0.0") args).progress.files
        = [["models.json"], ["out", "org.acme@1.0.0.dcs.json"], ["out", "org.acme_en.voc.yaml"],
          ["out", "org.acme@1.0.0_en.voc.yaml"]] := by
  have hnames : (treeAfterExtract rivals "en" false "out"
        (files "org.acme" "org.acme@1.0.0")).map names
      = some [["models.json"], ["out", "org.acme@1.0.0.dcs.json"], ["out", "org.acme_en.voc.yaml"],
          ["out", "org.acme@1.0.0_en.voc.yaml"]] := by
    decide +kernel
  have hextract : (rivals.extract false "en").map
      (fun ex => (ex.index.namespaces, ex.commandSets.map CommandSet.label))
      = .ok ([.str "org.acme", .str "org.acme@1.0.0"],
        [(.str "org.acme", .str "1.0.0"), (.str "org.acme", .str "1.0.0")]) := by
    decide +kernel
  obtain ⟨t, ht, hnames⟩ := Option.map_eq_some_iff.mp hnames
  obtain ⟨ex, hex, hexit, hfiles⟩ := run_extract_of_treeAfter request_args gives_rivals ht
  rw [hex] at hextract
  obtain ⟨hnamespaces, hlabels⟩ := Prod.mk.inj (Except.ok.inj hextract)
  exact ⟨ex, hex, hnamespaces, hlabels, hexit, hfiles ▸ hnames⟩

end Notices

end CommandLine

end DecoratorSets
