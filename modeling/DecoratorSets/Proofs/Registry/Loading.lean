import DecoratorSets.Proofs.Names
import DecoratorSets.Registry.Snapshot

/-!
# Loading models and reading them back

A registry keeps one model for each namespace, and only a strict one refuses files: those
of a loaded namespace, and those that declare a name twice (`Registry.addFile_eq_ok`).
Whatever loads several models loads their files one after the other, so it is settled by
what that does: files of new namespaces go behind those that are there
(`Registry.exists_foldlM_addFile`).

A document can therefore be loaded and read back unchanged exactly as far as its
namespaces are distinct texts that can be read. Such a document is `Models.Loadable`, and
a registry that is not strict takes it as it is (`Registry.exists_ofModels`). What a
registry gives back is always of that form, resolved or not
(`Registry.toModels_loadable`, `Registry.resolvedModels_loadable`), so that snapshots can
be loaded again.
-/

namespace DecoratorSets

/-- **Models that can be loaded side by side**: their namespaces are distinct texts
that can be read. -/
structure Models.Loadable (ms : Models) (namespaces : List String) : Prop where
  texts : ms.models.map Model.namespaceName = namespaces.map Value.str
  distinct : namespaces.Nodup
  wellFormed : ∀ s ∈ namespaces, Namespace.IsWellFormed s

namespace ModelFile

/-- **A model is loaded as the file that it is the model of.** -/
theorem ofModel_eq_ok {m : Model} {f : ModelFile} : ofModel m = .ok f ↔ f.toModel = m := by
  constructor
  · intro h
    unfold ofModel at h
    split at h
    · rename_i s hs
      split at h
      · obtain rfl := Except.ok.inj h
        unfold toModel
        rw [← hs]
      · cases h
    · cases h
    · cases h
  · rintro rfl
    unfold ofModel
    split
    · rename_i s hs
      obtain rfl := Value.str.inj hs
      split
      · rename_i info hinfo
        have heq := hinfo.symm.trans f.parse_eq
        obtain rfl := Except.ok.inj heq
        rfl
      · rename_i e herr
        rw [f.parse_eq] at herr
        cases herr
    · rename_i b hb
      cases hb
    · rename_i hstr _
      exact absurd rfl (hstr f.namespaceText)

/-- A model whose namespace can be read is the model of a file. -/
theorem exists_toModel {m : Model} {s : String} (hm : m.namespaceName = .str s)
    (hs : Namespace.IsWellFormed s) : ∃ f : ModelFile, f.namespaceText = s ∧ f.toModel = m := by
  obtain ⟨version, hparse⟩ := Namespace.parse_of_isWellFormed hs
  refine ⟨⟨s, _, m.declarations, m.decorators, m.extras, hparse⟩, rfl, ?_⟩
  unfold toModel
  rw [← hm]

/-- The namespace of a file can be read. -/
theorem namespaceText_isWellFormed (f : ModelFile) : Namespace.IsWellFormed f.namespaceText :=
  Namespace.isWellFormed_of_parse f.parse_eq

end ModelFile

/-! ## Names that are declared once -/

/-- **No two names count as one.** -/
def DistinctNames (names : List Value) : Prop :=
  names.Pairwise fun a b => a.countsAs b = false ∧ b.countsAs a = false

instance (names : List Value) : Decidable (DistinctNames names) :=
  inferInstanceAs (Decidable (List.Pairwise _ _))

/-- Where every item counts as itself, no item counts more than once exactly if no two
items count as one. -/
theorem countP_le_one_iff {α : Type} {same : α → α → Bool} (hself : ∀ a, same a a = true)
    (xs : List α) : (∀ a ∈ xs, xs.countP (same a) ≤ 1)
      ↔ xs.Pairwise fun a b => same a b = false ∧ same b a = false := by
  induction xs with
  | nil => exact iff_of_true (fun _ ha => absurd ha List.not_mem_nil) .nil
  | cons a xs ih =>
    rw [List.forall_mem_cons, List.pairwise_cons, ← ih, List.countP_cons_of_pos (hself a)]
    constructor
    · rintro ⟨ha, hrest⟩
      have hnone : xs.countP (same a) = 0 := by omega
      have hother : ∀ b ∈ xs, same b a = false ∧ xs.countP (same b) ≤ 1 := by
        intro b hb
        have hpos : 0 < xs.countP (same b) := List.countP_pos_iff.mpr ⟨b, hb, hself b⟩
        have hle := hrest b hb
        rw [List.countP_cons] at hle
        cases hba : same b a with
        | false => exact ⟨rfl, by simpa [hba] using hle⟩
        | true =>
          rw [hba, if_pos rfl] at hle
          omega
      exact ⟨fun b hb => ⟨Bool.eq_false_iff.mpr (List.countP_eq_zero.mp hnone b hb),
        (hother b hb).1⟩, fun b hb => (hother b hb).2⟩
    · rintro ⟨ha, hrest⟩
      have hnone : xs.countP (same a) = 0 :=
        List.countP_eq_zero.mpr fun b hb => Bool.eq_false_iff.mp (ha b hb).1
      refine ⟨by omega, fun b hb => ?_⟩
      rw [List.countP_cons_of_neg (Bool.eq_false_iff.mp (ha b hb).2)]
      exact hrest b hb

namespace Registry

/-- **No name is repeated** exactly if no two names count as one. -/
theorem repeatedNames_eq_nil {names : List Value} :
    repeatedNames names = [] ↔ DistinctNames names := by
  rw [DistinctNames, ← countP_le_one_iff Value.countsAs_self, repeatedNames,
    List.filter_eq_nil_iff]
  simp only [decide_eq_true_iff, Nat.not_lt]

/-- **Names pass the check** exactly if no two of them count as one. -/
theorem checkDistinct_eq_ok {namespaceText : String} {names : List Value} :
    checkDistinct namespaceText names = .ok () ↔ DistinctNames names := by
  rw [← repeatedNames_eq_nil]
  unfold checkDistinct
  cases repeatedNames names with
  | nil => exact iff_of_true rfl rfl
  | cons n rest =>
    refine iff_of_false (fun h => ?_) (List.cons_ne_nil n rest)
    obtain ⟨_, _, h⟩ := Checked.bind_eq_ok.mp h
    cases h

/-- **When a registry takes a file, and what comes out.** Only a strict registry refuses
files: one of a loaded namespace, and one that declares a name twice. -/
theorem addFile_eq_ok {r r' : Registry} {f : ModelFile} : r.addFile f = .ok r'
    ↔ (r.strict = true → f.namespaceText ∉ r.namespaces
      ∧ DistinctNames (f.declarations.map Declaration.name)) ∧ r.store f = r' := by
  unfold addFile
  cases hstrict : r.strict with
  | false => simp
  | true =>
    simp only [if_true, forall_const]
    by_cases hloaded : f.namespaceText ∈ r.namespaces
    · rw [if_pos (List.contains_iff_mem.mpr hloaded)]
      exact iff_of_false (fun h => by cases h) fun h => h.1.1 hloaded
    · rw [if_neg (mt List.contains_iff_mem.mp hloaded)]
      show (checkDistinct _ _ >>= fun _ => Except.ok (r.store f)) = _ ↔ _
      rw [Checked.bind_eq_ok]
      constructor
      · rintro ⟨_, hdistinct, h⟩
        exact ⟨⟨hloaded, checkDistinct_eq_ok.mp hdistinct⟩, Except.ok.inj h⟩
      · rintro ⟨⟨-, hdistinct⟩, rfl⟩
        exact ⟨(), checkDistinct_eq_ok.mpr hdistinct, rfl⟩

end Registry

/-- A file of a new namespace goes to the end. -/
theorem storeFile_of_not_mem {file : ModelFile} {files : List ModelFile}
    (h : file.namespaceText ∉ files.map ModelFile.namespaceText) :
    storeFile file files = files ++ [file] := by
  induction files with
  | nil => rfl
  | cons f rest ih =>
    rw [List.map_cons, List.mem_cons, not_or] at h
    rw [storeFile, if_neg (fun e => h.1 e.symm), ih h.2, List.cons_append]

/-- The files besides a stored one are those of other namespaces. -/
theorem mem_storeFile {file f : ModelFile} {files : List ModelFile}
    (hdistinct : (files.map ModelFile.namespaceText).Nodup) (h : f ∈ storeFile file files) :
    f = file ∨ f ∈ files ∧ f.namespaceText ≠ file.namespaceText := by
  induction files with
  | nil => exact Or.inl (List.mem_singleton.mp h)
  | cons g rest ih =>
    obtain ⟨hnew, hrest⟩ := List.nodup_cons.mp hdistinct
    rw [storeFile] at h
    split at h
    · rename_i heq
      rcases List.mem_cons.mp h with rfl | hmem
      · exact Or.inl rfl
      · refine Or.inr ⟨List.mem_cons_of_mem g hmem, fun hsame => hnew ?_⟩
        rw [heq, ← hsame]
        exact List.mem_map_of_mem hmem
    · rename_i hne
      rcases List.mem_cons.mp h with rfl | hmem
      · exact Or.inr ⟨List.mem_cons_self, hne⟩
      · exact (ih hrest hmem).imp_right (And.imp_left (List.mem_cons_of_mem g))

/-! ## Files one after the other -/

namespace Registry

variable {r r' : Registry} {f : ModelFile} {fs : List ModelFile}

/-- A file of a new namespace is stored behind those that are there. -/
theorem files_store (h : f.namespaceText ∉ r.namespaces) : (r.store f).files = r.files ++ [f] :=
  storeFile_of_not_mem h

/-- Loading files leaves a registry as strict as it was. -/
theorem strict_of_foldlM_addFile (h : fs.foldlM addFile r = .ok r') : r'.strict = r.strict := by
  refine Checked.foldlM_keeps (p := fun r' => r'.strict = r.strict) ?_ rfl h
  intro mid hmid f _ next hadd
  obtain ⟨-, rfl⟩ := addFile_eq_ok.mp hadd
  exact hmid

/-- **A strict registry loads files behind those that are there.** -/
theorem files_of_foldlM_addFile (hr : r.strict = true) (h : fs.foldlM addFile r = .ok r') :
    r'.files = r.files ++ fs := by
  induction fs generalizing r with
  | nil =>
    obtain rfl := Except.ok.inj h
    rw [List.append_nil]
  | cons f fs ih =>
    rw [List.foldlM_cons] at h
    obtain ⟨mid, hadd, hrest⟩ := Checked.bind_eq_ok.mp h
    obtain ⟨hstrict, rfl⟩ := addFile_eq_ok.mp hadd
    rw [ih (r := r.store f) hr hrest, files_store (hstrict hr).1, List.append_assoc,
      List.singleton_append]

/-- **Files of new namespaces are loaded behind those that are there**, by a strict
registry if none of them declares a name twice. -/
theorem exists_foldlM_addFile (hnew : (r.namespaces ++ fs.map ModelFile.namespaceText).Nodup)
    (hnames : r.strict = true →
      ∀ f ∈ fs, DistinctNames (f.declarations.map Declaration.name)) :
    ∃ r', fs.foldlM addFile r = .ok r' ∧ r'.files = r.files ++ fs := by
  induction fs generalizing r with
  | nil => exact ⟨r, rfl, (List.append_nil _).symm⟩
  | cons f fs ih =>
    have hloaded : f.namespaceText ∉ r.namespaces := fun hmem =>
      (List.nodup_append.mp hnew).2.2 _ hmem _ List.mem_cons_self rfl
    have hadd : r.addFile f = .ok (r.store f) :=
      addFile_eq_ok.mpr ⟨fun hr => ⟨hloaded, hnames hr f List.mem_cons_self⟩, rfl⟩
    have hspaces : (r.store f).namespaces = r.namespaces ++ [f.namespaceText] := by
      unfold namespaces
      rw [files_store hloaded, List.map_append, List.map_singleton]
    obtain ⟨r', hrun, hfiles⟩ := ih (r := r.store f)
      (by rwa [hspaces, List.append_assoc, List.singleton_append])
      (fun hr g hg => hnames hr g (List.mem_cons_of_mem f hg))
    refine ⟨r', ?_, ?_⟩
    · rw [List.foldlM_cons, hadd, Checked.ok_bind, hrun]
    · rw [hfiles, files_store hloaded, List.append_assoc, List.singleton_append]

/-- Copies of files are all loaded if they are loaded one after the other. -/
theorem addFiles_eq_ok :
    r.addFiles fs = (r', none) ↔ (fs.map ModelFile.copied).foldlM addFile r = .ok r' := by
  induction fs generalizing r with
  | nil =>
    show (r, none) = (r', none) ↔ Except.ok r = Except.ok r'
    simp
  | cons f fs ih =>
    rw [List.map_cons, List.foldlM_cons, addFiles]
    cases r.addFile f.copied with
    | error e => simp
    | ok mid => exact ih

/-- The model of a file is loaded as that file. -/
theorem add_toModel (r : Registry) (f : ModelFile) : r.add f.toModel = r.addFile f := by
  unfold add
  rw [ModelFile.ofModel_eq_ok.mpr rfl, Checked.ok_bind]

/-- A document of the models of files is loaded as those files. -/
theorem ofModels_map_toModel (fs : List ModelFile) (strict : Bool) :
    ofModels ⟨fs.map ModelFile.toModel⟩ strict = fs.foldlM addFile (empty strict) := by
  show (fs.map ModelFile.toModel).foldlM add (empty strict) = _
  rw [List.foldlM_map]
  refine congrArg (fun step => fs.foldlM step (empty strict)) ?_
  funext r f
  exact r.add_toModel f

end Registry

/-! ## Documents of models -/

/-- Models whose namespaces can be read are the models of files. -/
theorem exists_map_toModel {ms : List Model} {namespaces : List String}
    (htexts : ms.map Model.namespaceName = namespaces.map Value.str)
    (hwf : ∀ s ∈ namespaces, Namespace.IsWellFormed s) :
    ∃ fs : List ModelFile, fs.map ModelFile.toModel = ms
      ∧ fs.map ModelFile.namespaceText = namespaces := by
  induction ms generalizing namespaces with
  | nil =>
    obtain rfl := List.map_eq_nil_iff.mp htexts.symm
    exact ⟨[], rfl, rfl⟩
  | cons m ms ih =>
    obtain ⟨s, rest, rfl, hm, hrest⟩ := List.map_eq_cons_iff.mp htexts.symm
    obtain ⟨hs, hothers⟩ := List.forall_mem_cons.mp hwf
    obtain ⟨f, rfl, rfl⟩ := ModelFile.exists_toModel hm.symm hs
    obtain ⟨fs, rfl, rfl⟩ := ih hrest.symm hothers
    exact ⟨f :: fs, rfl, rfl⟩

namespace Registry

/-- **Models that can be loaded side by side are loaded as they are.** -/
theorem exists_ofModels {ms : Models} {namespaces : List String} (h : ms.Loadable namespaces) :
    ∃ r, ofModels ms false = .ok r ∧ r.toModels = ms := by
  obtain ⟨fs, hmodels, hnames⟩ := exists_map_toModel h.texts h.wellFormed
  obtain ⟨r, hload, hfiles⟩ := exists_foldlM_addFile (r := empty false)
    (show ([] ++ fs.map ModelFile.namespaceText).Nodup from hnames ▸ h.distinct)
    fun hstrict => absurd hstrict Bool.false_ne_true
  have hdocument : Models.mk (fs.map ModelFile.toModel) = ms := congrArg Models.mk hmodels
  refine ⟨r, ?_, ?_⟩
  · rw [← hdocument, ofModels_map_toModel, hload]
  · rw [← hdocument]
    exact congrArg (fun fs => Models.mk (fs.map ModelFile.toModel)) hfiles

/-- The models of a registry can be loaded again. -/
theorem toModels_loadable (r : Registry) : r.toModels.Loadable r.namespaces where
  texts := by
    unfold toModels namespaces
    rw [List.map_map, List.map_map]
    rfl
  distinct := r.distinct
  wellFormed := by
    intro s hs
    obtain ⟨f, _, rfl⟩ := List.mem_map.mp hs
    exact f.namespaceText_isWellFormed

/-- The resolved models of a registry can be loaded again. -/
theorem resolvedModels_loadable {r : Registry} {ms : Models} (h : r.resolvedModels = .ok ms) :
    ms.Loadable r.namespaces where
  texts := by
    obtain ⟨models, hmodels, h⟩ := Checked.bind_eq_ok.mp h
    obtain rfl := Except.ok.inj h
    unfold namespaces
    rw [List.map_map]
    refine Checked.map_eq_map_of_mapM (fun f _ m hm => ?_) hmodels
    obtain ⟨ds, _, hm⟩ := Checked.bind_eq_ok.mp hm
    rw [← Except.ok.inj hm]
    rfl
  distinct := r.distinct
  wellFormed := r.toModels_loadable.wellFormed

end Registry

/-- Models with the namespaces of models that can be loaded can be loaded. -/
theorem Models.Loadable.of_namespaces {ms ms' : Models} {namespaces : List String}
    (h : ms.Loadable namespaces)
    (heq : ms'.models.map Model.namespaceName = ms.models.map Model.namespaceName) :
    ms'.Loadable namespaces :=
  ⟨heq.trans h.texts, h.distinct, h.wellFormed⟩

end DecoratorSets
