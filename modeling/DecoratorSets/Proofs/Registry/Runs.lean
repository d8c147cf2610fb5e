import DecoratorSets.Proofs.Registry.Lineage
import DecoratorSets.Proofs.Registry.Loading

/-!
# Runs of loading

A registry comes about by calls that load models, one after the other, and some of them
fail. What it holds in the end is settled by the files that were taken on the way: its
history. The registry of a run lists the namespaces of its history in the order in which
they first occur there, and holds for each of them the last file that was taken for it
(`Registry.Keeps`). In a strict registry no namespace is taken twice, so the registry
*is* its history: nothing is replaced or dropped.

A single file is taken or refused (`Registry.addFile_eq_ok`), and taking one keeps the
invariant (`Registry.Keeps.addFile`). A call is nothing but the taking of some of its
files (`Registry.foldlM_loaded`), so runs keep it as well, and the theorem on runs follows
by induction (`Registry.keeps_of_run`). A snapshot of a registry that keeps its history
can be loaded again in the same mode, strict or not.
-/

namespace DecoratorSets

/-- A call that loads something: a model, the model of a file, or files one after the
other. -/
inductive LoadCall where
  | model (m : Model)
  | file (f : ModelFile)
  | files (fs : List ModelFile)

/-- The files that a call asks to take, in order. A model whose namespace cannot be read
is no file. -/
def LoadCall.offered : LoadCall → List ModelFile
  | .model m => (ModelFile.ofModel m).toOption.toList
  | .file f => [f.copied]
  | .files fs => fs.map ModelFile.copied

namespace Registry

/-! ## Calls and runs -/

/-- Carries out a call, which may fail. -/
def load (r : Registry) : LoadCall → Attempt Registry
  | .model m => attempt r (r.add m)
  | .file f => attempt r (r.addFile f.copied)
  | .files fs => r.addFiles fs

/-- A run: calls one after the other, whether they fail or not. -/
def loadAll (r : Registry) (calls : List LoadCall) : Registry :=
  calls.foldl (fun r call => (r.load call).1) r

/-- The files in front of the first one that is refused. -/
def taken (r : Registry) : List ModelFile → List ModelFile
  | [] => []
  | f :: rest =>
    match r.addFile f with
    | .ok r' => f :: taken r' rest
    | .error _ => []

/-- The files that a call loads. -/
def loaded (r : Registry) (call : LoadCall) : List ModelFile := r.taken call.offered

/-- The files that a run loads, in the order in which they are taken. -/
def history (r : Registry) : List LoadCall → List ModelFile
  | [] => []
  | call :: rest => r.loaded call ++ (r.load call).1.history rest

/-- The registry of a run that starts with nothing. -/
def reached (strict : Bool) (calls : List LoadCall) : Registry :=
  (empty strict).loadAll calls

variable {r r' : Registry}

/-- A single file is taken as an attempt to add it. -/
theorem foldlM_taken_singleton (r : Registry) (f : ModelFile) :
    (r.taken [f]).foldlM addFile r = .ok (attempt r (r.addFile f)).1 := by
  unfold taken
  cases hadd : r.addFile f with
  | error e => rfl
  | ok r' =>
    show (r.addFile f >>= fun r => [].foldlM addFile r) = _
    rw [hadd]
    rfl

/-- Files are taken one after the other as they are added. -/
theorem foldlM_taken_copied (r : Registry) (fs : List ModelFile) :
    (r.taken (fs.map ModelFile.copied)).foldlM addFile r = .ok (r.addFiles fs).1 := by
  induction fs generalizing r with
  | nil => rfl
  | cons f fs ih =>
    rw [List.map_cons, taken, addFiles]
    cases hadd : r.addFile f.copied with
    | error e => rfl
    | ok r' =>
      show (r.addFile f.copied >>= fun r => (taken r' _).foldlM addFile r) = _
      rw [hadd, Checked.ok_bind]
      exact ih r'

/-- **A call is the taking of the files that it loads.** -/
theorem foldlM_loaded (r : Registry) (call : LoadCall) :
    (r.loaded call).foldlM addFile r = .ok (r.load call).1 := by
  cases call with
  | file f => exact r.foldlM_taken_singleton f.copied
  | files fs => exact r.foldlM_taken_copied fs
  | model m =>
    show (r.taken (ModelFile.ofModel m).toOption.toList).foldlM addFile r
      = .ok (attempt r (ModelFile.ofModel m >>= r.addFile)).1
    cases ModelFile.ofModel m with
    | error e => rfl
    | ok f => exact r.foldlM_taken_singleton f

/-- **A run is the taking of its history.** -/
theorem foldlM_history (r : Registry) (calls : List LoadCall) :
    (r.history calls).foldlM addFile r = .ok (r.loadAll calls) := by
  induction calls generalizing r with
  | nil => rfl
  | cons call rest ih =>
    rw [history, List.foldlM_append, foldlM_loaded, Checked.ok_bind]
    exact ih (r.load call).1

/-- Files that are all loaded are all taken. -/
theorem taken_of_foldlM {fs : List ModelFile} (h : fs.foldlM addFile r = .ok r') :
    r.taken fs = fs := by
  induction fs generalizing r with
  | nil => rfl
  | cons f fs ih =>
    rw [List.foldlM_cons] at h
    obtain ⟨mid, hadd, hrest⟩ := Checked.bind_eq_ok.mp h
    rw [taken, hadd]
    exact congrArg (List.cons f) (ih hrest)

/-- **A call that succeeds** loads all that it asks for. -/
theorem loaded_of_load {call : LoadCall} (h : r.load call = (r', none)) :
    r.loaded call = call.offered := by
  have hsingle : ∀ f, r.addFile f = .ok r' → r.taken [f] = [f] := by
    intro f hadd
    have hrun : [f].foldlM addFile r = .ok r' := Checked.bind_eq_ok.mpr ⟨r', hadd, rfl⟩
    exact taken_of_foldlM hrun
  cases call with
  | file f => exact hsingle f.copied (attempt_eq.mp h)
  | files fs => exact taken_of_foldlM (addFiles_eq_ok.mp h)
  | model m =>
    obtain ⟨f, hf, hadd⟩ := Checked.bind_eq_ok.mp (attempt_eq.mp h)
    have hoffered : (LoadCall.model m).offered = [f] := by
      show (ModelFile.ofModel m).toOption.toList = [f]
      rw [hf]
      rfl
    unfold loaded
    rw [hoffered]
    exact hsingle f hadd

theorem history_append (r : Registry) (calls more : List LoadCall) :
    r.history (calls ++ more) = r.history calls ++ (r.loadAll calls).history more := by
  induction calls generalizing r with
  | nil => rfl
  | cons call rest ih =>
    rw [List.cons_append, history, ih, history, List.append_assoc]
    rfl

theorem loadAll_append (r : Registry) (calls more : List LoadCall) :
    r.loadAll (calls ++ more) = (r.loadAll calls).loadAll more :=
  List.foldl_append

/-! ## What a registry keeps of its history -/

/-- **A registry keeps a history**: its namespaces are those of the history in the order in
which they first occur, and each of its files, stored under its own namespace, is the last
one there. A strict registry is the history itself. -/
structure Keeps (r : Registry) (history : List ModelFile) : Prop where
  order : r.namespaces = withoutRepetitions (history.map ModelFile.namespaceText)
  last : ∀ f ∈ r.files, ∃ before after, history = before ++ f :: after
    ∧ ∀ g ∈ after, g.namespaceText ≠ f.namespaceText
  strict : r.strict = true → r.files = history
    ∧ ∀ f ∈ r.files, DistinctNames (f.declarations.map Declaration.name)

/-- A registry without files keeps the empty history. -/
theorem keeps_empty (strict : Bool) : (empty strict).Keeps [] where
  order := rfl
  last := fun _ hf => absurd hf List.not_mem_nil
  strict := fun _ => ⟨rfl, fun _ hf => absurd hf List.not_mem_nil⟩

/-- A name behind others is one more if it is not among them. -/
theorem withoutRepetitions_concat (names : List String) (s : String) :
    withoutRepetitions (names ++ [s])
      = if (withoutRepetitions names).contains s then withoutRepetitions names
        else withoutRepetitions names ++ [s] := by
  unfold withoutRepetitions
  rw [List.foldl_append]
  rfl

/-- **Taking a file keeps the history**, which is longer by that file. -/
theorem Keeps.addFile {history : List ModelFile} (h : r.Keeps history) {f : ModelFile}
    (hadd : r.addFile f = .ok r') : r'.Keeps (history ++ [f]) := by
  obtain ⟨hstrict, rfl⟩ := addFile_eq_ok.mp hadd
  refine ⟨?_, fun g hg => ?_, fun hr => ?_⟩
  · have hnames : (r.store f).namespaces = if f.namespaceText ∈ r.namespaces then r.namespaces
        else r.namespaces ++ [f.namespaceText] := map_namespaceText_storeFile f r.files
    rw [hnames, List.map_append, List.map_singleton, withoutRepetitions_concat, ← h.order]
    simp only [List.contains_iff_mem]
  · rcases mem_storeFile r.distinct hg with rfl | ⟨hmem, hne⟩
    · exact ⟨history, [], rfl, fun _ hnone => absurd hnone List.not_mem_nil⟩
    · obtain ⟨before, after, rfl, hafter⟩ := h.last g hmem
      refine ⟨before, after ++ [f], by rw [List.append_assoc, List.cons_append], ?_⟩
      exact List.forall_mem_append.mpr ⟨hafter, List.forall_mem_singleton.mpr hne.symm⟩
  · obtain ⟨hfiles, hdistinct⟩ := h.strict hr
    obtain ⟨hnew, hnames⟩ := hstrict hr
    rw [files_store hnew, hfiles]
    refine ⟨rfl, List.forall_mem_append.mpr ⟨?_, List.forall_mem_singleton.mpr hnames⟩⟩
    rwa [← hfiles]

/-- Taking files keeps the history, which is longer by those files. -/
theorem Keeps.foldlM_addFile {history : List ModelFile} (h : r.Keeps history)
    {fs : List ModelFile} (hrun : fs.foldlM Registry.addFile r = .ok r') :
    r'.Keeps (history ++ fs) := by
  induction fs generalizing r history with
  | nil =>
    obtain rfl := Except.ok.inj hrun
    rwa [List.append_nil]
  | cons f fs ih =>
    rw [List.foldlM_cons] at hrun
    obtain ⟨mid, hadd, hrest⟩ := Checked.bind_eq_ok.mp hrun
    rw [← List.singleton_append, ← List.append_assoc]
    exact ih (h.addFile hadd) hrest

/-- **What is reached keeps the history of the run.** -/
theorem keeps_reached (strict : Bool) (calls : List LoadCall) :
    (reached strict calls).Keeps ((empty strict).history calls) :=
  (keeps_empty strict).foldlM_addFile ((empty strict).foldlM_history calls)

/-! ## Strictness -/

/-- A run leaves a registry as strict as it was. -/
theorem strict_loadAll (r : Registry) (calls : List LoadCall) :
    (r.loadAll calls).strict = r.strict :=
  strict_of_foldlM_addFile (r.foldlM_history calls)

/-- **In a strict registry nothing is replaced or dropped**, whatever is called next. -/
theorem files_prefix_loadAll (hr : r.strict = true) (calls : List LoadCall) :
    r.files <+: (r.loadAll calls).files := by
  rw [files_of_foldlM_addFile hr (r.foldlM_history calls)]
  exact List.prefix_append _ _

/-! ## Refusals -/

/-- **When a model is refused**: its namespace cannot be read, or the registry is strict
and its namespace is loaded or it declares a name twice. -/
theorem add_eq_error_iff (r : Registry) {m : Model} {s : String}
    (hm : m.namespaceName = .str s) : (∃ e, r.add m = .error e)
      ↔ ¬ Namespace.IsWellFormed s ∨ r.strict = true ∧ (s ∈ r.namespaces
        ∨ ¬ DistinctNames (m.declarations.map Declaration.name)) := by
  have hnot : (∃ e, r.add m = .error e) ↔ ¬ ∃ r', r.add m = .ok r' := by
    cases r.add m with
    | error e => simp
    | ok r' => simp
  rw [hnot]
  by_cases hwf : Namespace.IsWellFormed s
  · obtain ⟨f, rfl, rfl⟩ := ModelFile.exists_toModel hm hwf
    have htaken : (∃ r', r.add f.toModel = .ok r') ↔ (r.strict = true →
        f.namespaceText ∉ r.namespaces
          ∧ DistinctNames (f.toModel.declarations.map Declaration.name)) := by
      rw [add_toModel]
      simp only [addFile_eq_ok, exists_and_left, exists_eq', and_true]
      rfl
    rw [htaken, Classical.not_imp, not_and_or, not_not]
    simp only [hwf, not_true_eq_false, false_or]
  · refine iff_of_true ?_ (Or.inl hwf)
    rintro ⟨r', hadd⟩
    obtain ⟨f, hf, -⟩ := Checked.bind_eq_ok.mp hadd
    obtain rfl := ModelFile.ofModel_eq_ok.mp hf
    exact hwf (Value.str.inj hm ▸ f.namespaceText_isWellFormed)

/-- **Where loading files fails**, the files in front of the first that is refused have
been loaded, and no others. -/
theorem exists_of_addFiles {fs : List ModelFile} {e : Failure}
    (h : r.addFiles fs = (r', some e)) : ∃ before f after, fs = before ++ f :: after
      ∧ r.addFiles before = (r', none) ∧ r'.addFile f.copied = .error e := by
  induction fs generalizing r with
  | nil => cases congrArg Prod.snd h
  | cons f fs ih =>
    rw [addFiles] at h
    split at h
    · rename_i mid hadd
      obtain ⟨before, g, after, rfl, hbefore, hg⟩ := ih h
      refine ⟨f :: before, g, after, rfl, ?_, hg⟩
      rw [addFiles, hadd]
      exact hbefore
    · rename_i cause hadd
      obtain ⟨rfl, hcause⟩ := Prod.mk.inj h
      exact ⟨[], f, fs, rfl, rfl, Option.some.inj hcause ▸ hadd⟩

/-! ## Loading a snapshot -/

/-- A registry is its mode and its files. -/
theorem eq_of_files (hstrict : r.strict = r'.strict) (hfiles : r.files = r'.files) : r = r' := by
  obtain ⟨_, _, _⟩ := r
  obtain ⟨_, _, _⟩ := r'
  obtain rfl : _ = _ := hstrict
  obtain rfl : _ = _ := hfiles
  rfl

/-- **A snapshot is loaded as the registry that it was made of**, in the same mode. -/
theorem Keeps.ofModels_toModels {history : List ModelFile} (h : r.Keeps history) :
    ofModels r.toModels r.strict = .ok r := by
  obtain ⟨r', hrun, hfiles⟩ := exists_foldlM_addFile (r := empty r.strict)
    (show ([] ++ r.files.map ModelFile.namespaceText).Nodup from r.distinct)
    fun hr => (h.strict hr).2
  have hstrict : r'.strict = r.strict := (strict_of_foldlM_addFile hrun :)
  have hsame : r' = r := eq_of_files hstrict (hfiles.trans (List.nil_append r.files))
  unfold toModels
  rw [ofModels_map_toModel, hrun, hsame]

/-! ## Runs -/

/-- **What a run keeps.** Whatever was called on a new registry and however often it
failed: the registry keeps the history of the run, and each file is found under its own
namespace, which can be read. A call that succeeds adds all that it asks for to the
history. A strict registry never loses a file. A model is refused for its namespace or its
names alone, a failing call leaves what was loaded before it, and the snapshot of the
registry is loaded as that registry. -/
theorem keeps_of_run (strict : Bool) (calls : List LoadCall) :
    (reached strict calls).strict = strict
      ∧ (reached strict calls).namespaces.Nodup
      ∧ (∀ f ∈ (reached strict calls).files, Namespace.IsWellFormed f.namespaceText
        ∧ (reached strict calls).file? f.namespaceText = some f)
      ∧ (reached strict calls).Keeps ((empty strict).history calls)
      ∧ (∀ call r', (reached strict calls).load call = (r', none) →
        (empty strict).history (calls ++ [call]) = (empty strict).history calls ++ call.offered)
      ∧ (strict = true → ∀ more,
        (reached strict calls).files <+: (reached strict (calls ++ more)).files)
      ∧ (∀ (m : Model) (s : String), m.namespaceName = .str s →
        ((∃ e, (reached strict calls).add m = .error e) ↔ ¬ Namespace.IsWellFormed s
          ∨ strict = true ∧ (s ∈ (reached strict calls).namespaces
            ∨ ¬ DistinctNames (m.declarations.map Declaration.name))))
      ∧ (∀ m r' e, (reached strict calls).load (.model m) = (r', some e) →
        r' = reached strict calls)
      ∧ (∀ f r' e, (reached strict calls).load (.file f) = (r', some e) →
        r' = reached strict calls)
      ∧ (∀ fs r' e, (reached strict calls).load (.files fs) = (r', some e) →
        ∃ before f after, fs = before ++ f :: after
          ∧ (reached strict calls).load (.files before) = (r', none)
          ∧ r'.addFile f.copied = .error e)
      ∧ ofModels (reached strict calls).toModels strict = .ok (reached strict calls) := by
  have hstrict : (reached strict calls).strict = strict := strict_loadAll (empty strict) calls
  have hkeeps := keeps_reached strict calls
  refine ⟨hstrict, (reached strict calls).distinct, ?_, hkeeps, ?_, ?_, ?_, ?_, ?_, ?_, ?_⟩
  · exact fun f hf => ⟨f.namespaceText_isWellFormed, file?_of_mem hf⟩
  · intro call r' hload
    rw [history_append, ← loaded_of_load hload]
    exact congrArg (_ ++ ·) (List.append_nil _)
  · intro hs more
    unfold reached
    rw [loadAll_append]
    exact files_prefix_loadAll (hstrict.trans hs) more
  · intro m s hm
    have hrefused := add_eq_error_iff (reached strict calls) hm
    rwa [hstrict] at hrefused
  · exact fun m r' e => eq_of_attempt
  · exact fun f r' e => eq_of_attempt
  · exact fun fs r' e h => exists_of_addFiles h
  · have hloaded := hkeeps.ofModels_toModels
    rwa [hstrict] at hloaded

/-- A namespace that is loaded again keeps its place, and one that cannot be read is
passed over. -/
example : (reached false [.model ⟨"a@1", [], none, []⟩, .model ⟨"b", [], none, []⟩,
    .model ⟨"c@1@2", [], none, []⟩, .model ⟨"a@1", [], some [], []⟩]).toModels
      = ⟨[⟨"a@1", [], some [], []⟩, ⟨"b", [], none, []⟩]⟩ := rfl

end Registry

end DecoratorSets
