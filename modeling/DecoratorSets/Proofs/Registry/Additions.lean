import DecoratorSets.Proofs.Registry.Ascent
import DecoratorSets.Proofs.Registry.Growth
import DecoratorSets.Proofs.Registry.Runs

/-!
# Versions that are added

A name may come to mean something else when one more model is loaded. A model of a namespace that
is loaded already replaces another; and a model of a namespace without a version takes over the
names that stood for its versions so far. A model of a new namespace with a version does neither.

The reason lies in how a namespace is looked up. What it names is the file that is loaded under
it, and a file of another namespace does not change that. Where there is none, it has no
version, so the new file is not loaded under it either; and of the files that have it with a
version the first counts, while the new file comes last (`Registry.Names.of_takesInVersions`).
Whatever is looked up by way of namespaces is then found as before: types, what references
stand for, what declarations extend, and lineages up to their ends
(`Registry.unchanged_of_add`). Payloads that were accepted are accepted still
(`Registry.TakesInVersions.checkInstance`).

What holds of one model holds of many, loaded by whatever calls, of which some may fail
(`Registry.takesInVersions_loadAll`).
-/

namespace DecoratorSets

namespace Registry

/-- **A registry takes in versions** to become another: its files stay in front, and all other
files have namespaces with a version. -/
structure TakesInVersions (r r' : Registry) : Prop where
  front : r.files <+: r'.files
  versions : ∀ f ∈ r'.files, f ∈ r.files ∨ f.info.version ≠ none

variable {r r' : Registry}

/-! ## Taking in files -/

/-- Nothing may be taken in. -/
theorem TakesInVersions.refl (r : Registry) : r.TakesInVersions r where
  front := List.prefix_rfl
  versions := fun _ hf => Or.inl hf

/-- More versions may be taken in after some. -/
theorem TakesInVersions.trans {mid : Registry} (h : r.TakesInVersions mid)
    (h' : mid.TakesInVersions r') : r.TakesInVersions r' where
  front := h.front.trans h'.front
  versions := fun f hf => (h'.versions f hf).elim (h.versions f) Or.inr

/-- **A file of a new namespace with a version** is taken in. -/
theorem takesInVersions_addFile {f : ModelFile} (hnew : f.namespaceText ∉ r.namespaces)
    (hversion : f.info.version ≠ none) (hadd : r.addFile f = .ok r') : r.TakesInVersions r' := by
  obtain ⟨-, rfl⟩ := addFile_eq_ok.mp hadd
  refine ⟨?_, fun g hg => ?_⟩
  · rw [files_store hnew]
    exact List.prefix_append r.files [f]
  · rw [files_store hnew] at hg
    refine (List.mem_append.mp hg).imp_right fun hlast => ?_
    rwa [List.mem_singleton.mp hlast]

/-- Files of new namespaces with versions are taken in one after the other. -/
theorem takesInVersions_foldlM_addFile {fs : List ModelFile}
    (hnew : (r.namespaces ++ fs.map ModelFile.namespaceText).Nodup)
    (hversions : ∀ f ∈ fs, f.info.version ≠ none) (hrun : fs.foldlM addFile r = .ok r') :
    r.TakesInVersions r' := by
  induction fs generalizing r with
  | nil => exact Except.ok.inj hrun ▸ .refl r
  | cons f fs ih =>
    rw [List.foldlM_cons] at hrun
    obtain ⟨mid, hadd, hrest⟩ := Checked.bind_eq_ok.mp hrun
    obtain ⟨hf, hfs⟩ := List.forall_mem_cons.mp hversions
    have hloaded : f.namespaceText ∉ r.namespaces := fun hmem =>
      (List.nodup_append.mp hnew).2.2 _ hmem _ List.mem_cons_self rfl
    have hspaces : mid.namespaces = r.namespaces ++ [f.namespaceText] := by
      obtain ⟨-, rfl⟩ := addFile_eq_ok.mp hadd
      unfold namespaces
      rw [files_store hloaded, List.map_append, List.map_singleton]
    refine (takesInVersions_addFile hloaded hf hadd).trans (ih ?_ hfs hrest)
    rwa [hspaces, List.append_assoc, List.singleton_append]

/-- **A run of calls** that load no namespace twice, and none without a version, takes in
versions, however many of the calls fail. -/
theorem takesInVersions_loadAll {calls : List LoadCall}
    (hnew : (r.namespaces ++ (r.history calls).map ModelFile.namespaceText).Nodup)
    (hversions : ∀ f ∈ r.history calls, f.info.version ≠ none) :
    r.TakesInVersions (r.loadAll calls) :=
  takesInVersions_foldlM_addFile hnew hversions (r.foldlM_history calls)

/-! ## What is found as before -/

/-- **A namespace names the same file** after versions were taken in. -/
theorem Names.of_takesInVersions {ns : String} {f : ModelFile} (hnames : r.Names ns f)
    (h : r.TakesInVersions r') : r'.Names ns f := by
  cases hnames with
  | exact hf hns => exact .exact (h.front.subset hf) hns
  | @versioned before after hnone hfiles hns hfirst =>
    obtain ⟨more, hmore⟩ := h.front
    have hparse : Namespace.parse ns = .ok ⟨ns, none⟩ := hns ▸ Namespace.parse_name f.parse_eq
    have hfiles' : r'.files = before ++ f :: (after ++ more) := by
      rw [← hmore, hfiles, List.append_assoc, List.cons_append]
    refine .versioned (fun g hg heq => ?_) hfiles' hns hfirst
    -- a file that was taken in has a version, and the namespace has none
    rcases h.versions g hg with hmem | hversion
    · exact hnone g hmem heq
    · have hinfo := g.parse_eq
      rw [heq, hparse] at hinfo
      exact hversion (congrArg Namespace.version (Except.ok.inj hinfo)).symm

namespace TakesInVersions

variable (h : r.TakesInVersions r')
include h

/-- The file of a namespace is found as before. -/
theorem find {ns : String} {f : ModelFile} (hfind : r.find ns = .ok (some f)) :
    r'.find ns = .ok (some f) :=
  find_eq_some_iff.mpr ((find_eq_some_iff.mp hfind).of_takesInVersions h)

/-- A type is found as before. -/
theorem getType {s : String} {found : Handle} (hget : r.getType s = .ok found) :
    r'.getType s = .ok found := by
  obtain ⟨ns, name, hsplit, hfind, hd⟩ := lookup?_eq_some.mp (getType_eq_ok.mp hget)
  exact getType_eq_ok.mpr (lookup?_eq_some.mpr ⟨ns, name, hsplit, h.find hfind, hd⟩)

/-- A reference stands for the same declaration, in whatever file it is. -/
theorem resolve {f : ModelFile} {ident : TypeIdentifier} {found : Handle}
    (hresolve : r.resolve f ident = .ok found) : r'.resolve f ident = .ok found := by
  obtain ⟨name, ns⟩ := ident
  have htype : ∀ ns, r.typeIn f name ns = .ok found → r'.typeIn f name ns = .ok found := by
    intro ns hfound
    unfold typeIn at hfound ⊢
    split at hfound
    · cases hfound
    · exact h.getType hfound
  cases hblank : ns.isBlank with
  | true =>
    rw [resolve_of_blank name hblank] at hresolve ⊢
    obtain ⟨ns, hns, hfound⟩ := Checked.bind_eq_ok.mp hresolve
    exact Checked.bind_eq_ok.mpr ⟨ns, hns, htype ns hfound⟩
  | false =>
    rw [resolve_of_not_blank name hblank] at hresolve ⊢
    exact htype ns hresolve

/-- A declaration extends what it extended, if what it extended was found. -/
theorem superType {a : Handle} {up : Option Handle} (hup : r.superType a = .ok up) :
    r'.superType a = .ok up := by
  unfold Registry.superType at hup ⊢
  split at hup
  · exact hup
  · obtain ⟨found, hfound, heq⟩ := Checked.map_eq_ok.mp hup
    exact Checked.map_eq_ok.mpr ⟨found, h.resolve hfound, heq⟩

/-- **A lineage goes on as before**, and is the same if it had its end. -/
theorem goesOn_lineage (a : Handle) : (r.lineage a).GoesOn (r'.lineage a) :=
  Registry.goesOn_lineage fun _ _ _ => h.superType

/-- All names keep their meaning. -/
theorem growsInto (named : String → Prop) : r.GrowsInto r' named where
  references := fun _ _ _ _ _ => h.resolve
  names := fun _ _ _ hfound => getType_eq_ok.mp (h.getType (getType_eq_ok.mpr hfound))

/-- **A payload that was accepted** is accepted. -/
theorem checkInstance {payload : Value} {defaultClass : Option String}
    (haccepted : r.checkInstance payload defaultClass = .ok ()) :
    r'.checkInstance payload defaultClass = .ok () :=
  (h.growsInto fun _ => True).checkInstance (fun _ _ => trivial) (fun _ _ => trivial) haccepted

end TakesInVersions

/-- **Loading another namespace with a version leaves what was found before.** After a model was
loaded whose namespace is new and has an `@`, in a registry that is strict or not, every name of
a type that was found stands for the same declaration in the same file, every lineage that had
its end is the same, and every namespace that named a file names that file. -/
theorem unchanged_of_add {m : Model} {ns : String} (hns : m.namespaceName = .str ns)
    (hat : ns.toList.count '@' = 1) (hnew : ns ∉ r.namespaces) (hadd : r.add m = .ok r') :
    (∀ s found, r.getType s = .ok found → r'.getType s = .ok found)
      ∧ (∀ h, (∀ cause, (r.lineage h).ending ≠ .failed cause) → r'.lineage h = r.lineage h)
      ∧ ∀ s f, r.find s = .ok (some f) → r'.find s = .ok (some f) := by
  obtain ⟨f, hf, hfile⟩ := Checked.bind_eq_ok.mp hadd
  obtain rfl := ModelFile.ofModel_eq_ok.mp hf
  obtain rfl := Value.str.inj hns
  have hversion : f.info.version ≠ none := by
    rw [ne_eq, Namespace.version_eq_none_iff f.parse_eq, not_not]
    exact List.count_pos_iff.mp (by omega)
  have htaken := takesInVersions_addFile hnew hversion hfile
  exact ⟨fun _ _ => htaken.getType, fun h => (htaken.goesOn_lineage h).complete,
    fun _ _ => htaken.find⟩

end Registry

/-! ### Records in their next version -/

namespace Records

open Papers (concept number)

/-- A model of records, in some version or none. -/
def recordModel (namespaceText : String) : Model :=
  ⟨.str namespaceText, [concept "Record" none []], none, []⟩

/-- A file of records with a number, and of documents, which extend them without naming their
version. -/
def recordFile : ModelFile where
  namespaceText := "org.acme@1.0.0"
  info := ⟨"org.acme", some "1.0.0"⟩
  declarations := [concept "Record" none [number],
    concept "Document" (some ⟨.str "Record", .str "org.acme"⟩) []]
  decorators := none
  extras := []
  parse_eq := Namespace.parse_acme

/-- The registry of the file. -/
def registry : Registry where
  strict := true
  files := [recordFile]
  distinct := List.nodup_singleton _

/-- The type of records. -/
def record : Handle := ⟨recordFile, concept "Record" none [number]⟩

/-- The type of documents. -/
def document : Handle :=
  ⟨recordFile, concept "Document" (some ⟨.str "Record", .str "org.acme"⟩) []⟩

/-- Documents extend the records that they extended, although there are new ones. -/
theorem unchanged_of_add_record :
    "org.acme@2.0.0".toList.count '@' = 1 ∧ "org.acme@2.0.0" ∉ registry.namespaces
      ∧ ∃ r', registry.add (recordModel "org.acme@2.0.0") = .ok r'
        ∧ r'.namespaces = ["org.acme@1.0.0", "org.acme@2.0.0"]
        ∧ r'.getType "org.acme.Record" = .ok record
        ∧ r'.lineage document = ⟨[document, record], .complete⟩
        ∧ r'.find "org.acme" = .ok (some recordFile) := by
  have hat : "org.acme@2.0.0".toList.count '@' = 1 := by decide
  have hnew : "org.acme@2.0.0" ∉ registry.namespaces := by decide
  have hadd : (registry.add (recordModel "org.acme@2.0.0")).map Registry.namespaces
      = .ok ["org.acme@1.0.0", "org.acme@2.0.0"] := by
    decide +kernel
  have hbefore : registry.getType "org.acme.Record" = .ok record
      ∧ registry.lineage document = ⟨[document, record], .complete⟩
      ∧ registry.find "org.acme" = .ok (some recordFile) := by
    decide +kernel
  obtain ⟨r', hadd, hspaces⟩ := Checked.map_eq_ok.mp hadd
  obtain ⟨hrecord, hlineage, hfile⟩ := hbefore
  obtain ⟨htypes, hlineages, hfiles⟩ :=
    Registry.unchanged_of_add rfl hat hnew hadd
  have hend : ∀ cause, (registry.lineage document).ending ≠ .failed cause := by
    rw [hlineage]
    exact fun _ => Ending.noConfusion
  exact ⟨hat, hnew, r', hadd, hspaces, htypes _ _ hrecord,
    (hlineages document hend).trans hlineage, hfiles _ _ hfile⟩

/-- Records without a version would take the name over. -/
example : ∃ r', registry.add (recordModel "org.acme") = .ok r'
    ∧ r'.getType "org.acme.Record" ≠ .ok record := ⟨_, rfl, by decide +kernel⟩

end Records

end DecoratorSets
