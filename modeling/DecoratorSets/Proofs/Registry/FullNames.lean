import DecoratorSets.Proofs.Registry.Ascent

/-!
# Types and their full names

A type goes by several names. A namespace without a version may stand for the first file that
has it with one, so `org.acme.Letter` and `org.acme@2.0.0.Letter` can be one type. Among its
names the full name is the one that tells where the type is: the namespace that its file is
loaded under, a dot, and its short name.

Looking up a name and taking the full name of what was found are inverse to each other, as far
as they can be (`Registry.fullName_inverse_of_getType`). A type that was found under any name is
found again under its full name. A full name that is made of a loaded namespace and a short name
in it is the full name of what is found under it. Nothing else that is loaded can come between:
a namespace names the file that is loaded under it before any other, and a short name without
dots is what follows the last dot, whatever dots there are in front of it, in versions too.

A short name with dots is lost in a full name. The handles that are found under their full names
are therefore those of listed declarations, in files whose namespace is not empty
(`Registry.lookup?_fullName_iff`).
-/

namespace DecoratorSets

/-- **The first declaration of a name** stands behind declarations of other names. -/
theorem ModelFile.declaration?_eq_some_iff {f : ModelFile} {name : String} {d : Declaration} :
    f.declaration? (.str name) = some d ↔ d.name = .str name
      ∧ ∃ before after, f.declarations = before ++ d :: after
        ∧ ∀ other ∈ before, other.name ≠ .str name := by
  unfold ModelFile.declaration? Model.declaration? ModelFile.toModel
  simp only [List.find?_eq_some_iff_append, Value.sameAs_str_iff, Bool.not_eq_true',
    Bool.eq_false_iff, ne_eq]

/-- The full name of a declaration whose name is a text. -/
theorem Handle.fullName_of_name {h : Handle} {name : String}
    (hname : h.declaration.name = .str name) :
    h.fullName = typeName h.file.namespaceText name := by
  unfold Handle.fullName
  rw [hname, Value.text_str]

/-- A file of an empty namespace has no other name. -/
theorem ModelFile.unversioned_of_empty {f : ModelFile} (h : f.namespaceText = "") :
    f.unversioned = "" :=
  have hparse : Namespace.parse "" = .ok ⟨"", none⟩ := rfl
  unversioned_eq_of_parse hparse h

namespace Registry

variable {r : Registry}

/-- What a namespace names is not loaded under the empty one. -/
theorem namespaceText_ne_empty_of_find {ns : String} {f : ModelFile} (hne : ns ≠ "")
    (hfind : r.find ns = .ok (some f)) : f.namespaceText ≠ "" := by
  intro hempty
  obtain ⟨-, rfl | ⟨-, rfl⟩⟩ := namespaceText_of_find hfind
  · exact hne hempty
  · exact hne (ModelFile.unversioned_of_empty hempty)

/-- **A declaration is found under its full name** exactly if it can be found by name in a file
whose namespace is not empty. -/
theorem lookup?_fullName_iff {h : Handle} :
    r.lookup? h.fullName = some h ↔ r.Lists h ∧ h.file.namespaceText ≠ "" := by
  constructor
  · intro hfound
    obtain ⟨ns, name, hsplit, hfind, -⟩ := lookup?_eq_some.mp hfound
    obtain ⟨-, hne, -⟩ := splitTypeName_eq_ok hsplit
    exact ⟨lists_of_lookup? hfound, namespaceText_ne_empty_of_find hne hfind⟩
  · rintro ⟨hh, hne⟩
    obtain ⟨name, hdot, hd⟩ := hh.declaration
    rw [Handle.fullName_of_name (ModelFile.name_of_declaration? hd)]
    exact lookup?_of_mem hh.file hne hdot hd

/-- What is found under a name has it as its full name exactly if a file is **loaded under its
namespace**. -/
theorem fullName_eq_iff_of_lookup? {ns name : String} {h : Handle} (hdot : '.' ∉ name.toList)
    (hfind : r.find ns = .ok (some h.file)) (hname : h.declaration.name = .str name) :
    h.fullName = typeName ns name ↔ ns ∈ r.namespaces := by
  rw [Handle.fullName_of_name hname]
  constructor
  · intro heq
    obtain ⟨rfl, -⟩ := typeName_inj hdot hdot heq
    exact List.mem_map_of_mem (mem_of_find hfind)
  · intro hloaded
    obtain ⟨f, hf, rfl⟩ := List.mem_map.mp hloaded
    rw [Option.some.inj (Except.ok.inj ((find_of_mem hf).symm.trans hfind))]

/-- **Finding types and taking their full names are inverse.** What is found under a name has
what follows the last dot as its short name, and is the first declaration of that name in a file
that is loaded. It is found again under its full name, which is the name itself exactly if a file
is loaded under the namespace in it. And wherever a file with a namespace declares a short name
without dots, something is found under the namespace, a dot and the short name, and that is its
full name. -/
theorem fullName_inverse_of_getType (r : Registry) :
    (∀ s h, r.getType s = .ok h → ∃ ns name, s = typeName ns name ∧ '.' ∉ name.toList
      ∧ h.declaration.name = .str name ∧ h.file ∈ r.files
      ∧ (∃ before after, h.file.declarations = before ++ h.declaration :: after
        ∧ ∀ other ∈ before, other.name ≠ .str name)
      ∧ r.getType h.fullName = .ok h ∧ (h.fullName = s ↔ ns ∈ r.namespaces))
    ∧ ∀ f ∈ r.files, f.namespaceText ≠ "" → ∀ name : String, '.' ∉ name.toList →
      (∃ d ∈ f.declarations, d.name = .str name) →
        ∃ h, r.getType (typeName f.namespaceText name) = .ok h ∧ h.file = f
          ∧ h.fullName = typeName f.namespaceText name := by
  constructor
  · intro s h hget
    have hfound := getType_eq_ok.mp hget
    obtain ⟨ns, name, hsplit, hfind, hd⟩ := lookup?_eq_some.mp hfound
    obtain ⟨rfl, hne, hdot⟩ := splitTypeName_eq_ok hsplit
    obtain ⟨hname, hfirst⟩ := ModelFile.declaration?_eq_some_iff.mp hd
    refine ⟨ns, name, rfl, hdot, hname, mem_of_find hfind, hfirst, ?_,
      fullName_eq_iff_of_lookup? hdot hfind hname⟩
    exact getType_eq_ok.mpr (lookup?_fullName_iff.mpr
      ⟨lists_of_lookup? hfound, namespaceText_ne_empty_of_find hne hfind⟩)
  · intro f hf hne name hdot hdeclared
    obtain ⟨d, hd⟩ := ModelFile.exists_declaration?_iff.mpr hdeclared
    exact ⟨⟨f, d⟩, getType_eq_ok.mpr (lookup?_of_mem hf hne hdot hd), rfl,
      Handle.fullName_of_name (ModelFile.name_of_declaration? hd)⟩

end Registry

/-! ### Letters in two versions -/

namespace Letters

open Papers (concept here)

/-- A file in which letters are declared twice. -/
def letterFile (namespaceText : String) (info : Namespace)
    (parse_eq : Namespace.parse namespaceText = .ok info) : ModelFile where
  namespaceText
  info
  declarations := [concept "Envelope" none [], concept "Letter" (here "Envelope") [],
    concept "Letter" none []]
  decorators := none
  extras := []
  parse_eq

/-- The file in its next version. -/
def nextFile : ModelFile := letterFile _ _ Namespace.parse_acme_next

/-- The file in its first version. -/
def firstFile : ModelFile := letterFile _ _ Namespace.parse_acme

/-- Both versions, the next one in front. -/
def registry : Registry where
  strict := false
  files := [nextFile, firstFile]
  distinct := by
    show ["org.acme@2.0.0", "org.acme@1.0.0"].Nodup
    decide

/-- The type of letters of a file. -/
def letter (f : ModelFile) : Handle := ⟨f, concept "Letter" (here "Envelope") []⟩

/-- Letters without a version are those of the version in front, and letters of the other version
are found next to them. -/
theorem fullName_inverse_of_getType_letter :
    registry.getType "org.acme.Letter" = .ok (letter nextFile)
      ∧ registry.getType (letter nextFile).fullName = .ok (letter nextFile)
      ∧ (letter nextFile).fullName = "org.acme@2.0.0.Letter"
      ∧ firstFile ∈ registry.files ∧ firstFile.namespaceText ≠ "" ∧ '.' ∉ "Letter".toList
      ∧ (∃ d ∈ firstFile.declarations, d.name = .str "Letter")
      ∧ ∃ h, registry.getType "org.acme@1.0.0.Letter" = .ok h ∧ h.file = firstFile
        ∧ h.fullName = "org.acme@1.0.0.Letter" := by
  have hletter : registry.getType "org.acme.Letter" = .ok (letter nextFile) := by
    decide +kernel
  have hfile : firstFile ∈ registry.files := List.mem_cons_of_mem _ List.mem_cons_self
  have hne : firstFile.namespaceText ≠ "" := by decide
  have hdot : '.' ∉ "Letter".toList := by decide
  have hdeclared : ∃ d ∈ firstFile.declarations, d.name = .str "Letter" :=
    ⟨_, List.mem_cons_of_mem _ List.mem_cons_self, rfl⟩
  obtain ⟨hfound, hnamed⟩ := Registry.fullName_inverse_of_getType registry
  obtain ⟨_, _, -, -, -, -, -, hagain, -⟩ := hfound _ _ hletter
  exact ⟨hletter, hagain, by decide, hfile, hne, hdot, hdeclared,
    hnamed firstFile hfile hne "Letter" hdot hdeclared⟩

end Letters

end DecoratorSets
