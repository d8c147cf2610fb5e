import DecoratorSets.Metamodel.Labels

/-!
# A registry of models

A registry holds the models that types are looked up in, one for each
namespace, in the order in which the namespaces were first loaded. Loading a
namespace again replaces its model in place, unless the registry is strict: a
strict registry refuses a namespace that is loaded, and a model that declares a
name twice.

Only a model whose namespace is well formed can be loaded; such a model is a
`ModelFile`, which keeps the two halves of its namespace.
-/

namespace DecoratorSets

/-- A model with a well-formed namespace. -/
structure ModelFile where
  namespaceText : String
  /-- The two halves of the namespace. -/
  info : Namespace
  declarations : List Declaration
  decorators : Option (List Decorator)
  extras : Members
  parse_eq : Namespace.parse namespaceText = .ok info
deriving DecidableEq

namespace ModelFile

/-- The model as a file, if its namespace is well formed. -/
def ofModel (m : Model) : Checked ModelFile :=
  match m.namespaceName with
  | .str s =>
    match h : Namespace.parse s with
    | .ok info => .ok ⟨s, info, m.declarations, m.decorators, m.extras, h⟩
    | .error _ => .error (.illegalModel (.malformedNamespace s))
  | .bytes _ => misuse .textInBytes
  | _ => misuse .partsOfNonText

/-- The model of a file. -/
def toModel (f : ModelFile) : Model :=
  ⟨.str f.namespaceText, f.declarations, f.decorators, f.extras⟩

/-- The first declaration of a name. -/
def declaration? (f : ModelFile) (name : Value) : Option Declaration :=
  f.toModel.declaration? name

/-- The namespace without its version. -/
def unversioned (f : ModelFile) : String := f.info.name

/-- The file as a copy of its own: its labels stand for no part of another. -/
def copied (f : ModelFile) : ModelFile :=
  let change := Label.ownedBy f.namespaceText
  { f with
    declarations := f.declarations.map (Declaration.relabel change)
    decorators := f.decorators.map (·.map (Decorator.relabel change))
    extras := Value.relabelMembers change f.extras }

/-- The form in which a file is shown. -/
def inspect (f : ModelFile) : String := "ModelFile(" ++ quoted f.namespaceText ++ ")"

end ModelFile

/-! ## Storing a file -/

/-- Puts a file in place of the one of its namespace, or at the end. -/
def storeFile (file : ModelFile) : List ModelFile → List ModelFile
  | [] => [file]
  | f :: rest =>
    if f.namespaceText = file.namespaceText then file :: rest
    else f :: storeFile file rest

/-- Storing a file adds its namespace at the end, or no namespace at all. -/
theorem map_namespaceText_storeFile (file : ModelFile) (files : List ModelFile) :
    (storeFile file files).map ModelFile.namespaceText
      = if file.namespaceText ∈ files.map ModelFile.namespaceText
        then files.map ModelFile.namespaceText
        else files.map ModelFile.namespaceText ++ [file.namespaceText] := by
  induction files with
  | nil => simp [storeFile]
  | cons f rest ih =>
    by_cases h : f.namespaceText = file.namespaceText
    · simp [storeFile, h]
    · have h' : ¬ file.namespaceText = f.namespaceText := fun e => h e.symm
      simp only [storeFile, if_neg h, List.map_cons, ih, List.mem_cons, h', false_or]
      split <;> simp

/-- Models by namespace. No two files have the same namespace. -/
structure Registry where
  strict : Bool
  files : List ModelFile
  distinct : (files.map ModelFile.namespaceText).Nodup
deriving DecidableEq

namespace Registry

/-- The registry without models. -/
def empty (strict : Bool) : Registry := ⟨strict, [], List.nodup_nil⟩

/-- The loaded namespaces, in the order of their first loading. -/
def namespaces (r : Registry) : List String := r.files.map ModelFile.namespaceText

/-- The form in which a registry is shown. -/
def inspect (r : Registry) : String :=
  "ModelManager(namespaces=" ++ inspectTexts r.namespaces ++ ")"

/-- Stores a file under its namespace. -/
def store (r : Registry) (file : ModelFile) : Registry where
  strict := r.strict
  files := storeFile file r.files
  distinct := by
    rw [map_namespaceText_storeFile]
    split
    · exact r.distinct
    · rename_i h
      exact List.nodup_append.2 ⟨r.distinct, by simp, fun a ha b hb e => by
        rw [List.mem_singleton.1 hb] at e
        exact h (e ▸ ha)⟩

/-! ## Loading -/

/-- The names that occur more than once, in the order of the list. -/
def repeatedNames (names : List Value) : List Value :=
  names.filter fun n => decide (1 < names.countP n.countsAs)

/-- A list without the repetitions of its items. -/
def withoutRepetitions (ss : List String) : List String :=
  ss.foldl (fun seen s => if seen.contains s then seen else seen ++ [s]) []

/-- Refuses names that occur more than once. They are reported in alphabetical
order, each once, and so have to be text. -/
def checkDistinct (namespaceText : String) (names : List Value) : Checked Unit :=
  match repeatedNames names with
  | [] => .ok ()
  | repeated => do
    let texts ← repeated.mapM fun n =>
      match n with
      | .str s => .ok s
      | _ => misuse .joinOfNonText
    throw (.illegalModel (.declaredTwice namespaceText
      ((withoutRepetitions texts).mergeSort fun a b => decide (a ≤ b))))

/-- Loads a file. A strict registry refuses it if its namespace is loaded or it
declares a name twice. -/
def addFile (r : Registry) (file : ModelFile) : Checked Registry := do
  if r.strict then
    if r.namespaces.contains file.namespaceText then
      throw (.illegalModel (.alreadyLoaded file.namespaceText))
    checkDistinct file.namespaceText (file.declarations.map Declaration.name)
  return r.store file

/-- Loads a model. -/
def add (r : Registry) (m : Model) : Checked Registry := do
  r.addFile (← ModelFile.ofModel m)

/-- Loads copies of files one after the other up to the first that is refused.
What was loaded before stays. -/
def addFiles (r : Registry) : List ModelFile → Attempt Registry
  | [] => (r, none)
  | file :: rest =>
    match r.addFile file.copied with
    | .ok r' => addFiles r' rest
    | .error e => (r, some e)

/-- A registry of the models of a document. -/
def ofModels (ms : Models) (strict : Bool) : Checked Registry :=
  ms.models.foldlM add (empty strict)

/-- The document of all models, as they were loaded. -/
def toModels (r : Registry) : Models := ⟨r.files.map ModelFile.toModel⟩

end Registry

end DecoratorSets
