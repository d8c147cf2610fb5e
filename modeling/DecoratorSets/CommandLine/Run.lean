import DecoratorSets.CommandLine.Arguments
import DecoratorSets.CommandLine.Files
import DecoratorSets.CommandLine.Page
import DecoratorSets.Decoration.Registry
import DecoratorSets.Extraction.Registry
import DecoratorSets.Json.Reader
import DecoratorSets.Metamodel.Labels
import DecoratorSets.Yaml.Reader
import DecoratorSets.Yaml.Writer

/-!
# The commands of the program

A command is carried out on a tree of files. What it prints and writes, it prints
and writes one after the other, and what is done stays done when it ends early.
It may end early with a message: the files it needs may be missing or unreadable,
or the models or commands in them refused. Faults that are not reported to the
user end it without one.
-/

namespace DecoratorSets

namespace CommandLine

/-- A reason to end without a message. -/
inductive Crash where
  | failure (cause : Failure)
  | path (cause : PathFault)
  | markup (cause : MarkupFault)
deriving DecidableEq

/-- What a command has done so far. -/
structure Progress where
  files : FileTree
  /-- Lines on the standard output. -/
  output : List String
  /-- Lines on the standard error output. -/
  errors : List String

/-- What a command line gives. -/
structure Outcome where
  exitCode : Nat
  progress : Progress
  crash : Option Crash

/-- A way to end early. -/
inductive Ending where
  /-- Behind a message. -/
  | reported
  | crash (cause : Crash)

/-- A step of a command. -/
abbrev Step := ExceptT Ending (StateM Progress)

/-- Ends without a message. -/
def crash {α : Type} (cause : Crash) : Step α := throw (.crash cause)

/-- The result of a computation whose faults are not reported. -/
def orCrash {ε α : Type} (cause : ε → Crash) : Except ε α → Step α
  | .ok a => pure a
  | .error e => crash (cause e)

/-- Prints lines. -/
def printLines (lines : List String) : Step Unit :=
  modify fun p => { p with output := p.output ++ lines }

/-- Prints a message. -/
def say (message : String) : Step Unit := do
  printLines (← orCrash .markup (Page.messageLines message))

/-- Ends with a message. -/
def fail {α : Type} (message : String) : Step α := do
  let lines ← orCrash .markup (Page.messageLines message)
  modify fun p => { p with errors := p.errors ++ lines }
  throw .reported

/-! ## Reading documents -/

/-- Whether a path is one of a YAML document. -/
def isYamlPath : String → Bool := FilePath.hasEnding ["yaml", "yml"]

/-- The text of a file. -/
def readFile (path : String) : Step String := do
  match (← get).files.read path with
  | .ok text => return text
  | .error .nullCharacter => crash (.path .nullCharacter)
  | .error .missing => fail ("[red]Error:[/red] File not found: " ++ path)
  | .error cause =>
    fail ("[red]Error:[/red] Cannot read " ++ path ++ ": " ++ cause.text ++ ": "
      ++ quoted (FilePath.normal path))

/-- The object that a file holds. -/
def readDocument (path : String) : Step Value := do
  let text ← readFile path
  match if isYamlPath path then Yaml.read text else Json.read text with
  | .ok (.object label ms) => return .object label ms
  | .ok _ => fail ("[red]Error:[/red] " ++ path ++ " does not contain an object")
  | .error .unreadableJson | .error .unreadableYaml =>
    fail ("[red]Error:[/red] Cannot parse " ++ path)
  | .error cause => crash (.failure cause)

/-- The registry of the models that a file holds. -/
def loadModels (path : String) : Step Registry := do
  let data ← readDocument path
  match (Models.ofDocument data).bind fun ms => Registry.ofModels ms false with
  | .ok r => return r
  | .error cause =>
    if cause.label?.isSome then
      fail ("[red]Invalid models file[/red] " ++ path ++ ": " ++ cause.message)
    else crash (.failure cause)

/-- The result of a computation, whose failures are reported if they pass a
test. -/
def report {α : Type} (reported : Failure → Bool) (result : Checked α) : Step α :=
  match result with
  | .ok a => pure a
  | .error cause =>
    match cause.label? with
    | some label =>
      if reported cause then fail ("[red]" ++ label ++ ":[/red] " ++ cause.message)
      else crash (.failure cause)
    | none => crash (.failure cause)

/-! ## Writing documents -/

/-- The text of a document that has one. -/
def orUnwritable : Except WritingFault String → Step String :=
  orCrash fun cause => .failure (.unwritable cause)

/-- The text of a document in JSON. -/
def jsonText (document : Value) : Step String :=
  orUnwritable ((Json.document "  ").render document)

/-- The text of a document of models. -/
def modelsText (format : DocumentFormat) (ms : Models) : Step String :=
  match format with
  | .json => jsonText ms.toDocument
  | .yaml => orUnwritable (Yaml.render ms.placed.toDocument)

/-- Writes a file. -/
def writeFile (path text : String) : Step Unit := do
  let p ← get
  set { p with files := ← orCrash .path (p.files.write path text) }

/-- Makes a directory. -/
def makeDirectory (path : String) : Step Unit := do
  let p ← get
  set { p with files := ← orCrash .path (p.files.makeDirectories path) }

/-! ## The commands -/

/-- Checks a command set, and its commands against models where asked to. -/
def runValidate (commands : String) (models : Option String) (checkCommands : Bool) :
    Step Unit := do
  if checkCommands ∧ models.isNone then
    fail "[red]Error:[/red] --check-commands requires --models"
  let payload ← readDocument commands
  let files ← match models with
    | some path => Registry.files <$> loadModels path
    | none => pure []
  report Failure.isDomain do
    let schema ← (CommandSetSource.document payload).validate files
    if checkCommands then
      Command.checkAll schema (← CommandSet.ofDocument payload).commands
  say ("[green]OK[/green] " ++ commands ++ " — command set is valid")

/-- Decorates models, and prints or writes them. The decorators of a command are
copied to each of its targets, so their parts are shared within a decorator
only. -/
def runDecorate (models commands : String) (level : CheckLevel) (format : DocumentFormat)
    (output : Option String) : Step Unit := do
  let r ← loadModels models
  let payload := (← readDocument commands).relabel (Label.within .decorator)
  let decorated ← report (fun _ => true) (r.decorate (.document payload) level)
  let text ← modelsText format decorated.toModels
  match output with
  | none => printLines (Page.numbered text)
  | some path =>
    writeFile path text
    say ("[green]Decorated models written to[/green] " ++ path)

/-- Adds a document under a name. It replaces an earlier one of the same name. -/
def addDocument (name text : String) : List (String × String) → List (String × String)
  | [] => [(name, text)]
  | (n, t) :: rest => if n = name then (n, text) :: rest else (n, t) :: addDocument name text rest

/-- The documents of an extraction by their file names. -/
def extractedDocuments (e : Extraction) (locale : String) (remove : Bool) :
    Step (List (String × String)) := do
  let sets ← e.commandSets.mapM fun set =>
    return (set.name.text ++ "@" ++ set.version.text ++ ".dcs.json", ← jsonText set.toDocument)
  let vocabularies := (e.index.namespaces.zip e.vocabularies).map fun (ns, text) =>
    (ns.text ++ "_" ++ locale ++ ".voc.yaml", text)
  let models ←
    if remove then pure [("models.json", ← modelsText .json e.registry.toModels)] else pure []
  return (sets ++ vocabularies ++ models).foldl (fun docs (name, text) =>
    addDocument name text docs) []

/-- Extracts the decorators of models, and prints or writes the documents. -/
def runExtract (models locale : String) (remove : Bool) (output : Option String) :
    Step Unit := do
  let r ← loadModels models
  let e ← report (fun _ => false) (r.extract remove locale)
  let documents ← extractedDocuments e locale remove
  if documents.isEmpty then
    say ("[yellow]No decorators found[/yellow] in " ++ models)
  else
    match output with
    | none =>
      documents.forM fun (name, text) => do
        say ("[bold]" ++ name ++ "[/bold]")
        printLines (Page.numbered text)
    | some directory =>
      makeDirectory directory
      documents.forM fun (name, text) => do
        let path := FilePath.inside directory name
        writeFile path text
        say ("[green]Written:[/green] " ++ path)
    say ("\n[bold]Extracted[/bold] " ++ toString e.commandSets.length ++ " command set(s) and "
      ++ toString e.vocabularies.length ++ " vocabular(ies) [dim]→ locale: " ++ locale
      ++ "[/dim]")

/-- The version of the program. -/
def versionText : String := "0.1.0"

/-- Carries out a request. -/
def Request.run : Request → Step Unit
  | .validate commands models checkCommands => runValidate commands models checkCommands
  | .decorate models commands checkSet checkCommands format output =>
    runDecorate models commands ⟨checkSet || checkCommands, checkCommands⟩ format output
  | .extract models locale remove output => runExtract models locale remove output
  | .version => printLines [versionText]
  | .help form => printLines [form.usage]

/-- Carries out a command line on a tree of files. -/
def run (files : FileTree) (args : List String) : Outcome :=
  let start : Progress := ⟨files, [], []⟩
  match Request.ofArguments args with
  | .error (_, .notAPath _) => ⟨1, start, some (.path .nullCharacter)⟩
  | .error (form, fault) => ⟨2, { start with errors := [form.report fault] }, none⟩
  | .ok request =>
    match request.run.run.run start with
    | (.ok (), done) => ⟨0, done, none⟩
    | (.error .reported, done) => ⟨1, done, none⟩
    | (.error (.crash cause), done) => ⟨1, done, some cause⟩

/-- The paths that a request looks at. -/
def Request.paths : Request → List String
  | .validate commands models _ => commands :: models.toList
  | .decorate models commands _ _ _ output => models :: commands :: output.toList
  | .extract models _ _ output => models :: output.toList
  | .version | .help _ => []

end CommandLine

end DecoratorSets
