import DecoratorSets.CommandLine.Suggestion
import DecoratorSets.Text.Parts
import DecoratorSets.Text.Quoted

/-!
# The words of a command line

The program has three commands that work on documents: one checks a command set,
one decorates models, one extracts the decorators of models. A fourth tells its
version. Options of the program stand in front of the command, those of a command
anywhere behind it: in the long form with their value behind an equals sign or in
the next word, in the short form with it attached or in the next word. Two dashes
end the options.

Faults are looked for in a fixed order: first words that are no options where
one is expected, as they come; then values of options; then words that are
missing or cannot be paths, as they come; then superfluous ones.
-/

namespace DecoratorSets

namespace CommandLine

/-- The forms in which documents are written. -/
inductive DocumentFormat where
  | json
  | yaml
deriving DecidableEq

/-- An option of a command. -/
structure OptionForm where
  long : String
  short : Option Char
  takesValue : Bool

/-- The words that a command takes, or the program in front of its commands. -/
structure CommandForm where
  /-- How the command is called. -/
  call : String
  words : List String
  options : List OptionForm
  /-- Whether options may stand behind words. -/
  mixed : Bool

/-- What the words ask for. A path that is absent or empty is none. -/
inductive Request where
  | validate (commands : String) (models : Option String) (checkCommands : Bool)
  | decorate (models commands : String) (checkSet checkCommands : Bool)
      (format : DocumentFormat) (output : Option String)
  | extract (models locale : String) (remove : Bool) (output : Option String)
  | version
  | help (form : CommandForm)

/-- A fault in the words. -/
inductive UsageFault where
  | noSuchCommand (name : String) (suggested : List String)
  | missingCommand
  | noSuchOption (word : String) (suggested : List String)
  | missingValue (word : String)
  | superfluousValue (word : String)
  | notAChoice (option value : String) (choices : List String)
  | missingWord (name : String)
  /-- A word that cannot be a path. -/
  | notAPath (word : String)
  | superfluousWords (words : List String)
deriving DecidableEq

/-! ## The wording of faults -/

/-- The wording of the words that may have been meant. -/
def suggestionText : List String → String
  | [] => ""
  | [word] => " Did you mean " ++ quoted word ++ "?"
  | words => " (Did you mean one of: " ++ ", ".intercalate (words.map quoted) ++ "?)"

/-- The wording of a fault. -/
def UsageFault.message : UsageFault → String
  | .noSuchCommand name suggested =>
    "No such command " ++ quoted name ++ "." ++ suggestionText suggested
  | .missingCommand => "Missing command."
  | .noSuchOption word suggested =>
    "No such option " ++ quoted word ++ "." ++ suggestionText suggested
  | .missingValue word => "Option " ++ quoted word ++ " requires an argument."
  | .superfluousValue word => "Option " ++ quoted word ++ " does not take a value."
  | .notAChoice option value choices =>
    "Invalid value for " ++ quoted option ++ ": " ++ quoted value ++ " is not one of "
      ++ ", ".intercalate (choices.map quoted) ++ "."
  | .missingWord name => "Missing argument " ++ quoted name ++ "."
  | .notAPath _ => ""
  | .superfluousWords words =>
    "Got unexpected extra argument" ++ (if words.length = 1 then "" else "s") ++ " ("
      ++ " ".intercalate words ++ ")"

/-- Whether a fault is reported without a reminder of how the command is used. -/
def UsageFault.isBare : UsageFault → Bool
  | .missingValue _ | .superfluousValue _ => true
  | _ => false

/-- How a command is used. -/
def CommandForm.usage (form : CommandForm) : String :=
  "Usage: " ++ form.call ++ " " ++ " ".intercalate ("[OPTIONS]" :: form.words)

/-- A text without the sequences that colour it on a terminal. -/
def withoutColors : Nat → List Char → List Char
  | 0, cs => cs
  | _ + 1, [] => []
  | fuel + 1, c :: rest =>
    match c, rest with
    | '\x1b', '[' :: codes =>
      match codes.dropWhile fun d => d == ';' || d == '?' || d.isDigit with
      | final :: behind =>
        if final.isAlpha then withoutColors fuel behind else c :: withoutColors fuel rest
      | [] => c :: rest
    | c, rest => c :: withoutColors fuel rest

/-- The text that reports a fault in the words of a command. -/
def CommandForm.report (form : CommandForm) (fault : UsageFault) : String :=
  let message := "Error: " ++ fault.message
  let cs := message.toList
  let message := String.ofList (withoutColors cs.length cs)
  if fault.isBare then message
  else form.usage ++ "\nTry '" ++ form.call ++ " --help' for help.\n\n" ++ message

/-! ## The commands -/

/-- The option that asks for help. -/
def helpOption : OptionForm := ⟨"--help", none, false⟩

/-- What stands in front of a command. -/
def programForm : CommandForm where
  call := "cli"
  words := ["COMMAND", "[ARGS]..."]
  options := [⟨"--version", none, false⟩, ⟨"--verbose", some 'v', false⟩, helpOption]
  mixed := false

/-- The command that checks a command set. -/
def validateForm : CommandForm where
  call := "cli validate"
  words := ["COMMANDS"]
  options := [⟨"--models", none, true⟩, ⟨"--check-commands", none, false⟩, helpOption]
  mixed := true

/-- The command that decorates models. -/
def decorateForm : CommandForm where
  call := "cli decorate"
  words := ["MODELS", "COMMANDS"]
  options := [⟨"--validate", none, false⟩, ⟨"--validate-commands", none, false⟩,
    ⟨"--format", none, true⟩, ⟨"--output", some 'o', true⟩, helpOption]
  mixed := true

/-- The command that extracts decorators. -/
def extractForm : CommandForm where
  call := "cli extract"
  words := ["MODELS"]
  options := [⟨"--locale", none, true⟩, ⟨"--remove-decorators", none, false⟩,
    ⟨"--output", some 'o', true⟩, helpOption]
  mixed := true

/-- The command that tells the version. -/
def versionForm : CommandForm where
  call := "cli version"
  words := []
  options := [helpOption]
  mixed := true

/-! ## Sorting words -/

/-- The words sorted into options, by their long names, and others. -/
structure SortedWords where
  options : List (String × String)
  words : List String

namespace SortedWords

/-- The value of an option, the last one if it is repeated. -/
def value? (s : SortedWords) (long : String) : Option String :=
  s.options.reverse.lookup long

/-- Whether an option is given. -/
def has (s : SortedWords) (long : String) : Bool := (s.value? long).isSome

/-- Adds an option. -/
def addOption (s : SortedWords) (long value : String) : SortedWords :=
  { s with options := s.options ++ [(long, value)] }

/-- Adds words that are no options. -/
def addWords (s : SortedWords) (words : List String) : SortedWords :=
  { s with words := s.words ++ words }

end SortedWords

/-- Sorts the short options of one word, given the words behind it. Gives the
words that are left. -/
def sortShort (form : CommandForm) : List Char → SortedWords → List String →
    Except UsageFault (SortedWords × List String)
  | [], s, rest => .ok (s, rest)
  | c :: cs, s, rest =>
    let word := String.ofList ['-', c]
    match form.options.find? fun o => o.short == some c with
    | none => .error (.noSuchOption word [])
    | some o =>
      if !o.takesValue then sortShort form cs (s.addOption o.long "") rest
      else if !cs.isEmpty then .ok (s.addOption o.long (String.ofList cs), rest)
      else
        match rest with
        | value :: rest => .ok (s.addOption o.long value, rest)
        | [] => .error (.missingValue word)

/-- Sorts one long option, given the words behind it. -/
def sortLong (form : CommandForm) (cs : List Char) (s : SortedWords) (rest : List String) :
    Except UsageFault (SortedWords × List String) :=
  let (name, attached) := cutAt '=' cs
  let name := String.ofList name
  let attached := attached.map String.ofList
  match form.options.find? fun o => o.long == name with
  | none => .error (.noSuchOption name (suggestions (form.options.map OptionForm.long) name))
  | some o =>
    match o.takesValue, attached, rest with
    | false, none, rest => .ok (s.addOption o.long "", rest)
    | false, some _, _ => .error (.superfluousValue name)
    | true, some value, rest => .ok (s.addOption o.long value, rest)
    | true, none, value :: rest => .ok (s.addOption o.long value, rest)
    | true, none, [] => .error (.missingValue name)

/-- Sorts words. Each step uses up at least one, so their number bounds the
steps. -/
def sortWordsWithin (form : CommandForm) : Nat → SortedWords → List String →
    Except UsageFault SortedWords
  | 0, s, _ => .ok s
  | _ + 1, s, [] => .ok s
  | fuel + 1, s, word :: rest => do
    match word.toList with
    | ['-', '-'] => return s.addWords rest
    | '-' :: '-' :: _ =>
      let (s, rest) ← sortLong form word.toList s rest
      sortWordsWithin form fuel s rest
    | '-' :: c :: cs =>
      let (s, rest) ← sortShort form (c :: cs) s rest
      sortWordsWithin form fuel s rest
    | _ =>
      if form.mixed then sortWordsWithin form fuel (s.addWords [word]) rest
      else return s.addWords (word :: rest)

/-- The words of a command sorted. -/
def CommandForm.sortWords (form : CommandForm) (args : List String) :
    Except UsageFault SortedWords :=
  sortWordsWithin form (args.length + 1) ⟨[], []⟩ args

/-- The words that a command takes, all of them paths; there must be neither
fewer nor more. -/
def takePaths : List String → List String → Except UsageFault (List String)
  | [], [] => .ok []
  | [], extra => .error (.superfluousWords extra)
  | name :: _, [] => .error (.missingWord name)
  | _ :: names, word :: words =>
    if word.toList.contains '\x00' then .error (.notAPath word)
    else (word :: ·) <$> takePaths names words

/-! ## Requests -/

/-- A path, unless it is empty. -/
def properPath (path : Option String) : Option String := path.filter (· ≠ "")

/-- A word of ASCII letters in any mixture of cases, in small letters. The long s
is a form of the letter s. -/
def foldCase (word : String) : String :=
  String.ofList (word.toList.map fun c => if c = 'ſ' then 's' else c.toLower)

/-- The format that a word names. -/
def readFormat (word : Option String) : Except UsageFault DocumentFormat :=
  match word with
  | none => .ok .json
  | some word =>
    if foldCase word = "json" then .ok .json
    else if foldCase word = "yaml" then .ok .yaml
    else .error (.notAChoice "--format" word ["json", "yaml"])

/-- The request to check a command set. -/
def readValidate (s : SortedWords) : Except UsageFault Request := do
  match ← takePaths validateForm.words s.words with
  | [commands] =>
    return .validate commands (properPath (s.value? "--models")) (s.has "--check-commands")
  | words => throw (.superfluousWords words)

/-- The request to decorate models. -/
def readDecorate (s : SortedWords) : Except UsageFault Request := do
  let format ← readFormat (s.value? "--format")
  match ← takePaths decorateForm.words s.words with
  | [models, commands] =>
    return .decorate models commands (s.has "--validate") (s.has "--validate-commands") format
      (properPath (s.value? "--output"))
  | words => throw (.superfluousWords words)

/-- The request to extract decorators. -/
def readExtract (s : SortedWords) : Except UsageFault Request := do
  match ← takePaths extractForm.words s.words with
  | [models] =>
    return .extract models ((s.value? "--locale").getD "en") (s.has "--remove-decorators")
      (properPath (s.value? "--output"))
  | words => throw (.superfluousWords words)

/-- The request to tell the version. -/
def readVersion (s : SortedWords) : Except UsageFault Request := do
  discard (takePaths versionForm.words s.words)
  return .version

/-- The commands by their names. -/
def commands : List (String × CommandForm × (SortedWords → Except UsageFault Request)) :=
  [("decorate", decorateForm, readDecorate), ("extract", extractForm, readExtract),
    ("validate", validateForm, readValidate), ("version", versionForm, readVersion)]

/-- The request of the options in front of a command, if they make one. -/
def programRequest? (s : SortedWords) : Option Request :=
  s.options.findSome? fun (long, _) =>
    if long = "--help" then some (.help programForm)
    else if long = "--version" then some .version
    else none

/-- The request of a command and the words behind its name. -/
def readCommand (form : CommandForm) (read : SortedWords → Except UsageFault Request)
    (args : List String) : Except UsageFault Request := do
  let s ← form.sortWords args
  if s.has "--help" then return .help form
  read s

/-- The words behind the options of the program, if they name no command. A word
that looks like an option is read as one once more. -/
def readUnknown (name : String) (rest : List String) : Except UsageFault Request := do
  match programRequest? (← programForm.sortWords (name :: rest)) with
  | some request => return request
  | none => throw (.noSuchCommand name (suggestions (commands.map Prod.fst) name))

/-- The request of a command line, or its fault and the command that has it. -/
def Request.ofArguments (args : List String) : Except (CommandForm × UsageFault) Request := do
  let s ← (programForm.sortWords args).mapError (programForm, ·)
  match programRequest? s, s.words with
  | some request, _ => return request
  | none, [] => throw (programForm, .missingCommand)
  | none, name :: rest =>
    match commands.lookup name with
    | none => (readUnknown name rest).mapError (programForm, ·)
    | some (form, read) => (readCommand form read rest).mapError (form, ·)

end CommandLine

end DecoratorSets
