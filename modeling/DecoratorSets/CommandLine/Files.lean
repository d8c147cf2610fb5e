import DecoratorSets.Text.LowerCase
import DecoratorSets.Text.Parts

/-!
# Files and their paths

The commands read a few files and write a few. What they see is a tree of files
below the working directory. A path leads through directories, part by part, to a
place in the tree: a single dot and doubled slashes make no difference, and two
dots lead back. A path may lead nowhere in several ways (`PathFault`); which one
counts is decided by the first part that does not lead on.
-/

namespace DecoratorSets

/-! ## Paths -/

namespace FilePath

/-- The parts of a path that count. -/
def parts (path : String) : List String :=
  ((partsAt '/' path.toList).map String.ofList).filter fun part => part ≠ "" ∧ part ≠ "."

/-- Whether a path begins at the root. -/
def isAbsolute (path : String) : Bool := path.toList.head? == some '/'

/-- The text of a path of some parts. -/
def ofParts (absolute : Bool) (parts : List String) : String :=
  if absolute then "/" ++ "/".intercalate parts
  else if parts.isEmpty then "." else "/".intercalate parts

/-- A path without parts that do not count. -/
def normal (path : String) : String := ofParts (isAbsolute path) (parts path)

/-- A path inside a directory. -/
def inside (directory name : String) : String :=
  if isAbsolute name then normal name
  else ofParts (isAbsolute directory) (parts directory ++ parts name)

/-- Whether the last part of a path has one of some endings, in any mixture of
cases. A dot in front of a name begins no ending. -/
def hasEnding (endings : List String) (path : String) : Bool :=
  let name := ((parts path).getLast?.getD "").toList
  let ending := (name.reverse.takeWhile (· ≠ '.')).reverse
  ending.length + 1 < name.length && endings.contains (lowerCase (String.ofList ending))

end FilePath

/-! ## Trees of files -/

/-- A place in a tree: the names on the way to it from the root or from the
working directory. The way may begin with steps back from the latter. -/
structure Location where
  absolute : Bool
  names : List String
deriving DecidableEq

namespace Location

/-- Whether a place is the root, or lies on the way from it to the working
directory. Such a place is a directory. -/
def isAbove (l : Location) : Bool :=
  if l.absolute then l.names.isEmpty else l.names.all (· == "..")

/-- The place that one more part of a path leads to. -/
def step (l : Location) (part : String) : Location :=
  if part ≠ ".." then { l with names := l.names ++ [part] }
  else if !l.isAbove then { l with names := l.names.dropLast }
  else if l.absolute then l
  else { l with names := l.names ++ [part] }

end Location

/-- A tree of files. Directories with files in them need not be listed. -/
structure FileTree where
  files : List (Location × String)
  directories : List Location

/-- What is at a place. -/
inductive FileEntry where
  | file (text : String)
  | directory
deriving DecidableEq

/-- A way in which a path does not lead to what it should lead to. -/
inductive PathFault where
  /-- A path with a character that no path can have. -/
  | nullCharacter
  | tooLong
  | missing
  /-- A path that leads through a file. -/
  | throughFile
  /-- A directory where a file was expected. -/
  | isDirectory
  /-- A file where a directory was expected. -/
  | isFile
deriving DecidableEq

/-- The wording of a fault, as the system has it. -/
def PathFault.text : PathFault → String
  | .nullCharacter => "embedded null byte"
  | .tooLong => "[Errno 36] File name too long"
  | .missing => "[Errno 2] No such file or directory"
  | .throughFile => "[Errno 20] Not a directory"
  | .isDirectory => "[Errno 21] Is a directory"
  | .isFile => "[Errno 17] File exists"

namespace FileTree

/-- The tree of some files by their paths from the working directory. -/
def ofFiles (files : List (String × String)) : FileTree where
  files := files.map fun (path, text) => (⟨false, FilePath.parts path⟩, text)
  directories := []

/-- Whether one place is inside another. -/
def isInside (outer inner : Location) : Bool :=
  outer.absolute == inner.absolute && outer.names.isPrefixOf inner.names

/-- What is at a place, if there is something. -/
def entry? (t : FileTree) (l : Location) : Option FileEntry :=
  if l.isAbove then some .directory
  else
    match t.files.lookup l with
    | some text => some (.file text)
    | none =>
      if t.files.any (fun file => isInside l file.1) || t.directories.any (isInside l) then
        some .directory
      else none

/-- The most bytes that a part of a path can have. -/
def partLimit : Nat := 255

/-- The least number of bytes that no path can have. -/
def pathLimit : Nat := 4096

/-- The place that parts of a path lead to. There has to be a directory wherever
another part follows. -/
def walk (t : FileTree) (l : Location) : List String → Except PathFault Location
  | [] => .ok l
  | part :: rest =>
    match t.entry? l with
    | none => .error .missing
    | some (.file _) => .error .throughFile
    | some .directory =>
      if partLimit < part.utf8ByteSize then .error .tooLong else walk t (l.step part) rest

/-- The place that a path leads to, where there may be nothing yet. -/
def locate (t : FileTree) (path : String) : Except PathFault Location :=
  if path.toList.contains '\x00' then .error .nullCharacter
  else if pathLimit ≤ (FilePath.normal path).utf8ByteSize then .error .tooLong
  else t.walk ⟨FilePath.isAbsolute path, []⟩ (FilePath.parts path)

/-- The text of a file. -/
def read (t : FileTree) (path : String) : Except PathFault String := do
  match t.entry? (← t.locate path) with
  | some (.file text) => return text
  | some .directory => throw .isDirectory
  | none => throw .missing

/-- Writes a file, in a directory that is there. -/
def write (t : FileTree) (path text : String) : Except PathFault FileTree := do
  let l ← t.locate path
  match t.entry? l with
  | some .directory => throw .isDirectory
  | _ => return { t with files := put l t.files }
where
  /-- Puts the text at a place: in the stead of the one that is there, or behind
  all others. -/
  put (l : Location) : List (Location × String) → List (Location × String)
    | [] => [(l, text)]
    | file :: rest => if file.1 = l then (l, text) :: rest else file :: put l rest

/-- Makes one directory, unless it is there. -/
def makeOne (t : FileTree) (path : String) : Except PathFault FileTree := do
  let l ← t.locate path
  match t.entry? l with
  | some .directory => return t
  | some (.file _) => throw .isFile
  | none => return { t with directories := l :: t.directories }

/-- Makes the directory whose parts are given in reverse. If it leads nowhere,
the directory above it is made first. -/
def makeFrom (absolute : Bool) (t : FileTree) : List String → Except PathFault FileTree
  | [] => .ok t
  | part :: above =>
    let path := FilePath.ofParts absolute (part :: above).reverse
    match t.makeOne path with
    | .error .missing => do (← makeFrom absolute t above).makeOne path
    | result => result

/-- Makes a directory and those above it. -/
def makeDirectories (t : FileTree) (path : String) : Except PathFault FileTree :=
  makeFrom (FilePath.isAbsolute path) t (FilePath.parts path).reverse

end FileTree

end DecoratorSets
