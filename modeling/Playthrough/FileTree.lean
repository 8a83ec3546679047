import Playthrough.Environment
import Playthrough.Text.Search
import Playthrough.Watcher

/-!
# File trees

A tree of directories and files in which paths are looked up as an operating system does it: part by
part, so that every part but the last has to name a directory. Paths and their parts may not be too
long.

## Main definitions

* `FilePath` — the parts of a path.
* `FileTree` — the files and directories, by their places.
* `FileTree.read` — the text of a file.
* `FileTree.openLog` — a log file is opened, and made if need be, with the directories around it.
* `FileTree.startNamed` — a program is started by its name.
-/

namespace Playthrough

open Text

/-- A file, a directory or a device. -/
inductive FileNode where
  | directory
  | file (octets : List UInt8)
  /-- A file that can be started. -/
  | program (octets : List UInt8)
  /-- A device that reads as an empty file and keeps nothing of what is written to it. -/
  | device
  deriving DecidableEq, Repr, Inhabited

/-- A path, from the root or from the current directory. -/
structure FilePath where
  absolute : Bool
  parts : List String
  deriving DecidableEq, Repr, Inhabited

namespace FilePath

/-- The path that a text describes. A slash at the end leaves an empty part. -/
def parse (text : String) : FilePath :=
  ⟨text.toList.head? = some '/', (splitAt '/' text.toList).map String.ofList⟩

/-- Whether a part stays where it is. -/
def isHere (part : String) : Bool :=
  part = "" || part = "."

/-- The parts that lead somewhere. -/
def steps (p : FilePath) : List String :=
  p.parts.filter fun part => !isHere part

/-- Parts without those at their end that stay where they are. -/
def trimHere (parts : List String) : List String :=
  (parts.reverse.dropWhile isHere).reverse

/-- The path of the directory around the last part that leads somewhere. -/
def parent (p : FilePath) : FilePath :=
  { p with parts := trimHere (trimHere p.parts).dropLast }

/-- Whether a path can only name a directory. -/
def isDirectoryPath (p : FilePath) : Bool :=
  match p.parts.getLast? with
  | some part => isHere part || part = ".."
  | none => true

/-- The number of octets of a path, with the slash behind each part. -/
def size (p : FilePath) : Nat :=
  (p.parts.map fun part => part.utf8ByteSize + 1).foldl (· + ·) 0

/-- Whether a path is too long to be looked up: it does not fit 4096 octets. -/
def isTooLong (p : FilePath) : Bool :=
  4096 < p.size

/-- Whether a part is too long for the name of a file. -/
def isTooLongPart (part : String) : Bool :=
  255 < part.utf8ByteSize

end FilePath

/-- The files and directories of a tree by their places, and the current directory. The root is
always there. -/
structure FileTree where
  entries : List (List String × FileNode) := []
  current : List String := []
  deriving DecidableEq, Repr, Inhabited

namespace FileTree

variable (t : FileTree)

/-- What is at a place. -/
def node? (place : List String) : Option FileNode :=
  if place.isEmpty then some .directory else t.entries.lookup place

/-- The tree with something at a place. -/
def insert (place : List String) (n : FileNode) : FileTree :=
  { t with entries := (place, n) :: t.entries }

/-- The place a path begins at. -/
def origin (p : FilePath) : List String :=
  if p.absolute then [] else t.current

/-- The place one step away from a place. -/
def stepFrom (place : List String) (step : String) : List String :=
  if step = ".." then place.dropLast else place ++ [step]

/-! ### Looking up -/

/-- The place that steps lead to from a given place. -/
def walk : List String → List String → Except FileError (List String)
  | place, [] => .ok place
  | place, step :: steps =>
    match t.node? place with
    | some .directory =>
      if FilePath.isTooLongPart step then .error .nameTooLong
      else walk (stepFrom place step) steps
    | some _ => .error .notDirectory
    | none => .error .notFound

/-- What is at a path. -/
def find (p : FilePath) : Except FileError FileNode := do
  if p.parts = [""] then .error .notFound
  else if p.isTooLong then .error .nameTooLong
  else
    let place ← t.walk (t.origin p) p.steps
    match t.node? place with
    | some .directory => return .directory
    | some n => if p.isDirectoryPath then .error .notDirectory else return n
    | none => .error .notFound

/-- Whether there is a file at a path. Neither a directory nor a device is one. -/
def holdsFile (path : String) : Bool :=
  match t.find (.parse path) with
  | .ok (.file _) => true
  | .ok (.program _) => true
  | _ => false

/-- The octets of the file at a path. -/
def octets (p : FilePath) : Except FileError (List UInt8) := do
  match ← t.find p with
  | .directory => .error .isDirectory
  | .file bs => return bs
  | .program bs => return bs
  | .device => return []

/-- The text of the file at a path. -/
def read (path : String) : Except FileError String := do
  let bs ← t.octets (.parse path)
  match textOfOctets? bs with
  | some s => return s
  | none => .error .notText

/-! ### Opening a log file -/

/-- Make the directories that steps lead through. The second part is the place they lead to. -/
def makeDirectories : List String → List String → FileTree →
    FileTree × Except FileError (List String)
  | place, [], t => (t, .ok place)
  | place, step :: steps, t =>
    let next := stepFrom place step
    match t.node? next with
    | some .directory => makeDirectories next steps t
    | some _ => (t, .error .notDirectory)
    | none =>
      if FilePath.isTooLongPart step then (t, .error .nameTooLong)
      else makeDirectories next steps (t.insert next .directory)

/-- Open the log file at a path whose directory is at the place `parent`. A file that is there
already is kept. -/
def openIn (p : FilePath) (parent : List String) : FileTree × Except FileError Unit :=
  match p.steps.getLast? with
  | none => (t, .error .isDirectory)
  | some name =>
    if p.isTooLong ∨ FilePath.isTooLongPart name then (t, .error .nameTooLong)
    else if p.isDirectoryPath then (t, .error .isDirectory)
    else
      match t.node? (parent ++ [name]) with
      | some .directory => (t, .error .isDirectory)
      | some _ => (t, .ok ())
      | none => (t.insert (parent ++ [name]) (.file []), .ok ())

/-- Open a log file, and make the directories it needs first. They stay even if the file cannot be
opened. -/
def openLog (path : String) : FileTree × Except FileError Unit :=
  let p := FilePath.parse path
  if p.parent.isTooLong then (t, .error .nameTooLong)
  else
    match makeDirectories (t.origin p) p.parent.steps t with
    | (t, .error e) => (t, .error e)
    | (t, .ok parent) => t.openIn p parent

/-! ### Starting a program -/

/-- Start the program at a path. -/
def start (p : FilePath) : Except FileError Unit := do
  match ← t.find p with
  | .program _ => return ()
  | _ => .error .denied

/-- Start the first program with a name in some directories. Something else with that name is
reported only if there is no such program. -/
def startIn (directories : List String) (name : String) : Except FileError Unit :=
  let results := directories.map fun d => t.start (.parse (d ++ "/" ++ name))
  if results.any (·.toOption.isSome) then .ok ()
  else if results.any fun r => r matches .error .denied then .error .denied
  else .error .notFound

/-- Start a program by its name. A name with a slash is a path; any other is looked up in some
directories, unless it is too long. -/
def startNamed (directories : List String) (name : String) : Except FileError Unit :=
  if '\x00' ∈ name.toList then .error .nulInName
  else if '/' ∈ name.toList then t.start (.parse name)
  else if name.isEmpty then .error .notFound
  else if FilePath.isTooLongPart name then .error .nameTooLong
  else t.startIn directories name

end FileTree

end Playthrough
