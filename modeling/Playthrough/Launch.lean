import Playthrough.Console
import Playthrough.FileTree
import Playthrough.LogFilter

/-!
# Starting the program

What is needed before a story can be played: a path on the command line, valid settings and a valid
log filter, a log file that can be opened, a story that can be read, and an interpreter. They are
looked for in this order, and the first that is missing ends the program.

## Main definitions

* `LaunchError` — what may be missing.
* `Invocation`, `Invocation.ofCommandLine` — what the command line and the environment say.
* `Invocation.launch` — the console of a story.
* `Rendition` — a whole play, from the command line to what was printed.
-/

namespace Playthrough

/-- What keeps the program from starting. -/
inductive LaunchError where
  | usage
  | settings (e : SettingsError)
  | logFilter (e : LogFilterError)
  | logFile (path : String) (e : FileError)
  | story (e : FileError)
  | interpreter (e : InterpreterError)
  deriving DecidableEq, Repr, Inhabited

/-- The wording of an error. -/
def LaunchError.message : LaunchError → String
  | .usage => "usage: ink-play <story.ink>"
  | .settings e => e.message
  | .logFilter e => "invalid log filter " ++ Text.quoted e.filter
  | .logFile path e => s!"I/O error while opening log file {path}: {e.message}"
  | .story e => e.message
  | .interpreter e => e.message

/-- What the command line and the environment say. -/
structure Invocation where
  path : String
  settings : Settings
  filter : LogFilter
  deriving DecidableEq, Repr, Inhabited

namespace Invocation

/-- What a command line and an environment say. Of the command line only the first argument
counts. -/
def ofCommandLine (args : List String) (env : Environment) : Except LaunchError Invocation := do
  let path ← match args with
    | [] => .error .usage
    | path :: _ => .ok path
  let settings ← (Settings.ofEnvironment env).mapError .settings
  let filter ← (LogFilter.ofSettings settings.log).mapError .logFilter
  return { path, settings, filter }

/-- A console with the story as it was seen first. -/
def launch (i : Invocation) (env : Environment) (start : String → Except FileError Unit)
    (seen : Sighting) : Except LaunchError Console := do
  let story ← (Watcher.start seen).mapError .story
  let interpreter ← (Interpreter.ofEnvironment env start).mapError .interpreter
  return .start i.settings.timing 0 interpreter story

end Invocation

/-- The prelude of every play. -/
def Console.greet (c : Console) : Console :=
  c.print s!"  {helpText}\n"

namespace FileTree

/-- The files once the log file is open, if one is wanted, or why it is not. -/
def prepareLog (log : LogSettings) (files : FileTree) : FileTree × Except LaunchError Unit :=
  match log.file with
  | none => (files, .ok ())
  | some path =>
    let (files, result) := files.openLog path
    (files, result.mapError (.logFile path))

/-- What a story looks like that was last changed at a given time. -/
def sight (files : FileTree) (modified : Nat) (path : String) : Sighting where
  modified := (files.read path).map fun _ => some modified
  content := files.read path

end FileTree

/-- A command line, its surroundings, and what is typed. -/
structure Rendition where
  args : List String
  environment : Environment
  files : FileTree
  /-- What comes of starting a program as an interpreter. -/
  start : String → Except FileError Unit
  /-- Whether the first look at the story comes before the first line that is typed. -/
  lookFirst : Bool
  typed : List String

/-- What is left of a play: the files, and what was printed, or why nothing was. -/
structure Aftermath where
  files : FileTree
  result : Except LaunchError String

namespace Rendition

variable (r : Rendition)

/-- The whole play of an invocation, once the log is open. -/
def play (i : Invocation) (files : FileTree) : Except LaunchError String := do
  let seen := files.sight 0 i.path
  let c ← i.launch r.environment r.start seen
  let c := c.greet
  let c := if r.lookFirst then (c.look i.settings.timing.startup seen).1 else c
  return (c.readLines r.typed).stop.terminal.output

/-- The whole play. -/
def aftermath : Aftermath :=
  match Invocation.ofCommandLine r.args r.environment with
  | .error e => ⟨r.files, .error e⟩
  | .ok i =>
    match FileTree.prepareLog i.settings.log r.files with
    | (files, .error e) => ⟨files, .error e⟩
    | (files, .ok ()) => ⟨files, r.play i files⟩

end Rendition

end Playthrough
