import Playthrough.Launch

/-!
# The command line

The program itself: it reads the environment, the story and the lines that are typed, and passes
them to the console. Everything it decides is decided by the modules it imports; here are only the
clock, the files and the streams.

An interpreter that is a program of its own is started by whoever embeds this library, and served
through a `Link`. This program starts none.
-/

namespace Playthrough

namespace CommandLine

/-- The variables that are looked at. -/
def variableNames : List String :=
  [Settings.intervalKey, Settings.quietKey, Settings.startupKey, Settings.filterKey,
    Settings.fileKey, Interpreter.key, Program.key]

/-- The environment of the program. -/
def environment : IO Environment := do
  let values ← variableNames.mapM fun name => return (name, ← IO.getEnv name)
  return ⟨values.filterMap fun (name, value) => value.map fun v => (name, v.toUTF8.toList)⟩

/-- The error of a file that could not be used. -/
def fileError : IO.Error → FileError
  | .inappropriateType .. => .isDirectory
  | .permissionDenied .. => .denied
  | .invalidArgument .. => .nameTooLong
  | _ => .notFound

/-- What an action on a file results in. -/
def attempt {α : Type} (act : IO α) : IO (Except FileError α) := do
  match ← act.toBaseIO with
  | .ok a => return .ok a
  | .error e => return .error (fileError e)

/-- The text of a file. -/
def readText (path : String) : IO (Except FileError String) := do
  match ← attempt (IO.FS.readBinFile path) with
  | .error e => return .error e
  | .ok bytes =>
    match textOfOctets? bytes.toList with
    | some s => return .ok s
    | none => return .error .notText

/-- The modification time of a file, in nanoseconds. -/
def readTime (path : String) : IO (Except FileError (Option Nat)) :=
  attempt do
    let place ← IO.FS.realPath path
    let info ← place.metadata
    return some (info.modified.sec.toNat * 1000000000 + info.modified.nsec.toNat)

/-- The observations of a story. -/
def observations (path : String) : Observations IO where
  modified := readTime path
  content := readText path

/-- The directory a path leads through, if there is one. -/
def parent? (path : String) : Option String :=
  let p := FilePath.parse path
  match p.parent.steps with
  | [] => none
  | steps => some ((if p.absolute then "/" else "") ++ "/".intercalate steps)

/-- Open the log file, if one is wanted. -/
def openLog (log : LogSettings) : IO (Except LaunchError Unit) := do
  match log.file with
  | none => return .ok ()
  | some path =>
    let opened ← attempt do
      if let some directory := parent? path then IO.FS.createDirAll directory
      discard <| IO.FS.Handle.mk path .append
    return opened.mapError (.logFile path)

/-- Write what was printed. -/
def flush (out : IO.FS.Stream) (c : Console) : IO Console := do
  unless c.terminal.printed.isEmpty do
    out.putStr c.terminal.output
    out.flush
  return c.modifyTerminal fun t => { t with printed := [] }

/-- A line without its end. -/
def lineOf (s : String) : String :=
  String.ofList ((Text.lines s.toList).headD [])

/-- The streams of a play, and its story. -/
structure Scene where
  path : String
  interval : Nat
  started : Nat
  input : IO.FS.Stream
  out : IO.FS.Stream

/-- Wait for a line in the background. -/
def Scene.listen (s : Scene) : IO (Task (Except IO.Error String)) :=
  IO.asTask s.input.getLine .dedicated

/-- Play on until the end. `due` is the time of the next look at the story, and `line` the line that
is waited for, until the input ends. -/
partial def Scene.play (s : Scene) (c : Console) (due : Nat)
    (line : Option (Task (Except IO.Error String))) : IO Console := do
  let now ← IO.monoMsNow
  if due ≤ now then
    let seen ← (observations s.path).next c.watcher
    let c ← flush s.out (c.look (now - s.started) seen).1
    s.play c (now + s.interval) line
  else
    match line with
    | none =>
      IO.sleep 5
      s.play c due none
    | some task =>
      if ← IO.hasFinished task then
        match task.get with
        | .error e => throw e
        | .ok "" => s.play c due none
        | .ok text =>
          let (c, verdict) := c.readLine (lineOf text)
          let c ← flush s.out c
          match verdict with
          | .quit => return c.stop
          | .goOn => s.play c due (some (← s.listen))
      else
        IO.sleep 5
        s.play c due line

/-- Say why the program does not start. -/
def fail (e : LaunchError) : IO UInt32 := do
  (← IO.getStderr).putStrLn s!"Error: {e.message}"
  return 1

/-- Play the story of an invocation. -/
def run (i : Invocation) (env : Environment) : IO UInt32 := do
  match ← openLog i.settings.log with
  | .error e => fail e
  | .ok () =>
    let seen ← (observations i.path).first
    match i.launch env (fun _ => .error .notFound) seen with
    | .error e => fail e
    | .ok c =>
      let started ← IO.monoMsNow
      let scene : Scene :=
        { path := i.path, interval := i.settings.timing.interval, started
          input := ← IO.getStdin, out := ← IO.getStdout }
      let c ← flush scene.out c.greet
      discard <| scene.play c started (some (← scene.listen))
      return 0

end CommandLine

end Playthrough

/-- Play the story named on the command line. -/
def main (args : List String) : IO UInt32 := do
  let env ← Playthrough.CommandLine.environment
  match Playthrough.Invocation.ofCommandLine args env with
  | .error e => Playthrough.CommandLine.fail e
  | .ok invocation => Playthrough.CommandLine.run invocation env
