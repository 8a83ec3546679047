import Playthrough.Interpreter.Link
import Playthrough.Interpreter.Program
import Playthrough.Interpreter.Storyteller

/-!
# Interpreters

A story is played from a script unless the environment names a program that plays it.

## Main definitions

* `Interpreter` — a storyteller, or a link to a program.
* `Interpreter.send`, `Interpreter.takeReplies` — requests to it, and the replies that are there.
* `Interpreter.select` — the interpreter with a given name.
-/

namespace Playthrough

/-- What plays a story. -/
inductive Interpreter where
  | scripted (storyteller : Storyteller)
  | process (link : Link)
  deriving DecidableEq, Repr, Inhabited

/-- Why there is no interpreter. -/
inductive InterpreterError where
  | unsupported (name : String)
  | program (e : ProgramError)
  deriving DecidableEq, Repr, Inhabited

namespace Interpreter

/-- The name of the interpreter that plays a script. -/
def scriptedName : String := "scripted"

/-- The name of the interpreter that is a program. -/
def processName : String := "process"

/-- The variable that names the interpreter. -/
def key : String := "INK_PLAY_BACKEND"

/-- Hand a request to the interpreter. -/
def send : Interpreter → Request → Interpreter × Except SendError Unit
  | .scripted st, r =>
    let (st, result) := st.send r
    (.scripted st, result)
  | .process l, r =>
    let (l, result) := l.send r
    (.process l, result)

/-- Take the replies that are there without waiting. -/
def takeReplies : Interpreter → Interpreter × List Reply
  | .scripted st =>
    let (st, replies) := st.takeOutput
    (.scripted st, replies)
  | .process l => (.process l, [])

/-- The interpreter with a given name. What comes of starting a program is for `start` to tell. -/
def select (env : Environment) (start : String → Except FileError Unit) (name : String) :
    Except InterpreterError Interpreter :=
  if name = scriptedName then .ok (.scripted {})
  else if name = processName then
    match Program.ofEnvironment env with
    | .error e => .error (.program e)
    | .ok program =>
      match start program.name with
      | .ok () => .ok (.process {})
      | .error e => .error (.program (.notStarted program.name e))
  else .error (.unsupported name)

/-- The name of the interpreter in the environment. -/
def nameIn (env : Environment) : String :=
  match env.setting? key with
  | some value => String.ofList (Text.trim value.toList)
  | none => scriptedName

/-- The interpreter that the environment names. -/
def ofEnvironment (env : Environment) (start : String → Except FileError Unit) :
    Except InterpreterError Interpreter :=
  select env start (nameIn env)

end Interpreter

/-- The wording of an error. -/
def InterpreterError.message : InterpreterError → String
  | .unsupported name =>
    s!"Unsupported interpreter backend '{name}'. Available backends: " ++
      s!"{Interpreter.scriptedName}, {Interpreter.processName}"
  | .program e => e.message

end Playthrough
