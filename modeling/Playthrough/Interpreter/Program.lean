import Playthrough.Environment
import Playthrough.Watcher

/-!
# Interpreters that are programs

An interpreter may be a program of its own. Which one it is, is told by a line with the program and
its arguments.

## Main definitions

* `Program`, `Program.parse?` — a program and its arguments, and the line that names them.
* `ProgramError` — why no program is running.
* `Program.ofEnvironment` — the program that the environment names.
-/

namespace Playthrough

open Text

/-- A program and its arguments. -/
structure Program where
  name : String
  args : List String := []
  deriving DecidableEq, Repr, Inhabited

/-- Why no program is running. -/
inductive ProgramError where
  | notNamed
  | notStarted (name : String) (e : FileError)
  deriving DecidableEq, Repr, Inhabited

namespace Program

/-- The program with one more argument. -/
def withArg (p : Program) (arg : String) : Program :=
  { p with args := p.args ++ [arg] }

/-- The program that a line names by its words. There is no way to quote a blank. -/
def parse? (line : String) : Option Program :=
  match (words line.toList).map String.ofList with
  | [] => none
  | name :: args => some ⟨name, args⟩

/-- The variable that names the program. -/
def key : String := "INK_PLAY_INTERPRETER"

/-- The program that the environment names. -/
def ofEnvironment (env : Environment) : Except ProgramError Program :=
  match (env.text? key).bind parse? with
  | some p => .ok p
  | none => .error .notNamed

end Program

/-- The wording of an error. -/
def ProgramError.message : ProgramError → String
  | .notNamed =>
    s!"{Program.key} is not set; expected the interpreter program and its arguments"
  | .notStarted name e => s!"I/O error while spawning interpreter {name}: {e.message}"

end Playthrough
