import Playthrough.CompileTimer
import Playthrough.Environment
import Playthrough.Text.Decimal
import Playthrough.Text.Quoted

/-!
# Settings

The waiting times and the log are set by environment variables.

## Main definitions

* `LogSettings`, `Settings` — what can be set.
* `SettingsError` — what may be wrong with it.
* `Settings.ofEnvironment` — the settings of an environment.
-/

namespace Playthrough

open Text

/-- Which messages are logged, and where. -/
structure LogSettings where
  filter : Option String := none
  file : Option String := none
  deriving DecidableEq, Repr, Inhabited

/-- The settings of the program. -/
structure Settings where
  timing : Timing := {}
  log : LogSettings := {}
  deriving DecidableEq, Repr, Inhabited

/-- What may be wrong with the environment. -/
inductive SettingsError where
  | notMilliseconds (key value : String)
  | zero (key : String)
  deriving DecidableEq, Repr, Inhabited

/-- The wording of an error. -/
def SettingsError.message : SettingsError → String
  | .notMilliseconds key value =>
    s!"{key} must be a whole number of milliseconds, got " ++ quoted value
  | .zero key => s!"{key} must be greater than zero"

namespace Settings

/-- The variable of the time between two looks at the story. -/
def intervalKey : String := "INK_PLAY_POLL_MS"

/-- The variable of the pause before a compile. -/
def quietKey : String := "INK_PLAY_IDLE_MS"

/-- The variable of the time before the first compile. -/
def startupKey : String := "INK_PLAY_STARTUP_DELAY_MS"

/-- The variable of the log filter. -/
def filterKey : String := "INK_PLAY_LOG"

/-- The variable of the log file. -/
def fileKey : String := "INK_PLAY_LOG_FILE"

/-- A time in milliseconds, or its default. -/
def millis (env : Environment) (key : String) (default : Nat) : Except SettingsError Nat :=
  match env.setting? key with
  | none => .ok default
  | some value =>
    match readWord? (trim value.toList) with
    | some n => .ok n
    | none => .error (.notMilliseconds key value)

/-- A time that is not zero. -/
def positive (key : String) (n : Nat) : Except SettingsError Nat :=
  if n = 0 then .error (.zero key) else .ok n

/-- The settings of an environment. The time between two looks is read and checked before the
other times are read. -/
def ofEnvironment (env : Environment) : Except SettingsError Settings := do
  let defaults : Timing := {}
  let interval ← millis env intervalKey defaults.interval
  let interval ← positive intervalKey interval
  let quiet ← millis env quietKey defaults.quiet
  let startup ← millis env startupKey defaults.startup
  return {
    timing := { interval, quiet, startup }
    log := { filter := env.setting? filterKey, file := env.setting? fileKey } }

/-- The settings with another pause before a compile. -/
def withQuiet (s : Settings) (n : Nat) : Settings :=
  { s with timing := { s.timing with quiet := n } }

/-- The settings with another time before the first compile. -/
def withStartup (s : Settings) (n : Nat) : Settings :=
  { s with timing := { s.timing with startup := n } }

end Settings

end Playthrough
