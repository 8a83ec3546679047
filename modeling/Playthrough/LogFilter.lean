import Playthrough.Settings
import Playthrough.Text.Alphanumeric
import Playthrough.Text.Search

/-!
# Log filters

Which messages are logged: those of at least some level, either all of them or those of one target.
Without such a rule nothing is logged.

## Main definitions

* `LogLevel`, `LogRule`, `LogFilter` — the filters.
* `LogFilter.parse?` — the filter that a text describes.
* `LogFilter.ofSettings` — the filter of some settings.
* `LogFilter.text` — how a filter is written.
-/

namespace Playthrough

open Text

/-- How much is logged. -/
inductive LogLevel where
  | off
  | error
  | warn
  | info
  | debug
  | trace
  deriving DecidableEq, Repr, Inhabited

namespace LogLevel

/-- The name of a level. -/
def name : LogLevel → String
  | .off => "off"
  | .error => "error"
  | .warn => "warn"
  | .info => "info"
  | .debug => "debug"
  | .trace => "trace"

/-- The levels in the order of their numbers. -/
def all : List LogLevel :=
  [.off, .error, .warn, .info, .debug, .trace]

/-- The level with a given number or name, in capital or small letters. -/
def parse? (cs : List Char) : Option LogLevel :=
  match readWord? cs with
  | some n => all[n]?
  | none => all.find? fun level => level.name.toList = cs.map Char.toLower

end LogLevel

/-- The messages of at least some level, of one target or of all. -/
structure LogRule where
  target : Option String
  level : LogLevel
  deriving DecidableEq, Repr, Inhabited

namespace LogRule

/-- How a rule is written. -/
def text (r : LogRule) : String :=
  match r.target with
  | none => r.level.name
  | some target => s!"{target}={r.level.name}"

/-- Whether a rule may begin with a character. -/
def isStart (c : Char) : Bool :=
  c = '-' || c = ':' || c = '_' || isAlphanumeric c

/-- The rule of a target, of which everything is logged unless a level is named. -/
def ofTarget (target level : List Char) : Option LogRule :=
  if level.isEmpty then some ⟨some (String.ofList target), .trace⟩
  else (LogLevel.parse? level).map fun l => ⟨some (String.ofList target), l⟩

/-- The rule of a text: a target and a level with an equals sign between them, or a level alone, or
a target alone. -/
def parse? (cs : List Char) : Option LogRule :=
  match afterFirst? ['='] cs with
  | some level => ofTarget (cs.takeWhile (· ≠ '=')) level
  | none =>
    match LogLevel.parse? cs with
    | some l => some ⟨none, l⟩
    | none => ofTarget cs []

end LogRule

/-- The messages that a rule asks for, or none. -/
structure LogFilter where
  rule : Option LogRule := none
  deriving DecidableEq, Repr, Inhabited

/-- A text that describes no filter. -/
structure LogFilterError where
  filter : String
  deriving DecidableEq, Repr, Inhabited

namespace LogFilter

/-- How a filter is written. -/
def text (f : LogFilter) : String :=
  match f.rule with
  | none => ""
  | some r => r.text

/-- The filter that a text describes. The empty text is a filter without a rule. -/
def parse? (cs : List Char) : Option LogFilter :=
  match cs with
  | [] => some {}
  | c :: _ => if LogRule.isStart c then (LogRule.parse? cs).map fun r => ⟨some r⟩ else none

/-- The filter that is used unless another one is set. -/
def default : String := "info"

/-- The filter of some settings. -/
def ofSettings (log : LogSettings) : Except LogFilterError LogFilter :=
  let cs := trim (log.filter.getD default).toList
  match parse? cs with
  | some f => .ok f
  | none => .error ⟨String.ofList cs⟩

end LogFilter

end Playthrough
