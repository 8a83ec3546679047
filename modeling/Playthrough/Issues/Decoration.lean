import Playthrough.Message

/-!
# Decorations

How a diagnostic is shown beside the text of a story: a note in the margin, a marker over its line,
and an entry in the list of issues. Rows of the text are counted from zero and lines from one; the
line zero, which a diagnostic may name, is shown at the first row.

## Main definitions

* `Style` — the three looks of a decoration.
* `Note`, `RowSpan`, `IssueEntry` — the decorations.
* `Diagnostic.note`, `Diagnostic.rowSpan`, `Diagnostic.entry` — those of a diagnostic.
-/

namespace Playthrough

/-- The look of a decoration. -/
inductive Style where
  | error
  | warning
  | info
  deriving DecidableEq, Repr, Inhabited

/-- The look of what is decorated because of a severity. -/
def Severity.style : Severity → Style
  | .error => .error
  | .runtimeError => .error
  | .warning => .warning
  | .todo => .info

/-- A note beside a place in the text. -/
structure Note where
  row : Nat
  column : Nat
  text : String
  style : Style
  deriving DecidableEq, Repr, Inhabited

/-- The rows from `start` up to, and without, `stop`. -/
structure RowSpan where
  start : Nat
  stop : Nat
  deriving DecidableEq, Repr, Inhabited

/-- An entry of the list of issues. -/
structure IssueEntry where
  line : Nat
  message : String
  style : Style
  deriving DecidableEq, Repr, Inhabited

/-- The name that a front end gives to a marker. -/
abbrev Marker := Nat

namespace Diagnostic

variable (d : Diagnostic)

/-- The row of the text that a diagnostic is about. -/
def textRow : Nat :=
  d.line - 1

/-- The note of a diagnostic. -/
def note : Note :=
  ⟨d.textRow, 0, d.message, d.severity.style⟩

/-- The row that a diagnostic marks. -/
def rowSpan : RowSpan :=
  ⟨d.textRow, d.textRow + 1⟩

/-- The entry of a diagnostic in the list of issues. -/
def entry : IssueEntry :=
  ⟨d.line, d.message, d.severity.style⟩

end Diagnostic

end Playthrough
