import Playthrough.Message

/-!
# The issues of a session

The diagnostics that a session has produced so far, without repetitions. They are kept in the order
of their arrival and shown ordered by severity and line, where equal ones keep the order of arrival.
One of them may be selected. The selection is a position in the shown order, and stays the same
position when an issue arrives.

## Main definitions

* `IssueList`, `IssueList.add`, `IssueList.clear` — the issues.
* `IssueList.shown` — the issues in the order in which they are shown.
* `IssueList.selectNext` — the selection moves on, from the last issue to the first.
* `IssueTally`, `IssueBadge` — how many issues there are, and how that is said.
-/

namespace Playthrough

/-- The place of a severity in the order of issues. -/
def Severity.rank : Severity → Nat
  | .error => 1
  | .runtimeError => 2
  | .warning => 3
  | .todo => 4

/-- Whether an issue may be shown before another one. -/
def Diagnostic.precedes (a b : Diagnostic) : Bool :=
  a.severity.rank < b.severity.rank ||
    (a.severity.rank == b.severity.rank && a.line ≤ b.line)

/-! ### How many there are -/

/-- The number of issues of each sort. Errors of the compiler and of the running story are counted
together. -/
structure IssueTally where
  errors : Nat := 0
  warnings : Nat := 0
  todos : Nat := 0
  deriving DecidableEq, Repr, Inhabited

/-- The number of all issues. -/
def IssueTally.total (c : IssueTally) : Nat :=
  c.errors + c.warnings + c.todos

/-- The tally of some issues. -/
def IssueTally.ofList (ds : List Diagnostic) : IssueTally where
  errors := ds.countP fun d => d.severity = .error || d.severity = .runtimeError
  warnings := ds.countP fun d => d.severity = .warning
  todos := ds.countP fun d => d.severity = .todo

/-- What is said about the number of issues. Sorts without issues are not mentioned. -/
structure IssueBadge where
  errors : Option Nat := none
  warnings : Option Nat := none
  todos : Option Nat := none
  deriving DecidableEq, Repr, Inhabited

namespace IssueBadge

/-- A number that is mentioned unless it is zero. -/
def mention (n : Nat) : Option Nat :=
  if n = 0 then none else some n

/-- The badge of a tally. -/
def ofTally (c : IssueTally) : IssueBadge :=
  ⟨mention c.errors, mention c.warnings, mention c.todos⟩

/-- A number of things, with the noun in the plural unless there is one of them. -/
def counted (noun : String) (n : Nat) : String :=
  if n = 1 then s!"1 {noun}" else s!"{n} {noun}s"

/-- The text of a badge, such as `1 error, 2 todos`. -/
def text (b : IssueBadge) : String :=
  ", ".intercalate
    ([b.errors.map (counted "error"), b.warnings.map (counted "warning"),
      b.todos.map (counted "todo")].filterMap id)

end IssueBadge

/-! ### The list -/

/-- The issues in the order of their arrival, and the selected position in the shown order. -/
structure IssueList where
  arrived : List Diagnostic := []
  selected : Option Nat := none
  deriving DecidableEq, Repr, Inhabited

namespace IssueList

variable (l : IssueList)

/-- The list with one more issue, and whether it was added. An issue that is there already is not
added again. -/
def add (d : Diagnostic) : IssueList × Bool :=
  if d ∈ l.arrived then (l, false)
  else ({ l with arrived := l.arrived ++ [d] }, true)

/-- The list without issues and selection. -/
def clear (_ : IssueList) : IssueList :=
  {}

/-- The issues in the order in which they are shown. -/
def shown : List Diagnostic :=
  l.arrived.mergeSort Diagnostic.precedes

/-- The number of issues. -/
def size : Nat :=
  l.arrived.length

/-- The tally of the issues. -/
def tally : IssueTally :=
  .ofList l.arrived

/-- The position behind the selected one, or the first if there is none. -/
def nextPosition : Nat :=
  match l.selected with
  | some i => if i + 1 < l.size then i + 1 else 0
  | none => 0

/-- The list with the next issue selected, and that issue. Nothing is selected in an empty list. -/
def selectNext : IssueList × Option Diagnostic :=
  if l.size = 0 then (l, none)
  else ({ l with selected := some l.nextPosition }, l.shown[l.nextPosition]?)

@[simp] theorem arrived_clear : l.clear.arrived = [] := rfl

@[simp] theorem selected_clear : l.clear.selected = none := rfl

@[simp] theorem shown_clear : l.clear.shown = [] := by
  simp [shown]

/-- The selection moves to an issue that is there. -/
theorem nextPosition_lt (h : l.size ≠ 0) : l.nextPosition < l.size := by
  unfold nextPosition
  split
  · split <;> omega
  · omega

@[simp] theorem arrived_selectNext : l.selectNext.1.arrived = l.arrived := by
  unfold selectNext
  split <;> rfl

theorem shown_perm : l.shown.Perm l.arrived :=
  List.mergeSort_perm _ _

@[simp] theorem length_shown : l.shown.length = l.size :=
  l.shown_perm.length_eq

/-- Nothing changes if there is no issue to select. -/
theorem selectNext_of_none (h : l.selectNext.2 = none) : l.selectNext = (l, none) := by
  unfold selectNext at *
  split at h
  · rw [if_pos ‹_›]
  · have hlt : l.nextPosition < l.shown.length := by
      rw [length_shown]
      exact l.nextPosition_lt ‹_›
    simp [List.getElem?_eq_getElem hlt] at h

end IssueList

end Playthrough
