/-!
# When to compile

A story is compiled again once its text has been left alone for a while, so that a burst of edits
leads to one compile. It is also compiled some time after the program was started, even without an
edit. Times are milliseconds.

## Main definitions

* `Timing` — how often is looked, and how long is waited.
* `CompileTimer` — the last edit, and the time of the first compile.
* `CompileTimer.check` — whether it is time to compile.
-/

namespace Playthrough

/-- The waiting times, in milliseconds. -/
structure Timing where
  /-- The time between two looks at the story file. -/
  interval : Nat := 250
  /-- How long the text has to be left alone. -/
  quiet : Nat := 500
  /-- How long after the start the story is compiled for the first time. -/
  startup : Nat := 1000
  deriving DecidableEq, Repr, Inhabited

/-- What a compile waits for. -/
structure CompileTimer where
  /-- How long the text has to be left alone. -/
  quiet : Nat
  /-- The time of the last edit that has not been compiled. -/
  lastEdit : Option Nat
  /-- The time of the first compile, until there was one. -/
  firstCompile : Option Nat
  deriving DecidableEq, Repr, Inhabited

namespace CompileTimer

/-- A timer at the start of the program. -/
def start (timing : Timing) (now : Nat) : CompileTimer :=
  ⟨timing.quiet, none, some (now + timing.startup)⟩

variable (t : CompileTimer)

/-- An edit at the time `now`. -/
def noteEdit (now : Nat) : CompileTimer :=
  { t with lastEdit := some now }

/-- Nothing to wait for any more. -/
def settle : CompileTimer :=
  { t with lastEdit := none, firstCompile := none }

/-- Whether it is time to compile. An edit that waits for a pause keeps the first compile waiting
too. A time before the edit counts as the time of the edit. -/
def isDue (now : Nat) : Bool :=
  match t.lastEdit, t.firstCompile with
  | some edit, _ => t.quiet ≤ now - edit
  | none, some first => first ≤ now
  | none, none => false

/-- Whether it is time to compile, and the timer afterwards: a compile settles what was waited
for. -/
def check (now : Nat) : CompileTimer × Bool :=
  if t.isDue now then (t.settle, true) else (t, false)

/-- Whether a compile is still to come without further edits. -/
def isArmed : Bool :=
  t.lastEdit.isSome || t.firstCompile.isSome

@[simp] theorem isArmed_settle : t.settle.isArmed = false := rfl

@[simp] theorem isArmed_noteEdit (now : Nat) : (t.noteEdit now).isArmed = true := rfl

@[simp] theorem isArmed_start (timing : Timing) (now : Nat) :
    (start timing now).isArmed = true := rfl

end CompileTimer

end Playthrough
