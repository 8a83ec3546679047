import Playthrough.CompileTimer
import Playthrough.Director

/-!
# The workbench

A play, driven by edits of its story, the passing of time, replies of the interpreter and what the
author at the keyboard wants.

## Main definitions

* `Intent` — what an author wants.
* `Workbench` — the play, and what its next compile waits for.
* `Workbench.onEdit`, `Workbench.onTime`, `Workbench.onReply`, `Workbench.onIntent` — what drives
  it.
-/

namespace Playthrough

/-- What an author wants. -/
inductive Intent where
  /-- Select a choice of a session. -/
  | choose (session : SessionId) (choice : Nat)
  /-- Go to a line, counted from one. -/
  | goTo (line : Nat)
  | nextIssue
  | startOver
  | takeBack
  /-- Click on the text of the story. -/
  | click (position : Position) (modifier : Bool)
  /-- Give the window another width. -/
  | resize
  deriving DecidableEq, Repr, Inhabited

/-- What is said about a click on an included file. -/
def includeUnsupportedMessage : String := "Jumping to INCLUDEs not yet supported!"

/-- A play, and what its next compile waits for. -/
structure Workbench (F : Type) where
  director : Director F
  timer : CompileTimer
  /-- The waiting times the work was started with. -/
  timing : Timing

namespace Workbench

variable {F : Type} [Frontend F] (w : Workbench F)

/-- The workbench on a front end, at the time `now`. -/
def start (timing : Timing) (now : Nat) (front : F) : Workbench F :=
  ⟨{ front }, .start timing now, timing⟩

/-- Change the play. -/
def modify (f : Director F → Director F) : Workbench F :=
  { w with director := f w.director }

/-- Tell the front end something. -/
def cue (q : Cue) : Workbench F :=
  w.modify (·.cue q)

/-- The story has been edited. -/
def onEdit (now : Nat) : Workbench F :=
  { w with timer := w.timer.noteEdit now }

/-- The story is compiled if it is time for it. The second part tells whether it was. -/
def onTime (now : Nat) : Workbench F × Bool :=
  match w.timer.check now with
  | (_, false) => (w, false)
  | (timer, true) =>
    ({ w with timer }.modify fun d => d.compile (Frontend.content d.front), true)

/-- A reply of the interpreter. -/
def onReply (r : Reply) : Workbench F × Outcome :=
  let (director, outcome) := w.director.receive r
  ({ w with director }, outcome)

/-- What a click tells the front end. -/
def cueOf? : Divert.Destination → Option Cue
  | .definition p => some (.moveTo (p.row + 1) p.column)
  | .otherFile => some (.tell includeUnsupportedMessage)
  | .unknown => none
  | .nowhere => none

/-- Go where the divert at a position leads. -/
def followDivert (p : Position) : Workbench F :=
  match cueOf? (Divert.resolve (Frontend.tokens w.director.front) p) with
  | some q => w.cue q
  | none => w

/-- Start a session for a reason other than an edit, which settles what a compile waited for. -/
def restart (f : Director F → Director F) : Workbench F :=
  { w with timer := w.timer.settle }.modify f

/-- What the author wants is done, unless it is refused. -/
def onIntent : Intent → Workbench F × Except Refusal Unit
  | .choose session n =>
    let (director, result) := w.director.select session n
    ({ w with director }, result)
  | .goTo line => (w.cue (.moveTo line 0), .ok ())
  | .nextIssue => (w.modify (·.visitNextIssue.1), .ok ())
  | .startOver => (w.restart (·.startOver), .ok ())
  | .takeBack => (w.restart (·.takeBack), .ok ())
  | .click p modifier => (if modifier then w.followDivert p else w, .ok ())
  | .resize => (w.modify (·.centreList), .ok ())

/-- The shape of the pointer over a position. -/
def pointer (p : Position) (modifier : Bool) : Pointer :=
  .over (Frontend.tokens w.director.front) p modifier

end Workbench

end Playthrough
