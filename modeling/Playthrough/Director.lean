import Playthrough.ChoiceLog
import Playthrough.Issues.Display

/-!
# Directing a play

Each compile of a story starts a session with a number of its own. Replies of the interpreter carry
the number of their session, and only those of the current one are shown. The session before is
asked to stop, and what it still has to say is dropped.

A session first goes through the choice log: at each decision point the logged choice is submitted
without being shown. When the log has been submitted, decision points are put to the person at the
keyboard, and what is selected there is added to the log.

## Main definitions

* `Phase`, `DecisionPoint`, `PlayState` — the state of a play.
* `Director` — a play, what is shown of its issues, and the front end.
* `Director.compile`, `Director.startOver`, `Director.takeBack` — start a session.
* `Director.receive` — a reply of the interpreter.
* `Director.select`, `Director.visitNextIssue` — a choice or an issue is selected.
-/

namespace Playthrough

/-! ### States -/

/-- Where a session stands. -/
inductive Phase where
  /-- There has been no session yet. -/
  | idle
  | running
  | completed
  | failed
  deriving DecidableEq, Repr, Inhabited

/-- Whether a session has ended. -/
def Phase.isFinal : Phase → Bool
  | .completed => true
  | .failed => true
  | _ => false

/-- The choices offered since the last request for input or selection. -/
structure DecisionPoint where
  choices : List Choice := []
  /-- Whether the point is answered from the choice log and not shown. -/
  replayed : Bool
  animated : Bool
  deriving DecidableEq, Repr, Inhabited

/-- The state of the current session, and the log that outlives it. -/
structure PlayState where
  session : SessionId := 0
  phase : Phase := .idle
  log : ChoiceLog := {}
  issues : IssueList := {}
  point : Option DecisionPoint := none
  deriving DecidableEq, Repr, Inhabited

/-- The choices that may be selected. -/
def PlayState.selectable (s : PlayState) : List Choice :=
  match s.point with
  | some point => if point.replayed then [] else point.choices
  | none => []

/-- What became of a reply. -/
inductive Outcome where
  | applied
  /-- The reply is not of the current session. -/
  | stale
  /-- The current session has ended already. -/
  | tooLate
  deriving DecidableEq, Repr, Inhabited

/-- Why a selection is refused. -/
inductive Refusal where
  | otherSession (session current : SessionId)
  | nothingToSelect
  | notOffered (choice : Nat)
  deriving DecidableEq, Repr, Inhabited

/-- The wording of a refusal. -/
def Refusal.message : Refusal → String
  | .otherSession session current =>
    s!"choice belongs to session {session}, current session is {current}"
  | .nothingToSelect => "no choice point is waiting for a selection"
  | .notOffered choice => s!"choice {choice} was not offered at the current choice point"

/-- What is said at the end of a story. -/
def endOfStoryMessage : String := "End of story"

/-- What is said when a story fails. -/
def errorInStoryMessage : String := "Error in story"

/-- What is said when a request cannot be sent. -/
def unavailableMessage (e : SendError) : String :=
  "Interpreter unavailable: " ++ e.message

/-- A play, what is shown of its issues, and the front end it is shown on. -/
structure Director (F : Type) where
  state : PlayState := {}
  display : IssueDisplay := {}
  front : F

namespace Director

variable {F : Type} [Frontend F] (d : Director F)

/-! ### Small steps -/

/-- Tell the front end something. -/
def cue (q : Cue) : Director F :=
  { d with front := Frontend.cue q d.front }

/-- Change the state of the play. -/
def modify (f : PlayState → PlayState) : Director F :=
  { d with state := f d.state }

/-- Show the issues of the session. -/
def showIssues : Director F :=
  let (display, front) := d.display.update d.state.issues d.front
  { d with display, front }

/-- End the session because a request cannot be sent. -/
def breakOff (e : SendError) : Director F :=
  (d.modify fun s => { s with phase := .failed, point := none }).cue
    (.sayEnd (unavailableMessage e) .failed)

/-- Send a request of the current session. The session ends if that fails. -/
def request (r : Request) : Director F :=
  match Frontend.send r d.front with
  | (front, .ok ()) => { d with front }
  | (front, .error e) => { d with front }.breakOff e

/-- Submit a choice of the current session. -/
def submit (n : Nat) : Director F :=
  d.request (.continueWith n d.state.session)

/-! ### Sessions -/

/-- Ask the interpreter to stop the session, if there is one. It does not matter whether that
works. -/
def stopSession : Director F :=
  if d.state.session = 0 then d
  else { d with front := (Frontend.send (.stop d.state.session) d.front).1 }

/-- The state at the start of the next session. -/
def nextSession (s : PlayState) : PlayState where
  session := s.session + 1
  phase := .running
  log := s.log.rewound
  issues := s.issues.clear
  point := none

/-- Compile a story and play it, in place of the current session. -/
def compile (content : String) : Director F :=
  let d := d.stopSession
  let d := d.modify nextSession
  let d := d.cue .turnPage
  let d := d.showIssues
  d.request (.run content d.state.session)

/-- Forget all choices and play from the beginning. -/
def startOver : Director F :=
  let d := d.modify fun s => { s with log := s.log.clear }
  d.compile (Frontend.content d.front)

/-- Forget the last choice and play up to the one before it. -/
def takeBack : Director F :=
  let d := d.modify fun s => { s with log := s.log.dropLast.1 }
  d.compile (Frontend.content d.front)

/-! ### Replies -/

/-- A diagnostic: a failure of the running story also shows in the transcript, and a new diagnostic
changes what is shown of the issues. -/
def addDiagnostic (diagnostic : Diagnostic) : Director F :=
  let d := if diagnostic.severity = .runtimeError then d.cue (.sayFailure diagnostic) else d
  let (issues, added) := d.state.issues.add diagnostic
  if added then (d.modify fun s => { s with issues }).showIssues else d

/-- The state with a decision point. A new point is answered from the log if a choice is due;
otherwise it is shown, and the story is live from then on. -/
def openPoint (s : PlayState) : PlayState × DecisionPoint :=
  match s.point with
  | some point => (s, point)
  | none =>
    if s.log.due.isSome then (s, { replayed := true, animated := false })
    else
      let (log, wentLive) := s.log.goLive
      ({ s with log }, { replayed := false, animated := !wentLive })

/-- A choice is offered. -/
def addChoice (choice : Choice) : Director F :=
  let (state, point) := openPoint d.state
  let d := { d with state }
  let d := if point.replayed then d else d.cue (.offer state.session choice point.animated)
  d.modify fun s => { s with point := some { point with choices := point.choices ++ [choice] } }

/-- The logged choice that answers the open decision point. -/
def replayedChoice (s : PlayState) : Option Nat :=
  match s.point with
  | some point => if point.replayed then s.log.takeDue.2 else none
  | none => none

/-- All choices have been offered. A decision point that the log answers is settled. -/
def settlePoint : Director F :=
  let d := d.cue .scrollDown
  match replayedChoice d.state with
  | none => d
  | some n =>
    let d := d.cue .rule
    let d := d.modify fun s => { s with log := s.log.takeDue.1, point := none }
    d.submit n

/-- The story has ended. -/
def conclude (phase : Phase) (text : String) (termination : Termination) : Director F :=
  (d.modify fun s => { s with phase, point := none }).cue (.sayEnd text termination)

/-- An event of the running session. -/
def perform : Event → Director F
  | .text text => d.cue (.say text !d.state.log.isReplaying)
  | .diagnostic diagnostic => d.addDiagnostic diagnostic
  | .choice choice => d.addChoice choice
  | .inputRequired => d.settlePoint
  | .storyCompleted => d.conclude .completed endOfStoryMessage .finished
  | .unexpectedExit => d.conclude .failed errorInStoryMessage .failed
  | .stopAcknowledged => d

/-- What becomes of a reply in a given state. -/
def outcome (s : PlayState) (r : Reply) : Outcome :=
  if s.phase = .idle ∨ r.session ≠ s.session then .stale
  else if r.event = .stopAcknowledged then .applied
  else if s.phase.isFinal then .tooLate
  else .applied

/-- A reply of the interpreter. -/
def receive (r : Reply) : Director F × Outcome :=
  match outcome d.state r with
  | .applied => (d.perform r.event, .applied)
  | refused => (d, refused)

/-! ### Selections -/

/-- Why a selection is refused in a given state, if it is. -/
def refusal? (s : PlayState) (session : SessionId) (n : Nat) : Option Refusal :=
  if session ≠ s.session then some (.otherSession session s.session)
  else
    match s.point with
    | none => some .nothingToSelect
    | some point =>
      if point.replayed ∨ s.phase ≠ .running then some .nothingToSelect
      else if point.choices.any fun choice => choice.number = n then none
      else some (.notOffered n)

/-- A choice of a session is selected. -/
def select (session : SessionId) (n : Nat) : Director F × Except Refusal Unit :=
  match refusal? d.state session n with
  | some e => (d, .error e)
  | none =>
    let d := d.modify fun s => { s with log := (s.log.add n).1, point := none }
    (d.submit n, .ok ())

/-- The next issue is selected, and the cursor moves there. The second part is the line. -/
def visitNextIssue : Director F × Option Nat :=
  match d.state.issues.selectNext with
  | (_, none) => (d, none)
  | (issues, some issue) =>
    ((d.modify fun s => { s with issues }).cue (.moveTo issue.line 0), some issue.line)

/-- The window has another width. -/
def centreList : Director F :=
  { d with front := d.display.centre d.front }

end Director

end Playthrough
