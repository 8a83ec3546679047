/-!
# Messages to and from an interpreter

A workbench asks an interpreter to run a story, to continue it with a choice, or to stop. The
interpreter answers with events. Every request names the session it is for, and every reply the
session that produced it, so that a reply of an abandoned session can be told from a current one.

## Main definitions

* `Severity`, `Diagnostic` — what a compiler or a running story complains about.
* `Choice` — one option offered at a decision point.
* `Request` — what is sent to an interpreter.
* `Event`, `Reply` — what an interpreter sends back.
-/

namespace Playthrough

/-- The number of one compile-and-run session. Sessions are numbered from one. -/
abbrev SessionId := Nat

/-- How serious a diagnostic is. -/
inductive Severity where
  | error
  | runtimeError
  | warning
  | todo
  deriving DecidableEq, Repr, Inhabited

/-- The name of a severity, in messages and in what is printed. -/
def Severity.label : Severity → String
  | .error => "ERROR"
  | .runtimeError => "RUNTIME ERROR"
  | .warning => "WARNING"
  | .todo => "TODO"

/-- A complaint of the compiler or of the running story about a line, counted from one. -/
structure Diagnostic where
  severity : Severity
  line : Nat
  message : String
  deriving DecidableEq, Repr, Inhabited

/-- An option offered at a decision point, with the number that selects it. -/
structure Choice where
  number : Nat
  text : String
  deriving DecidableEq, Repr, Inhabited

/-- What is asked of an interpreter. -/
inductive Request where
  /-- Compile `content` and play it from its beginning. -/
  | run (content : String) (session : SessionId)
  /-- Abandon a session. -/
  | stop (session : SessionId)
  /-- Take the choice with this number at the open decision point. -/
  | continueWith (choice : Nat) (session : SessionId)
  deriving DecidableEq, Repr, Inhabited

/-- The session a request is for. -/
def Request.session : Request → SessionId
  | .run _ s => s
  | .stop s => s
  | .continueWith _ s => s

/-- Whether a request starts a session. -/
def Request.isRun : Request → Bool
  | .run _ _ => true
  | _ => false

/-- What an interpreter reports. -/
inductive Event where
  | text (text : String)
  | diagnostic (diagnostic : Diagnostic)
  | choice (choice : Choice)
  | inputRequired
  | storyCompleted
  | unexpectedExit
  | stopAcknowledged
  deriving DecidableEq, Repr, Inhabited

/-- The name of an event in messages. -/
def Event.name : Event → String
  | .text _ => "textProduced"
  | .diagnostic _ => "diagnosticProduced"
  | .choice _ => "choiceProduced"
  | .inputRequired => "inputRequired"
  | .storyCompleted => "storyCompleted"
  | .unexpectedExit => "unexpectedExit"
  | .stopAcknowledged => "stopAcknowledged"

/-- Whether no further output of the story follows an event. -/
def Event.isFinal : Event → Bool
  | .storyCompleted => true
  | .unexpectedExit => true
  | _ => false

/-- An event and the session that produced it. -/
structure Reply where
  session : SessionId
  event : Event
  deriving DecidableEq, Repr, Inhabited

end Playthrough
