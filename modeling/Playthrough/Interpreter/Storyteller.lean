import Playthrough.Frontend
import Playthrough.Interpreter.Script

/-!
# The storyteller

An interpreter that plays a script: it answers every request at once. Its output is queued until it
is taken, so that whoever drives it decides when the output is delivered.

## Main definitions

* `Storyteller` — the script, the sessions at a decision point, and the queued output.
* `Storyteller.send` — a request.
* `Storyteller.takeOutput` — the queued output.
-/

namespace Playthrough

/-- An event that says that the story fails, without naming a line of it. -/
def failure (message : String) : Event :=
  .diagnostic ⟨.runtimeError, 1, message⟩

/-- An interpreter that plays a script. -/
structure Storyteller where
  script : Script := .crossroads
  /-- Diagnostics of every compile. An error among them ends the session. -/
  complaints : List Diagnostic := []
  /-- The sessions at a decision point, and the passages they are at. -/
  positions : List (SessionId × Nat) := []
  /-- The output that has not been taken yet. -/
  output : List Reply := []
  /-- The requests received. -/
  received : List Request := []
  closed : Bool := false
  deriving DecidableEq, Repr, Inhabited

namespace Storyteller

variable (st : Storyteller)

/-- The passage a session is at. -/
def position? (session : SessionId) : Option Nat :=
  st.positions.lookup session

/-- The session is at no decision point any more. -/
def leave (session : SessionId) : Storyteller :=
  { st with positions := st.positions.filter fun p => p.1 ≠ session }

/-- The session is at the decision point of a passage. -/
def wait (session : SessionId) (index : Nat) : Storyteller :=
  { st with positions := (session, index) :: (st.leave session).positions }

/-- Queue events of a session. -/
def say (session : SessionId) (events : List Event) : Storyteller :=
  { st with output := st.output ++ events.map (⟨session, ·⟩) }

/-- The story fails. -/
def crash (session : SessionId) (message : String) : Storyteller :=
  (st.leave session).say session [failure message, .unexpectedExit]

/-- Play the passage with an index. -/
def play (session : SessionId) (index : Nat) : Storyteller :=
  match st.script.passages[index]? with
  | none => st.crash session s!"Missing passage {index}"
  | some p =>
    let st := if p.branches.isEmpty then st.leave session else st.wait session index
    st.say session p.events

/-- The diagnostics of a compile. -/
def diagnosticsOf (content : String) : List Diagnostic :=
  st.complaints ++ todoNotes content

/-- Compile a story, and play its first passage unless there are errors. -/
def compile (session : SessionId) (content : String) : Storyteller :=
  let ds := st.diagnosticsOf content
  let st := st.say session (ds.map .diagnostic)
  if ds.any fun d => d.severity = .error then st.say session [.unexpectedExit]
  else st.play session 0

/-- Take a choice. A session that is at no decision point is left alone. -/
def takeChoice (session : SessionId) (n : Nat) : Storyteller :=
  match st.position? session with
  | none => st
  | some index =>
    match st.script.passages[index]?.bind (·.branch? n) with
    | some branch => st.play session branch.target
    | none => st.crash session s!"Choice {n} is out of range"

/-- What an accepted request does. -/
def answer : Request → Storyteller
  | .run content session => st.compile session content
  | .stop session => (st.leave session).say session [.stopAcknowledged]
  | .continueWith n session => st.takeChoice session n

/-- Receive a request. A closed storyteller refuses it. -/
def send (r : Request) : Storyteller × Except SendError Unit :=
  if st.closed then (st, .error .closed)
  else ({ st with received := st.received ++ [r] }.answer r, .ok ())

/-- Take all queued output. -/
def takeOutput : Storyteller × List Reply :=
  ({ st with output := [] }, st.output)

/-- Refuse all further requests. -/
def close : Storyteller :=
  { st with closed := true }

/-- The number of stories that were started. -/
def runs : Nat :=
  st.received.countP Request.isRun

end Storyteller

end Playthrough
