import Playthrough.Interpreter.Storyteller
import Playthrough.Recorder
import Playthrough.Workbench

/-!
# Rehearsals

A workbench on a front end without a face, whose interpreter is scripted. What the interpreter says
is delivered by hand: it waits in an inbox, and can be put aside and delivered later, out of turn.

## Main definitions

* `Stage` — the front end: a text, the widths of its parts, and the scripted interpreter.
* `Rehearsal` — a recorded workbench, its inbox, and what was put aside.
* `Rehearsal.deliver`, `Rehearsal.deliverAll` — deliver some, or all, of the inbox.
* `Rehearsal.hold`, `Rehearsal.release` — put the inbox aside, and deliver what was put aside.
-/

namespace Playthrough

/-- A front end that shows nothing. -/
structure Stage where
  interpreter : Storyteller := {}
  content : String := ""
  tokens : List StoryToken := []
  windowWidth : Float := 800
  listWidth : Float := 300
  nextMarker : Marker := 1

instance : Frontend Stage where
  content s := s.content
  tokens s := s.tokens
  windowWidth s := s.windowWidth
  listWidth s := s.listWidth
  cue _ s := s
  mark _ _ s := ({ s with nextMarker := s.nextMarker + 1 }, s.nextMarker)
  send r s :=
    let (interpreter, result) := s.interpreter.send r
    ({ s with interpreter }, result)

/-- A recorded workbench, what is to be delivered to it, and what was put aside. -/
structure Rehearsal where
  bench : Workbench (Recorder Stage)
  inbox : List Reply := []
  held : List Reply := []

namespace Rehearsal

variable (r : Rehearsal)

/-- The state of the play. -/
def state : PlayState :=
  r.bench.director.state

/-- The front end. -/
def stage : Stage :=
  r.bench.director.front.front

/-- The calls made to the front end. -/
def calls : List Call :=
  r.bench.director.front.calls

/-- Change the recorded front end. -/
def modifyRecorder (f : Recorder Stage → Recorder Stage) : Rehearsal :=
  { r with bench := r.bench.modify fun d => { d with front := f d.front } }

/-- Change the front end. -/
def modifyStage (f : Stage → Stage) : Rehearsal :=
  r.modifyRecorder fun c => { c with front := f c.front }

/-- Forget the calls made so far. -/
def forgetCalls : Rehearsal :=
  r.modifyRecorder fun c => { c with calls := [] }

/-- Move all new output of the interpreter to the back of the inbox. -/
def collect : Rehearsal :=
  let (interpreter, replies) := r.stage.interpreter.takeOutput
  { r.modifyStage fun s => { s with interpreter } with inbox := r.inbox ++ replies }

/-- Deliver a reply. -/
def onReply (reply : Reply) : Rehearsal × Outcome :=
  let (bench, outcome) := r.bench.onReply reply
  ({ r with bench }, outcome)

/-- Deliver the front of the inbox, if there is any. -/
def deliverNext : Rehearsal × Option Outcome :=
  let r := r.collect
  match r.inbox with
  | [] => (r, none)
  | reply :: inbox =>
    let (r, outcome) := { r with inbox }.onReply reply
    (r, some outcome)

/-- Deliver up to `count` replies. -/
def deliver : Nat → Rehearsal → Rehearsal × List Outcome
  | 0, r => (r, [])
  | count + 1, r =>
    match r.deliverNext with
    | (r, none) => (r, [])
    | (r, some outcome) =>
      let (r, outcomes) := deliver count r
      (r, outcome :: outcomes)

/-- Deliver, `rounds` times, as many replies as wait at the start of the round. -/
def deliverRounds : Nat → Rehearsal → Rehearsal × List Outcome
  | 0, r => (r, [])
  | rounds + 1, r =>
    let r := r.collect
    let (r, outcomes) := deliver r.inbox.length r
    let (r, more) := deliverRounds rounds r
    (r, outcomes ++ more)

/-- Deliver all replies, those among them that the interpreter gives meanwhile. It has something to
say after a round only if a choice of the log was submitted in it, which bounds the number of
rounds. -/
def deliverAll : Rehearsal × List Outcome :=
  deliverRounds (r.state.log.unplayed + 1) r

/-- Put the inbox aside, behind what was put aside before. -/
def hold : Rehearsal :=
  let r := r.collect
  { r with inbox := [], held := r.held ++ r.inbox }

/-- Deliver up to `count` of the replies that were put aside. -/
def release : Nat → Rehearsal → Rehearsal × List Outcome
  | 0, r => (r, [])
  | count + 1, r =>
    match r.held with
    | [] => (r, [])
    | reply :: held =>
      let (r, outcome) := { r with held }.onReply reply
      let (r, outcomes) := release count r
      (r, outcome :: outcomes)

end Rehearsal

end Playthrough
