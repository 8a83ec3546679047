import Playthrough.Frontend

/-!
# Recording a front end

Any front end together with the list of all calls made to it. What a recorded front end answers is
what the front end itself answers.

## Main definitions

* `Call` — a call that changes a front end.
* `Recorder` — a front end and the calls made to it.
-/

namespace Playthrough

/-- A call that changes a front end, with the marker it was given. -/
inductive Call where
  | cue (q : Cue)
  | mark (marker : Marker) (rows : RowSpan) (style : Style)
  | send (r : Request)
  deriving DecidableEq

/-- A front end and the calls made to it, the first one first. -/
structure Recorder (F : Type) where
  front : F
  calls : List Call := []

namespace Recorder

variable {F : Type}

/-- A recorded front end after a call that turned it into `front`. -/
def note (r : Recorder F) (call : Call) (front : F) : Recorder F :=
  ⟨front, r.calls ++ [call]⟩

@[simp] theorem calls_note (r : Recorder F) (call : Call) (front : F) :
    (r.note call front).calls = r.calls ++ [call] := rfl

@[simp] theorem front_note (r : Recorder F) (call : Call) (front : F) :
    (r.note call front).front = front := rfl

variable [Frontend F]

instance : Frontend (Recorder F) where
  content r := Frontend.content r.front
  tokens r := Frontend.tokens r.front
  windowWidth r := Frontend.windowWidth r.front
  listWidth r := Frontend.listWidth r.front
  cue q r := r.note (.cue q) (Frontend.cue q r.front)
  mark rows style r :=
    let (front, m) := Frontend.mark rows style r.front
    (r.note (.mark m rows style) front, m)
  send request r :=
    let (front, result) := Frontend.send request r.front
    (r.note (.send request) front, result)

@[simp] theorem calls_cue (q : Cue) (r : Recorder F) :
    (Frontend.cue q r).calls = r.calls ++ [.cue q] := rfl

@[simp] theorem calls_send (request : Request) (r : Recorder F) :
    (Frontend.send request r).1.calls = r.calls ++ [.send request] := rfl

end Recorder

end Playthrough
