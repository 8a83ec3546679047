import Mathlib.Data.List.Induction
import Playthrough.Proofs.Step

/-!
# Turns of a play

A play goes on in *turns*, in each of which one thing happens. A turn is recorded with the state it
found and left, its answer, and the calls that were made in it. A session is the turns from an order
that starts one up to the next such order.

## Main definitions

* `Turn`, `Director.turns`, `Director.run` — the turns of a play, and the director behind them.
* `sessionTurns`, `pastTurns` — the turns of the current session, and those before it.
* `callsOf` — the calls made in some turns.

## Main results

* `Director.turn_step` — one of the rules of `Step` describes a turn.
* `Director.calls_run` — the calls of a play are those of its turns.
* `sessionTurns_append_singleton` — a turn starts a session or belongs to the current one.
-/

namespace Playthrough

/-! ### Turns -/

/-- What happened in a turn, the state that it found and left, what was answered, and the calls that
were made. -/
structure Turn (F : Type) where
  happening : Happening F
  before : PlayState
  after : PlayState
  answer : Answer
  calls : List Call

namespace Turn

variable {F : Type} (t : Turn F)

/-- Whether the turn starts a session. -/
def isStart : Bool :=
  t.happening.isStart

/-- Whether a reply is delivered in the turn. -/
def isReply : Bool :=
  t.happening.isReply

/-- Whether a choice is selected in the turn. -/
def isSelection : Bool :=
  t.happening.isSelection

end Turn

/-- The calls made in some turns. -/
def callsOf {F : Type} (ts : List (Turn F)) : List Call :=
  ts.flatMap Turn.calls

/-! ### Sessions -/

/-- The turns before the current session, and those of it. -/
def splitSession {F : Type} (ts : List (Turn F)) : List (Turn F) × List (Turn F) :=
  ts.foldl (fun split t =>
    if t.isStart then (split.1 ++ split.2, [t]) else (split.1, split.2 ++ [t])) ([], [])

/-- The turns of the current session, from the one that started it. -/
def sessionTurns {F : Type} (ts : List (Turn F)) : List (Turn F) :=
  (splitSession ts).2

/-- The turns before the current session. -/
def pastTurns {F : Type} (ts : List (Turn F)) : List (Turn F) :=
  (splitSession ts).1

section Sessions

variable {F : Type} (ts : List (Turn F)) (t : Turn F)

@[simp] theorem callsOf_nil : callsOf ([] : List (Turn F)) = [] := rfl

@[simp] theorem callsOf_append (us : List (Turn F)) :
    callsOf (ts ++ us) = callsOf ts ++ callsOf us :=
  List.flatMap_append

@[simp] theorem callsOf_singleton : callsOf [t] = t.calls := by
  simp [callsOf]

@[simp] theorem sessionTurns_nil : sessionTurns ([] : List (Turn F)) = [] := rfl

theorem sessionTurns_append_singleton :
    sessionTurns (ts ++ [t]) = if t.isStart then [t] else sessionTurns ts ++ [t] := by
  rw [sessionTurns, splitSession, List.foldl_append, List.foldl_cons, List.foldl_nil]
  split <;> rfl

theorem pastTurns_append_singleton :
    pastTurns (ts ++ [t]) =
      if t.isStart then pastTurns ts ++ sessionTurns ts else pastTurns ts := by
  rw [pastTurns, splitSession, List.foldl_append, List.foldl_cons, List.foldl_nil]
  split <;> rfl

theorem pastTurns_append_sessionTurns : pastTurns ts ++ sessionTurns ts = ts := by
  induction ts using List.reverseRecOn with
  | nil => rfl
  | append_singleton ts t ih =>
    rw [pastTurns_append_singleton, sessionTurns_append_singleton]
    split
    · rw [ih]
    · rw [← List.append_assoc, ih]

end Sessions

namespace Director

variable {F : Type} [Frontend F]

/-- The record of a turn. -/
def turn (d : Director (Recorder F)) (h : Happening F) : Turn F where
  happening := h
  before := d.state
  after := (d.happen h).1.state
  answer := (d.happen h).2
  calls := (d.happen h).1.calls.drop d.calls.length

/-- The turns in which some things happen, one after the other. -/
def turns (d : Director (Recorder F)) : List (Happening F) → List (Turn F)
  | [] => []
  | h :: hs => d.turn h :: turns (d.happen h).1 hs

/-- The director after some things happened. -/
def run (d : Director (Recorder F)) (hs : List (Happening F)) : Director (Recorder F) :=
  hs.foldl (fun d h => (d.happen h).1) d

/-- The director of a play that has not begun. -/
def opening (front : F) : Director (Recorder F) where
  front := ⟨front, []⟩

variable (d : Director (Recorder F)) (h : Happening F) (hs : List (Happening F))

@[simp] theorem run_nil : d.run [] = d := rfl

@[simp] theorem run_append (hs' : List (Happening F)) :
    d.run (hs ++ hs') = (d.run hs).run hs' :=
  List.foldl_append

@[simp] theorem run_singleton : d.run [h] = (d.happen h).1 := rfl

@[simp] theorem turns_nil : d.turns [] = [] := rfl

@[simp] theorem turns_append (hs' : List (Happening F)) :
    d.turns (hs ++ hs') = d.turns hs ++ (d.run hs).turns hs' := by
  induction hs generalizing d with
  | nil => rfl
  | cons h hs ih =>
    rw [List.cons_append, turns, ih, turns, List.cons_append]
    rfl

@[simp] theorem turns_singleton : d.turns [h] = [d.turn h] := rfl

@[simp] theorem map_happening_turns : (d.turns hs).map Turn.happening = hs := by
  induction hs generalizing d with
  | nil => rfl
  | cons h hs ih => exact congrArg (h :: ·) (ih (d.happen h).1)

/-! ### The calls of a turn -/

/-- The calls of a turn are those that it adds. -/
theorem calls_happen : (d.happen h).1.calls = d.calls ++ (d.turn h).calls := by
  obtain ⟨cs, hcs, -⟩ := d.happen_step h
  simp [turn, hcs]

/-- One of the rules describes a turn. -/
theorem turn_step :
    Step h d.state d.display (d.turn h).calls (d.happen h).1.state (d.happen h).1.display := by
  obtain ⟨cs, hcs, hstep⟩ := d.happen_step h
  rwa [← List.append_cancel_left (hcs.symm.trans (d.calls_happen h))]

/-- The calls of a play are those of its turns. -/
theorem calls_run : (d.run hs).calls = d.calls ++ callsOf (d.turns hs) := by
  induction hs using List.reverseRecOn with
  | nil => simp
  | append_singleton hs h ih => simp [calls_happen, ih]

theorem calls_run_opening (front : F) :
    ((opening front).run hs).calls = callsOf ((opening front).turns hs) := by
  rw [calls_run]
  rfl

end Director

end Playthrough
