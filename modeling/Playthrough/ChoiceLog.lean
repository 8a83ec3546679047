/-!
# The choice log

The choices that led to where the story stands. When the story is compiled again, they are taken
once more, one after the other, and the story goes on from there. A cursor tells how many have been
taken in the current session, or that the story is live.

## Main definitions

* `ChoiceLog`, `Cursor` — the choices made, and how far they have been taken again.
* `ChoiceLog.rewound`, `ChoiceLog.due`, `ChoiceLog.takeDue`, `ChoiceLog.goLive` — a session goes
  through the log.
* `ChoiceLog.add`, `ChoiceLog.clear`, `ChoiceLog.dropLast` — the log grows and shrinks.
* `ChoiceLog.unplayed` — how many choices are still to be taken.
-/

namespace Playthrough

/-- How far a log has been taken again. -/
inductive Cursor where
  /-- Decision points are put to the person at the keyboard. -/
  | live
  /-- The choice with this index is the next one to be taken. -/
  | next (index : Nat)
  deriving DecidableEq, Repr, Inhabited

/-- The choices made so far, and how far they have been taken again in the current session. -/
structure ChoiceLog where
  choices : List Nat := []
  cursor : Cursor := .live
  deriving DecidableEq, Repr, Inhabited

namespace ChoiceLog

variable (log : ChoiceLog)

/-- Whether the log is being taken again. -/
def isReplaying : Bool :=
  log.cursor != .live

/-- The log at the start of a session: live if there is nothing to take. -/
def rewound : ChoiceLog :=
  { log with cursor := if log.choices.isEmpty then .live else .next 0 }

/-- The logged choice that answers the next decision point. -/
def due : Option Nat :=
  match log.cursor with
  | .live => none
  | .next i => log.choices[i]?

/-- The log behind the choice that is due, and that choice. -/
def takeDue : ChoiceLog × Option Nat :=
  match log.cursor, log.due with
  | .next i, some n => ({ log with cursor := .next (i + 1) }, some n)
  | _, _ => (log, none)

/-- Whether all choices have been taken again and the story has not gone live yet. -/
def isCaughtUp : Bool :=
  log.cursor == .next log.choices.length

/-- The log, live if all choices have been taken again, and whether it went live just now. -/
def goLive : ChoiceLog × Bool :=
  if log.isCaughtUp then ({ log with cursor := .live }, true) else (log, false)

/-- The log with one more choice, and whether it was added. Nothing is added before the log is
live. -/
def add (n : Nat) : ChoiceLog × Bool :=
  if log.isReplaying then (log, false) else ({ log with choices := log.choices ++ [n] }, true)

/-- The log without any choice. -/
def clear (_ : ChoiceLog) : ChoiceLog :=
  {}

/-- The log without its last choice, and that choice. The cursor stays where it is. -/
def dropLast : ChoiceLog × Option Nat :=
  ({ log with choices := log.choices.dropLast }, log.choices.getLast?)

/-- The number of choices that are still to be taken. -/
def unplayed : Nat :=
  match log.cursor with
  | .live => 0
  | .next i => log.choices.length - i

@[simp] theorem choices_rewound : log.rewound.choices = log.choices := rfl

@[simp] theorem choices_clear : log.clear.choices = [] := rfl

@[simp] theorem cursor_clear : log.clear.cursor = .live := rfl

@[simp] theorem choices_takeDue : log.takeDue.1.choices = log.choices := by
  unfold takeDue
  split <;> rfl

@[simp] theorem choices_goLive : log.goLive.1.choices = log.choices := by
  unfold goLive
  split <;> rfl

/-- Taking a choice leaves one less to take. -/
theorem unplayed_takeDue {n : Nat} (h : log.takeDue.2 = some n) :
    log.takeDue.1.unplayed + 1 = log.unplayed := by
  unfold takeDue due at *
  cases hc : log.cursor with
  | live => simp [hc] at h
  | next i =>
    cases hn : log.choices[i]? with
    | none => simp [hc, hn] at h
    | some m =>
      have := (List.getElem?_eq_some_iff.mp hn).1
      simp only [hc, hn, unplayed]
      omega

end ChoiceLog

end Playthrough
