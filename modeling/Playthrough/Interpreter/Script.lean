import Playthrough.Message
import Playthrough.Text.Lines
import Playthrough.Text.Search

/-!
# Scripts

A story may be played from a fixed script of passages. A passage says some texts, reports some
diagnostics, and then either offers choices, each leading to another passage, or ends the story. Of
the content of the story only its `TODO` notes are looked at.

## Main definitions

* `Passage`, `Script` — what is played.
* `Passage.events` — the output of a passage.
* `todoNotes` — the notes in the content of a story.
-/

namespace Playthrough

open Text

/-- How a passage without choices ends. -/
inductive Ending where
  | complete
  | crash
  deriving DecidableEq, Repr, Inhabited

/-- The event at the end of the story. -/
def Ending.event : Ending → Event
  | .complete => .storyCompleted
  | .crash => .unexpectedExit

/-- The text of a choice, and the index of the passage it leads to. -/
structure Branch where
  text : String
  target : Nat
  deriving DecidableEq, Repr, Inhabited

/-- Output of the story up to a decision point or an ending. -/
structure Passage where
  texts : List String := []
  diagnostics : List Diagnostic := []
  branches : List Branch := []
  ending : Ending := .complete
  deriving DecidableEq, Repr, Inhabited

namespace Passage

variable (p : Passage)

/-- The choices of a passage, numbered from one. -/
def choices : List Choice :=
  p.branches.mapIdx fun i b => ⟨i + 1, b.text⟩

/-- The branch that the choice with a given number takes. -/
def branch? (n : Nat) : Option Branch :=
  if n = 0 then none else p.branches[n - 1]?

/-- What follows the texts and diagnostics of a passage. -/
def closing : List Event :=
  if p.branches.isEmpty then [p.ending.event] else p.choices.map .choice ++ [.inputRequired]

/-- The output of a passage. -/
def events : List Event :=
  p.texts.map .text ++ p.diagnostics.map .diagnostic ++ p.closing

end Passage

/-- Passages by their indices. A story begins with the first. -/
structure Script where
  passages : List Passage := []
  deriving DecidableEq, Repr, Inhabited

namespace Script

/-- The passage at the position `i` of a chain: two choices that both lead on. -/
def chainLink (i : Nat) : Passage where
  texts := [s!"Passage {i}"]
  branches := [⟨s!"Left at {i}", i + 1⟩, ⟨s!"Right at {i}", i + 1⟩]

/-- A number of decision points in a row, and the end. -/
def chain (decisions : Nat) : Script :=
  ⟨(List.range decisions).map chainLink ++ [{ texts := ["The end"] }]⟩

/-- The story that is played unless another one is given. -/
def crossroads : Script :=
  ⟨[{ texts := ["The lamp gutters as you reach the crossroads."],
      branches := [⟨"Take the forest path", 1⟩, ⟨"Follow the river", 2⟩] },
    { texts := ["Branches close overhead.", "Something watches from the dark."],
      branches := [⟨"Call out", 3⟩, ⟨"Keep walking", 3⟩] },
    { texts := ["The river carries you home."] },
    { texts := ["Dawn breaks over the trees."] }]⟩

end Script

/-! ### Notes in a story -/

/-- The note on a line: what follows the first `TODO`, without the colons it begins with. -/
def todoNote? (line : List Char) : Option String :=
  (afterFirst? ['T', 'O', 'D', 'O'] line).map fun rest =>
    String.ofList (trim (rest.dropWhile (· = ':')))

/-- The notes in the content of a story, as diagnostics. -/
def todoNotes (content : String) : List Diagnostic :=
  (lines content.toList).zipIdx.filterMap fun (line, i) =>
    (todoNote? line).map fun note => ⟨.todo, i + 1, note⟩

end Playthrough
