import Playthrough.Interpreter.Basic
import Playthrough.Text.Lines

/-!
# The terminal

A front end that prints. The transcript is printed as it comes, the list of issues when it is asked
for, and the number of issues whenever it changes.

## Main definitions

* `Terminal` — what was printed, and what is shown without being printed.
* `Terminal.printIssues`, `Terminal.printLine` — the list of issues, and a line of the story.
* `Terminal.perform` — what each cue prints.
-/

namespace Playthrough

open Text

/-- A front end that prints. -/
structure Terminal where
  interpreter : Interpreter
  content : String
  /-- What was printed, in order. -/
  printed : List String := []
  notes : List Note := []
  markers : List (Marker × RowSpan × Style) := []
  nextMarker : Marker := 1
  entries : List IssueEntry := []
  /-- What was last said about the number of issues. -/
  badge : Option String := none
  /-- The line of the cursor, counted from one, and its column, counted from zero. -/
  cursor : Nat × Nat := (1, 0)
  listLeft : Float := 0

namespace Terminal

variable (t : Terminal)

/-- The width of the window, in columns. -/
def windowColumns : Float := 80

/-- The width of the list of issues, in columns. -/
def listColumns : Float := 40

/-- Print a text. -/
def print (s : String) : Terminal :=
  { t with printed := t.printed ++ [s] }

/-- The label of a style. -/
def labelOf : Style → String
  | .error => "[error]"
  | .warning => "[warning]"
  | .info => "[todo]"

/-- An entry of the list of issues. -/
def entryText (e : IssueEntry) : String :=
  s!"  {labelOf e.style} line {e.line}: {e.message}\n"

/-- Print the list of issues. -/
def printIssues : Terminal :=
  if t.entries.isEmpty then t.print "  No issues.\n"
  else t.entries.foldl (fun t e => t.print (entryText e)) t

/-- A number in at least four columns. -/
def column (n : Nat) : String :=
  let digits := toString n
  "".pushn ' ' (4 - digits.length) ++ digits

/-- The text of a line, counted from one. The line zero is the first line, and a line behind the
last is empty. -/
def lineText (line : Nat) : String :=
  match (lines t.content.toList)[line - 1]? with
  | some cs => String.ofList cs
  | none => ""

/-- The note beside a line, counted from one. -/
def lineNote (line : Nat) : String :=
  match t.notes.find? fun note => note.row + 1 = line with
  | some note => s!"  <- {note.text}"
  | none => ""

/-- Print a line of the story and the note beside it. -/
def printLine (line : Nat) : Terminal :=
  t.print s!"  {column line} | {t.lineText line}{t.lineNote line}\n"

/-- Say something about the number of issues, unless it is what was said last. -/
def sayBadge (text : String) : Terminal :=
  if t.badge = some text then t
  else { t with badge := some text }.print s!"[issues] {text}\n"

/-- The frame around the message at the end of a session. -/
def banner : Termination → String
  | .finished => "==="
  | .failed => "!!!"

/-- The terminal after it was told something. -/
def perform : Cue → Terminal
  | .showNotes notes => { t with notes }
  | .unmark m => { t with markers := t.markers.filter fun p => p.1 ≠ m }
  | .moveTo line column => { t with cursor := (line, column) }.printLine line
  | .tell message => t.print s!"  ({message})\n"
  | .say text _ => t.print s!"{text}\n"
  | .offer _ choice _ => t.print s!"  {choice.number}. {choice.text}\n"
  | .sayFailure d =>
    t.print s!"  ! {d.severity.label} line {d.line}: {d.message}  (:line {d.line} to jump)\n"
  | .sayEnd text termination =>
    t.print s!"{banner termination} {text} {banner termination}\n"
  | .rule => t.print "  ----\n"
  | .scrollDown => t
  | .turnPage => t.print "\n"
  | .showNone message => t.sayBadge message
  | .showBadge badge => t.sayBadge badge.text
  | .showEntries entries => { t with entries }
  | .placeList left => { t with listLeft := left }

/-- The terminal with one more marker. -/
def mark (rows : RowSpan) (style : Style) : Terminal × Marker :=
  ({ t with
      markers := t.markers ++ [(t.nextMarker, rows, style)]
      nextMarker := t.nextMarker + 1 }, t.nextMarker)

/-- Hand a request to the interpreter. -/
def send (r : Request) : Terminal × Except SendError Unit :=
  let (interpreter, result) := t.interpreter.send r
  ({ t with interpreter }, result)

/-- Take the replies that are there without waiting. -/
def takeReplies : Terminal × List Reply :=
  let (interpreter, replies) := t.interpreter.takeReplies
  ({ t with interpreter }, replies)

/-- All that was printed. -/
def output : String :=
  String.join t.printed

end Terminal

instance : Frontend Terminal where
  content t := t.content
  tokens _ := []
  windowWidth _ := Terminal.windowColumns
  listWidth _ := Terminal.listColumns
  cue q t := t.perform q
  mark rows style t := t.mark rows style
  send r t := t.send r

end Playthrough
