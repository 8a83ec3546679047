import Playthrough.Divert
import Playthrough.Issues.Basic
import Playthrough.Issues.Decoration
import Playthrough.Text.Quoted

/-!
# Front ends

A play is shown by a *front end*: an editor with the text of the story, a transcript of what the
story says, a list of issues, and a way to send requests to an interpreter. A front end is a value
that every call turns into the next one. Most calls only tell it something, and are the values of
one type of *cues*; it answers when it is asked for its content, marks rows, or sends a request.

## Main definitions

* `Cue` — what a front end is told.
* `SendError` — why a request was not sent.
* `Frontend` — the operations of a front end.
-/

namespace Playthrough

/-- How a story ended. -/
inductive Termination where
  | finished
  | failed
  deriving DecidableEq, Repr, Inhabited

/-- What a front end is told. -/
inductive Cue where
  /-- Show these notes beside the text and no others. -/
  | showNotes (notes : List Note)
  /-- Take a marker away. -/
  | unmark (marker : Marker)
  /-- Move the cursor. Lines are counted from one and columns from zero. -/
  | moveTo (line column : Nat)
  /-- Tell the author something that is not part of the story. -/
  | tell (message : String)
  /-- Add a text to the transcript. -/
  | say (text : String) (animated : Bool)
  /-- Offer a choice of a session. -/
  | offer (session : SessionId) (choice : Choice) (animated : Bool)
  /-- Add a failure of the running story to the transcript. -/
  | sayFailure (diagnostic : Diagnostic)
  /-- Say how a session ended. -/
  | sayEnd (text : String) (termination : Termination)
  /-- Draw a line through the transcript. -/
  | rule
  /-- Show the end of the transcript. -/
  | scrollDown
  /-- Make room for the transcript of a new session. -/
  | turnPage
  /-- Say that there are no issues, in place of their number. -/
  | showNone (message : String)
  /-- Say how many issues there are. -/
  | showBadge (badge : IssueBadge)
  /-- Show these entries in the list of issues and no others. -/
  | showEntries (entries : List IssueEntry)
  /-- Put the left edge of the list of issues somewhere. -/
  | placeList (left : Float)
  deriving DecidableEq

/-- Why a request was not sent. -/
inductive SendError where
  | closed
  /-- The request could not be written as a line. -/
  | unwritable (cause : String)
  /-- A line of the interpreter could not be read. -/
  | unreadable (line cause : String)
  deriving DecidableEq, Repr, Inhabited

/-- The wording of a failure to send. -/
def SendError.message : SendError → String
  | .closed => "interpreter channel is closed"
  | .unwritable cause => s!"failed to encode interpreter message: {cause}"
  | .unreadable line cause =>
    s!"failed to decode interpreter line {Text.quoted line}: {cause}"

/-- The operations of a front end. -/
class Frontend (F : Type) where
  /-- The text of the story. -/
  content : F → String
  /-- The classified tokens of the text, in their order. -/
  tokens : F → List StoryToken
  /-- The width of the window. -/
  windowWidth : F → Float
  /-- The width of the list of issues. -/
  listWidth : F → Float
  /-- The front end after it was told something. -/
  cue : Cue → F → F
  /-- The front end with one more marker, and its name. -/
  mark : RowSpan → Style → F → F × Marker
  /-- The front end after a request was handed to the interpreter, and whether that worked. -/
  send : Request → F → F × Except SendError Unit

end Playthrough
