import Playthrough.Frontend

/-!
# Showing the issues

The issues of a session are shown by notes and markers beside the text and by a list that pops up.
An update takes away all markers of the update before and builds everything anew, so that nothing of
an older session can stay behind.

## Main definitions

* `IssueDisplay` — the markers that are shown, and whether the list is.
* `IssueDisplay.update` — show the issues of a list, and nothing else.
* `IssueDisplay.centre` — put the list in the middle of the window.
-/

namespace Playthrough

/-- What is said when there are no issues. -/
def noIssuesMessage : String := "No issues."

/-- What the last update left behind. -/
structure IssueDisplay where
  markers : List Marker := []
  listVisible : Bool := false
  deriving DecidableEq, Repr, Inhabited

namespace IssueDisplay

variable {F : Type} [Frontend F]

/-- The front end without some markers. -/
def unmarkAll (front : F) (markers : List Marker) : F :=
  markers.foldl (fun front m => Frontend.cue (.unmark m) front) front

/-- The front end with a marker for each issue, and their names in the same order. -/
def markAll (front : F) : List Diagnostic → F × List Marker
  | [] => (front, [])
  | d :: ds =>
    let (front, m) := Frontend.mark d.rowSpan d.severity.style front
    let (front, ms) := markAll front ds
    (front, m :: ms)

/-- The place of the left edge of the list that puts it in the middle of the window. -/
def centredLeft (front : F) : Float :=
  0.5 * Frontend.windowWidth front - 0.5 * Frontend.listWidth front

/-- The front end with the list of issues in the middle, if it is shown. -/
def centre (v : IssueDisplay) (front : F) : F :=
  if v.listVisible then Frontend.cue (.placeList (centredLeft front)) front else front

/-- The front end that says how many issues there are. -/
def showTally (tally : IssueTally) (front : F) : F :=
  if tally.total = 0 then Frontend.cue (.showNone noIssuesMessage) front
  else Frontend.cue (.showBadge (.ofTally tally)) front

/-- Show the issues of a list, and nothing else. -/
def update (v : IssueDisplay) (l : IssueList) (front : F) : IssueDisplay × F :=
  let shown := l.shown
  let front := unmarkAll front v.markers
  let front := Frontend.cue (.showNotes (shown.map Diagnostic.note)) front
  let (front, markers) := markAll front shown
  let front := Frontend.cue (.showEntries (shown.map Diagnostic.entry)) front
  let front := showTally l.tally front
  let v : IssueDisplay := ⟨markers, l.tally.total != 0⟩
  (v, v.centre front)

end IssueDisplay

end Playthrough
