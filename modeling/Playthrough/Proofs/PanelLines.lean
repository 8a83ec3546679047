import Mathlib.Data.List.Chain
import Playthrough.Proofs.ConsoleActs

/-!
# The lines of the panel

A terminal tells the number of issues by the lines of a panel, and prints them among all the rest.
To tell them apart from a story that says the same, a console's acts are done again on a terminal
whose panel is written down: what is printed when the number of issues is told is of the panel.

A line is printed only if it says something else than what the terminal remembers to have said. So
the last line of the panel says what the terminal was told last, and no two successive lines are the
same. Likewise the terminal has the notes, the entries and the markers that it was told last.

## Main definitions

* `PanelTerminal` — a terminal, and the lines that its panel has printed.
* `Console.panelAfter` — a console's terminal with its panel after some occasions.
* `marksStanding` — the markers that stand after some calls.
* `PanelTerminal.IsSteady`, `PanelTerminal.Displays` — what the panel has printed, and what the
  terminal has.

## Main results

* `Console.terminal_panelAfter` — the terminal with its panel is the terminal of the console.
* `PanelTerminal.IsSteady.perform` — the panel stays steady whatever the terminal is told.
* `PanelTerminal.kept_displays` — a terminal has what it was told last.
-/

namespace Playthrough

open Workbench (Act)

/-! ### A terminal and its panel -/

/-- What a cue says about the number of issues. -/
def Cue.said? : Cue → Option String
  | .showNone message => some message
  | .showBadge badge => some badge.text
  | _ => none

/-- A terminal, and the lines that its panel has printed. -/
structure PanelTerminal where
  terminal : Terminal
  lines : List String := []

namespace PanelTerminal

variable (p : PanelTerminal)

/-- A change of the terminal that prints nothing on the panel. -/
def change (f : Terminal → Terminal) : PanelTerminal :=
  { p with terminal := f p.terminal }

/-- The terminal after it was told something. What is printed then is of the panel if the number of
issues was told. -/
def perform (q : Cue) : PanelTerminal where
  terminal := p.terminal.perform q
  lines :=
    match q.said? with
    | some _ => p.lines ++ (p.terminal.perform q).printed.drop p.terminal.printed.length
    | none => p.lines

instance : Frontend PanelTerminal where
  content p := Frontend.content p.terminal
  tokens p := Frontend.tokens p.terminal
  windowWidth p := Frontend.windowWidth p.terminal
  listWidth p := Frontend.listWidth p.terminal
  cue q p := p.perform q
  mark rows style p := (p.change fun t => (t.mark rows style).1, (p.terminal.mark rows style).2)
  send r p := (p.change fun t => (t.send r).1, (p.terminal.send r).2)

/-- The panel makes no difference to what a terminal answers. -/
theorem matched :
    Frontend.Matched fun (t : Terminal) (r : Recorder PanelTerminal) => t = r.front.terminal where
  content h := congrArg Frontend.content h
  windowWidth h := congrArg Frontend.windowWidth h
  listWidth h := congrArg Frontend.listWidth h
  cue q _ _ h := congrArg (Frontend.cue q) h
  mark rows style _ _ h :=
    ⟨congrArg (fun t => (Terminal.mark t rows style).1) h,
      congrArg (fun t => (Terminal.mark t rows style).2) h⟩
  send r _ _ h :=
    ⟨congrArg (fun t => (Terminal.send t r).1) h, congrArg (fun t => (Terminal.send t r).2) h⟩

end PanelTerminal

/-- An act, done on a terminal with its panel. -/
def Workbench.Act.onPanel : Act Terminal → Act PanelTerminal
  | .edit now => .edit now
  | .time now => .time now
  | .reply r => .reply r
  | .intent i => .intent i
  | .change f => .change (·.change f)

namespace Console

/-- A workbench where the same is done as at a console, on a terminal with its panel. -/
structure Mirrors (c : Console) (w : Workbench (Recorder PanelTerminal)) : Prop where
  timer : c.bench.timer = w.timer
  alike : Director.Alike (fun (t : Terminal) (r : Recorder PanelTerminal) => t = r.front.terminal)
    c.bench.director w.director

/-- The workbench of a console whose panel is written down from now on. -/
def withPanel (c : Console) : Workbench (Recorder PanelTerminal) where
  director :=
    { state := c.state, display := c.bench.director.display, front := ⟨⟨c.terminal, []⟩, []⟩ }
  timer := c.bench.timer
  timing := c.bench.timing

/-- The workbench after some occasions at a console whose panel is written down meanwhile. -/
def benchAfter (c : Console) (os : List Occasion) : Workbench (Recorder PanelTerminal) :=
  c.withPanel.acts ((c.actsThrough os).map Act.onPanel)

/-- The terminal after some occasions, with the lines that its panel has printed meanwhile. -/
def panelAfter (c : Console) (os : List Occasion) : PanelTerminal :=
  (c.benchAfter os).director.front.front

variable {c : Console} {w : Workbench (Recorder PanelTerminal)}

theorem Mirrors.act (h : c.Mirrors w) (a : Act Terminal) : (c.act a).Mirrors (w.act a.onPanel) := by
  obtain ⟨htimer, halike⟩ := h
  have htime {now : ℕ} : Mirrors { c with bench := (c.bench.onTime now).1 } (w.onTime now).1 := by
    unfold Workbench.onTime
    rw [htimer]
    split
    · exact ⟨htimer, halike⟩
    · exact ⟨rfl, PanelTerminal.matched.restart halike id⟩
  cases a with
  | edit now => exact ⟨congrArg (·.noteEdit now) htimer, halike⟩
  | time now => exact htime
  | reply r => exact ⟨htimer, (PanelTerminal.matched.receive halike r).1⟩
  | intent i =>
    cases i with
    | choose session n => exact ⟨htimer, (PanelTerminal.matched.select halike session n).1⟩
    | goTo line => exact ⟨htimer, PanelTerminal.matched.tell halike _⟩
    | nextIssue => exact ⟨htimer, (PanelTerminal.matched.visitNextIssue halike).1⟩
    | startOver =>
      exact ⟨congrArg CompileTimer.settle htimer, PanelTerminal.matched.restart halike _⟩
    | takeBack =>
      exact ⟨congrArg CompileTimer.settle htimer, PanelTerminal.matched.restart halike _⟩
    | click position modifier =>
      cases modifier with
      | false => exact ⟨htimer, halike⟩
      | true =>
        show Mirrors { c with bench := c.bench.followDivert position } (w.followDivert position)
        unfold Workbench.followDivert
        have htokens : Frontend.tokens w.director.front = Frontend.tokens c.bench.director.front :=
          rfl
        rw [htokens]
        split
        · exact ⟨htimer, PanelTerminal.matched.tell halike _⟩
        · exact ⟨htimer, halike⟩
    | resize => exact ⟨htimer, PanelTerminal.matched.centreList halike⟩
  | change f => exact ⟨htimer, halike.state, halike.display, congrArg f halike.front⟩

theorem Mirrors.acts (h : c.Mirrors w) (as : List (Act Terminal)) :
    (c.acts as).Mirrors (w.acts (as.map Act.onPanel)) := by
  induction as generalizing c w with
  | nil => exact h
  | cons a as ih => exact ih (h.act a)

theorem mirrors_withPanel (c : Console) : c.Mirrors c.withPanel :=
  ⟨rfl, rfl, rfl, rfl⟩

theorem mirrors_benchAfter (c : Console) (os : List Occasion) :
    (c.attend os).Mirrors (c.benchAfter os) := by
  obtain ⟨htimer, halike⟩ := c.mirrors_withPanel.acts (c.actsThrough os)
  rw [← bench_attend] at htimer halike
  exact ⟨htimer, halike⟩

/-- A terminal with its panel is the terminal of the console. -/
theorem terminal_panelAfter (c : Console) (os : List Occasion) :
    (c.panelAfter os).terminal = (c.attend os).terminal :=
  (c.mirrors_benchAfter os).alike.front.symm

end Console

/-! ### Markers that stand -/

/-- The markers that stand after a call, if some stood before. -/
def Call.marksAfter (marks : List (Marker × RowSpan × Style)) :
    Call → List (Marker × RowSpan × Style)
  | .mark m rows style => marks ++ [(m, rows, style)]
  | .cue (.unmark m) => marks.filter fun p => p.1 ≠ m
  | _ => marks

/-- The markers that stand after some calls. A name may be given again once its marker is gone. -/
def marksStanding (cs : List Call) : List (Marker × RowSpan × Style) :=
  cs.foldl Call.marksAfter []

section

variable {cs cs' : List Call} {marks : List (Marker × RowSpan × Style)}

theorem Call.marksAfter_of_isAside {c : Call} (h : c.isAside) : c.marksAfter marks = marks := by
  cases c with
  | cue q => cases q <;> first | rfl | cases h
  | mark m rows style => cases h
  | send r => rfl

theorem foldl_marksAfter_of_asides (h : ∀ c ∈ cs, c.isAside) :
    cs.foldl Call.marksAfter marks = marks := by
  induction cs with
  | nil => rfl
  | cons c cs ih =>
    rw [List.forall_mem_cons] at h
    rw [List.foldl_cons, Call.marksAfter_of_isAside h.1, ih h.2]

theorem foldl_marksAfter_unmark (old : List Marker) :
    (old.map fun m => Call.cue (.unmark m)).foldl Call.marksAfter marks =
      marks.filter fun p => p.1 ∉ old := by
  induction old generalizing marks with
  | nil => simp
  | cons m old ih =>
    rw [List.map_cons, List.foldl_cons, ih, Call.marksAfter, List.filter_filter]
    simp [Bool.and_comm]

theorem foldl_marksAfter_mark (ps : List (Diagnostic × Marker)) :
    (ps.map IssueDisplay.markCall).foldl Call.marksAfter marks =
      marks ++ ps.map fun p => (p.2, p.1.rowSpan, p.1.severity.style) := by
  induction ps generalizing marks with
  | nil => simp
  | cons p ps ih =>
    rw [List.map_cons, List.foldl_cons, ih]
    simp [Call.marksAfter, IssueDisplay.markCall]

theorem marksStanding_append_asides (h : ∀ c ∈ cs', c.isAside) :
    marksStanding (cs ++ cs') = marksStanding cs := by
  rw [marksStanding, List.foldl_append, foldl_marksAfter_of_asides h, marksStanding]

/-- If the old markers are all that stand, only those of the update stand after it. -/
theorem marksStanding_append_updateCalls {l : IssueList} {new : List Marker} {left : Float} :
    marksStanding
        (cs ++ IssueDisplay.updateCalls ((marksStanding cs).map Prod.fst) l new left) =
      IssueDisplay.newMarks l new := by
  have hnone : (marksStanding cs).filter (fun p => p.1 ∉ (marksStanding cs).map Prod.fst) = [] :=
    List.filter_eq_nil_iff.mpr fun p hp => by simpa using ⟨p.2.1, p.2.2, hp⟩
  have htally (marks : List (Marker × RowSpan × Style)) :
      (Call.cue (IssueDisplay.tallyCue l.tally)).marksAfter marks = marks := by
    rcases IssueDisplay.tallyCue_cases l.tally with h | h <;> rw [h] <;> rfl
  rw [marksStanding, List.foldl_append, ← marksStanding, IssueDisplay.updateCalls]
  simp only [List.foldl_append, foldl_marksAfter_unmark, hnone, List.foldl_cons, List.foldl_nil,
    foldl_marksAfter_mark, htally]
  split <;> simp [Call.marksAfter, IssueDisplay.newMarks]

end

/-! ### What the panel prints -/

namespace Terminal

variable (t : Terminal)

/-- A line of the panel. -/
def panelLine (text : String) : String :=
  s!"[issues] {text}\n"

theorem panelLine_injective : Function.Injective panelLine := fun a b h => by
  have htoList (s : String) : (panelLine s).toList = "[issues] ".toList ++ s.toList ++ ['\n'] := by
    simp [panelLine, toString]
  have hchars := congrArg String.toList h
  rw [htoList, htoList] at hchars
  exact String.toList_inj.mp (List.append_cancel_left (List.append_cancel_right hchars))

theorem sayBadge_eq (text : String) :
    t.sayBadge text = { t with
      badge := some text
      printed := t.printed ++ if t.badge = some text then [] else [panelLine text] } := by
  unfold sayBadge
  split
  case isTrue h => simp [← h]
  case isFalse h => rfl

theorem perform_of_said {q : Cue} {text : String} (h : q.said? = some text) :
    t.perform q = t.sayBadge text := by
  cases q <;> cases h <;> rfl

/-- A cue changes what is shown of the issues as the call says, and takes back nothing that was
printed. -/
theorem shown_perform (q : Cue) :
    (t.perform q).entries = (Call.cue q).entries?.getD t.entries ∧
      (t.perform q).markers = (Call.cue q).marksAfter t.markers ∧
      (t.perform q).badge = q.said?.or t.badge ∧ t.printed <+: (t.perform q).printed := by
  cases q with
  | showNone message =>
    rw [t.perform_of_said (q := .showNone message) rfl, sayBadge_eq]
    exact ⟨rfl, rfl, rfl, List.prefix_append _ _⟩
  | showBadge badge =>
    rw [t.perform_of_said (q := .showBadge badge) rfl, sayBadge_eq]
    exact ⟨rfl, rfl, rfl, List.prefix_append _ _⟩
  | showNotes _ | unmark _ | scrollDown | showEntries _ | placeList _ =>
    exact ⟨rfl, rfl, rfl, List.prefix_rfl⟩
  | moveTo _ _ | tell _ | say _ _ | offer _ _ _ | sayFailure _ | sayEnd _ _ | rule | turnPage =>
    exact ⟨rfl, rfl, rfl, List.prefix_append _ _⟩

theorem lineText_eq (n : ℕ) :
    t.lineText n = ((Text.lines t.content.toList)[n - 1]?.map String.ofList).getD "" := by
  rw [lineText]
  cases (Text.lines t.content.toList)[n - 1]? <;> rfl

end Terminal

/-! ### What a terminal with its panel has -/

namespace PanelTerminal

variable {p p' : PanelTerminal} {q : Cue} {text : String}

theorem perform_of_unsaid (h : q.said? = none) : p.perform q = p.change (·.perform q) := by
  simp [perform, h, change]

/-- What was said already is not said again. -/
theorem perform_of_same (h : q.said? = some text) (hsame : p.terminal.badge = some text) :
    p.perform q = p := by
  simp [perform, h, Terminal.perform_of_said, Terminal.sayBadge, hsame]

theorem perform_of_other (h : q.said? = some text) (hother : p.terminal.badge ≠ some text) :
    p.perform q =
      ⟨p.terminal.sayBadge text, p.lines ++ [Terminal.panelLine text]⟩ := by
  simp [perform, h, Terminal.perform_of_said, Terminal.sayBadge_eq, hother]

/-- The panel has printed a line for what was said last, and none for what had been said already. -/
structure IsSteady (p : PanelTerminal) : Prop where
  last : p.lines.getLast? = p.terminal.badge.map Terminal.panelLine
  chain : p.lines.IsChain (· ≠ ·)
  printed : p.lines.Sublist p.terminal.printed

theorem IsSteady.still (h : p.IsSteady) (hlines : p'.lines = p.lines)
    (hbadge : p'.terminal.badge = p.terminal.badge)
    (hprinted : p.terminal.printed <+: p'.terminal.printed) : p'.IsSteady where
  last := by rw [hlines, hbadge, h.last]
  chain := hlines ▸ h.chain
  printed := hlines ▸ h.printed.trans hprinted.sublist

theorem IsSteady.perform (h : p.IsSteady) (q : Cue) : (p.perform q).IsSteady := by
  cases hsaid : q.said? with
  | none =>
    obtain ⟨-, -, hbadge, hprinted⟩ := p.terminal.shown_perform q
    rw [hsaid, Option.none_or] at hbadge
    rw [perform_of_unsaid hsaid]
    exact h.still rfl hbadge hprinted
  | some text =>
    by_cases hsame : p.terminal.badge = some text
    · rw [perform_of_same hsaid hsame]
      exact h
    · rw [perform_of_other hsaid hsame, Terminal.sayBadge_eq, if_neg hsame]
      refine ⟨by simp, ?_, h.printed.append (List.Sublist.refl _)⟩
      -- the line before is the one for what was said before
      refine h.chain.append (.singleton _) fun line hline new hnew => ?_
      obtain rfl := Option.some.inj hnew
      rw [h.last, Option.mem_def, Option.map_eq_some_iff] at hline
      obtain ⟨before, hbefore, rfl⟩ := hline
      rw [Terminal.panelLine_injective.ne_iff]
      rintro rfl
      exact hsame hbefore

/-- A terminal has what it was told last. -/
structure Displays (r : Recorder PanelTerminal) : Prop where
  notes : r.front.terminal.notes = (lastNotes r.calls).getD []
  entries : r.front.terminal.entries = (lastEntries r.calls).getD []
  markers : r.front.terminal.markers = marksStanding r.calls
  badge : r.front.terminal.badge = (lastTally r.calls).bind Cue.said?
  steady : r.front.IsSteady

theorem lastEntries_append_singleton (cs : List Call) (c : Call) :
    lastEntries (cs ++ [c]) = c.entries?.or (lastEntries cs) :=
  getLast?_filterMap_append_singleton Call.entries? cs c

theorem lastTally_append_singleton (cs : List Call) (c : Call) :
    lastTally (cs ++ [c]) = c.tally?.or (lastTally cs) :=
  getLast?_filterMap_append_singleton Call.tally? cs c

theorem marksStanding_append_singleton (cs : List Call) (c : Call) :
    marksStanding (cs ++ [c]) = c.marksAfter (marksStanding cs) := by
  rw [marksStanding, List.foldl_append]
  rfl

theorem bind_said_tally (q : Cue) : (Call.cue q).tally?.bind Cue.said? = q.said? := by
  cases q <;> rfl

/-- Whatever a call tells about the number of issues says something. -/
theorem bind_said_or (c : Call) (before : Option Cue) :
    (c.tally?.or before).bind Cue.said? =
      (c.tally?.bind Cue.said?).or (before.bind Cue.said?) := by
  cases c with
  | cue q => cases q <;> rfl
  | mark m rows style => rfl
  | send r => rfl

/-- A call changes what the terminal has as it says. -/
theorem Displays.note {r : Recorder PanelTerminal} (h : Displays r) {call : Call}
    (notes : p.terminal.notes = call.notes?.getD r.front.terminal.notes)
    (entries : p.terminal.entries = call.entries?.getD r.front.terminal.entries)
    (markers : p.terminal.markers = call.marksAfter r.front.terminal.markers)
    (badge : p.terminal.badge = (call.tally?.bind Cue.said?).or r.front.terminal.badge)
    (steady : p.IsSteady) : Displays (r.note call p) where
  notes := by
    rw [Recorder.calls_note, lastNotes_append_singleton, Option.getD_or, ← h.notes]
    exact notes
  entries := by
    rw [Recorder.calls_note, lastEntries_append_singleton, Option.getD_or, ← h.entries]
    exact entries
  markers := by
    rw [Recorder.calls_note, marksStanding_append_singleton, ← h.markers]
    exact markers
  badge := by
    rw [Recorder.calls_note, lastTally_append_singleton, bind_said_or, ← h.badge]
    exact badge
  steady := steady

theorem kept_displays : Frontend.Kept Displays where
  cue q r h := by
    obtain ⟨hentries, hmarkers, hbadge, -⟩ := r.front.terminal.shown_perform q
    rw [← bind_said_tally] at hbadge
    exact h.note (r.front.terminal.notes_perform q) hentries hmarkers hbadge (h.steady.perform q)
  mark rows style r h := h.note rfl rfl rfl rfl (h.steady.still rfl rfl List.prefix_rfl)
  send request r h := h.note rfl rfl rfl rfl (h.steady.still rfl rfl List.prefix_rfl)

theorem Displays.change {r : Recorder PanelTerminal} (h : Displays r) {f : Terminal → Terminal}
    (hf : Terminal.IsAside f) : Displays { r with front := r.front.change f } where
  notes := (hf.notes _).trans h.notes
  entries := (hf.entries _).trans h.entries
  markers := (hf.markers _).trans h.markers
  badge := (hf.badge _).trans h.badge
  steady := h.steady.still rfl (hf.badge _) (hf.printed _)

end PanelTerminal

end Playthrough
