import Playthrough.Proofs.IssueRounds
import Playthrough.Proofs.IssueSurfaces
import Playthrough.Terminal

/-!
# Visits to issues and the decorations there

A visit moves the cursor to the line that a diagnostic names, while the decorations of the
diagnostic are computed from the same line on another path: lines are counted from one, and rows
from zero. Whatever is done at a workbench, the notes and the markers that are shown are those of
the issues, in their order. So the selected issue is visited where its note and its marker are, with
the exception of an issue that names the line zero: its decorations are at the first row, but the
visit goes to the line zero.

## Main definitions

* `Workbench.Act`, `Workbench.acts` — what is done at a workbench, and the workbench after it.
* `Director.Decorated` — the decorations that are shown are those of the issues.

## Main results

* `Workbench.decorated_acts` — they are, whatever is done at a workbench.
* `Workbench.issue_is_visited_at_decorations` — where the selected issue is visited and decorated,
  and when the line that a terminal prints has a note.
-/

namespace Playthrough

/-! ### What is done at a workbench -/

namespace Workbench

variable {F : Type} [Frontend F]

/-- What is done at a workbench. -/
inductive Act (F : Type) where
  | edit (now : Nat)
  | time (now : Nat)
  | reply (r : Reply)
  | intent (i : Intent)
  /-- The front end changes by itself. -/
  | change (f : F → F)

/-- The workbench after an act. -/
def act (w : Workbench (Recorder F)) : Act F → Workbench (Recorder F)
  | .edit now => w.onEdit now
  | .time now => (w.onTime now).1
  | .reply r => (w.onReply r).1
  | .intent i => (w.onIntent i).1
  | .change f => w.modify fun d => (d.happen (.change f)).1

/-- The workbench after some acts. -/
def acts (w : Workbench (Recorder F)) (as : List (Act F)) : Workbench (Recorder F) :=
  as.foldl act w

@[simp] theorem acts_append_singleton (w : Workbench (Recorder F)) (as : List (Act F))
    (a : Act F) : w.acts (as ++ [a]) = (w.acts as).act a :=
  List.foldl_append

/-- What an act may do to the director. -/
inductive Directs (a : Act F) (d : Director (Recorder F)) : Director (Recorder F) → Prop where
  | still : Directs a d d
  | cue (q : Cue) (aside : (Call.cue q).isAside) : Directs a d (d.cue q)
  /-- Something happens. The front end changes only if the act says so. -/
  | happen (h : Happening F) (change : ∀ f, h = .change f → a = .change f) :
      Directs a d (d.happen h).1

variable (w : Workbench (Recorder F))

theorem directs_onTime (now : Nat) :
    Directs (.time now) w.director (w.onTime now).1.director := by
  unfold onTime
  split
  · exact .still
  · exact .happen (.order (.compile (Frontend.content w.director.front))) fun f hf => by cases hf

theorem directs_followDivert (a : Act F) (p : Position) :
    Directs a w.director (w.followDivert p).director := by
  unfold followDivert
  split
  case h_1 q hq =>
    refine .cue q ?_
    cases hdestination : Divert.resolve (Frontend.tokens w.director.front) p <;>
      rw [hdestination] at hq <;> cases hq <;> rfl
  case h_2 => exact .still

theorem directs_onIntent (i : Intent) :
    Directs (.intent i) w.director (w.onIntent i).1.director := by
  cases i with
  | choose session n => exact .happen (.order (.select session n)) fun f hf => by cases hf
  | goTo line => exact .cue (.moveTo line 0) rfl
  | nextIssue => exact .happen (.order .nextIssue) fun f hf => by cases hf
  | startOver => exact .happen (.order .startOver) fun f hf => by cases hf
  | takeBack => exact .happen (.order .takeBack) fun f hf => by cases hf
  | click p modifier =>
    cases modifier with
    | false => exact .still
    | true => exact w.directs_followDivert _ p
  | resize => exact .happen (.order .centre) fun f hf => by cases hf

theorem directs_act (a : Act F) : Directs a w.director (w.act a).director := by
  cases a with
  | edit now => exact .still
  | time now => exact w.directs_onTime now
  | reply r => exact .happen (.reply r) fun f hf => by cases hf
  | intent i => exact w.directs_onIntent i
  | change f => exact .happen (.change f) fun g hg => by cases hg; rfl

end Workbench

/-! ### Decorations -/

theorem IssueList.shown_of_selectNext {l : IssueList} {x : Diagnostic}
    (h : l.selectNext.2 = some x) :
    ∃ i, l.selectNext.1.selected = some i ∧ l.selectNext.1.shown[i]? = some x := by
  have hsize : l.size ≠ 0 := fun hnone => by
    rw [selectNext_snd_eq_none_iff.mpr hnone] at h
    contradiction
  rw [selectNext_of_size_ne_zero hsize] at h ⊢
  exact ⟨_, rfl, h⟩

/-- What is found last in some calls and one more. -/
theorem getLast?_filterMap_append_singleton {α : Type} (f : Call → Option α) (cs : List Call)
    (c : Call) : ((cs ++ [c]).filterMap f).getLast? = (f c).or (cs.filterMap f).getLast? := by
  rw [List.filterMap_append]
  cases hc : f c <;> simp [hc]

theorem lastNotes_append_singleton (cs : List Call) (c : Call) :
    lastNotes (cs ++ [c]) = c.notes?.or (lastNotes cs) :=
  getLast?_filterMap_append_singleton Call.notes? cs c

/-- The decorations that are shown are those of the issues, in their order: the notes, and the
markers, which are the ones that were made last. -/
structure Director.Decorated {F : Type} (d : Director (Recorder F)) : Prop where
  notes : (lastNotes d.calls).getD [] = d.state.issues.shown.map Diagnostic.note
  length : d.display.markers.length = d.state.issues.shown.length
  marks : IssueDisplay.newMarks d.state.issues d.display.markers <:+ marksMade d.calls

namespace Director.Decorated

variable {F : Type} {d d' : Director (Recorder F)} {cs : List Call}

/-- The note and the marker of an issue are at its own row. -/
theorem decorations (h : d.Decorated) {i : Nat} {x : Diagnostic}
    (hi : d.state.issues.shown[i]? = some x) :
    ((lastNotes d.calls).getD [])[i]? = some x.note ∧
      ∃ m, (IssueDisplay.newMarks d.state.issues d.display.markers)[i]? =
        some (m, x.rowSpan, x.severity.style) := by
  have hlt : i < d.display.markers.length :=
    h.length ▸ (List.getElem?_eq_some_iff.mp hi).1
  have hzip : (d.state.issues.shown.zip d.display.markers)[i]? =
      some (x, d.display.markers[i]) :=
    List.getElem?_zip_eq_some.mpr ⟨hi, List.getElem?_eq_getElem hlt⟩
  constructor
  · rw [h.notes, List.getElem?_map, hi]
    rfl
  · refine ⟨d.display.markers[i], ?_⟩
    rw [IssueDisplay.newMarks, List.getElem?_map, hzip]
    rfl

/-- What leaves the issues alone leaves them decorated. -/
theorem of_asides (h : d.Decorated) (hcalls : d'.calls = d.calls ++ cs)
    (hasides : ∀ c ∈ cs, c.isAside) (hdisplay : d'.display = d.display)
    (hshown : d'.state.issues.shown = d.state.issues.shown) : d'.Decorated where
  notes := by rw [hcalls, lastNotes_append_asides hasides, hshown, h.notes]
  length := by rw [hdisplay, hshown, h.length]
  marks := by
    rw [hcalls, marksMade_append, marksMade_asides hasides, List.append_nil,
      IssueDisplay.newMarks, hdisplay, hshown]
    exact h.marks

/-- An update decorates the issues. -/
theorem of_update {pre post : List Call} {new : List Marker} {left : Float} {old : List Marker}
    (hcalls : d'.calls = d.calls ++
      (pre ++ IssueDisplay.updateCalls old d'.state.issues new left ++ post))
    (hpost : ∀ c ∈ post, c.isAside) (hmarkers : d'.display.markers = new)
    (hlength : new.length = d'.state.issues.shown.length) : d'.Decorated where
  notes := by
    rw [hcalls, ← List.append_assoc, lastNotes_append_asides hpost, ← List.append_assoc,
      IssueDisplay.lastNotes_updateCalls]
    rfl
  length := by rw [hmarkers, hlength]
  marks := by
    rw [hcalls, hmarkers, marksMade_append, marksMade_append, marksMade_append,
      marksMade_asides hpost, List.append_nil, IssueDisplay.marksMade_updateCalls,
      ← List.append_assoc]
    exact List.suffix_append _ _

variable [Frontend F]

theorem cue (h : d.Decorated) {q : Cue} (haside : (Call.cue q).isAside) :
    (d.cue q).Decorated :=
  h.of_asides (calls_cue d q) (by simpa using haside) rfl rfl

theorem happen (h : d.Decorated) (x : Happening F) : (d.happen x).1.Decorated := by
  have refresh := (d.turn_step x).refresh
  have hcalls := d.calls_happen x
  generalize hdisplay : (d.happen x).1.display = v at refresh
  cases refresh with
  | aside isStart calls arrived =>
    refine h.of_asides hcalls calls hdisplay ?_
    rw [IssueList.shown, arrived, IssueList.shown]
  | update pre post new left calls before after length =>
    rw [calls] at hcalls
    exact of_update hcalls after (by rw [hdisplay]) length

end Director.Decorated

namespace Workbench

section

variable {F : Type} [Frontend F]

omit [Frontend F] in
theorem decorated_start (timing : Timing) (now : Nat) (front : F) :
    (start timing now (⟨front, []⟩ : Recorder F)).director.Decorated where
  notes := by simp [start, IssueList.shown, lastNotes, Director.calls]
  length := by simp [start, IssueList.shown]
  marks := by simp [start, IssueDisplay.newMarks]

/-- What is kept by cues that leave the issues alone, and by whatever happens, is kept whatever is
done at a workbench. -/
theorem director_acts {P : Director (Recorder F) → Prop}
    (cue : ∀ d q, (Call.cue q).isAside → P d → P (d.cue q)) (happen : ∀ d h, P d → P (d.happen h).1)
    {w : Workbench (Recorder F)} (h : P w.director) (as : List (Act F)) :
    P (w.acts as).director := by
  induction as using List.reverseRecOn with
  | nil => exact h
  | append_singleton as a ih =>
    rw [acts_append_singleton]
    have hdirects := (w.acts as).directs_act a
    generalize ((w.acts as).act a).director = d at hdirects
    cases hdirects with
    | still => exact ih
    | cue q aside => exact cue _ q aside ih
    | happen x => exact happen _ x ih

/-- Whatever is done at a workbench, the issues are decorated. -/
theorem decorated_acts (timing : Timing) (now : Nat) (front : F) (as : List (Act F)) :
    ((start timing now (⟨front, []⟩ : Recorder F)).acts as).director.Decorated :=
  director_acts (fun _ _ aside h => h.cue aside) (fun _ x h => h.happen x)
    (decorated_start timing now front) as

/-- The visit moves the cursor to the line of the issue that is selected then. -/
theorem act_nextIssue {w : Workbench (Recorder F)} {x : Diagnostic}
    (h : w.director.state.issues.selectNext.2 = some x) :
    (w.act (.intent .nextIssue)).director =
      (w.director.modify fun s => { s with issues := s.issues.selectNext.1 }).cue
        (.moveTo x.line 0) := by
  have hnext : w.director.state.issues.selectNext =
      (w.director.state.issues.selectNext.1, some x) := Prod.ext rfl h
  show w.director.visitNextIssue.1 = _
  rw [Director.visitNextIssue, hnext]
  rfl

end

end Workbench

/-! ### Notes on a terminal -/

namespace Terminal

theorem notes_perform (t : Terminal) (q : Cue) :
    (t.perform q).notes = (Call.cue q).notes?.getD t.notes := by
  have hbadge (text : String) : (t.sayBadge text).notes = t.notes := by
    unfold sayBadge
    split <;> rfl
  cases q with
  | showNone message => exact hbadge message
  | showBadge badge => exact hbadge badge.text
  | _ => rfl

/-- A terminal keeps the notes that it was last told to show. -/
theorem kept_notes : Frontend.Kept fun r : Recorder Terminal =>
    r.front.notes = (lastNotes r.calls).getD [] where
  cue q r h := by
    rw [Recorder.calls_cue, lastNotes_append_singleton, Option.getD_or, ← h]
    exact r.front.notes_perform q
  mark rows style r h := by
    rw [Recorder.calls_mark, lastNotes_append_singleton]
    exact h
  send request r h := by
    rw [Recorder.calls_send, lastNotes_append_singleton]
    exact h

/-- A line has the first note on its row, if there is one. -/
theorem lineNote_cases (t : Terminal) (line : Nat) :
    (∃ note ∈ t.notes, note.row + 1 = line ∧ t.lineNote line = s!"  <- {note.text}") ∨
      (∀ note ∈ t.notes, note.row + 1 ≠ line) ∧ t.lineNote line = "" := by
  unfold lineNote
  split
  case h_1 note hnote =>
    exact .inl ⟨note, List.mem_of_find?_eq_some hnote, by simpa using List.find?_some hnote, rfl⟩
  case h_2 hnone => exact .inr ⟨by simpa using hnone, rfl⟩

end Terminal

namespace Workbench

/-- What every call and every change keeps true of a front end stays true at a workbench. -/
theorem kept_acts {F : Type} [Frontend F] {P : Recorder F → Prop} (kept : Frontend.Kept P)
    {w : Workbench (Recorder F)} (h : P w.director.front) (as : List (Act F))
    (hchange : ∀ f, .change f ∈ as → ∀ r, P r → P { r with front := f r.front }) :
    P (w.acts as).director.front := by
  induction as using List.reverseRecOn with
  | nil => exact h
  | append_singleton as a ih =>
    have hbefore := ih fun f hf => hchange f (List.mem_append_left _ hf)
    rw [acts_append_singleton]
    have hdirects := (w.acts as).directs_act a
    generalize ((w.acts as).act a).director = d at hdirects
    cases hdirects with
    | still => exact hbefore
    | cue q aside => exact kept.cue q _ hbefore
    | happen x change =>
      cases x with
      | order o => exact kept.follow hbefore o
      | reply r => exact kept.receive hbefore r
      | change f =>
        obtain rfl := change f rfl
        exact hchange f (by simp) _ hbefore

/-- Whatever is done at a workbench, the visit to the next issue goes to the line that the issue
names, and its note and its marker are at the row before that line, counted from zero, which is the
row `max x.line 1 - 1`. So they are at the visited line, unless that is the line zero.

On a terminal, whose notes are changed by nothing else, the line that is printed has a note unless
it is the line zero. -/
theorem issue_is_visited_at_decorations (timing : Timing) (now : Nat) :
    (∀ {F : Type} [Frontend F] (front : F) (as : List (Act F)) (x : Diagnostic),
      let w := (start timing now (⟨front, []⟩ : Recorder F)).acts as
      let w' := w.act (.intent .nextIssue)
      w.director.state.issues.selectNext.2 = some x →
        w'.director.calls = w.director.calls ++ [.cue (.moveTo x.line 0)] ∧
        ∃ (i row : Nat) (m : Marker) (marks : List (Marker × RowSpan × Style)),
          w'.director.state.issues.selected = some i ∧
          w'.director.state.issues.shown[i]? = some x ∧
          ((lastNotes w'.director.calls).getD [])[i]? =
            some ⟨row, 0, x.message, x.severity.style⟩ ∧
          marks <:+ marksMade w'.director.calls ∧
          marks.map Prod.fst = w'.director.display.markers ∧
          marks[i]? = some (m, ⟨row, row + 1⟩, x.severity.style) ∧
          row + 1 = max x.line 1 ∧ (row + 1 = x.line ↔ 1 ≤ x.line)) ∧
    ∀ (t : Terminal) (as : List (Act Terminal)) (x : Diagnostic),
      let w := (start timing now (⟨t, []⟩ : Recorder Terminal)).acts as
      let w' := w.act (.intent .nextIssue)
      let seen := w.director.front.front
      t.notes = [] → (∀ f, .change f ∈ as → ∀ t, (f t).notes = t.notes) →
      w.director.state.issues.selectNext.2 = some x →
        w'.director.front.front.printed = seen.printed ++
          [s!"  {Terminal.column x.line} | {seen.lineText x.line}{seen.lineNote x.line}\n"] ∧
        (1 ≤ x.line → ∃ note ∈ seen.notes, note.row + 1 = x.line ∧
          seen.lineNote x.line = s!"  <- {note.text}") ∧
        (x.line = 0 → seen.lineNote x.line = "") := by
  constructor
  · intro F _ front as x w w' hx
    have hdecorated : w'.director.Decorated := by
      have h := decorated_acts timing now front (as ++ [.intent .nextIssue])
      rwa [acts_append_singleton] at h
    have hvisited := act_nextIssue hx
    obtain ⟨i, hselected, hshown⟩ := IssueList.shown_of_selectNext hx
    have hissues : w'.director.state.issues = w.director.state.issues.selectNext.1 := by
      rw [hvisited]
      rfl
    rw [← hissues] at hselected hshown
    obtain ⟨hnote, m, hmark⟩ := hdecorated.decorations hshown
    refine ⟨by rw [hvisited]; rfl, i, x.textRow, m, _, hselected, hshown, hnote,
      hdecorated.marks, IssueDisplay.map_fst_newMarks hdecorated.length, hmark, ?_, ?_⟩
    · rw [x.textRow_eq]
      omega
    · rw [x.textRow_eq]
      omega
  · intro t as x w w' seen hempty hchange hx
    have hnotes : seen.notes = w.director.state.issues.shown.map Diagnostic.note := by
      rw [← (decorated_acts timing now t as).notes]
      exact kept_acts Terminal.kept_notes hempty as fun f hf r h => (hchange f hf r.front).trans h
    obtain ⟨i, -, hi⟩ := IssueList.shown_of_selectNext hx
    rw [IssueList.shown, IssueList.arrived_selectNext, ← IssueList.shown] at hi
    have hprinted : w'.director.front.front = seen.perform (.moveTo x.line 0) := by
      rw [act_nextIssue hx]
      rfl
    refine ⟨by rw [hprinted]; rfl, fun hline => ?_, fun hline => ?_⟩
    · refine (seen.lineNote_cases x.line).resolve_right fun hnone => ?_
      have hnote : x.note ∈ seen.notes := by
        rw [hnotes]
        exact List.mem_map_of_mem (List.mem_of_getElem? hi)
      exact hnone.1 x.note hnote (Nat.sub_add_cancel hline)
    · rcases seen.lineNote_cases x.line with ⟨note, -, hrow, -⟩ | ⟨-, hnone⟩
      · omega
      · exact hnone

/-- A warning about the third line is visited on a terminal. -/
theorem third_line_is_visited_at_decorations :
    let x : Diagnostic := ⟨.warning, 3, "Loose end."⟩
    let t : Terminal := { interpreter := .scripted {}, content := "one\ntwo\n-> three\n" }
    let w := (start {} 0 (⟨t, []⟩ : Recorder Terminal)).acts [.time 1000, .reply ⟨1, .diagnostic x⟩]
    let seen := w.director.front.front
    w.director.state.issues.selectNext.2 = some x ∧
      (w.act (.intent .nextIssue)).director.calls = w.director.calls ++ [.cue (.moveTo 3 0)] ∧
      ∃ note ∈ seen.notes, note.row + 1 = 3 ∧ seen.lineNote 3 = s!"  <- {note.text}" := by
  intro x t w seen
  have hx : w.director.state.issues.selectNext.2 = some x := by decide +kernel
  obtain ⟨hvisits, hlines⟩ := issue_is_visited_at_decorations {} 0
  obtain ⟨hcalls, -⟩ := hvisits t [.time 1000, .reply ⟨1, .diagnostic x⟩] x hx
  obtain ⟨-, hnote, -⟩ := hlines t [.time 1000, .reply ⟨1, .diagnostic x⟩] x rfl (by simp) hx
  have hw : (start {} 0 (⟨t, []⟩ : Recorder Terminal)).acts
      [.time 1000, .reply ⟨1, .diagnostic x⟩] = w := rfl
  rw [hw] at hcalls hnote
  exact ⟨hx, hcalls, hnote (by decide)⟩

/-- An issue that names the line zero is decorated at the first row, and the visit goes to the line
zero, which has no note on a terminal. -/
theorem line_zero_is_visited_without_note :
    let x : Diagnostic := ⟨.warning, 0, "Loose end."⟩
    let t : Terminal := { interpreter := .scripted {}, content := "one\ntwo\n-> three\n" }
    let w := (start {} 0 (⟨t, []⟩ : Recorder Terminal)).acts [.time 1000, .reply ⟨1, .diagnostic x⟩]
    let w' := w.act (.intent .nextIssue)
    w.director.state.issues.selectNext.2 = some x ∧
      w'.director.calls = w.director.calls ++ [.cue (.moveTo 0 0)] ∧
      w'.director.front.front.notes = [⟨0, 0, "Loose end.", .warning⟩] ∧
      w'.director.front.front.markers = [(1, ⟨0, 1⟩, .warning)] ∧
      w'.director.front.front.printed.getLast? = some "     0 | one\n" := by
  decide +kernel

end Workbench

end Playthrough
