import Playthrough.Proofs.ConsoleAtRest
import Playthrough.Proofs.FailedLooks
import Playthrough.Proofs.PanelLines

/-!
# The view of the issues

On a terminal the issues are seen in several ways. The panel tells their number, notes stand beside
the lines that are printed, markers are counted, and a list is printed on demand. Each of these
comes from a memory of the terminal, while the director clears the issues with every session, and
updates what is shown of them with every new diagnostic.

These memories never part from the issues. A terminal has what it was told last; an update tells it
all that is to be known about the issues, in whatever state it finds it; and nothing else is told
about them. So between two occasions the last line of the panel is about the issues that there are,
and what is printed on demand is about them too.

## Main definitions

* `Director.Listed` — what was told last is about the issues that there are.
* `Console.ShowsIssues` — what a terminal has is about the issues that there are.

## Main results

* `Workbench.listed_acts` — the issues are listed, whatever is done at a workbench.
* `Console.showsIssues_attend` — they are shown on a terminal after any occasions.
* `issue_view_is_current` — what the panel said last, and what is printed about the issues.
-/

namespace Playthrough

open Workbench (Act)

/-! ### What was told last -/

/-- What was told last about the issues is about those that there are. For the notes, this is a part
of `Director.Decorated`. -/
structure Director.Listed {F : Type} (d : Director (Recorder F)) : Prop where
  entries : (lastEntries d.calls).getD [] = d.state.issues.shown.map Diagnostic.entry
  tally : d.state.phase ≠ .idle →
    lastTally d.calls = some (IssueDisplay.tallyCue d.state.issues.tally)
  markers : (marksStanding d.calls).map Prod.fst = d.display.markers

namespace Director.Listed

variable {F : Type} {d d' : Director (Recorder F)} {cs : List Call}

/-- What leaves the issues alone leaves them listed. -/
theorem of_asides (h : d.Listed) (hcalls : d'.calls = d.calls ++ cs)
    (hasides : ∀ c ∈ cs, c.isAside) (hdisplay : d'.display = d.display)
    (harrived : d'.state.issues.arrived = d.state.issues.arrived)
    (hphase : d'.state.phase = .idle ↔ d.state.phase = .idle) : d'.Listed where
  entries := by
    rw [hcalls, lastEntries_append_asides hasides, IssueList.shown, harrived, ← IssueList.shown,
      h.entries]
  tally hbegun := by
    rw [hcalls, lastTally_append_asides hasides, IssueList.tally, harrived, ← IssueList.tally,
      h.tally (hphase.not.mp hbegun)]
  markers := by rw [hcalls, marksStanding_append_asides hasides, hdisplay, h.markers]

/-- An update lists the issues. -/
theorem of_update {pre post : List Call} {new : List Marker} {left : Float} (h : d.Listed)
    (hcalls : d'.calls = d.calls ++
      (pre ++ IssueDisplay.updateCalls d.display.markers d'.state.issues new left ++ post))
    (hpre : ∀ c ∈ pre, c.isAside) (hpost : ∀ c ∈ post, c.isAside)
    (hmarkers : d'.display.markers = new)
    (hlength : new.length = d'.state.issues.shown.length) : d'.Listed := by
  have hstand : marksStanding (d.calls ++ pre) = marksStanding d.calls :=
    marksStanding_append_asides hpre
  rw [← List.append_assoc, ← List.append_assoc] at hcalls
  refine ⟨?_, fun _ => ?_, ?_⟩
  · rw [hcalls, lastEntries_append_asides hpost, IssueDisplay.lastEntries_updateCalls]
    rfl
  · rw [hcalls, lastTally_append_asides hpost, IssueDisplay.lastTally_updateCalls]
  · rw [hcalls, marksStanding_append_asides hpost, ← h.markers, ← hstand,
      marksStanding_append_updateCalls, IssueDisplay.map_fst_newMarks hlength, hmarkers]

variable [Frontend F]

theorem cue (h : d.Listed) {q : Cue} (haside : (Call.cue q).isAside) : (d.cue q).Listed :=
  h.of_asides (calls_cue d q) (by simpa using haside) rfl rfl Iff.rfl

theorem happen (h : d.Listed) (x : Happening F) : (d.happen x).1.Listed := by
  have step := d.turn_step x
  have refresh := step.refresh
  have hcalls := d.calls_happen x
  generalize hdisplay : (d.happen x).1.display = v at refresh
  cases refresh with
  | aside isStart calls arrived =>
    exact h.of_asides hcalls calls hdisplay arrived (step.phase_eq_idle_iff isStart)
  | update pre post new left calls before after length =>
    rw [calls] at hcalls
    exact h.of_update hcalls before after (by rw [hdisplay]) length

end Director.Listed

/-- Whatever is done at a workbench, the issues are listed. -/
theorem Workbench.listed_acts {F : Type} [Frontend F] {w : Workbench (Recorder F)}
    (h : w.director.Listed) (as : List (Act F)) : (w.acts as).director.Listed :=
  director_acts (fun _ _ aside h => h.cue aside) (fun _ x h => h.happen x) h as

/-- What is told about the number of issues depends on whether there are any. -/
theorem IssueDisplay.tallyCue_eq (l : IssueList) :
    tallyCue l.tally =
      if l.shown = [] then .showNone noIssuesMessage else .showBadge (.ofTally l.tally) := by
  have htotal : l.tally.total = l.shown.length := by rw [l.tally_eq, IssueTally.total_ofList]
  simp only [tallyCue, htotal, List.length_eq_zero_iff]

/-! ### What a console has -/

namespace Console

/-- A console has what there is to be shown of its issues. -/
structure ShowsIssues (c : Console) : Prop where
  notes : c.terminal.notes = c.state.issues.shown.map Diagnostic.note
  entries : c.terminal.entries = c.state.issues.shown.map Diagnostic.entry
  markers : c.terminal.markers.length = c.state.issues.size
  badge : c.state.phase ≠ .idle →
    c.terminal.badge = (IssueDisplay.tallyCue c.state.issues.tally).said?

variable {c : Console} {os : List Occasion}

theorem displays_benchAfter (h : PanelTerminal.Displays c.withPanel.director.front) :
    PanelTerminal.Displays (c.benchAfter os).director.front := by
  refine Workbench.kept_acts PanelTerminal.kept_displays h _ fun f hf r hr => ?_
  obtain ⟨a, ha, heq⟩ := List.mem_map.mp hf
  cases a with
  | change g =>
    obtain rfl : (fun p => PanelTerminal.change p g) = f := Act.change.inj heq
    exact hr.change (isAside_of_mem_actsThrough ha)
  | edit now => contradiction
  | time now => contradiction
  | reply r => contradiction
  | intent i => contradiction

theorem listed_withPanel (timing : Timing) (now : ℕ) (interpreter : Interpreter)
    (story : Watcher × String) :
    (start timing now interpreter story).withPanel.director.Listed where
  entries := by simp [withPanel, start, state, Workbench.start, IssueList.shown, lastEntries,
    Director.calls]
  tally hbegun := absurd rfl hbegun
  markers := rfl

theorem showsIssues_attend (timing : Timing) (now : ℕ) (interpreter : Interpreter)
    (story : Watcher × String) (os : List Occasion) :
    ((start timing now interpreter story).attend os).ShowsIssues ∧
      ((start timing now interpreter story).panelAfter os).IsSteady := by
  let c₀ := start timing now interpreter story
  let d := (c₀.benchAfter os).director
  have hmirrors := c₀.mirrors_benchAfter os
  have hstate : (c₀.attend os).state = d.state := hmirrors.alike.state
  have hterminal : (c₀.attend os).terminal = d.front.front.terminal := hmirrors.alike.front
  have hdisplays : PanelTerminal.Displays d.front :=
    displays_benchAfter ⟨rfl, rfl, rfl, rfl, rfl, .nil, .slnil⟩
  let front : PanelTerminal := ⟨{ interpreter, content := story.2 }, []⟩
  have hdecorated : d.Decorated := Workbench.decorated_acts timing now front _
  have hlisted : d.Listed :=
    Workbench.listed_acts (listed_withPanel timing now interpreter story) _
  refine ⟨⟨?_, ?_, ?_, fun hbegun => ?_⟩, hdisplays.steady⟩
  · rw [hterminal, hstate, hdisplays.notes, hdecorated.notes]
  · rw [hterminal, hstate, hdisplays.entries, hlisted.entries]
  · have hnames := congrArg List.length hlisted.markers
    rw [List.length_map, hdecorated.length, IssueList.length_shown] at hnames
    rw [hterminal, hstate, hdisplays.markers, hnames]
  · rw [hstate] at hbegun
    rw [hterminal, hstate, hdisplays.badge, hlisted.tally hbegun]
    rfl

/-! ### What is printed on demand -/

/-- Between two occasions, a scripted interpreter has nothing more to say. -/
theorem silent_attend (timing : Timing) (now : ℕ) (story : Watcher × String) (script : Script)
    (complaints : List Diagnostic) (closed : Bool) (os : List Occasion) :
    ∃ st, ((start timing now (.scripted { script, complaints, closed }) story).attend
      os).terminal.interpreter = .scripted st ∧ st.output = [] := by
  let st : Storyteller := { script, complaints, closed }
  have hbegun : Rehearses [] [] (start timing now (.scripted st) story) _ :=
    Rehearses.start timing now rfl story
  obtain ⟨r, hlast, -⟩ :=
    hbegun.attend (Rehearsal.placed_start timing now story.2 script complaints closed) os
  exact ⟨r.director.storyteller, hlast.alike.front.interpreter, hlast.output⟩

theorem receiveAll_of_silent {st : Storyteller} (h : c.terminal.interpreter = .scripted st)
    (hout : st.output = []) : c.receiveAll = c := by
  rw [receiveAll, receiveRounds, takeReplies_of_silent h hout]

/-- To go to a line prints that line, and nothing else happens. -/
theorem pursue_goTo_of_silent {st : Storyteller} (h : c.terminal.interpreter = .scripted st)
    (hout : st.output = []) (n : ℕ) :
    c.pursue (.goTo n) = c.modifyTerminal (·.perform (.moveTo n 0)) :=
  receiveAll_of_silent (c := c.modifyTerminal (·.perform (.moveTo n 0))) h hout

/-- The note beside a line is the message of the first issue there. -/
theorem ShowsIssues.lineNote_eq (h : c.ShowsIssues) (n : ℕ) :
    c.terminal.lineNote n =
      ((c.state.issues.shown.find? fun x => max x.line 1 = n).map
        fun x => s!"  <- {x.message}").getD "" := by
  have hrow : ((fun note : Note => decide (note.row + 1 = n)) ∘ Diagnostic.note) =
      fun x => decide (max x.line 1 = n) := by
    funext x
    have hline : x.note.row + 1 = max x.line 1 := by
      simp only [Diagnostic.note, Diagnostic.textRow]
      omega
    simp [hline]
  rw [Terminal.lineNote, h.notes, List.find?_map, hrow]
  cases c.state.issues.shown.find? fun x => max x.line 1 = n <;> rfl

end Console

/-- **The view of the issues is current.** Take any console on a scripted interpreter, with any
script and any complaints of the compiler, open or closed, after any occasions, and its terminal
with the lines that its panel has printed meanwhile. If a session was started, the last of these
lines is about the issues that there are, no two successive ones are the same, and there are as many
markers as issues. The command `:issues` prints a line for each issue, in their order, or that there
are none. The command `:line n` prints the line `n` of the text, with the message of the first issue
on it if there is one; an issue that names the line zero is on the first line. -/
theorem issue_view_is_current (timing : Timing) (now : ℕ) (story : Watcher × String)
    (script : Script) (complaints : List Diagnostic) (closed : Bool) (os : List Occasion) :
    let begun := Console.start timing now (.scripted { script, complaints, closed }) story
    let c := begun.attend os
    let panel := begun.panelAfter os
    let D := c.state.issues.shown
    let label := if D = [] then "No issues." else (IssueBadge.ofTally c.state.issues.tally).text
    c.state.phase ≠ .idle →
      panel.terminal = c.terminal ∧ panel.lines.Sublist c.terminal.printed ∧
      panel.lines.getLast? = some s!"[issues] {label}\n" ∧
      panel.lines.IsChain (· ≠ ·) ∧
      c.terminal.markers.length = c.state.issues.size ∧
      (∀ text, InputLine.parse? text = some .issues →
        (c.readLine text).1.terminal.printed = c.terminal.printed ++
          if D = [] then ["  No issues.\n"]
          else D.map fun x =>
            s!"  {Terminal.labelOf x.severity.style} line {x.line}: {x.message}\n") ∧
      ∀ text n, InputLine.parse? text = some (.line n) →
        let line := ((Text.lines c.terminal.content.toList)[n - 1]?.map String.ofList).getD ""
        let note := ((D.find? fun x => max x.line 1 = n).map fun x => s!"  <- {x.message}").getD ""
        (c.readLine text).1.terminal.printed =
          c.terminal.printed ++ [s!"  {Terminal.column n} | {line}{note}\n"] := by
  intro begun c panel D label hbegun
  obtain ⟨hshows, hsteady⟩ :=
    Console.showsIssues_attend timing now (.scripted { script, complaints, closed }) story os
  obtain ⟨st, hscripted, hout⟩ :=
    Console.silent_attend timing now story script complaints closed os
  have hterminal : panel.terminal = c.terminal := begun.terminal_panelAfter os
  refine ⟨hterminal, ?_, ?_, hsteady.chain, ?_, fun text htext => ?_, fun text n htext => ?_⟩
  · rw [← hterminal]
    exact hsteady.printed
  · rw [hsteady.last, hterminal, hshows.badge hbegun, IssueDisplay.tallyCue_eq]
    simp only [label, D]
    split <;> rfl
  · exact hshows.markers
  · have hread : (c.readLine text).1 = c.modifyTerminal (·.printIssues) := by
      rw [Console.readLine, htext]
      rfl
    have hprinted : (c.readLine text).1.terminal = c.terminal.printIssues := by rw [hread]; rfl
    rw [hprinted, Terminal.printIssues_eq_append, hshows.entries, List.map_map]
    simp only [List.map_eq_nil_iff]
    rfl
  · have hread : (c.readLine text).1 = c.modifyTerminal (·.perform (.moveTo n 0)) := by
      rw [Console.readLine, htext]
      exact Console.pursue_goTo_of_silent hscripted hout n
    have hprinted : (c.readLine text).1.terminal.printed = c.terminal.printed ++
        [s!"  {Terminal.column n} | {c.terminal.lineText n}{c.terminal.lineNote n}\n"] := by
      rw [hread]
      rfl
    rw [hprinted, hshows.lineNote_eq, Terminal.lineText_eq]

/-- Two issues are reported when a story is compiled for the first time. One of them names the line
zero, and its message stands beside the first line. -/
theorem issue_view_after_first_compile :
    let warning : Diagnostic := ⟨.warning, 1, "Loose end."⟩
    let error : Diagnostic := ⟨.error, 0, "Unknown knot."⟩
    let begun : Console :=
      .start {} 0 (.scripted { complaints := [warning, error] }) (⟨some 1⟩, "-> hall\n")
    let os : List Occasion := [.look 1000 ⟨.ok (some 1), .ok ""⟩]
    let c := begun.attend os
    c.state.phase ≠ .idle ∧ c.state.issues.shown = [error, warning] ∧
      (begun.panelAfter os).lines.getLast? = some "[issues] 1 error, 1 warning\n" ∧
      c.terminal.markers.length = 2 ∧
      (c.readLine ":issues").1.terminal.printed = c.terminal.printed ++
        ["  [error] line 0: Unknown knot.\n", "  [warning] line 1: Loose end.\n"] ∧
      (c.readLine ":line 1").1.terminal.printed =
        c.terminal.printed ++ ["     1 | -> hall  <- Unknown knot.\n"] := by
  intro warning error begun os c
  have hbegun : c.state.phase ≠ .idle := by decide +kernel
  have harrived : c.state.issues.arrived = [warning, error] := by decide +kernel
  have hshown : c.state.issues.shown = [error, warning] := by
    rw [IssueList.shown, harrived]
    simp [warning, error, List.mergeSort, Diagnostic.precedes, Severity.rank]
  have hcontent : c.terminal.content = "-> hall\n" := begun.content_onTime
  obtain ⟨-, -, hlast, -, hmarkers, hissues, hline⟩ := issue_view_is_current {} 0
    (⟨some 1⟩, "-> hall\n") .crossroads [warning, error] false os hbegun
  have hlist := hissues ":issues" (by decide +kernel)
  have hfirst := hline ":line 1" 1 (by decide +kernel)
  have hc : (Console.start {} 0 (.scripted { complaints := [warning, error] })
      (⟨some 1⟩, "-> hall\n")).attend os = c := rfl
  rw [hc, hshown] at hlast hlist hfirst
  rw [hcontent] at hfirst
  have hsize : c.state.issues.size = 2 := by rw [IssueList.size, harrived]; rfl
  refine ⟨hbegun, hshown, hlast.trans ?_, hmarkers.trans hsize, hlist.trans ?_, hfirst⟩
  · decide +kernel
  · congr 1
    decide +kernel

end Playthrough
