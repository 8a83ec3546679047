import Playthrough.Proofs.Backstage
import Playthrough.Workbench

/-!
# No edit is lost

An edit is compiled once the text has been left alone, and until then the timer is armed. Whatever
disarms the timer starts a session, and a session runs the text as it is at that moment. So if the
timer is not armed, the last request to run a story was for the text that is there now, no matter
whether it was sent.

This needs every change of the text to be noted before anything else is done at the workbench. A
front end may change its text at any time, even while it is called; what counts is that the change
has been noted when the next thing happens.

## Main definitions

* `lastContent?` — the content of the last request to run a story.
* `Workbench.Reaches` — the workbenches that are reached while every change of the text is noted.
* `Workbench.Provides` — a text is going to be compiled, or was compiled last.

## Main results

* `Workbench.Reaches.provides` — the text as it was last noted is provided for.
* `no_edit_is_lost` — so is the text that is there, if every change has been noted.
-/

namespace Playthrough

/-! ### What was run last -/

/-- The content that a request asks to run. -/
def Request.content? : Request → Option String
  | .run content _ => some content
  | _ => none

/-- The content of the last request to run a story. -/
def lastContent? (cs : List Call) : Option String :=
  ((requests cs).filterMap Request.content?).getLast?

theorem lastContent?_append_of_none {cs cs' : List Call}
    (h : (requests cs').filterMap Request.content? = []) :
    lastContent? (cs ++ cs') = lastContent? cs := by
  rw [lastContent?, requests_append, List.filterMap_append, h, List.append_nil, lastContent?]

namespace Director

variable {F : Type} [Frontend F] (d : Director (Recorder F))

/-- A new session stops the one before, and runs the content that it is given. -/
theorem requests_compile (content : String) :
    (d.compile content).state.session = d.state.session + 1 ∧
      requests (d.compile content).calls = requests d.calls ++
        ((if d.state.session = 0 then [] else [.stop d.state.session]) ++
          [.run content (d.state.session + 1)]) := by
  obtain ⟨tail, hsequel, -, hcalls⟩ := d.compile_eq content
  refine ⟨hsequel.session_eq, ?_⟩
  rw [hcalls, requests_append, requests_append, requests_openingCalls, requests_send,
    hsequel.requests_eq]

theorem lastContent?_compile (content : String) :
    lastContent? (d.compile content).calls = some content := by
  rw [lastContent?, (d.requests_compile content).2, ← List.append_assoc, List.filterMap_append,
    List.getLast?_append]
  rfl

/-- Whatever starts no session runs no content. -/
theorem lastContent?_happen {h : Happening F} (hstart : h.isStart = false) :
    (d.happen h).1.state.session = d.state.session ∧
      lastContent? (d.happen h).1.calls = lastContent? d.calls := by
  rcases (d.turn_step h).requests_cases with ⟨hstarts, -⟩ | ⟨-, hsession, -, hcs⟩
  · rw [hstart] at hstarts
    contradiction
  · refine ⟨hsession, ?_⟩
    rw [d.calls_happen h]
    rcases hcs with hcs | ⟨n, -, hcs⟩
    · exact lastContent?_append_of_none (by rw [hcs]; rfl)
    · exact lastContent?_append_of_none (by rw [hcs]; rfl)

end Director

namespace Workbench

variable {F : Type} [Frontend F]

/-! ### What is done at a workbench -/

/-- The text of the story. -/
def content (w : Workbench (Recorder F)) : String :=
  Frontend.content w.director.front

/-- The front end changes by itself. -/
def change (w : Workbench (Recorder F)) (f : F → F) : Workbench (Recorder F) :=
  w.modify fun d => (d.happen (.change f)).1

/-- The workbenches that are reached from a given one while every change of the text is noted before
anything else is done. The text is the one that was last noted, or was there at the beginning. -/
inductive Reaches (start : Workbench (Recorder F)) : String → Workbench (Recorder F) → Prop where
  | start : Reaches start start.content start
  | change {known : String} {w : Workbench (Recorder F)} (before : Reaches start known w)
      (f : F → F) : Reaches start known (w.change f)
  /-- The text that is there is noted. -/
  | edit {known : String} {w : Workbench (Recorder F)} (before : Reaches start known w)
      (now : Nat) : Reaches start w.content (w.onEdit now)
  | time {w : Workbench (Recorder F)} (before : Reaches start w.content w) (now : Nat) :
      Reaches start w.content (w.onTime now).1
  | reply {w : Workbench (Recorder F)} (before : Reaches start w.content w) (r : Reply) :
      Reaches start w.content (w.onReply r).1
  | intent {w : Workbench (Recorder F)} (before : Reaches start w.content w) (i : Intent) :
      Reaches start w.content (w.onIntent i).1

/-! ### What is provided for -/

/-- A workbench provides for a text: something is going to be compiled, or this text was the last
one that was run. -/
def Provides (w : Workbench (Recorder F)) (text : String) : Prop :=
  w.timer.isArmed = true ∨
    w.director.state.session ≠ 0 ∧ lastContent? w.director.calls = some text

variable {w w' : Workbench (Recorder F)} {text : String}

omit [Frontend F] in
/-- What neither touches the timer nor runs a content leaves a text provided for. -/
theorem Provides.congr (h : w.Provides text) (htimer : w'.timer = w.timer)
    (hdirector : w'.director.state.session = w.director.state.session ∧
      lastContent? w'.director.calls = lastContent? w.director.calls) : w'.Provides text := by
  rw [Provides, htimer, hdirector.1, hdirector.2]
  exact h

theorem Provides.happen (h : w.Provides text) (htimer : w'.timer = w.timer) {x : Happening F}
    (hdirector : w'.director = (w.director.happen x).1) (hstart : x.isStart = false) :
    w'.Provides text :=
  h.congr htimer (hdirector ▸ w.director.lastContent?_happen hstart)

theorem Provides.cue (h : w.Provides text) (q : Cue) : (w.cue q).Provides text := by
  refine h.congr rfl ⟨rfl, ?_⟩
  show lastContent? (w.director.calls ++ [.cue q]) = lastContent? w.director.calls
  exact lastContent?_append_of_none rfl

/-- A director that has just compiled a text provides for it. -/
theorem provides_of_compile {d : Director (Recorder F)} (h : w.director = d.compile text) :
    w.Provides text := by
  refine .inr ⟨?_, ?_⟩
  · rw [h, (d.requests_compile text).1]
    exact Nat.succ_ne_zero _
  · rw [h]
    exact d.lastContent?_compile text

theorem provides_onTime (h : w.Provides w.content) (now : Nat) :
    (w.onTime now).1.Provides w.content := by
  unfold onTime
  split
  · exact h
  · exact provides_of_compile rfl

theorem provides_onIntent (h : w.Provides w.content) (i : Intent) :
    (w.onIntent i).1.Provides w.content := by
  cases i with
  | choose session n => exact h.happen (x := .order (.select session n)) rfl rfl rfl
  | goTo line => exact h.cue (.moveTo line 0)
  | nextIssue => exact h.happen (x := .order .nextIssue) rfl rfl rfl
  | startOver => exact provides_of_compile (w := (w.onIntent .startOver).1) rfl
  | takeBack => exact provides_of_compile (w := (w.onIntent .takeBack).1) rfl
  | click position modifier =>
    cases modifier with
    | false => exact h
    | true =>
      show (w.followDivert position).Provides w.content
      unfold followDivert
      split
      · exact h.cue _
      · exact h
  | resize => exact h.happen (x := .order .centre) rfl rfl rfl

/-- The text as it was last noted is provided for. -/
theorem Reaches.provides {start : Workbench (Recorder F)} {known : String}
    (reached : Reaches start known w) (hstart : start.timer.isArmed = true) :
    w.Provides known := by
  induction reached with
  | start => exact .inl hstart
  | change before f ih => exact ih.happen (x := .change f) rfl rfl rfl
  | edit before now ih => exact .inl rfl
  | time before now ih => exact provides_onTime ih now
  | reply before r ih => exact ih.happen (x := .reply r) rfl rfl rfl
  | intent before i ih => exact provides_onIntent ih i

/-- A session that is started for another reason than an edit settles what a compile waited for, and
runs the text that is there. -/
theorem onIntent_of_restart (w : Workbench (Recorder F)) {i : Intent}
    (hi : i = .startOver ∨ i = .takeBack) :
    (w.onIntent i).1.timer.isArmed = false ∧
      requests (w.onIntent i).1.director.calls = requests w.director.calls ++
        ((if w.director.state.session = 0 then [] else [.stop w.director.state.session]) ++
          [.run w.content (w.director.state.session + 1)]) := by
  rcases hi with rfl | rfl
  · exact ⟨rfl, ((w.director.modify fun s =>
      { s with log := s.log.clear }).requests_compile w.content).2⟩
  · exact ⟨rfl, ((w.director.modify fun s =>
      { s with log := s.log.dropLast.1 }).requests_compile w.content).2⟩

end Workbench

/-- **No edit is lost.** Let edits, the passing of time, replies and intents follow each other at a
workbench in any order, and let every change of the text be noted before anything else is done. Then
the timer is armed, or a session was started and the last request to run a story was for the text
that is there. Before the first session the timer is armed. An author who starts over or takes a
choice back disarms the timer, and has this very text compiled. -/
theorem no_edit_is_lost {F : Type} [Frontend F] {timing : Timing} {now : Nat} {front : F}
    {w : Workbench (Recorder F)}
    (reached : Workbench.Reaches (.start timing now ⟨front, []⟩) w.content w) :
    (w.timer.isArmed = true ∨
        w.director.state.session ≠ 0 ∧ lastContent? w.director.calls = some w.content) ∧
      (w.director.state.session = 0 → w.timer.isArmed = true) ∧
      ∀ i, i = .startOver ∨ i = .takeBack →
        (w.onIntent i).1.timer.isArmed = false ∧
          requests (w.onIntent i).1.director.calls = requests w.director.calls ++
            ((if w.director.state.session = 0 then [] else [.stop w.director.state.session]) ++
              [.run w.content (w.director.state.session + 1)]) := by
  have hprovides : w.Provides w.content := reached.provides (CompileTimer.isArmed_start timing now)
  refine ⟨hprovides, fun hnone => ?_, fun i hi => w.onIntent_of_restart hi⟩
  exact hprovides.resolve_right fun hcompiled => hcompiled.1 hnone

/-- The author starts over while an edit waits to be compiled. -/
theorem no_edit_is_lost_when_starting_over :
    let start : Workbench (Recorder Stage) := .start {} 0 ⟨{ content := "Once" }, []⟩
    let edited := ((start.onTime 1000).1.change fun s => { s with content := "Twice" }).onEdit 1200
    let w := (edited.onIntent .startOver).1
    Workbench.Reaches start w.content w ∧ edited.timer.isArmed = true ∧
      w.timer.isArmed = false ∧ w.director.state.session ≠ 0 ∧
      lastContent? w.director.calls = some "Twice" := by
  intro start edited w
  have hedited : edited.content = "Twice" := by decide +kernel
  have hcontent : w.content = "Twice" := by decide +kernel
  have hfirst : Workbench.Reaches start start.content (start.onTime 1000).1 := .time .start 1000
  have hchanged : Workbench.Reaches start edited.content edited :=
    (hfirst.change fun s => { s with content := "Twice" }).edit 1200
  have reached : Workbench.Reaches start w.content w := by
    rw [hcontent, ← hedited]
    exact .intent hchanged .startOver
  have hsettled : w.timer.isArmed = false := rfl
  rcases (no_edit_is_lost reached).1 with harmed | ⟨hsession, hlast⟩
  · rw [hsettled] at harmed
    contradiction
  · exact ⟨reached, rfl, hsettled, hsession, hlast.trans (congrArg some hcontent)⟩

end Playthrough
